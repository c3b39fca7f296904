/-
The generator of a service's configuration.

The script of a generator writes the configuration, its builder, and what the
customizations say at each section.
-/
import Cratewright.Config.Interceptors
import Cratewright.Config.Parameter
import Cratewright.Config.TokenProvider
import Cratewright.Settings

namespace Cratewright

/-- A generator of a configuration. -/
structure ConfigGenerator where
  customizations : List ConfigCustomization
  mode : StorageMode
  runtime : RuntimeConfig

namespace ConfigGenerator

/-! ### Customizations -/

/-- The contributors that the settings ask for. -/
def ofSettings (ctx : Context) : Except Error (List ConfigCustomization) := do
  let params ← ctx.settings.codegen.parameters.mapM fun d =>
    ((ConfigParam.ofDeclared d ctx.runtime).storedIn ctx.storageMode).map
      StoredParam.customization
  let interceptors : Interceptors := ⟨ctx.storageMode, ctx.runtime⟩
  return params ++
    if ctx.settings.codegen.includeInterceptors then [interceptors.customization] else []

/-- The generator with exactly the given contributors. -/
def new (ctx : Context) (customizations : List ConfigCustomization) : ConfigGenerator where
  customizations
  mode := ctx.storageMode
  runtime := ctx.runtime

/-- The generator with the given contributors, after the provider of idempotency tokens if
the service needs one. -/
def withBaseBehavior (ctx : Context) (extras : List ConfigCustomization) :
    Except Error ConfigGenerator := do
  if ← ctx.model.needsIdempotencyToken ctx.service then
    let provider ← TokenProvider.load ctx.storageMode ctx.runtime
    return new ctx (provider.customization :: extras)
  else return new ctx extras

/-! ### The configuration -/

variable (g : ConfigGenerator)

/-- An item of the module that layered bags come from. -/
def bagItem (item : String) : ItemPath Fragment :=
  ((ItemPath.ofCrate g.runtime.smithyTypes).resolve "config_bag").resolve item

/-- An item of the runtime interface for clients. -/
def clientItem (item : String) : ItemPath Fragment :=
  ((ItemPath.ofCrate g.runtime.smithyRuntimeApi).resolve "client").resolve item

/-- What the customizations say at a section. -/
def composed (s : ConfigSection) : Snippet Fragment := Customization.compose g.customizations s

/-- The field that holds the layered bag, if there is one. -/
def bagField (type : String) : List (Command Fragment) :=
  match g.mode with
  | .directFields => []
  | .layeredBag =>
    [.template ("inner: #\x7b" ++ type ++ "\x7d,") [(type, .item (g.bagItem type))]]

/-- The implementation of debug output, which shows no field. -/
def debugImpl (type : String) : Command Fragment :=
  .code (Text.ofLines [
    "impl ::std::fmt::Debug for " ++ type ++ " \x7b",
    "    fn fmt(&self, f: &mut ::std::fmt::Formatter<'_>) -> ::std::fmt::Result \x7b",
    "        f.debug_struct(\"" ++ type ++ "\").finish_non_exhaustive()",
    "    \x7d",
    "\x7d"])

/-- The functions of the builder that set defaults for tests. -/
def testDefaults : Command Fragment :=
  .template
    (Text.ofLines [
      "/// Apply test defaults to the builder.",
      "##[cfg(any(feature = \"test-util\", test))]",
      "##[allow(unused_mut)]",
      "pub fn set_test_defaults(&mut self) -> &mut Self \x7b",
      "    #{defaults}",
      "    self",
      "\x7d",
      "",
      "/// Apply test defaults to the builder.",
      "##[cfg(any(feature = \"test-util\", test))]",
      "##[allow(unused_mut)]",
      "pub fn with_test_defaults(mut self) -> Self \x7b",
      "    self.set_test_defaults();",
      "    self",
      "\x7d"])
    [("defaults", .code (g.composed (.testDefaults "self")))]

/-- The function of the builder that builds the configuration. -/
def build : Command Fragment :=
  match g.mode with
  | .directFields =>
    .template
      (Text.ofLines [
        "pub fn build(self) -> Config \x7b",
        "    Config \x7b",
        "        #{build}",
        "    \x7d",
        "\x7d"])
      [("build", .code (g.composed .build))]
  | .layeredBag =>
    .template
      (Text.ofLines [
        "##[allow(unused_mut)]",
        "pub fn build(mut self) -> Config \x7b",
        "    #{build}",
        "    Config \x7b",
        "        #{extras}",
        "        inner: self.inner.freeze(),",
        "    \x7d",
        "\x7d"])
      [("build", .code (g.composed .build)), ("extras", .code (g.composed .buildFields))]

/-- The script of the configuration and its builder. -/
def script : List (Command Fragment) := [
  .docs "Service config.",
  .splice (g.composed .structDocs),
  .attribute "derive(Clone)",
  .block "pub struct Config" (g.bagField "FrozenLayer" ++ [.splice (g.composed .structFields)]),
  debugImpl "Config",
  .block "impl Config" [
    .code (Text.ofLines [
      "/// Constructs a config builder.",
      "pub fn builder() -> Builder \x7b",
      "    Builder::default()",
      "\x7d"]),
    .splice (g.composed .functions)],
  .docs "Builder for creating a `Config`.",
  .attribute "derive(Clone, Default)",
  .block "pub struct Builder"
    (g.bagField "CloneableLayer" ++ [.splice (g.composed .builderFields)]),
  debugImpl "Builder",
  .block "impl Builder" [
    .code (Text.ofLines [
      "/// Constructs a config builder.",
      "pub fn new() -> Self \x7b",
      "    Self::default()",
      "\x7d"]),
    .splice (g.composed .builderFunctions),
    g.testDefaults,
    .docs "Builds a [`Config`].",
    g.build],
  .splice (g.composed .extras)]

/-- The script that makes the builder a runtime plugin. -/
def pluginScript : List (Command Fragment) := [
  .template
    (Text.ofLines [
      "impl #{RuntimePlugin} for Builder \x7b",
      "    fn config(&self) -> Option<#{FrozenLayer}> \x7b",
      "        ##[allow(unused_mut)]",
      "        let mut cfg = #{Layer}::new(\"service config\");",
      "        #{config}",
      "        Some(cfg.freeze())",
      "    \x7d",
      "",
      "    fn interceptors(&self, _interceptors: &mut #{InterceptorRegistrar}) \x7b",
      "        #{interceptors}",
      "    \x7d",
      "\x7d"])
    [("RuntimePlugin", .item (g.clientItem "runtime_plugin::RuntimePlugin")),
      ("FrozenLayer", .item (g.bagItem "FrozenLayer")),
      ("Layer", .item (g.bagItem "Layer")),
      ("InterceptorRegistrar", .item (g.clientItem "interceptors::InterceptorRegistrar")),
      ("config", .code (g.composed (.pluginConfig "cfg"))),
      ("interceptors", .code (g.composed (.pluginInterceptors "_interceptors")))]]

end ConfigGenerator

end Cratewright
