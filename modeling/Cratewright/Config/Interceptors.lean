/-
The list of interceptors in a configuration.
-/
import Cratewright.Config.Section
import Cratewright.Settings

namespace Cratewright

/-- The list of interceptors, as a contributor to the configuration. -/
structure Interceptors where
  mode : StorageMode
  runtime : RuntimeConfig

namespace Interceptors

/-- The module that interceptors come from. -/
def source (i : Interceptors) : ItemPath Fragment :=
  (ItemPath.ofCrate i.runtime.smithyRuntimeApi).resolve "client::interceptors"

/-- The bindings of the types. -/
def bindings (i : Interceptors) : List (String × Argument Fragment) :=
  [("Intercept", .item (i.source.resolve "Intercept")),
    ("SharedInterceptor", .item (i.source.resolve "SharedInterceptor"))]

/-- The initializer of the configuration's field. -/
def initializer : List (Command Fragment) := [.code "interceptors: self.interceptors,"]

/-- The function of the configuration that lists the interceptors. -/
def getter (i : Interceptors) : List (Command Fragment) := [
  .template
    (Text.ofLines [
      "/// Returns interceptors currently registered by the user.",
      "pub fn interceptors(&self) -> impl Iterator<Item = #{SharedInterceptor}> + '_ \x7b",
      "    self.interceptors.iter().cloned()",
      "\x7d"])
    i.bindings]

/-- The functions of the builder that add or replace interceptors. -/
def setters (i : Interceptors) : List (Command Fragment) := [
  .template
    (Text.ofLines [
      "/// Adds an interceptor that runs at specific stages of the request execution pipeline.",
      "pub fn interceptor(mut self, interceptor: impl #{Intercept} + 'static) -> Self \x7b",
      "    self.push_interceptor(#{SharedInterceptor}::new(interceptor));",
      "    self",
      "\x7d",
      "",
      "/// Adds a [`SharedInterceptor`](#{SharedInterceptor}) to the list of interceptors.",
      "pub fn push_interceptor(&mut self, interceptor: #{SharedInterceptor}) -> " ++
        "&mut Self \x7b",
      "    self.interceptors.push(interceptor);",
      "    self",
      "\x7d",
      "",
      "/// Replaces all interceptors with `interceptors`.",
      "pub fn set_interceptors(&mut self, interceptors: " ++
        "impl IntoIterator<Item = #{SharedInterceptor}>) -> &mut Self \x7b",
      "    self.interceptors = interceptors.into_iter().collect();",
      "    self",
      "\x7d"])
    i.bindings]

/-- What the list says at a section. -/
def contribute (i : Interceptors) : ConfigSection → Snippet Fragment
  | .structFields =>
    some [.template "pub(crate) interceptors: Vec<#{SharedInterceptor}>," i.bindings]
  | .functions => some i.getter
  | .builderFields => some [.template "interceptors: Vec<#{SharedInterceptor}>," i.bindings]
  | .builderFunctions => some i.setters
  | .build =>
    match i.mode with
    | .directFields => some initializer
    | .layeredBag => none
  | .buildFields =>
    match i.mode with
    | .directFields => none
    | .layeredBag => some initializer
  | .pluginInterceptors registrar => some [
    .template "#{registrar}.extend(self.interceptors.iter().cloned());"
      [("registrar", .text registrar)]]
  | _ => none

/-- The list as a contributor to the configuration. -/
def customization (i : Interceptors) : ConfigCustomization where
  name := "interceptors"
  contribute := i.contribute

end Interceptors

end Cratewright
