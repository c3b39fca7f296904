/-
The provider of idempotency tokens in a configuration.
-/
import Cratewright.Config.Section
import Cratewright.Settings
import Cratewright.Source.Resource
import Cratewright.Text.Quoted

namespace Cratewright

/-- The provider of idempotency tokens, as a contributor to the configuration. -/
structure TokenProvider where
  mode : StorageMode
  runtime : RuntimeConfig

namespace TokenProvider

/-- The token that is provided in tests, so that they always see the same one. -/
def testToken : String := "00000000-0000-4000-8000-000000000000"

/-- The provider, if the file that providers come from is there. -/
def load (mode : StorageMode) (runtime : RuntimeConfig) : Except Error TokenProvider := do
  let _ ← Resource.idempotencyToken.load runtime
  return { mode, runtime }

/-- The module that providers come from. -/
def source (t : TokenProvider) : ItemPath Fragment :=
  (Resource.idempotencyToken.fragment t.runtime).item

/-- The type of providers. -/
def provider (t : TokenProvider) : ItemPath Fragment :=
  t.source.resolve "IdempotencyTokenProvider"

/-- The function that makes the provider used when none is set. -/
def defaultProvider (t : TokenProvider) : ItemPath Fragment :=
  t.source.resolve "default_provider"

/-- The expression of the getter's value. -/
def value (t : TokenProvider) : String :=
  match t.mode with
  | .directFields => "self.idempotency_token_provider.clone()"
  | .layeredBag =>
    "self.inner.load::<#{Provider}>().expect(\"the idempotency provider should be set\").clone()"

/-- The function of the configuration that gives the provider. -/
def getter (t : TokenProvider) : List (Command Fragment) := [
  .template
    (Text.ofLines [
      "/// Returns a copy of the idempotency token provider.",
      "/// If a random token provider was configured,",
      "/// a newly-randomized token provider will be returned.",
      "pub fn idempotency_token_provider(&self) -> #{Provider} \x7b",
      "    #{body}",
      "\x7d"])
    [("Provider", .item t.provider),
      ("body", .code (some [.template t.value [("Provider", .item t.provider)]]))]]

/-- The statement that stores a provider. -/
def store (t : TokenProvider) : String :=
  match t.mode with
  | .directFields => "self.idempotency_token_provider = idempotency_token_provider;"
  | .layeredBag => "self.inner.store_or_unset(idempotency_token_provider);"

/-- The setters of the builder. -/
def setters (t : TokenProvider) : List (Command Fragment) := [
  .template
    (Text.ofLines [
      "/// Sets the idempotency token provider to use for service calls that require tokens.",
      "pub fn idempotency_token_provider(mut self, idempotency_token_provider: " ++
        "impl Into<#{Provider}>) -> Self \x7b",
      "    self.set_idempotency_token_provider(Some(idempotency_token_provider.into()));",
      "    self",
      "\x7d",
      "",
      "/// Sets the idempotency token provider to use for service calls that require tokens.",
      "pub fn set_idempotency_token_provider(&mut self, idempotency_token_provider: " ++
        "Option<#{Provider}>) -> &mut Self \x7b",
      "    #{store}",
      "    self",
      "\x7d"])
    [("Provider", .item t.provider), ("store", .text t.store)]]

/-- What building does: it falls back to the default provider. -/
def build (t : TokenProvider) : List (Command Fragment) :=
  match t.mode with
  | .directFields => [
    .template
      ("idempotency_token_provider: " ++
        "self.idempotency_token_provider.unwrap_or_else(#{default_provider}),")
      [("default_provider", .item t.defaultProvider)]]
  | .layeredBag => [
    .template
      (Text.ofLines [
        "if self.inner.load::<#{Provider}>().is_none() \x7b",
        "    self.inner.store_put(#{default_provider}());",
        "\x7d"])
      [("Provider", .item t.provider), ("default_provider", .item t.defaultProvider)]]

/-- What the provider says at a section. -/
def contribute (t : TokenProvider) : ConfigSection → Snippet Fragment
  | .structFields =>
    match t.mode with
    | .directFields => some [
      .template "pub(crate) idempotency_token_provider: #{Provider},"
        [("Provider", .item t.provider)]]
    | .layeredBag => none
  | .functions => some t.getter
  | .builderFields =>
    match t.mode with
    | .directFields => some [
      .template "idempotency_token_provider: Option<#{Provider}>,"
        [("Provider", .item t.provider)]]
    | .layeredBag => none
  | .builderFunctions => some t.setters
  | .build => some t.build
  | .testDefaults builder => some [
    .template "#{builder}.set_idempotency_token_provider(Some(#{token}.into()));"
      [("builder", .text builder), ("token", .text (Text.quoted testToken))]]
  | _ => none

/-- The provider as a contributor to the configuration. -/
def customization (t : TokenProvider) : ConfigCustomization where
  name := "idempotency_token_provider"
  contribute := t.contribute

end TokenProvider

end Cratewright
