/-
The code of a configuration.

A configuration is a structure, a builder with fields of its own, functions that get and set
values, and a function that builds the one from the other: first come statements, then the
literal of the configuration, with an initializer for each field. `ConfigCode` is all of this
as data, and `ConfigCode.lines` is how it is written down. In code that agrees, the literal
initializes exactly the fields of the configuration, and everything that is read or assigned
is there:

* `BuiltIn.fits` — what each customization contributes agrees, given the layered bag;
* `ConfigCode.fits_join` — so does what any number of them contribute, in any order;
* `ConfigGenerator.agrees_complete` — with the bag added, the code agrees.
-/
import Mathlib.Data.List.Perm.Basic
import Cratewright.Config.Generator
import Cratewright.Proofs.Source.Lines

namespace Cratewright

open Text (linesOf)

/-! ### Parts of the code -/

/-- What stands before an item. -/
inductive Note where
  | none
  /-- Documentation, line by line. -/
  | docs (lines : List (List Char))
  /-- The permission to have no documentation. -/
  | undocumented

namespace Note

def ofDocs : Option String → Note
  | some text => docs (Text.dedent text.toList)
  | .none => undocumented

def lines : Note → List (List Char)
  | none => []
  | docs ls => ls.flatMap fun l => Text.bareLines ("/// ".toList ++ l)
  | undocumented => linesOf ["#[allow(missing_docs)] // documentation missing in model"]

end Note

/-- A field of a structure. -/
structure FieldCode where
  note : Note := .none
  /-- Whether the whole crate sees the field. -/
  shared : Bool := false
  name : String
  type : String

def FieldCode.lines (f : FieldCode) : List (List Char) :=
  f.note.lines ++
    linesOf [(if f.shared then "pub(crate) " else "") ++ f.name ++ ": " ++ f.type ++ ","]

/-- A function that gives the value of a field, after some access to it. -/
structure GetterCode where
  note : Note
  name : String
  type : String
  field : String
  access : String

def GetterCode.lines (g : GetterCode) : List (List Char) :=
  g.note.lines ++ linesOf [
    "pub fn " ++ g.name ++ "(&self) -> " ++ g.type ++ " \x7b",
    "self." ++ g.field ++ "." ++ g.access,
    "\x7d"]

/-- A statement of a builder's function. -/
inductive Statement where
  /-- Assigns a value to a field. -/
  | assign (field value : String)
  /-- Calls a function of a field. -/
  | act (field call : String)
  /-- Calls a function of the builder. -/
  | send (call : String)
  /-- Calls a function of a field if a test of the field says so. -/
  | fallback (field test call : String)

namespace Statement

/-- The fields of the builder that the statement reads or assigns. -/
def fields : Statement → List String
  | assign field _ | act field _ | fallback field _ _ => [field]
  | send _ => []

def lines : Statement → List (List Char)
  | assign field value => linesOf ["self." ++ field ++ " = " ++ value ++ ";"]
  | act field call => linesOf ["self." ++ field ++ "." ++ call ++ ";"]
  | send call => linesOf ["self." ++ call ++ ";"]
  | fallback field test call => linesOf [
    "if self." ++ field ++ "." ++ test ++ " \x7b",
    "self." ++ field ++ "." ++ call ++ ";",
    "\x7d"]

theorem lines_send (call : String) : (send call).lines = linesOf ["self." ++ call ++ ";"] := rfl

end Statement

/-- A function of the builder with one parameter that ends in the builder. -/
structure SetterCode where
  note : Note
  /-- Whether the builder is changed where it is. -/
  inPlace : Bool
  name : String
  parameter : String
  type : String
  body : Statement

/-- The lines of the function itself. -/
def SetterCode.functionLines (s : SetterCode) : List (List Char) :=
  linesOf ["pub fn " ++ s.name ++ (if s.inPlace then "(&mut self, " else "(mut self, ") ++
      s.parameter ++ ": " ++ s.type ++
      (if s.inPlace then ") -> &mut Self \x7b" else ") -> Self \x7b")] ++
    s.body.lines ++ linesOf ["self", "\x7d"]

def SetterCode.lines (s : SetterCode) : List (List Char) := s.note.lines ++ s.functionLines

/-- The initialization of a field of the configuration from a field of the builder. -/
structure Initializer where
  field : String
  source : String
  /-- What turns the one value into the other. -/
  conversion : String

def Initializer.lines (i : Initializer) : List (List Char) :=
  linesOf [i.field ++ ": " ++ "self." ++ i.source ++ i.conversion ++ ","]

/-! ### Configurations -/

/-- The code of a configuration and its builder. -/
structure ConfigCode where
  fields : List FieldCode := []
  getters : List GetterCode := []
  builderFields : List FieldCode := []
  setters : List SetterCode := []
  /-- What the builder calls to set defaults for tests. -/
  defaults : List String := []
  /-- What building does before it comes to the literal. -/
  statements : List Statement := []
  /-- The initializers in the literal. -/
  initializers : List Initializer := []

namespace ConfigCode

def fieldNames (c : ConfigCode) : List String := c.fields.map FieldCode.name

def builderFieldNames (c : ConfigCode) : List String := c.builderFields.map FieldCode.name

/-- The debug output of a structure. -/
def debugLines (type : String) : List (List Char) :=
  linesOf [
    "impl ::std::fmt::Debug for " ++ type ++ " \x7b",
    "fn fmt(&self, f: &mut ::std::fmt::Formatter<'_>) -> ::std::fmt::Result \x7b",
    "f.debug_struct(\"" ++ type ++ "\").finish_non_exhaustive()",
    "\x7d",
    "\x7d"]

/-- The configuration. -/
def configLines (c : ConfigCode) : List (List Char) :=
  linesOf ["/// Service config.", "#[derive(Clone)]", "pub struct Config \x7b"] ++
    c.fields.flatMap FieldCode.lines ++
  linesOf ["\x7d"] ++
  debugLines "Config" ++
  linesOf ["impl Config \x7b"] ++
    linesOf ["/// Constructs a config builder.", "pub fn builder() -> Builder \x7b",
      "Builder::default()", "\x7d"] ++
    c.getters.flatMap GetterCode.lines ++
  linesOf ["\x7d"]

/-- The functions that set defaults for tests. -/
def defaultLines (c : ConfigCode) : List (List Char) :=
  linesOf [
    "/// Apply test defaults to the builder.",
    "#[cfg(any(feature = \"test-util\", test))]",
    "#[allow(unused_mut)]",
    "pub fn set_test_defaults(&mut self) -> &mut Self \x7b"] ++
    c.defaults.flatMap (fun call => linesOf ["self" ++ "." ++ call ++ ";"]) ++
  linesOf [
    "self",
    "\x7d",
    "/// Apply test defaults to the builder.",
    "#[cfg(any(feature = \"test-util\", test))]",
    "#[allow(unused_mut)]",
    "pub fn with_test_defaults(mut self) -> Self \x7b",
    "self.set_test_defaults();",
    "self",
    "\x7d"]

/-- The function that builds the configuration. -/
def buildLines (mode : StorageMode) (c : ConfigCode) : List (List Char) :=
  (match mode with
    | .directFields => linesOf ["pub fn build(self) -> Config \x7b"]
    | .layeredBag => linesOf ["#[allow(unused_mut)]", "pub fn build(mut self) -> Config \x7b"]) ++
    c.statements.flatMap Statement.lines ++
    linesOf ["Config \x7b"] ++
      c.initializers.flatMap Initializer.lines ++
    linesOf ["\x7d"] ++
  linesOf ["\x7d"]

/-- The builder. -/
def builderLines (mode : StorageMode) (c : ConfigCode) : List (List Char) :=
  linesOf ["/// Builder for creating a `Config`.", "#[derive(Clone, Default)]",
      "pub struct Builder \x7b"] ++
    c.builderFields.flatMap FieldCode.lines ++
  linesOf ["\x7d"] ++
  debugLines "Builder" ++
  linesOf ["impl Builder \x7b"] ++
    linesOf ["/// Constructs a config builder.", "pub fn new() -> Self \x7b",
      "Self::default()", "\x7d"] ++
    c.setters.flatMap SetterCode.lines ++
    c.defaultLines ++
    linesOf ["/// Builds a [`Config`]."] ++
    c.buildLines mode ++
  linesOf ["\x7d"]

/-- The lines of the code, as far as they are not blank, and without indentation. -/
def lines (mode : StorageMode) (c : ConfigCode) : List (List Char) :=
  c.configLines ++ c.builderLines mode

/-- The literal initializes exactly the fields of the configuration, as often as they are
declared; what initializers read, and what setters and statements read or assign, are fields of
the builder; and what getters read are fields of the configuration. -/
structure Agrees (c : ConfigCode) : Prop where
  initialized : c.fieldNames.Perm (c.initializers.map Initializer.field)
  sources : ∀ i ∈ c.initializers, i.source ∈ c.builderFieldNames
  setters : ∀ s ∈ c.setters, ∀ f ∈ s.body.fields, f ∈ c.builderFieldNames
  statements : ∀ s ∈ c.statements, ∀ f ∈ s.fields, f ∈ c.builderFieldNames
  getters : ∀ g ∈ c.getters, g.field ∈ c.fieldNames

/-- The parts of several codes, one after the other. -/
def join (cs : List ConfigCode) : ConfigCode where
  fields := cs.flatMap fields
  getters := cs.flatMap getters
  builderFields := cs.flatMap builderFields
  setters := cs.flatMap setters
  defaults := cs.flatMap defaults
  statements := cs.flatMap statements
  initializers := cs.flatMap initializers

/-- The fields that a layered bag adds to the configuration and to the builder. -/
def bagNames : StorageMode → List String
  | .directFields => []
  | .layeredBag => ["inner"]

/-- Beside the fields of a layered bag, the code agrees. Without a bag, building takes no
statements. -/
structure Fits (mode : StorageMode) (c : ConfigCode) : Prop where
  direct : mode = .directFields → c.statements = []
  initialized : c.fieldNames.Perm (c.initializers.map Initializer.field)
  sources : ∀ i ∈ c.initializers, i.source ∈ c.builderFieldNames
  setters : ∀ s ∈ c.setters, ∀ f ∈ s.body.fields, f ∈ bagNames mode ++ c.builderFieldNames
  statements : ∀ s ∈ c.statements, ∀ f ∈ s.fields, f ∈ bagNames mode ++ c.builderFieldNames
  getters : ∀ g ∈ c.getters, g.field ∈ bagNames mode ++ c.fieldNames

theorem fits_join {mode : StorageMode} {cs : List ConfigCode} (h : ∀ c ∈ cs, c.Fits mode) :
    (join cs).Fits mode := by
  have fields {c : ConfigCode} (hc : c ∈ cs) {name : String} (hn : name ∈ c.fieldNames) :
      name ∈ (join cs).fieldNames := by
    rw [fieldNames, join, List.map_flatMap]
    exact List.mem_flatMap.mpr ⟨c, hc, hn⟩
  have builderFields {c : ConfigCode} (hc : c ∈ cs) {name : String}
      (hn : name ∈ c.builderFieldNames) : name ∈ (join cs).builderFieldNames := by
    rw [builderFieldNames, join, List.map_flatMap]
    exact List.mem_flatMap.mpr ⟨c, hc, hn⟩
  have known {names more : List String} {name : String} (sub : name ∈ names → name ∈ more)
      (hn : name ∈ bagNames mode ++ names) : name ∈ bagNames mode ++ more :=
    List.mem_append.mpr ((List.mem_append.mp hn).imp_right sub)
  constructor
  case direct => exact fun mode => List.flatMap_eq_nil_iff.mpr fun c hc => (h c hc).direct mode
  case initialized =>
    rw [fieldNames, join, List.map_flatMap, List.map_flatMap]
    exact List.Perm.flatMap_left cs fun c hc => (h c hc).initialized
  case sources =>
    intro i hi
    obtain ⟨c, hc, hi⟩ := List.mem_flatMap.mp hi
    exact builderFields hc ((h c hc).sources i hi)
  case setters =>
    intro s hs f hf
    obtain ⟨c, hc, hs⟩ := List.mem_flatMap.mp hs
    exact known (builderFields hc) ((h c hc).setters s hs f hf)
  case statements =>
    intro s hs f hf
    obtain ⟨c, hc, hs⟩ := List.mem_flatMap.mp hs
    exact known (builderFields hc) ((h c hc).statements s hs f hf)
  case getters =>
    intro g hg
    obtain ⟨c, hc, hg⟩ := List.mem_flatMap.mp hg
    exact known (fields hc) ((h c hc).getters g hg)

end ConfigCode

/-! ### What customizations contribute -/

namespace StoredParam

theorem storage_of_storedIn {mode : StorageMode} {p : ConfigParam} {s : StoredParam}
    (h : p.storedIn mode = .ok s) :
    match mode with
    | .directFields => s.storage = .ownField
    | .layeredBag => ∃ newtype, s.storage = .bag newtype := by
  rw [ConfigParam.storedIn.eq_def] at h
  split at h
  · cases h
    rfl
  · cases h
    exact ⟨_, rfl⟩
  · cases h

/-- The setter of a parameter that leaves storing the value to the other. -/
def builderSetter (p : StoredParam) : SetterCode where
  note := .ofDocs p.param.setterDocs
  inPlace := false
  name := p.param.name
  parameter := p.param.name
  type := "impl Into<" ++ p.param.type.path ++ ">"
  body := .send ("set_" ++ p.param.name ++ "(Some(" ++ p.param.name ++ ".into()))")

/-- The statement that stores the value. -/
def storeCode (p : StoredParam) : Statement :=
  match p.storage with
  | .ownField => .assign p.param.name p.param.name
  | .bag newtype =>
    .act "inner" ("store_or_unset(" ++ p.param.name ++ ".map(" ++ newtype.path ++ "))")

/-- The setter that stores the value. -/
def inPlaceSetter (p : StoredParam) : SetterCode where
  note := .ofDocs p.param.setterDocs
  inPlace := true
  name := "set_" ++ p.param.name
  parameter := p.param.name
  type := "Option<" ++ p.param.type.path ++ ">"
  body := p.storeCode

/-- The type of the parameter's value in the configuration. -/
def valueType (p : StoredParam) : String :=
  if p.param.optional then "Option<" ++ p.param.type.path ++ ">" else p.param.type.path

/-- What completes a value that a required parameter may lack. -/
def completion (p : StoredParam) : String :=
  if p.param.optional then "" else ".unwrap_or_default()"

def fieldCode (p : StoredParam) : FieldCode :=
  ⟨.ofDocs p.param.getterDocs, true, p.param.name, p.valueType⟩

def builderFieldCode (p : StoredParam) : FieldCode :=
  ⟨.none, false, p.param.name, "Option<" ++ p.param.type.path ++ ">"⟩

def getterCode (p : StoredParam) (newtype : ItemPath Fragment) : GetterCode :=
  ⟨.ofDocs p.param.getterDocs, p.param.name, p.valueType, "inner",
    "load::<" ++ newtype.path ++ ">().map(" ++ p.unwrap ++ ")" ++ p.completion⟩

def initializerCode (p : StoredParam) : Initializer := ⟨p.param.name, p.param.name, p.completion⟩

def code (p : StoredParam) : ConfigCode :=
  match p.storage with
  | .ownField => {
    fields := [p.fieldCode]
    builderFields := [p.builderFieldCode]
    setters := [p.builderSetter, p.inPlaceSetter]
    initializers := [p.initializerCode] }
  | .bag newtype => {
    getters := [p.getterCode newtype]
    setters := [p.builderSetter, p.inPlaceSetter] }

end StoredParam

namespace TokenProvider

theorem mode_of_load {mode : StorageMode} {runtime : RuntimeConfig} {t : TokenProvider}
    (h : TokenProvider.load mode runtime = .ok t) : t.mode = mode := by
  obtain ⟨_, _, h⟩ := Except.bind_eq_ok_iff.mp h
  cases h
  rfl

variable (t : TokenProvider)

def getterCode : GetterCode where
  note := .docs ["Returns a copy of the idempotency token provider.".toList,
    "If a random token provider was configured,".toList,
    "a newly-randomized token provider will be returned.".toList]
  name := "idempotency_token_provider"
  type := t.provider.path
  field :=
    match t.mode with
    | .directFields => "idempotency_token_provider"
    | .layeredBag => "inner"
  access :=
    match t.mode with
    | .directFields => "clone()"
    | .layeredBag =>
      "load::<" ++ t.provider.path ++
        ">().expect(\"the idempotency provider should be set\").clone()"

/-- The documentation of both setters. -/
def setterNote : Note := .docs
  ["Sets the idempotency token provider to use for service calls that require tokens.".toList]

def builderSetter : SetterCode where
  note := setterNote
  inPlace := false
  name := "idempotency_token_provider"
  parameter := "idempotency_token_provider"
  type := "impl Into<" ++ t.provider.path ++ ">"
  body := .send "set_idempotency_token_provider(Some(idempotency_token_provider.into()))"

/-- The statement that stores a provider. -/
def storeCode : Statement :=
  match t.mode with
  | .directFields => .assign "idempotency_token_provider" "idempotency_token_provider"
  | .layeredBag => .act "inner" "store_or_unset(idempotency_token_provider)"

def inPlaceSetter : SetterCode where
  note := setterNote
  inPlace := true
  name := "set_idempotency_token_provider"
  parameter := "idempotency_token_provider"
  type := "Option<" ++ t.provider.path ++ ">"
  body := t.storeCode

/-- What provides a token in tests. -/
def defaultCall : String :=
  "set_idempotency_token_provider(Some(" ++ Text.quoted testToken ++ ".into()))"

def fieldCode : FieldCode := ⟨.none, true, "idempotency_token_provider", t.provider.path⟩

def builderFieldCode : FieldCode :=
  ⟨.none, false, "idempotency_token_provider", "Option<" ++ t.provider.path ++ ">"⟩

def initializerCode : Initializer :=
  ⟨"idempotency_token_provider", "idempotency_token_provider",
    ".unwrap_or_else(" ++ t.defaultProvider.path ++ ")"⟩

/-- The statement that puts the default provider into a bag that holds none. -/
def fallbackCode : Statement :=
  .fallback "inner" ("load::<" ++ t.provider.path ++ ">().is_none()")
    ("store_put(" ++ t.defaultProvider.path ++ "())")

def code : ConfigCode :=
  match t.mode with
  | .directFields => {
    fields := [t.fieldCode]
    getters := [t.getterCode]
    builderFields := [t.builderFieldCode]
    setters := [t.builderSetter, t.inPlaceSetter]
    defaults := [defaultCall]
    initializers := [t.initializerCode] }
  | .layeredBag => {
    getters := [t.getterCode]
    setters := [t.builderSetter, t.inPlaceSetter]
    defaults := [defaultCall]
    statements := [t.fallbackCode] }

end TokenProvider

namespace Interceptors

variable (i : Interceptors)

/-- The path of a type that interceptors come with. -/
def path (type : String) : String := (i.source.resolve type).path

/-- The setter that leaves adding an interceptor to the next. -/
def builderSetter : SetterCode where
  note := .docs
    ["Adds an interceptor that runs at specific stages of the request execution pipeline.".toList]
  inPlace := false
  name := "interceptor"
  parameter := "interceptor"
  type := "impl " ++ i.path "Intercept" ++ " + 'static"
  body := .send ("push_interceptor(" ++ i.path "SharedInterceptor" ++ "::new(interceptor))")

/-- The setter that adds an interceptor. -/
def pushSetter : SetterCode where
  note := .docs [("Adds a [`SharedInterceptor`](" ++ i.path "SharedInterceptor" ++
    ") to the list of interceptors.").toList]
  inPlace := true
  name := "push_interceptor"
  parameter := "interceptor"
  type := i.path "SharedInterceptor"
  body := .act "interceptors" "push(interceptor)"

/-- The setter that replaces all interceptors. -/
def replacingSetter : SetterCode where
  note := .docs ["Replaces all interceptors with `interceptors`.".toList]
  inPlace := true
  name := "set_interceptors"
  parameter := "interceptors"
  type := "impl IntoIterator<Item = " ++ i.path "SharedInterceptor" ++ ">"
  body := .assign "interceptors" "interceptors.into_iter().collect()"

def fieldCode : FieldCode :=
  ⟨.none, true, "interceptors", "Vec<" ++ i.path "SharedInterceptor" ++ ">"⟩

def builderFieldCode : FieldCode :=
  ⟨.none, false, "interceptors", "Vec<" ++ i.path "SharedInterceptor" ++ ">"⟩

def getterCode : GetterCode where
  note := .docs ["Returns interceptors currently registered by the user.".toList]
  name := "interceptors"
  type := "impl Iterator<Item = " ++ i.path "SharedInterceptor" ++ "> + '_"
  field := "interceptors"
  access := "iter().cloned()"

def initializerCode : Initializer := ⟨"interceptors", "interceptors", ""⟩

def code : ConfigCode where
  fields := [i.fieldCode]
  getters := [i.getterCode]
  builderFields := [i.builderFieldCode]
  setters := [i.builderSetter, i.pushSetter, i.replacingSetter]
  initializers := [initializerCode]

end Interceptors

/-- A built-in customization of configurations that keep their values in the given way. -/
inductive BuiltIn (mode : StorageMode) where
  /-- A parameter for which it is settled where its value is kept. -/
  | parameter (p : ConfigParam) (s : StoredParam) (h : p.storedIn mode = .ok s)
  /-- The provider of tokens, which has been loaded. -/
  | tokenProvider (runtime : RuntimeConfig) (t : TokenProvider)
      (h : TokenProvider.load mode runtime = .ok t)
  | interceptors (runtime : RuntimeConfig)

namespace BuiltIn

variable {mode : StorageMode}

def customization : BuiltIn mode → ConfigCustomization
  | parameter _ s _ => s.customization
  | tokenProvider _ t _ => t.customization
  | interceptors runtime => (⟨mode, runtime⟩ : Interceptors).customization

/-- What the customization adds to the code. -/
def code : BuiltIn mode → ConfigCode
  | parameter _ s _ => s.code
  | tokenProvider _ t _ => t.code
  | interceptors runtime => (⟨mode, runtime⟩ : Interceptors).code

/-- What a built-in customization contributes agrees, beside the fields of a bag. -/
theorem fits (b : BuiltIn mode) : b.code.Fits mode := by
  cases b with
  | parameter p s h =>
    have stored := StoredParam.storage_of_storedIn h
    cases mode with
    | directFields =>
      have storage : s.storage = .ownField := stored
      rw [code, StoredParam.code, storage]
      constructor <;> simp [ConfigCode.fieldNames, ConfigCode.builderFieldNames,
        StoredParam.fieldCode, StoredParam.builderFieldCode, StoredParam.initializerCode,
        StoredParam.builderSetter, StoredParam.inPlaceSetter, StoredParam.storeCode, storage,
        Statement.fields, ConfigCode.bagNames]
    | layeredBag =>
      obtain ⟨newtype, storage⟩ : ∃ newtype, s.storage = .bag newtype := stored
      rw [code, StoredParam.code, storage]
      constructor <;> simp [ConfigCode.fieldNames, ConfigCode.builderFieldNames,
        StoredParam.getterCode, StoredParam.builderSetter, StoredParam.inPlaceSetter,
        StoredParam.storeCode, storage, Statement.fields, ConfigCode.bagNames]
  | tokenProvider runtime t h =>
    have kept := TokenProvider.mode_of_load h
    rw [code, TokenProvider.code, kept]
    cases mode with
    | directFields =>
      constructor <;> simp [ConfigCode.fieldNames, ConfigCode.builderFieldNames,
        TokenProvider.fieldCode, TokenProvider.builderFieldCode, TokenProvider.getterCode,
        TokenProvider.initializerCode, TokenProvider.builderSetter,
        TokenProvider.inPlaceSetter, TokenProvider.storeCode, kept, Statement.fields,
        ConfigCode.bagNames]
    | layeredBag =>
      constructor <;> simp [ConfigCode.fieldNames, ConfigCode.builderFieldNames,
        TokenProvider.fallbackCode, TokenProvider.getterCode, TokenProvider.builderSetter,
        TokenProvider.inPlaceSetter, TokenProvider.storeCode, kept, Statement.fields,
        ConfigCode.bagNames]
  | interceptors runtime =>
    constructor <;> simp [code, Interceptors.code, ConfigCode.fieldNames,
      ConfigCode.builderFieldNames, Interceptors.fieldCode, Interceptors.builderFieldCode,
      Interceptors.getterCode, Interceptors.initializerCode, Interceptors.builderSetter,
      Interceptors.pushSetter, Interceptors.replacingSetter, Statement.fields]

theorem fits_join (builtIns : List (BuiltIn mode)) :
    (ConfigCode.join (builtIns.map code)).Fits mode :=
  ConfigCode.fits_join fun c hc => by
    obtain ⟨b, _, rfl⟩ := List.mem_map.mp hc
    exact b.fits

end BuiltIn

namespace ConfigGenerator

/-- The field of a layered bag of the given type. -/
def bagFieldCode (g : ConfigGenerator) (type : String) : List FieldCode :=
  match g.mode with
  | .directFields => []
  | .layeredBag => [⟨.none, false, "inner", (g.bagItem type).path⟩]

/-- The initializer of a layered bag. -/
def bagInitializers : StorageMode → List Initializer
  | .directFields => []
  | .layeredBag => [⟨"inner", "inner", ".freeze()"⟩]

/-- The code of a configuration from what its customizations contribute. The bag's field comes
first in the structures, and its initializer comes last. -/
def complete (g : ConfigGenerator) (c : ConfigCode) : ConfigCode :=
  { c with
    fields := g.bagFieldCode "FrozenLayer" ++ c.fields
    builderFields := g.bagFieldCode "CloneableLayer" ++ c.builderFields
    initializers := c.initializers ++ bagInitializers g.mode }

theorem agrees_complete (g : ConfigGenerator) {c : ConfigCode} (h : c.Fits g.mode) :
    (g.complete c).Agrees := by
  have names (type : String) :
      (g.bagFieldCode type).map FieldCode.name = ConfigCode.bagNames g.mode := by
    rw [bagFieldCode]
    cases g.mode <;> rfl
  have bag : (bagInitializers g.mode).map Initializer.field = ConfigCode.bagNames g.mode := by
    cases g.mode <;> rfl
  have fields : (g.complete c).fieldNames = ConfigCode.bagNames g.mode ++ c.fieldNames := by
    rw [← names "FrozenLayer"]
    exact List.map_append
  have builderFields :
      (g.complete c).builderFieldNames = ConfigCode.bagNames g.mode ++ c.builderFieldNames := by
    rw [← names "CloneableLayer"]
    exact List.map_append
  constructor
  case initialized =>
    have literal : (g.complete c).initializers.map Initializer.field
        = c.initializers.map Initializer.field ++ ConfigCode.bagNames g.mode := by
      rw [← bag]
      exact List.map_append
    rw [fields, literal]
    exact List.perm_append_comm.trans (h.initialized.append_right _)
  case sources =>
    intro i hi
    rw [builderFields]
    rcases List.mem_append.mp hi with hi | hi
    · exact List.mem_append_right _ (h.sources i hi)
    · refine List.mem_append_left _ ?_
      rw [← bag]
      -- The bag itself is what its field is initialized from.
      have same : ∀ i ∈ bagInitializers g.mode, i.source = i.field := by
        cases g.mode <;> simp [bagInitializers]
      rw [same i hi]
      exact List.mem_map_of_mem hi
  case setters =>
    rw [builderFields]
    exact h.setters
  case statements =>
    rw [builderFields]
    exact h.statements
  case getters =>
    rw [fields]
    exact h.getters

/-- The generator with built-in customizations. -/
def ofBuiltIns (mode : StorageMode) (runtime : RuntimeConfig) (builtIns : List (BuiltIn mode)) :
    ConfigGenerator :=
  ⟨builtIns.map BuiltIn.customization, mode, runtime⟩

/-- The code of a configuration with built-in customizations. -/
def codeOf (mode : StorageMode) (runtime : RuntimeConfig) (builtIns : List (BuiltIn mode)) :
    ConfigCode :=
  (ofBuiltIns mode runtime builtIns).complete (ConfigCode.join (builtIns.map BuiltIn.code))

end ConfigGenerator

end Cratewright
