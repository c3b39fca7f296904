/-
Configurations agree with their builders.

The built-in customizations contribute to many sections of a configuration, in another way for
each storage mode. What they say at the sections is what the code of a configuration consists
of, each part at its place, so the text that is generated is that of a configuration that
agrees with its builder:

* `BuiltIn.writes_contribute` — what a customization says at a section;
* `ConfigGenerator.writes_script` — the lines of a configuration;
* `ConfigGenerator.render_agrees` — the text that is generated.
-/
import Cratewright.Proofs.Config.Code

namespace Cratewright

open Writer
open Text (linesOf)

/-! ### Sections of the code -/

/-- Whether a section belongs to the runtime plugin that a builder can be. -/
def ConfigSection.isOfPlugin : ConfigSection → Bool
  | .pluginConfig _ | .pluginInterceptors _ => true
  | _ => false

namespace ConfigCode

/-- The part of the code that a section is for. The section for what building does is for
initializers if there is no layered bag, and for statements if there is. -/
def linesAt (mode : StorageMode) (c : ConfigCode) : ConfigSection → List (List Char)
  | .structFields => c.fields.flatMap FieldCode.lines
  | .functions => c.getters.flatMap GetterCode.lines
  | .builderFields => c.builderFields.flatMap FieldCode.lines
  | .builderFunctions => c.setters.flatMap SetterCode.lines
  | .testDefaults builder => c.defaults.flatMap fun call => linesOf [builder ++ "." ++ call ++ ";"]
  | .build =>
    match mode with
    | .directFields => c.initializers.flatMap Initializer.lines
    | .layeredBag => c.statements.flatMap Statement.lines
  | .buildFields =>
    match mode with
    | .directFields => []
    | .layeredBag => c.initializers.flatMap Initializer.lines
  | _ => []

theorem linesAt_join (mode : StorageMode) (cs : List ConfigCode) (s : ConfigSection) :
    (join cs).linesAt mode s = cs.flatMap fun c => c.linesAt mode s := by
  cases s <;> cases mode <;> simp [linesAt, join, List.flatMap_assoc]

end ConfigCode

/-- Documentation, or the permission to have none, is a note. -/
theorem writes_documentation (docs : Option String) :
    Writes [documentation docs] (Note.ofDocs docs).lines := by
  cases docs with
  | none =>
    exact writes_code String.toList_ofList (.cons .literal .nil) (by decide)
  | some text =>
    have same : docLines text = (Note.ofDocs (some text)).lines := by
      refine List.flatMap_congr fun l _ => ?_
      have slashes : "/// ".toList = ['/', '/', '/', ' '] := by decide
      rw [slashes]
      split
      · rename_i blank
        have blanks : ∀ c ∈ ' ' :: l, Text.isBlank c = true :=
          List.forall_mem_cons.mpr ⟨rfl, List.all_eq_true.mp blank⟩
        exact (Text.bareLines_append_blanks blanks ['/', '/', '/']).symm
      · rfl
    exact same ▸ writes_docs text

/-! ### Parameters -/

namespace StoredParam

variable (p : StoredParam)

theorem writes_field : Writes p.field p.fieldCode.lines := by
  refine (writes_documentation _).cons ?_
  rw [fieldCode, valueType]
  split
  · exact .template [[.text "pub(crate) ", .hole "name", .text ": ", .text "Option<",
      .hole "ty", .text ">", .text ","]]
      (Template.hasLines_of_spelled .literal (by repeat constructor) (by decide))
      (by simp [bindings]) (by simp [bindings])
      (by simp [-String.reduceToList, -String.reduceAppend, bindings, linesOf])
  · exact .template [[.text "pub(crate) ", .hole "name", .text ": ", .hole "ty",
      .text ","]]
      (Template.hasLines_of_spelled .literal (by repeat constructor) (by decide))
      (by simp [bindings]) (by simp [bindings])
      (by simp [-String.reduceToList, -String.reduceAppend, bindings, linesOf])

theorem writes_getter (newtype : ItemPath Fragment) :
    Writes (p.getter newtype) (p.getterCode newtype).lines := by
  refine (writes_documentation _).cons ?_
  rw [getterCode, valueType, completion]
  split
  · exact .template [
        [.text "pub fn ", .hole "name", .text "(&self) -> ", .text "Option<", .hole "ty",
          .text ">", .text " \x7b"],
        [.text "self.", .text "inner", .text ".", .text "load::<", .hole "newtype",
          .text ">().map(", .hole "f", .text ")"],
        [.text "\x7d"]]
      (Template.hasLines_ofLines (by repeat constructor) (by repeat constructor) (by decide))
      (by simp [bindings]) (by simp [bindings])
      (by simp [-String.reduceToList, -String.reduceAppend, bindings, linesOf])
  · exact .template [
        [.text "pub fn ", .hole "name", .text "(&self) -> ", .hole "ty", .text " \x7b"],
        [.text "self.", .text "inner", .text ".", .text "load::<", .hole "newtype",
          .text ">().map(", .hole "f", .text ")", .text ".unwrap_or_default()"],
        [.text "\x7d"]]
      (Template.hasLines_ofLines (by repeat constructor) (by repeat constructor) (by decide))
      (by simp [bindings]) (by simp [bindings])
      (by simp [-String.reduceToList, -String.reduceAppend, bindings, linesOf])

theorem writes_builderField :
    Writes [.template "#{name}: Option<#{ty}>," p.bindings] p.builderFieldCode.lines :=
  .template [[.hole "name", .text ": ", .text "Option<", .hole "ty", .text ">",
    .text ","]]
    (Template.hasLines_of_spelled .literal (by repeat constructor) (by decide))
    (by simp [bindings]) (by simp [bindings])
    (by simp [-String.reduceToList, -String.reduceAppend, bindings, linesOf, builderFieldCode,
      FieldCode.lines, Note.lines])

theorem writes_initializer : Writes p.initializer p.initializerCode.lines := by
  rw [initializer, initializerCode, completion]
  split
  · exact .template [[.hole "name", .text ": ", .hole "value", .text ","]]
      (Template.hasLines_of_spelled .literal (by repeat constructor) (by decide))
      (by simp) (by simp)
      (by simp [-String.reduceToList, -String.reduceAppend, linesOf, Initializer.lines])
  · exact .template [[.hole "name", .text ": ", .hole "value", .text ","]]
      (Template.hasLines_of_spelled .literal (by repeat constructor) (by decide))
      (by simp) (by simp)
      (by simp [-String.reduceToList, -String.reduceAppend, linesOf, Initializer.lines])

theorem writes_store : Writes p.store p.storeCode.lines := by
  cases h : p.storage with
  | ownField =>
    rw [store, storeCode, h]
    exact .template
      [[.text "self.", .hole "name", .text " = ", .hole "name", .text ";"]]
      (Template.hasLines_of_spelled .literal (by repeat constructor) (by decide))
      (by simp) (by simp)
      (by simp [-String.reduceToList, -String.reduceAppend, linesOf, Statement.lines])
  | bag newtype =>
    rw [store, storeCode, h]
    exact .template [[.text "self.", .text "inner", .text ".", .text "store_or_unset(",
        .hole "name", .text ".map(", .hole "newtype", .text "))", .text ";"]]
      (Template.hasLines_of_spelled .literal (by repeat constructor) (by decide))
      (by simp) (by simp)
      (by simp [-String.reduceToList, -String.reduceAppend, linesOf, Statement.lines])

theorem writes_setters : Writes p.setters (p.builderSetter.lines ++ p.inPlaceSetter.lines) := by
  obtain ⟨stored, clean⟩ := Writes.fills (some p.store) p.writes_store
  have writes : Writes p.setters (p.builderSetter.note.lines ++ (p.builderSetter.functionLines ++
      ([] ++ (p.inPlaceSetter.note.lines ++ p.inPlaceSetter.functionLines)))) := by
    refine (writes_documentation _).cons <| .cons ?builder <| writes_blankLine.cons <|
      (writes_documentation _).cons ?inPlace
    case builder =>
      exact .template [
          [.text "pub fn ", .hole "name", .text "(mut self, ", .hole "name", .text ": ",
            .text "impl Into<", .hole "ty", .text ">", .text ") -> Self \x7b"],
          [.text "self.", .text "set_", .hole "name", .text "(Some(", .hole "name",
            .text ".into()))", .text ";"],
          [.text "self"],
          [.text "\x7d"]]
        (Template.hasLines_ofLines (by repeat constructor) (by repeat constructor) (by decide))
        (by simp [bindings]) (by simp [bindings])
        (by simp [-String.reduceToList, -String.reduceAppend, bindings, linesOf, builderSetter,
          SetterCode.functionLines, Statement.lines_send])
    case inPlace =>
      exact .template [
          [.text "pub fn ", .text "set_", .hole "name", .text "(&mut self, ", .hole "name",
            .text ": ", .text "Option<", .hole "ty", .text ">", .text ") -> &mut Self \x7b"],
          [.hole "store"],
          [.text "self"],
          [.text "\x7d"]]
        (Template.hasLines_ofLines (by repeat constructor) (by repeat constructor) (by decide))
        (by simp [bindings, clean]) (by simp [bindings])
        (by simp [-String.reduceToList, -String.reduceAppend, bindings, stored, linesOf,
          inPlaceSetter, SetterCode.functionLines])
  rw [List.nil_append, ← List.append_assoc] at writes
  exact writes

theorem writes_contribute {mode : StorageMode} {p : ConfigParam} {s : StoredParam}
    (h : p.storedIn mode = .ok s) (sec : ConfigSection) :
    Writes ((s.contribute sec).getD []) (s.code.linesAt mode sec) := by
  have stored := storage_of_storedIn h
  cases mode with
  | directFields =>
    have storage : s.storage = .ownField := stored
    cases sec <;> simp only [contribute, code, storage, ConfigCode.linesAt, List.flatMap_cons,
      List.flatMap_nil, List.append_nil]
    case structFields => exact s.writes_field
    case builderFields => exact s.writes_builderField
    case builderFunctions => exact s.writes_setters
    case build => exact s.writes_initializer
    all_goals exact writes_nil
  | layeredBag =>
    obtain ⟨newtype, storage⟩ : ∃ newtype, s.storage = .bag newtype := stored
    cases sec <;> simp only [contribute, code, storage, ConfigCode.linesAt, List.flatMap_cons,
      List.flatMap_nil, List.append_nil]
    case functions => exact s.writes_getter newtype
    case builderFunctions => exact s.writes_setters
    all_goals exact writes_nil

end StoredParam

/-! ### The provider of tokens -/

namespace TokenProvider

variable (t : TokenProvider)

theorem writes_value : Writes [.template t.value [("Provider", .item t.provider)]]
    (linesOf ["self." ++ t.getterCode.field ++ "." ++ t.getterCode.access]) := by
  cases h : t.mode with
  | directFields =>
    simp only [value, getterCode, h]
    exact .template [[.text "self.", .text "idempotency_token_provider", .text ".",
      .text "clone()"]]
      (Template.hasLines_of_spelled .literal (by repeat constructor) (by decide))
      (by simp) (by simp)
      (by simp [-String.reduceToList, -String.reduceAppend, linesOf])
  | layeredBag =>
    simp only [value, getterCode, h]
    exact .template [[.text "self.", .text "inner", .text ".", .text "load::<",
        .hole "Provider",
        .text ">().expect(\"the idempotency provider should be set\").clone()"]]
      (Template.hasLines_of_spelled .literal (by repeat constructor) (by decide))
      (by simp) (by simp)
      (by simp [-String.reduceToList, -String.reduceAppend, linesOf])

theorem writes_getter : Writes t.getter t.getterCode.lines := by
  obtain ⟨body, clean⟩ := Writes.fills
    (some [.template t.value [("Provider", .item t.provider)]]) t.writes_value
  exact .template [
      [.text "/// ", .text "Returns a copy of the idempotency token provider."],
      [.text "/// ", .text "If a random token provider was configured,"],
      [.text "/// ", .text "a newly-randomized token provider will be returned."],
      [.text "pub fn ", .text "idempotency_token_provider", .text "(&self) -> ",
        .hole "Provider", .text " \x7b"],
      [.hole "body"],
      [.text "\x7d"]]
    (Template.hasLines_ofLines (by repeat constructor) (by repeat constructor) (by decide))
    (by simp [clean]) (by simp)
    (by simp [-String.reduceToList, -String.reduceAppend, body, linesOf, getterCode,
      GetterCode.lines, Note.lines])

theorem writes_setters :
    Writes t.setters (t.builderSetter.lines ++ t.inPlaceSetter.lines) := by
  have stored : Text.bareLines t.store.toList = t.storeCode.lines := by
    rw [store, storeCode]
    cases t.mode <;> simp [-String.reduceToList, Statement.lines, linesOf]
  exact .template [
      [.text "/// ",
        .text "Sets the idempotency token provider to use for service calls that require tokens."],
      [.text "pub fn ", .text "idempotency_token_provider", .text "(mut self, ",
        .text "idempotency_token_provider", .text ": ", .text "impl Into<", .hole "Provider",
        .text ">", .text ") -> Self \x7b"],
      [.text "self.",
        .text "set_idempotency_token_provider(Some(idempotency_token_provider.into()))",
        .text ";"],
      [.text "self"],
      [.text "\x7d"],
      [],
      [.text "/// ",
        .text "Sets the idempotency token provider to use for service calls that require tokens."],
      [.text "pub fn ", .text "set_idempotency_token_provider", .text "(&mut self, ",
        .text "idempotency_token_provider", .text ": ", .text "Option<", .hole "Provider",
        .text ">", .text ") -> &mut Self \x7b"],
      [.hole "store"],
      [.text "self"],
      [.text "\x7d"]]
    (Template.hasLines_ofLines (by repeat constructor) (by repeat constructor) (by decide))
    (by simp) (by simp)
    (by simp [-String.reduceToList, -String.reduceAppend, stored, linesOf, builderSetter,
      inPlaceSetter, setterNote, SetterCode.lines, SetterCode.functionLines, Note.lines,
      Statement.lines_send, Text.bareLines_nil])

theorem writes_build : Writes t.build
    (match t.mode with
      | .directFields => t.initializerCode.lines
      | .layeredBag => t.fallbackCode.lines) := by
  cases h : t.mode with
  | directFields =>
    rw [build, h]
    exact .template [[.text "idempotency_token_provider", .text ": ", .text "self.",
        .text "idempotency_token_provider", .text ".unwrap_or_else(", .hole "default_provider",
        .text ")", .text ","]]
      (Template.hasLines_of_spelled (.append .literal .literal) (by repeat constructor)
        (by decide))
      (by simp) (by simp)
      (by simp [-String.reduceToList, -String.reduceAppend, linesOf, initializerCode,
        Initializer.lines])
  | layeredBag =>
    rw [build, h]
    exact .template [
        [.text "if self.", .text "inner", .text ".", .text "load::<", .hole "Provider",
          .text ">().is_none()", .text " \x7b"],
        [.text "self.", .text "inner", .text ".", .text "store_put(", .hole "default_provider",
          .text "())", .text ";"],
        [.text "\x7d"]]
      (Template.hasLines_ofLines (by repeat constructor) (by repeat constructor) (by decide))
      (by simp) (by simp)
      (by simp [-String.reduceToList, -String.reduceAppend, linesOf, fallbackCode,
        Statement.lines])

theorem writes_field : Writes [.template "pub(crate) idempotency_token_provider: #{Provider},"
    [("Provider", .item t.provider)]] t.fieldCode.lines :=
  .template [[.text "pub(crate) ", .text "idempotency_token_provider", .text ": ",
      .hole "Provider", .text ","]]
    (Template.hasLines_of_spelled .literal (by repeat constructor) (by decide))
    (by simp) (by simp)
    (by simp [-String.reduceToList, -String.reduceAppend, linesOf, fieldCode, FieldCode.lines,
      Note.lines])

theorem writes_builderField :
    Writes [.template "idempotency_token_provider: Option<#{Provider}>,"
      [("Provider", .item t.provider)]] t.builderFieldCode.lines :=
  .template [[.text "idempotency_token_provider", .text ": ", .text "Option<",
      .hole "Provider", .text ">", .text ","]]
    (Template.hasLines_of_spelled .literal (by repeat constructor) (by decide))
    (by simp) (by simp)
    (by simp [-String.reduceToList, -String.reduceAppend, linesOf, builderFieldCode,
      FieldCode.lines, Note.lines])

theorem writes_default (builder token : String) :
    Writes [(.template "#{builder}.set_idempotency_token_provider(Some(#{token}.into()));"
      [("builder", .text builder), ("token", .text token)] : Command Fragment)]
      (linesOf [builder ++ "." ++
        ("set_idempotency_token_provider(Some(" ++ token ++ ".into()))") ++ ";"]) :=
  .template [[.hole "builder", .text ".", .text "set_idempotency_token_provider(Some(",
      .hole "token", .text ".into()))", .text ";"]]
    (Template.hasLines_of_spelled .literal (by repeat constructor) (by decide))
    (by simp) (by simp)
    (by simp [-String.reduceToList, -String.reduceAppend, linesOf])

theorem writes_contribute {mode : StorageMode} {runtime : RuntimeConfig} {t : TokenProvider}
    (h : load mode runtime = .ok t) (sec : ConfigSection) :
    Writes ((t.contribute sec).getD []) (t.code.linesAt mode sec) := by
  have kept := mode_of_load h
  have build := t.writes_build
  cases mode with
  | directFields =>
    rw [kept] at build
    cases sec <;> simp only [contribute, code, kept, ConfigCode.linesAt, List.flatMap_cons,
      List.flatMap_nil, List.append_nil]
    case structFields => exact t.writes_field
    case functions => exact t.writes_getter
    case builderFields => exact t.writes_builderField
    case builderFunctions => exact t.writes_setters
    case build => exact build
    case testDefaults builder => exact writes_default builder _
    all_goals exact writes_nil
  | layeredBag =>
    rw [kept] at build
    cases sec <;> simp only [contribute, code, kept, ConfigCode.linesAt, List.flatMap_cons,
      List.flatMap_nil, List.append_nil]
    case functions => exact t.writes_getter
    case builderFunctions => exact t.writes_setters
    case build => exact build
    case testDefaults builder => exact writes_default builder _
    all_goals exact writes_nil

end TokenProvider

/-! ### Interceptors -/

namespace Interceptors

variable (i : Interceptors)

theorem writes_field : Writes [.template "pub(crate) interceptors: Vec<#{SharedInterceptor}>,"
    i.bindings] i.fieldCode.lines :=
  .template [[.text "pub(crate) ", .text "interceptors", .text ": ", .text "Vec<",
      .hole "SharedInterceptor", .text ">", .text ","]]
    (Template.hasLines_of_spelled .literal (by repeat constructor) (by decide))
    (by simp [bindings]) (by simp [bindings])
    (by simp [-String.reduceToList, -String.reduceAppend, linesOf, bindings, fieldCode, path,
      FieldCode.lines, Note.lines])

theorem writes_builderField : Writes [.template "interceptors: Vec<#{SharedInterceptor}>,"
    i.bindings] i.builderFieldCode.lines :=
  .template [[.text "interceptors", .text ": ", .text "Vec<", .hole "SharedInterceptor",
      .text ">", .text ","]]
    (Template.hasLines_of_spelled .literal (by repeat constructor) (by decide))
    (by simp [bindings]) (by simp [bindings])
    (by simp [-String.reduceToList, -String.reduceAppend, linesOf, bindings, builderFieldCode,
      path, FieldCode.lines, Note.lines])

theorem writes_getter : Writes i.getter i.getterCode.lines :=
  .template [
      [.text "/// ", .text "Returns interceptors currently registered by the user."],
      [.text "pub fn ", .text "interceptors", .text "(&self) -> ", .text "impl Iterator<Item = ",
        .hole "SharedInterceptor", .text "> + '_", .text " \x7b"],
      [.text "self.", .text "interceptors", .text ".", .text "iter().cloned()"],
      [.text "\x7d"]]
    (Template.hasLines_ofLines (by repeat constructor) (by repeat constructor) (by decide))
    (by simp [bindings]) (by simp [bindings])
    (by simp [-String.reduceToList, -String.reduceAppend, linesOf, bindings, getterCode, path,
      GetterCode.lines, Note.lines])

theorem writes_setters : Writes i.setters
    (i.builderSetter.lines ++ (i.pushSetter.lines ++ i.replacingSetter.lines)) :=
  .template [
      [.text "/// ",
        .text "Adds an interceptor that runs at specific stages of the request execution pipeline."],
      [.text "pub fn ", .text "interceptor", .text "(mut self, ", .text "interceptor",
        .text ": ", .text "impl ", .hole "Intercept", .text " + 'static",
        .text ") -> Self \x7b"],
      [.text "self.", .text "push_interceptor(", .hole "SharedInterceptor",
        .text "::new(interceptor))", .text ";"],
      [.text "self"],
      [.text "\x7d"],
      [],
      [.text "/// ", .text "Adds a [`SharedInterceptor`](", .hole "SharedInterceptor",
        .text ") to the list of interceptors."],
      [.text "pub fn ", .text "push_interceptor", .text "(&mut self, ", .text "interceptor",
        .text ": ", .hole "SharedInterceptor", .text ") -> &mut Self \x7b"],
      [.text "self.", .text "interceptors", .text ".", .text "push(interceptor)", .text ";"],
      [.text "self"],
      [.text "\x7d"],
      [],
      [.text "/// ", .text "Replaces all interceptors with `interceptors`."],
      [.text "pub fn ", .text "set_interceptors", .text "(&mut self, ", .text "interceptors",
        .text ": ", .text "impl IntoIterator<Item = ", .hole "SharedInterceptor", .text ">",
        .text ") -> &mut Self \x7b"],
      [.text "self.", .text "interceptors", .text " = ",
        .text "interceptors.into_iter().collect()", .text ";"],
      [.text "self"],
      [.text "\x7d"]]
    (Template.hasLines_ofLines (by repeat constructor) (by repeat constructor) (by decide))
    (by simp [bindings]) (by simp [bindings])
    (by simp [-String.reduceToList, -String.reduceAppend, linesOf, bindings, builderSetter,
      pushSetter, replacingSetter, path, SetterCode.lines, SetterCode.functionLines, Note.lines,
      Statement.lines, Text.bareLines_nil])

theorem writes_initializer : Writes initializer initializerCode.lines := by
  have text : initializerCode.lines = linesOf ["interceptors: self.interceptors,"] := by
    simp [-String.reduceToList, Initializer.lines, initializerCode]
  rw [text]
  exact writes_code String.toList_ofList (.cons .literal .nil) (by decide)

theorem writes_contribute {sec : ConfigSection} (h : sec.isOfPlugin = false) :
    Writes ((i.contribute sec).getD []) (i.code.linesAt i.mode sec) := by
  cases kept : i.mode <;> cases sec <;> simp only [contribute, kept, code, ConfigCode.linesAt,
    List.flatMap_cons, List.flatMap_nil, List.append_nil]
  case directFields.structFields | layeredBag.structFields => exact i.writes_field
  case directFields.functions | layeredBag.functions => exact i.writes_getter
  case directFields.builderFields | layeredBag.builderFields => exact i.writes_builderField
  case directFields.builderFunctions | layeredBag.builderFunctions => exact i.writes_setters
  case directFields.build | layeredBag.buildFields => exact writes_initializer
  case directFields.pluginInterceptors | layeredBag.pluginInterceptors => cases h
  all_goals exact writes_nil

end Interceptors

/-- What a built-in customization says at a section is its code there. -/
theorem BuiltIn.writes_contribute {mode : StorageMode} (b : BuiltIn mode) {sec : ConfigSection}
    (h : sec.isOfPlugin = false) :
    Writes ((b.customization.contribute sec).getD []) (b.code.linesAt mode sec) := by
  cases b with
  | parameter p s stored => exact StoredParam.writes_contribute stored sec
  | tokenProvider runtime t loaded => exact TokenProvider.writes_contribute loaded sec
  | interceptors runtime => exact Interceptors.writes_contribute ⟨mode, runtime⟩ h

/-! ### The configuration -/

namespace ConfigGenerator

theorem writes_bagField (g : ConfigGenerator) {type : String}
    (h : Template.HasLines ("inner: #\x7b" ++ type ++ "\x7d,")
      [[.text "inner", .text ": ", .hole type, .text ","]]) :
    Writes (g.bagField type) ((g.bagFieldCode type).flatMap FieldCode.lines) := by
  cases mode : g.mode with
  | directFields =>
    simp only [bagField, bagFieldCode, mode]
    exact writes_nil
  | layeredBag =>
    simp only [bagField, bagFieldCode, mode]
    exact .template _ h (by simp) (by simp)
      (by simp [-String.reduceToList, -String.reduceAppend, linesOf, FieldCode.lines, Note.lines])

theorem writes_debugImpl (type : String) (known : type = "Config" ∨ type = "Builder") :
    Writes [debugImpl type] (ConfigCode.debugLines type) := by
  rcases known with rfl | rfl
  · exact writes_code (Template.toList_ofLines (by repeat constructor)) (by repeat constructor)
      (by decide)
  · exact writes_code (Template.toList_ofLines (by repeat constructor)) (by repeat constructor)
      (by decide)

/-- The function of the configuration that starts a builder. -/
theorem writes_start : Writes [(.code (Text.ofLines [
      "/// Constructs a config builder.",
      "pub fn builder() -> Builder \x7b",
      "    Builder::default()",
      "\x7d"]) : Command Fragment)]
    (linesOf ["/// Constructs a config builder.", "pub fn builder() -> Builder \x7b",
      "Builder::default()", "\x7d"]) :=
  writes_code (Template.toList_ofLines (by repeat constructor)) (by repeat constructor) (by decide)

/-- The function of the builder that makes one. -/
theorem writes_new : Writes [(.code (Text.ofLines [
      "/// Constructs a config builder.",
      "pub fn new() -> Self \x7b",
      "    Self::default()",
      "\x7d"]) : Command Fragment)]
    (linesOf ["/// Constructs a config builder.", "pub fn new() -> Self \x7b",
      "Self::default()", "\x7d"]) :=
  writes_code (Template.toList_ofLines (by repeat constructor)) (by repeat constructor) (by decide)

section Script

variable {g : ConfigGenerator} {c : ConfigCode}
  (h : ∀ sec : ConfigSection, sec.isOfPlugin = false →
    Writes ((g.composed sec).getD []) (c.linesAt g.mode sec))

include h

theorem writes_testDefaults : Writes [g.testDefaults] c.defaultLines := by
  obtain ⟨defaults, clean⟩ := Writes.fills _ (h (.testDefaults "self") rfl)
  exact .template [
      [.text "/// Apply test defaults to the builder."],
      [.text "#[cfg(any(feature = \"test-util\", test))]"],
      [.text "#[allow(unused_mut)]"],
      [.text "pub fn set_test_defaults(&mut self) -> &mut Self \x7b"],
      [.hole "defaults"],
      [.text "self"],
      [.text "\x7d"],
      [],
      [.text "/// Apply test defaults to the builder."],
      [.text "#[cfg(any(feature = \"test-util\", test))]"],
      [.text "#[allow(unused_mut)]"],
      [.text "pub fn with_test_defaults(mut self) -> Self \x7b"],
      [.text "self.set_test_defaults();"],
      [.text "self"],
      [.text "\x7d"]]
    (Template.hasLines_ofLines (by repeat constructor) (by repeat constructor) (by decide))
    (by simp [clean]) (by simp)
    (by simp [-String.reduceToList, -String.reduceAppend, defaults, linesOf,
      ConfigCode.defaultLines, ConfigCode.linesAt, Text.bareLines_nil])

theorem writes_build (direct : g.mode = .directFields → c.statements = []) :
    Writes [g.build] ((g.complete c).buildLines g.mode) := by
  obtain ⟨build, cleanBuild⟩ := Writes.fills _ (h .build rfl)
  obtain ⟨fields, cleanFields⟩ := Writes.fills _ (h .buildFields rfl)
  cases mode : g.mode with
  | directFields =>
    rw [mode] at build
    simp only [ConfigGenerator.build, mode]
    exact .template [
        [.text "pub fn build(self) -> Config \x7b"],
        [.text "Config \x7b"],
        [.hole "build"],
        [.text "\x7d"],
        [.text "\x7d"]]
      (Template.hasLines_ofLines (by repeat constructor) (by repeat constructor) (by decide))
      (by simp [cleanBuild]) (by simp)
      (by simp [-String.reduceToList, -String.reduceAppend, build, direct mode, mode, linesOf,
        complete, bagInitializers, ConfigCode.buildLines, ConfigCode.linesAt])
  | layeredBag =>
    rw [mode] at build fields
    simp only [ConfigGenerator.build, mode]
    exact .template [
        [.text "#[allow(unused_mut)]"],
        [.text "pub fn build(mut self) -> Config \x7b"],
        [.hole "build"],
        [.text "Config \x7b"],
        [.hole "extras"],
        [.text "inner", .text ": ", .text "self.", .text "inner", .text ".freeze()", .text ","],
        [.text "\x7d"],
        [.text "\x7d"]]
      (Template.hasLines_ofLines (by repeat constructor) (by repeat constructor) (by decide))
      (by simp [cleanBuild, cleanFields]) (by simp)
      (by simp [-String.reduceToList, -String.reduceAppend, build, fields, mode, linesOf,
        complete, bagInitializers, Initializer.lines, ConfigCode.buildLines, ConfigCode.linesAt])

/-- A configuration has the lines of the code that its customizations contribute to. -/
theorem writes_script (direct : g.mode = .directFields → c.statements = []) :
    Writes g.script ((g.complete c).lines g.mode) := by
  have config : Writes (g.bagField "FrozenLayer" ++ [.splice (g.composed .structFields)])
      ((g.complete c).fields.flatMap FieldCode.lines) := by
    rw [complete, List.flatMap_append]
    exact (g.writes_bagField (Template.hasLines_of_spelled (by repeat constructor)
      (by repeat constructor) (by decide))).append (h .structFields rfl).splice
  have builder : Writes (g.bagField "CloneableLayer" ++ [.splice (g.composed .builderFields)])
      ((g.complete c).builderFields.flatMap FieldCode.lines) := by
    rw [complete, List.flatMap_append]
    exact (g.writes_bagField (Template.hasLines_of_spelled (by repeat constructor)
      (by repeat constructor) (by decide))).append (h .builderFields rfl).splice
  have functions : Writes [
      .code (Text.ofLines [
        "/// Constructs a config builder.",
        "pub fn builder() -> Builder \x7b",
        "    Builder::default()",
        "\x7d"]),
      .splice (g.composed .functions)] _ :=
    writes_start.cons (h .functions rfl).splice
  have builderFunctions : Writes [
      .code (Text.ofLines [
        "/// Constructs a config builder.",
        "pub fn new() -> Self \x7b",
        "    Self::default()",
        "\x7d"]),
      .splice (g.composed .builderFunctions), g.testDefaults, .docs "Builds a [`Config`].",
      g.build] _ :=
    writes_new.cons <| (h .builderFunctions rfl).splice.cons <| (writes_testDefaults h).cons <|
      (writes_docs_line .literal (by decide) (by decide)).cons (writes_build h direct)
  have writes : Writes g.script _ :=
    (writes_docs_line .literal (by decide) (by decide)).cons <|
      (h .structDocs rfl).splice.cons <| (writes_attribute _).cons <|
      (config.block .literal (by decide)).cons <| (writes_debugImpl "Config" (.inl rfl)).cons <|
      (functions.block .literal (by decide)).cons <|
      (writes_docs_line .literal (by decide) (by decide)).cons <| (writes_attribute _).cons <|
      (builder.block .literal (by decide)).cons <|
      (writes_debugImpl "Builder" (.inr rfl)).cons <|
      (builderFunctions.block .literal (by decide)).cons (h .extras rfl).splice
  have getters : (g.complete c).getters = c.getters := rfl
  have setters : (g.complete c).setters = c.setters := rfl
  have defaults : (g.complete c).defaultLines = c.defaultLines := rfl
  convert writes using 1
  simp [-String.reduceToList, linesOf, getters, setters, defaults, ConfigCode.lines,
    ConfigCode.configLines, ConfigCode.builderLines, ConfigCode.linesAt]

end Script

/-! ### Built-in customizations -/

section BuiltIn

variable (mode : StorageMode) (runtime : RuntimeConfig) (builtIns : List (BuiltIn mode))

/-- At a section the text is what each customization says there, in their order. -/
theorem writes_composed {sec : ConfigSection} (h : sec.isOfPlugin = false) :
    Writes (((ofBuiltIns mode runtime builtIns).composed sec).getD [])
      ((ConfigCode.join (builtIns.map BuiltIn.code)).linesAt mode sec) := by
  rw [composed, ofBuiltIns, Customization.getD_compose, ConfigCode.linesAt_join,
    List.flatMap_map, List.flatMap_map]
  exact Writes.flatMap fun b _ => b.writes_contribute h

/-- Configurations agree with their builders: whichever built-in customizations there are, in
whichever order and how often, the text of the configuration is that of code that agrees. -/
theorem render_agrees :
    ∃ out, render (ofBuiltIns mode runtime builtIns).script = .ok out ∧
      Text.bareLines out.contents.toList = (codeOf mode runtime builtIns).lines mode ∧
      (codeOf mode runtime builtIns).Agrees := by
  have fits : (ConfigCode.join (builtIns.map BuiltIn.code)).Fits mode :=
    BuiltIn.fits_join builtIns
  have writes : Writes (ofBuiltIns mode runtime builtIns).script
      ((codeOf mode runtime builtIns).lines mode) :=
    writes_script (fun _ plain => writes_composed mode runtime builtIns plain) fits.direct
  obtain ⟨out, rendered, lines⟩ := writes.render
  exact ⟨out, rendered, lines, agrees_complete _ fits⟩

end BuiltIn

end ConfigGenerator

end Cratewright
