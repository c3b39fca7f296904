/-
Builders in both storage modes.

The built-in customizations of a configuration are told by data that say nothing of how values
are kept. What they contribute to the builder is an outline that is the same in both modes:
lines as they stand, and functions that store a value in place, of which only the statement
that stores it depends on the mode:

* `ConfigPart.exists_outline` — the outline of one customization;
* `ConfigGenerator.testDefaults_ofParts` — the functions that set defaults for tests;
* `ConfigGenerator.same_builder_in_both_modes` — the builder of a configuration.
-/
import Cratewright.Proofs.Config.Agreement
import Cratewright.Proofs.Config.Insertion
import Cratewright.Proofs.Source.Printing

namespace Cratewright

open Writer

/-! ### Outlines -/

/-- A function of the builder that stores a value in place. -/
structure StoringSetter where
  /-- The name of the value. -/
  name : String
  type : String
  /-- The value as it is put into a layered bag. -/
  wrapped : String

namespace StoringSetter

def header (s : StoringSetter) : String :=
  "pub fn set_" ++ s.name ++ "(&mut self, " ++ s.name ++ ": Option<" ++ s.type ++
    ">) -> &mut Self \x7b"

/-- The statement that stores the value. -/
def statement (s : StoringSetter) : StorageMode → String
  | .directFields => "self." ++ s.name ++ " = " ++ s.name ++ ";"
  | .layeredBag => "self.inner.store_or_unset(" ++ s.wrapped ++ ");"

theorem getLast?_statement (mode : StorageMode) (s : StoringSetter) :
    (s.statement mode).toList.getLast? = some ';' := by
  have ends (t u : String) (h : u.toList.getLast? = some ';') :
      (t ++ u).toList.getLast? = some ';' := by
    rw [String.toList_append, List.getLast?_append, h]
    rfl
  cases mode with
  | directFields => exact ends ("self." ++ s.name ++ " = " ++ s.name) ";" (by decide)
  | layeredBag => exact ends ("self.inner.store_or_unset(" ++ s.wrapped) ");" (by decide)

/-- The lines of a text, without the blanks at their ends. -/
def textLines (text : String) : List (List Char) := (Text.pieces text.toList).map Text.trimEnd

def lines (mode : StorageMode) (s : StoringSetter) : List (List Char) :=
  textLines s.header ++ (textLines (s.statement mode)).map (hung indentation) ++
    ["    self".toList, "\x7d".toList]

/-- The rows of a template for the function, with a hole for the statement. -/
def rows (name type : Template.Chunk) : List Template.Row := [
  ⟨[], [.text "pub fn set_", name, .text "(&mut self, ", name, .text ": Option<", type,
    .text ">) -> &mut Self \x7b"]⟩,
  ⟨indentation, [.hole "store"]⟩,
  ⟨indentation, [.text "self"]⟩,
  ⟨[], [.text "\x7d"]⟩]

/-- The template writes the function if its holes are filled accordingly. -/
theorem flatMap_printedRow_rows {bindings : List (String × Argument Fragment)}
    {name type : Template.Chunk} {mode : StorageMode} {s : StoringSetter}
    (named : chunkUnder bindings [] name = s.name.toList)
    (typed : chunkUnder bindings [] type = s.type.toList)
    (stored : printedRow bindings ⟨indentation, [.hole "store"]⟩ =
      (textLines (s.statement mode)).map (hung indentation)) :
    (rows name type).flatMap (printedRow bindings) = s.lines mode := by
  have header : rowText bindings ⟨[], [.text "pub fn set_", name, .text "(&mut self, ", name,
      .text ": Option<", type, .text ">) -> &mut Self \x7b"]⟩ = s.header.toList := by
    show _ = ("pub fn set_" ++ s.name ++ "(&mut self, " ++ s.name ++ ": Option<" ++ s.type ++
      ">) -> &mut Self \x7b").toList
    simp only [rowText, List.flatMap_cons, List.flatMap_nil, chunkUnder_text, named, typed,
      String.toList_append, List.append_assoc, List.append_nil, List.nil_append]
  have closing : rowText bindings ⟨indentation, [.text "self"]⟩ = "    self".toList := by
    rw [rowText, List.flatMap_singleton]
    show indentation ++ "self".toList = "    self".toList
    decide
  have brace : rowText bindings ⟨[], [.text "\x7d"]⟩ = "\x7d".toList := by
    rw [rowText, List.flatMap_singleton]
    rfl
  rw [rows, List.flatMap_cons, List.flatMap_cons, List.flatMap_cons, List.flatMap_singleton,
    stored, printedRow_of_text _ "pub fn set_" (by simp) (by decide),
    printedRow_of_text _ "self" (by simp) (by decide),
    printedRow_of_text _ "\x7d" (by simp) (by decide), header, closing, brace, lines,
    ← List.append_assoc]
  congr 1

end StoringSetter

/-- A part of what customizations say about the builder. -/
inductive BuilderPart where
  | line (text : List Char)
  | setter (s : StoringSetter)

namespace BuilderPart

def lines (mode : StorageMode) : BuilderPart → List (List Char)
  | line text => [text]
  | setter s => s.lines mode

def setter? : BuilderPart → Option StoringSetter
  | line _ => none
  | setter s => some s

theorem flatMap_lines_map_line (mode : StorageMode) (ls : List (List Char)) :
    (ls.map line).flatMap (lines mode) = ls := by
  rw [List.flatMap_map]
  exact List.flatMap_singleton' ls

theorem filterMap_setter?_map_line (ls : List (List Char)) :
    (ls.map line).filterMap setter? = [] := by
  rw [List.filterMap_map]
  exact List.filterMap_none ls

end BuilderPart

/-! ### Customizations without a mode -/

/-- A built-in customization, told without saying how values are kept. -/
inductive ConfigPart where
  | parameter (p : ConfigParam) (newtype : ItemPath Fragment) (h : p.newtype = some newtype)
  | tokenProvider (runtime : RuntimeConfig)
  | interceptors (runtime : RuntimeConfig)

namespace ConfigPart

/-- Where a mode keeps the value of a parameter that has a wrapper. -/
def storage (newtype : ItemPath Fragment) : StorageMode → Storage
  | .directFields => .ownField
  | .layeredBag => .bag newtype

theorem storedIn_eq {p : ConfigParam} {newtype : ItemPath Fragment}
    (h : p.newtype = some newtype) (mode : StorageMode) :
    p.storedIn mode = .ok ⟨p, storage newtype mode⟩ := by
  cases mode with
  | directFields => rfl
  | layeredBag =>
    rw [ConfigParam.storedIn.eq_def, h]
    rfl

theorem load_eq (mode : StorageMode) (runtime : RuntimeConfig) :
    TokenProvider.load mode runtime = .ok ⟨mode, runtime⟩ := by
  rw [TokenProvider.load, Resource.load_eq]
  rfl

/-- The customization in a mode. -/
def builtIn (mode : StorageMode) : ConfigPart → BuiltIn mode
  | parameter p _ h => .parameter p _ (storedIn_eq h mode)
  | tokenProvider runtime => .tokenProvider runtime _ (load_eq mode runtime)
  | interceptors runtime => .interceptors runtime

/-- The function that stores the value of a parameter. -/
def storingSetter (p : ConfigParam) (newtype : ItemPath Fragment) : StoringSetter :=
  ⟨p.name, p.type.path, p.name ++ ".map(" ++ newtype.path ++ ")"⟩

/-- The function that stores the provider of tokens. -/
def storingProvider (runtime : RuntimeConfig) : StoringSetter :=
  ⟨"idempotency_token_provider", (⟨.directFields, runtime⟩ : TokenProvider).provider.path,
    "idempotency_token_provider"⟩

/-- The function that stores the value of the customization, if it has one. -/
def setter? : ConfigPart → Option StoringSetter
  | parameter p newtype _ => some (storingSetter p newtype)
  | tokenProvider runtime => some (storingProvider runtime)
  | interceptors _ => none

/-! ### Parameters -/

theorem printed_store_ownField (p : ConfigParam) :
    printed (⟨p, .ownField⟩ : StoredParam).store =
      StoringSetter.textLines ("self." ++ p.name ++ " = " ++ p.name ++ ";") := by
  have rows : Template.HasRows "self.#{name} = #{name};"
      [⟨[], [.text "self.", .hole "name", .text " = ", .hole "name", .text ";"]⟩] :=
    Template.hasRows_of_spelled .literal (by repeat constructor) (by decide)
  show printed [.template "self.#{name} = #{name};" [("name", .text p.name)]] = _
  rw [printed_template _ _ rows, List.flatMap_singleton,
    printedRow_of_text _ "self." (by simp) (by decide)]
  simp [-String.reduceToList, -String.reduceAppend, rowText, StoringSetter.textLines]

theorem printed_store_bag (p : ConfigParam) (newtype : ItemPath Fragment) :
    printed (⟨p, .bag newtype⟩ : StoredParam).store = StoringSetter.textLines
      ("self.inner.store_or_unset(" ++ (p.name ++ ".map(" ++ newtype.path ++ ")") ++ ");") := by
  have rows : Template.HasRows "self.inner.store_or_unset(#{name}.map(#{newtype}));"
      [⟨[], [.text "self.inner.store_or_unset(", .hole "name", .text ".map(",
        .hole "newtype", .text ")", .text ");"]⟩] :=
    Template.hasRows_of_spelled .literal (by repeat constructor) (by decide)
  show printed [.template "self.inner.store_or_unset(#{name}.map(#{newtype}));"
    [("name", .text p.name), ("newtype", .item newtype)]] = _
  rw [printed_template _ _ rows, List.flatMap_singleton,
    printedRow_of_text _ "self.inner.store_or_unset(" (by simp) (by decide)]
  simp [-String.reduceToList, -String.reduceAppend, rowText, StoringSetter.textLines]

theorem printed_store (p : ConfigParam) (newtype : ItemPath Fragment) (mode : StorageMode) :
    printed (⟨p, storage newtype mode⟩ : StoredParam).store =
      StoringSetter.textLines ((storingSetter p newtype).statement mode) := by
  cases mode with
  | directFields => exact printed_store_ownField p
  | layeredBag => exact printed_store_bag p newtype

/-- The command that writes the function stands behind four others. -/
theorem exists_setters_drop (s : StoredParam) : ∃ text,
    s.setters.drop 4 = [.template text (s.bindings ++ [("store", .code (some s.store))])] ∧
    Template.HasRows text (StoringSetter.rows (.hole "name") (.hole "ty")) :=
  ⟨_, rfl, Template.hasRows_ofLines (by repeat constructor) (by repeat constructor) (by decide)⟩

theorem printed_setters_drop (p : ConfigParam) (newtype : ItemPath Fragment)
    (mode : StorageMode) :
    printed ((⟨p, storage newtype mode⟩ : StoredParam).setters.drop 4) =
      (storingSetter p newtype).lines mode := by
  let s : StoredParam := ⟨p, storage newtype mode⟩
  obtain ⟨text, command, rows⟩ := exists_setters_drop s
  have bound : (fillings (s.bindings ++ [("store", .code (some s.store))])).lookup "store" =
      some (runAll {} s.store).toFilling := by
    rw [fillings_eq_map]
    rfl
  rw [command, printed_template _ _ rows]
  refine StoringSetter.flatMap_printedRow_rows ?_ ?_ ?_
  · rw [StoredParam.bindings, List.cons_append, chunkUnder_hole, if_pos rfl, under_nil]
    rfl
  · rw [StoredParam.bindings, List.cons_append, chunkUnder_hole, if_neg (by decide),
      List.cons_append, chunkUnder_hole, if_pos rfl, under_nil]
    rfl
  · rw [printedRow_code bound (by decide) (by decide), printed_store, StoringSetter.textLines,
      inset_pieces (StoringSetter.getLast?_statement mode _)]

/-! ### The provider of tokens -/

/-- The rows before the function that stores the provider. -/
def providerRows : List Template.Row :=
  let docs : Template.Chunk := .text
    "/// Sets the idempotency token provider to use for service calls that require tokens."
  [⟨[], [docs]⟩,
    ⟨[], [.text "pub fn idempotency_token_provider(mut self, idempotency_token_provider: ",
      .text "impl Into<", .hole "Provider", .text ">) -> Self \x7b"]⟩,
    ⟨indentation,
      [.text "self.set_idempotency_token_provider(Some(idempotency_token_provider.into()));"]⟩,
    ⟨indentation, [.text "self"]⟩,
    ⟨[], [.text "\x7d"]⟩,
    ⟨[], []⟩,
    ⟨[], [docs]⟩]

theorem exists_setters_eq (t : TokenProvider) : ∃ text,
    t.setters = [.template text [("Provider", .item t.provider), ("store", .text t.store)]] ∧
    Template.HasRows text
      (providerRows ++ StoringSetter.rows (.text "idempotency_token_provider") (.hole "Provider")) :=
  ⟨_, rfl, Template.hasRows_ofLines (by repeat constructor) (by repeat constructor) (by decide)⟩

theorem printed_provider (runtime : RuntimeConfig) (mode : StorageMode) :
    printed (⟨mode, runtime⟩ : TokenProvider).setters =
      providerRows.flatMap (printedRow
        [("Provider", .item (⟨.directFields, runtime⟩ : TokenProvider).provider)]) ++
      (storingProvider runtime).lines mode := by
  let t : TokenProvider := ⟨mode, runtime⟩
  let store : List (String × Argument Fragment) := [("store", .text t.store)]
  obtain ⟨text, command, rows⟩ := exists_setters_eq t
  -- The rows before the function name the type alone, and the hole for the statement only it.
  have before : ∀ r ∈ providerRows,
      printedRow (("Provider", .item t.provider) :: store) r =
        printedRow [("Provider", .item t.provider)] r := by
    intro r hr
    have holes : ∀ r ∈ providerRows, ∀ name, .hole name ∈ r.chunks → name = "Provider" := by
      simp [providerRows]
    refine printedRow_congr _ fun name hole => ?_
    cases holes r hr name hole
    rfl
  have alone : printedRow (("Provider", .item t.provider) :: store)
      ⟨indentation, [.hole "store"]⟩ = printedRow store ⟨indentation, [.hole "store"]⟩ := by
    refine printedRow_congr _ fun name hole => ?_
    cases List.mem_singleton.mp hole
    rfl
  have stored : printedRow store ⟨indentation, [.hole "store"]⟩ =
      (StoringSetter.textLines ((storingProvider runtime).statement mode)).map
        (hung indentation) := by
    -- Neither side looks at the runtime.
    have any : ∀ mode, printedRow
        ([("store", .text (⟨mode, {}⟩ : TokenProvider).store)] : List (String × Argument Fragment))
        ⟨indentation, [.hole "store"]⟩ =
          (StoringSetter.textLines ((storingProvider {}).statement mode)).map
            (hung indentation) := by
      intro mode
      cases mode <;> decide
    cases mode with
    | directFields => exact any .directFields
    | layeredBag => exact any .layeredBag
  have typed : chunkUnder (("Provider", .item t.provider) :: store) [] (.hole "Provider") =
      (storingProvider runtime).type.toList := by
    rw [chunkUnder_hole, if_pos rfl, under_nil]
    rfl
  rw [command, printed_template _ _ rows, List.flatMap_append, List.flatMap_congr before,
    StoringSetter.flatMap_printedRow_rows rfl typed (alone.trans stored)]
  rfl

/-! ### All customizations -/

/-- What a customization says about the builder has one outline for both modes. -/
theorem exists_outline (c : ConfigPart) : ∃ outline : List BuilderPart,
    outline.filterMap BuilderPart.setter? = c.setter?.toList ∧
    ∀ mode, printed (((c.builtIn mode).customization.contribute .builderFunctions).getD []) =
      outline.flatMap (BuilderPart.lines mode) := by
  cases c with
  | parameter p newtype h =>
    let common := printed ((⟨p, .ownField⟩ : StoredParam).setters.take 4)
    refine ⟨common.map .line ++ [.setter (storingSetter p newtype)], ?_, fun mode => ?_⟩
    · rw [List.filterMap_append, BuilderPart.filterMap_setter?_map_line]
      rfl
    · show printed (⟨p, storage newtype mode⟩ : StoredParam).setters = _
      -- The first commands do not look at where the value is kept.
      have last : Command.AllBlind ((⟨p, storage newtype mode⟩ : StoredParam).setters.drop 4) :=
        ⟨trivial, trivial⟩
      rw [← List.take_append_drop 4 (StoredParam.setters _), printed_append _ last,
        printed_setters_drop, List.flatMap_append, BuilderPart.flatMap_lines_map_line,
        List.flatMap_singleton]
      rfl
  | tokenProvider runtime =>
    let common := providerRows.flatMap (printedRow
      [("Provider", .item (⟨.directFields, runtime⟩ : TokenProvider).provider)])
    refine ⟨common.map .line ++ [.setter (storingProvider runtime)], ?_, fun mode => ?_⟩
    · rw [List.filterMap_append, BuilderPart.filterMap_setter?_map_line]
      rfl
    · show printed (⟨mode, runtime⟩ : TokenProvider).setters = _
      rw [printed_provider, List.flatMap_append, BuilderPart.flatMap_lines_map_line,
        List.flatMap_singleton]
      rfl
  | interceptors runtime =>
    let i : Interceptors := ⟨.directFields, runtime⟩
    refine ⟨(printed i.setters).map .line, BuilderPart.filterMap_setter?_map_line _,
      fun mode => ?_⟩
    rw [BuilderPart.flatMap_lines_map_line]
    rfl

/-- What sets defaults for tests is the same in both modes. -/
theorem contribute_testDefaults (c : ConfigPart) (mode : StorageMode) (builder : String) :
    (c.builtIn mode).customization.contribute (.testDefaults builder) =
      (c.builtIn .directFields).customization.contribute (.testDefaults builder) := by
  cases c <;> rfl

end ConfigPart

namespace ConfigGenerator

/-- The generator of a configuration with the given customizations. -/
def ofParts (mode : StorageMode) (runtime : RuntimeConfig) (parts : List ConfigPart) :
    ConfigGenerator :=
  ofBuiltIns mode runtime (parts.map (ConfigPart.builtIn mode))

variable (runtime : RuntimeConfig) (parts : List ConfigPart)

theorem isBlind_of_mem_ofParts {mode : StorageMode} {c : ConfigCustomization}
    (h : c ∈ (ofParts mode runtime parts).customizations) : c.IsBlind := by
  obtain ⟨b, _, rfl⟩ := List.mem_map.mp h
  exact b.isBlind_customization

theorem exists_builderFunctions : ∃ outline : List BuilderPart,
    outline.filterMap BuilderPart.setter? = parts.filterMap ConfigPart.setter? ∧
    ∀ mode, printed (((ofParts mode runtime parts).composed .builderFunctions).getD []) =
      outline.flatMap (BuilderPart.lines mode) := by
  choose outline setters lines using ConfigPart.exists_outline
  refine ⟨parts.flatMap outline, ?_, fun mode => ?_⟩
  · rw [List.filterMap_flatMap, List.filterMap_eq_flatMap_toList]
    exact List.flatMap_congr fun c _ => setters c
  · have blind : ∀ c ∈ (ofParts mode runtime parts).customizations,
        (c.contribute .builderFunctions).IsBlind :=
      fun c hc => isBlind_of_mem_ofParts runtime parts hc _
    rw [composed, Customization.getD_compose, printed_flatMap _ blind, ofParts, ofBuiltIns,
      List.flatMap_map, List.flatMap_map, List.flatMap_assoc]
    exact List.flatMap_congr fun c _ => lines c mode

theorem testDefaults_ofParts (mode : StorageMode) :
    (ofParts mode runtime parts).testDefaults =
      (ofParts .directFields runtime parts).testDefaults := by
  have same : (ofParts mode runtime parts).composed (.testDefaults "self") =
      (ofParts .directFields runtime parts).composed (.testDefaults "self") := by
    rw [composed, composed, Customization.compose, Customization.compose]
    simp only [ofParts, ofBuiltIns, List.filterMap_map, Function.comp_def,
      ConfigPart.contribute_testDefaults _ mode]
  rw [testDefaults, testDefaults, same]

/-! ### The builder -/

/-- The function that makes a builder. -/
def newLines : List (List Char) :=
  ["/// Constructs a config builder.".toList, "pub fn new() -> Self \x7b".toList,
    "    Self::default()".toList, "\x7d".toList]

/-- The start of the function that builds the configuration. A bag is frozen there, so the
builder is changed on the way. -/
def buildHead : StorageMode → List String
  | .directFields => ["pub fn build(self) -> Config \x7b"]
  | .layeredBag => ["#[allow(unused_mut)]", "pub fn build(mut self) -> Config \x7b"]

/-- The functions of a builder. -/
def builderLines (mode : StorageMode) (outline : List BuilderPart)
    (defaults body : List (List Char)) : List (List Char) :=
  "impl Builder \x7b".toList ::
    (newLines ++ outline.flatMap (BuilderPart.lines mode) ++ defaults ++
      ["/// Builds a [`Config`].".toList] ++ (buildHead mode).map String.toList ++ body).map
        (hung indentation) ++
    ["\x7d".toList]

theorem exists_build_eq (g : ConfigGenerator) : ∃ text bindings rows,
    g.build = .template text bindings ∧
    Template.HasRows text ((buildHead g.mode).map (fun t => ⟨[], [.text t]⟩) ++ rows) := by
  obtain ⟨cs, mode, runtime⟩ := g
  cases mode with
  | directFields =>
    exact ⟨_, _, [⟨indentation, [.text "Config \x7b"]⟩, ⟨blanks 2, [.hole "build"]⟩,
      ⟨indentation, [.text "\x7d"]⟩, ⟨[], [.text "\x7d"]⟩], rfl,
      Template.hasRows_ofLines (by repeat constructor) (by repeat constructor) (by decide)⟩
  | layeredBag =>
    exact ⟨_, _, [⟨indentation, [.hole "build"]⟩, ⟨indentation, [.text "Config \x7b"]⟩,
      ⟨blanks 2, [.hole "extras"]⟩, ⟨blanks 2, [.text "inner: self.inner.freeze(),"]⟩,
      ⟨indentation, [.text "\x7d"]⟩, ⟨[], [.text "\x7d"]⟩], rfl,
      Template.hasRows_ofLines (by repeat constructor) (by repeat constructor) (by decide)⟩

theorem exists_printed_build (g : ConfigGenerator) :
    ∃ body, printed [g.build] = (buildHead g.mode).map String.toList ++ body := by
  obtain ⟨text, bindings, rows, command, hasRows⟩ := exists_build_eq g
  refine ⟨rows.flatMap (printedRow bindings), ?_⟩
  have whole : ∀ mode, ∀ t ∈ buildHead mode, Text.isBlankText t.toList = false ∧
      (Text.pieces t.toList).map Text.trimEnd = [t.toList] := by
    intro mode
    cases mode <;> decide
  have head : ((buildHead g.mode).map fun t => (⟨[], [.text t]⟩ : Template.Row)).flatMap
      (printedRow bindings) = (buildHead g.mode).map String.toList := by
    rw [List.flatMap_map, List.map_eq_flatMap]
    refine List.flatMap_congr fun t ht => ?_
    obtain ⟨full, line⟩ := whole g.mode t ht
    rw [printedRow_of_text _ t (List.mem_singleton_self _) full, rowText, List.flatMap_singleton]
    exact line
  rw [command, printed_template _ _ hasRows, List.flatMap_append, head]

/-- The block of the builder's functions has the lines of the functions. -/
theorem printed_builder {g : ConfigGenerator} (blind : ∀ c ∈ g.customizations, c.IsBlind)
    {outline : List BuilderPart} {body : List (List Char)}
    (functions : printed ((g.composed .builderFunctions).getD []) =
      outline.flatMap (BuilderPart.lines g.mode))
    (build : printed [g.build] = (buildHead g.mode).map String.toList ++ body) :
    ∃ before after, printed g.script =
      before ++ builderLines g.mode outline (printed [g.testDefaults]) body ++ after := by
  -- The block stands behind ten other commands.
  have script : ∃ header new docs, g.script.drop 10 = [
      .block header [.code new, .splice (g.composed .builderFunctions), g.testDefaults,
        .docs docs, g.build], .splice (g.composed .extras)] ∧
      indented 0 (Text.trim header.toList ++ [' ', '\x7b']) = "impl Builder \x7b".toList ∧
      printed [(.code new : Command Fragment)] = newLines ∧
      printed [(.docs docs : Command Fragment)] = ["/// Builds a [`Config`].".toList] := by
    refine ⟨_, _, _, rfl, by decide, ?_, ?_⟩
    · rw [printed_code, Template.toList_ofLines (by repeat constructor)]
      decide
    · rw [printed_docs, String.toList_ofList]
      decide
  obtain ⟨header, new, docs, last, opening, making, documented⟩ := script
  -- None of these commands looks at the writer, since no customization does.
  have composed (sec : ConfigSection) : Command.IsBlind (.splice (g.composed sec)) :=
    (Customization.isBlind_compose blind sec).splice
  have ending : Command.AllBlind [.docs docs, g.build] := ⟨trivial, isBlind_build g, trivial⟩
  have setting : Command.AllBlind [g.testDefaults, .docs docs, g.build] := ⟨trivial, ending⟩
  have inner : Command.AllBlind [.splice (g.composed .builderFunctions), g.testDefaults,
      .docs docs, g.build] := ⟨composed _, setting⟩
  have inside : printed [.code new, .splice (g.composed .builderFunctions), g.testDefaults,
      .docs docs, g.build] = newLines ++ outline.flatMap (BuilderPart.lines g.mode) ++
        printed [g.testDefaults] ++ ["/// Builds a [`Config`].".toList] ++
        (buildHead g.mode).map String.toList ++ body := by
    rw [printed_cons _ inner, making, printed_cons _ setting, printed_splice, functions,
      printed_cons g.testDefaults ending, printed_cons (.docs docs) ending.2, documented, build]
    simp only [List.append_assoc]
  have outer : Command.AllBlind [.code new, .splice (g.composed .builderFunctions),
      g.testDefaults, .docs docs, g.build] := ⟨trivial, inner⟩
  have extras : Command.AllBlind [.splice (g.composed .extras)] := ⟨composed _, trivial⟩
  have impl : printed (g.script.drop 10) =
      builderLines g.mode outline (printed [g.testDefaults]) body ++
        printed ((g.composed .extras).getD []) := by
    rw [last, printed_cons _ extras, printed_splice, printed_block _ outer, opening, inside]
    rfl
  have blindLast : Command.AllBlind (g.script.drop 10) := by
    rw [last]
    exact ⟨outer, extras⟩
  refine ⟨printed (g.script.take 10), printed ((g.composed .extras).getD []), ?_⟩
  rw [List.append_assoc, ← impl, ← printed_append _ blindLast, List.take_append_drop]

/-- The builder of a configuration does not depend on the storage mode. Whichever customizations
there are, in whichever order and how often, one outline gives what they say about the builder
in both modes: lines as they stand and functions that store a value, which differ in the
statement that stores it. What sets defaults for tests is the same, and the function that
builds the configuration has the same signature but for `mut`. -/
theorem same_builder_in_both_modes :
    ∃ (outline : List BuilderPart) (defaults : List (List Char)),
      outline.filterMap BuilderPart.setter? = parts.filterMap ConfigPart.setter? ∧
      ∀ mode, ∃ before body after,
        ((ofParts mode runtime parts).composed .builderFunctions).text =
          .ok (String.ofList (Text.unlines (outline.flatMap (BuilderPart.lines mode)))) ∧
        (render [(ofParts mode runtime parts).testDefaults]).map Output.contents =
          .ok (String.ofList (Text.unlines defaults)) ∧
        (render [(ofParts mode runtime parts).build]).map Output.contents =
          .ok (String.ofList (Text.unlines ((buildHead mode).map String.toList ++ body))) ∧
        (render (ofParts mode runtime parts).script).map Output.contents =
          .ok (String.ofList (Text.unlines
            (before ++ builderLines mode outline defaults body ++ after))) := by
  obtain ⟨outline, setters, functions⟩ := exists_builderFunctions runtime parts
  refine ⟨outline, printed [(ofParts .directFields runtime parts).testDefaults], setters,
    fun mode => ?_⟩
  -- Nothing that the parts say goes wrong, so all that is printed comes out.
  let g : ConfigGenerator := ofParts mode runtime parts
  let builtIns : List (BuiltIn mode) := parts.map (ConfigPart.builtIn mode)
  have writes : ∀ sec : ConfigSection, sec.isOfPlugin = false → Writes ((g.composed sec).getD [])
      ((ConfigCode.join (builtIns.map BuiltIn.code)).linesAt mode sec) :=
    fun _ plain => writes_composed mode runtime builtIns plain
  have direct := (BuiltIn.fits_join builtIns).direct
  obtain ⟨body, build⟩ := exists_printed_build g
  have blind : ∀ c ∈ g.customizations, c.IsBlind :=
    fun c hc => isBlind_of_mem_ofParts runtime parts hc
  obtain ⟨before, after, script⟩ := printed_builder blind (functions mode) build
  refine ⟨before, body, after, ?_, ?_, ?_, ?_⟩
  · rw [← functions mode]
    exact render_of_error ((writes .builderFunctions rfl).error {})
  · rw [← testDefaults_ofParts runtime parts mode]
    exact render_of_error ((writes_testDefaults writes).error {})
  · exact build ▸ render_of_error ((writes_build writes direct).error {})
  · rw [← testDefaults_ofParts runtime parts mode]
    exact script ▸ render_of_error ((writes_script writes direct).error {})

end ConfigGenerator

end Cratewright
