/-
Documentation of a parameter's items.

Each function of a parameter, and its field in the configuration, is written behind its
documentation or behind the permission to have none. Which of the two it is depends on whether
there is a text, while what is written is what the text has between its blank lines. So an item
whose documentation is a text without anything on it comes out with neither:

* `Text.dedent_eq_nil_iff` — what is left of a text is nothing if it is blank;
* `isDocumented_behind_iff` — an item behind its documentation;
* `StoredParam.printed_contribute` — what a parameter says consists of its items;
* `StoredParam.documented_iff` — which of the items are documented.
-/
import Cratewright.Proofs.Config.StorageModes
import Cratewright.Proofs.Source.Dedenting

namespace Cratewright

open Writer

namespace Text

theorem isBlankText_pieces (s : List Char) : (pieces s).all isBlankText = isBlankText s := by
  obtain ⟨p, ps, hp⟩ := List.exists_cons_of_ne_nil (pieces_ne_nil s)
  have parts := intercalate_pieces s
  rw [hp, intercalate_cons] at parts
  rw [hp, List.all_cons, ← isBlankText_flatMap_feed, ← isBlankText_append, parts]

theorem all_isBlankText_linesOfPieces : ∀ ps : List (List Char),
    (linesOfPieces ps).all isBlankText = ps.all isBlankText
  | [] => rfl
  | [p] => by
    rw [linesOfPieces]
    split
    · rename_i empty
      rw [List.isEmpty_iff.mp empty]
      rfl
    · rfl
  | p :: q :: ps => by
    have same : isBlankText (dropReturn p) = isBlankText p := by
      rcases dropReturn_spec p with e | e
      · rw [← e]
      · have whole : isBlankText p = isBlankText (dropReturn p ++ ['\r']) := congrArg isBlankText e
        rw [whole, isBlankText_append]
        exact (Bool.and_true _).symm
    rw [linesOfPieces, List.all_cons, List.all_cons, all_isBlankText_linesOfPieces (q :: ps), same]
    exact List.cons_ne_nil q ps

/-- Nothing is left of a text if it is blank, and of no other. -/
theorem dedent_eq_nil_iff {s : List Char} : dedent s = [] ↔ isBlankText s = true := by
  have blank : isBlankText s = (lines s).all isBlankText := by
    rw [lines, all_isBlankText_linesOfPieces, isBlankText_pieces]
  have body := isBody_trimLines s
  rw [dedent, List.map_eq_nil_iff, blank, List.all_eq_true]
  constructor
  · intro none l hl
    obtain ⟨before, after, parts, around⟩ := body.parts
    rw [none, List.append_nil] at parts
    exact around l (parts ▸ hl)
  · intro all
    by_contra ne
    obtain ⟨l, ls, hl⟩ := List.exists_cons_of_ne_nil ne
    have first := body.first l (by rw [hl]; rfl)
    rw [all l (mem_of_mem_trimLines (hl ▸ List.mem_cons_self ..))] at first
    cases first

end Text

/-! ### Documentation -/

/-- There is a documentation, but it is blank. -/
def IsBlankDocs (docs : Option String) : Prop :=
  ∃ text, docs = some text ∧ Text.isBlankText text.toList = true

/-- The line is one of documentation, or the permission to have none. -/
def IsDocLine (l : List Char) : Prop :=
  "///".toList <+: l ∨ l = "#[allow(missing_docs)] // documentation missing in model".toList

/-- An item of a text: what is written before it, the line that it starts with, and the rest. -/
structure PrintedItem where
  before : List (List Char)
  head : String
  rest : List (List Char)

namespace PrintedItem

def lines (i : PrintedItem) : List (List Char) :=
  i.before ++ StoringSetter.textLines i.head ++ i.rest

/-- The line immediately before the item documents it, or permits that nothing does. -/
def IsDocumented (i : PrintedItem) : Prop := ∃ l, i.before.getLast? = some l ∧ IsDocLine l

end PrintedItem

theorem printed_documentation_of_isBlank {docs : Option String} (h : IsBlankDocs docs) :
    printed [documentation docs] = [] := by
  obtain ⟨text, rfl, blank⟩ := h
  rw [documentation, printed_docs, Text.dedent_eq_nil_iff.mpr blank]
  rfl

/-- Documentation that is not blank ends in a line that is one. -/
theorem exists_getLast?_documentation {docs : Option String} (h : ¬ IsBlankDocs docs) :
    ∃ l, (printed [documentation docs]).getLast? = some l ∧ IsDocLine l := by
  cases docs with
  | none =>
    refine ⟨_, ?_, .inr rfl⟩
    rw [documentation, printed_code]
    decide
  | some text =>
    have shown : Text.dedent text.toList ≠ [] := fun none =>
      h ⟨text, rfl, Text.dedent_eq_nil_iff.mp none⟩
    obtain ⟨ls, l, parts⟩ := (List.eq_nil_or_concat' _).resolve_left shown
    refine ⟨docLine 0 (afterSlashes l), ?_, .inl (List.prefix_append ..)⟩
    rw [documentation, printed_docs, parts, List.map_append, List.map_singleton,
      List.getLast?_concat, ← indented_docText, indented_zero]
    rfl

/-- An item behind its documentation, whatever stands before that: a line that is none, or
nothing. -/
def PrintedItem.behind (front : List (List Char)) (docs : Option String) (head : String)
    (rest : List (List Char)) : PrintedItem :=
  ⟨front ++ printed [documentation docs], head, rest⟩

theorem isDocumented_behind_iff {front : List (List Char)} {docs : Option String} {head : String}
    {rest : List (List Char)} (plain : ∀ l, front.getLast? = some l → ¬ IsDocLine l) :
    (PrintedItem.behind front docs head rest).IsDocumented ↔ ¬ IsBlankDocs docs := by
  by_cases blank : IsBlankDocs docs
  · refine iff_of_false ?_ fun shown => shown blank
    rintro ⟨l, last, isDoc⟩
    rw [PrintedItem.behind, printed_documentation_of_isBlank blank, List.append_nil] at last
    exact plain l last isDoc
  · refine iff_of_true ?_ blank
    obtain ⟨l, last, isDoc⟩ := exists_getLast?_documentation blank
    refine ⟨l, ?_, isDoc⟩
    rw [PrintedItem.behind, List.getLast?_append, last]
    rfl

/-! ### Items of a parameter -/

/-- The first row of a template writes the line that an item starts with. -/
structure Heads (bindings : List (String × Argument Fragment)) (row : Template.Row)
    (head : String) : Prop where
  visible : ∃ t, .text t ∈ row.chunks ∧ Text.isBlankText t.toList = false
  text : rowText bindings row = head.toList

/-- Documentation and a template write an item. -/
theorem printed_behind {docs : Option String} {text head : String}
    {bindings : List (String × Argument Fragment)} {row : Template.Row} {rows : List Template.Row}
    (h : Template.HasRows text (row :: rows)) (heads : Heads bindings row head) :
    printed [documentation docs, .template text bindings] =
      (PrintedItem.behind [] docs head (rows.flatMap (printedRow bindings))).lines := by
  obtain ⟨t, mem, full⟩ := heads.visible
  have first : printedRow bindings row = StoringSetter.textLines head := by
    rw [printedRow_of_text _ t mem full, heads.text]
    rfl
  have writing : Command.AllBlind [(.template text bindings : Command Fragment)] :=
    ⟨trivial, trivial⟩
  rw [printed_cons _ writing, printed_template _ _ h, List.flatMap_cons, first, PrintedItem.lines,
    PrintedItem.behind, List.nil_append, List.append_assoc]

theorem PrintedItem.lines_behind (front : List (List Char)) (docs : Option String)
    (head : String) (rest : List (List Char)) :
    (behind front docs head rest).lines = front ++ (behind [] docs head rest).lines := by
  simp only [lines, behind, List.append_assoc, List.nil_append]

theorem printed_blankLine : printed [(.blankLine : Command Fragment)] = [[]] := by
  decide

namespace StoredParam

variable (p : StoredParam)

/-- The rows of the function that takes the value out of the bag, below its first. -/
def getterRows : List Template.Row :=
  [⟨indentation, [.text "self.inner.load::<", .hole "newtype", .text ">().map(", .hole "f",
      .text (if p.param.optional then ")" else ").unwrap_or_default()")]⟩,
    ⟨[], [.text "\x7d"]⟩]

/-- The rows of the function that leaves storing the value to the other, below its first. -/
def builderSetterRows : List Template.Row :=
  [⟨indentation, [.text "self.set_", .hole "name", .text "(Some(", .hole "name",
      .text ".into()));"]⟩,
    ⟨indentation, [.text "self"]⟩,
    ⟨[], [.text "\x7d"]⟩]

/-- The rows of the function that stores the value, below its first. -/
def inPlaceSetterRows : List Template.Row :=
  [⟨indentation, [.hole "store"]⟩, ⟨indentation, [.text "self"]⟩, ⟨[], [.text "\x7d"]⟩]

/-- The field of the configuration. -/
def fieldItem : PrintedItem :=
  .behind [] p.param.getterDocs ("pub(crate) " ++ p.param.name ++ ": " ++ p.valueType ++ ",") []

/-- The function that takes the value out of the bag. -/
def getterItem (newtype : ItemPath Fragment) : PrintedItem :=
  .behind [] p.param.getterDocs
    ("pub fn " ++ p.param.name ++ "(&self) -> " ++ p.valueType ++ " \x7b")
    (p.getterRows.flatMap (printedRow
      (p.bindings ++ [("newtype", .item newtype), ("f", .text p.unwrap)])))

def builderSetterHeader : String :=
  "pub fn " ++ p.param.name ++ "(mut self, " ++ p.param.name ++ ": impl Into<" ++
    p.param.type.path ++ ">) -> Self \x7b"

def inPlaceSetterHeader : String :=
  "pub fn set_" ++ p.param.name ++ "(&mut self, " ++ p.param.name ++ ": Option<" ++
    p.param.type.path ++ ">) -> &mut Self \x7b"

/-- The functions of the builder, which a blank line separates. -/
def setterItems : List PrintedItem := [
  .behind [] p.param.setterDocs p.builderSetterHeader
    (builderSetterRows.flatMap (printedRow p.bindings)),
  .behind [[]] p.param.setterDocs p.inPlaceSetterHeader
    (inPlaceSetterRows.flatMap (printedRow
      (p.bindings ++ [("store", .code (some p.store))])))]

/-- The items of a parameter at a section: the field of the configuration, the function of the
configuration, or the functions of the builder. -/
def items : ConfigSection → List PrintedItem
  | .structFields =>
    match p.storage with
    | .ownField => [p.fieldItem]
    | .bag _ => []
  | .functions =>
    match p.storage with
    | .ownField => []
    | .bag newtype => [p.getterItem newtype]
  | .builderFunctions => p.setterItems
  | _ => []

theorem printed_field : printed p.field = p.fieldItem.lines := by
  rw [field, fieldItem, valueType]
  split
  · have rows : Template.HasRows "pub(crate) #{name}: Option<#{ty}>,"
        [⟨[], [.text "pub(crate) ", .hole "name", .text ": ", .text "Option<", .hole "ty",
          .text ">", .text ","]⟩] :=
      Template.hasRows_of_spelled .literal (by repeat constructor) (by decide)
    refine printed_behind rows ⟨⟨"pub(crate) ", by simp, by decide⟩, ?_⟩
    simp [-String.reduceToList, -String.reduceAppend, rowText, bindings]
  · have rows : Template.HasRows "pub(crate) #{name}: #{ty},"
        [⟨[], [.text "pub(crate) ", .hole "name", .text ": ", .hole "ty", .text ","]⟩] :=
      Template.hasRows_of_spelled .literal (by repeat constructor) (by decide)
    refine printed_behind rows ⟨⟨"pub(crate) ", by simp, by decide⟩, ?_⟩
    simp [-String.reduceToList, -String.reduceAppend, rowText, bindings]

theorem printed_getter (newtype : ItemPath Fragment) :
    printed (p.getter newtype) = (p.getterItem newtype).lines := by
  rw [getter, getterItem, valueType, getterRows]
  split
  · have rows : Template.HasRows
        (Text.ofLines [
          "pub fn #{name}(&self) -> Option<#{ty}> \x7b",
          "    self.inner.load::<#{newtype}>().map(#{f})",
          "\x7d"])
        [⟨[], [.text "pub fn ", .hole "name", .text "(&self) -> ", .text "Option<", .hole "ty",
            .text ">", .text " \x7b"]⟩,
          ⟨indentation, [.text "self.inner.load::<", .hole "newtype", .text ">().map(",
            .hole "f", .text ")"]⟩,
          ⟨[], [.text "\x7d"]⟩] :=
      Template.hasRows_ofLines (by repeat constructor) (by repeat constructor) (by decide)
    refine printed_behind rows ⟨⟨"pub fn ", by simp, by decide⟩, ?_⟩
    simp [-String.reduceToList, -String.reduceAppend, rowText, bindings]
  · have rows : Template.HasRows
        (Text.ofLines [
          "pub fn #{name}(&self) -> #{ty} \x7b",
          "    self.inner.load::<#{newtype}>().map(#{f}).unwrap_or_default()",
          "\x7d"])
        [⟨[], [.text "pub fn ", .hole "name", .text "(&self) -> ", .hole "ty", .text " \x7b"]⟩,
          ⟨indentation, [.text "self.inner.load::<", .hole "newtype", .text ">().map(",
            .hole "f", .text ").unwrap_or_default()"]⟩,
          ⟨[], [.text "\x7d"]⟩] :=
      Template.hasRows_ofLines (by repeat constructor) (by repeat constructor) (by decide)
    refine printed_behind rows ⟨⟨"pub fn ", by simp, by decide⟩, ?_⟩
    simp [-String.reduceToList, -String.reduceAppend, rowText, bindings]

theorem printed_builderSetter : printed (p.setters.take 2) =
    (PrintedItem.behind [] p.param.setterDocs p.builderSetterHeader
      (builderSetterRows.flatMap (printedRow p.bindings))).lines := by
  have rows : Template.HasRows
      (Text.ofLines [
        "pub fn #{name}(mut self, #{name}: impl Into<#{ty}>) -> Self \x7b",
        "    self.set_#{name}(Some(#{name}.into()));",
        "    self",
        "\x7d"])
      (⟨[], [.text "pub fn ", .hole "name", .text "(mut self, ", .hole "name",
        .text ": impl Into<", .hole "ty", .text ">) -> Self \x7b"]⟩ :: builderSetterRows) :=
    Template.hasRows_ofLines (by repeat constructor) (by repeat constructor) (by decide)
  refine printed_behind rows ⟨⟨"pub fn ", by simp, by decide⟩, ?_⟩
  simp [-String.reduceToList, -String.reduceAppend, rowText, bindings, builderSetterHeader]

theorem printed_inPlaceSetter : printed (p.setters.drop 2) =
    (PrintedItem.behind [[]] p.param.setterDocs p.inPlaceSetterHeader
      (inPlaceSetterRows.flatMap (printedRow
        (p.bindings ++ [("store", .code (some p.store))])))).lines := by
  obtain ⟨text, script, rows⟩ := ConfigPart.exists_setters_drop p
  have commands : p.setters.drop 2 =
      [.blankLine] ++ documentation p.param.setterDocs :: p.setters.drop 4 := rfl
  have blind : Command.AllBlind [documentation p.param.setterDocs,
      .template text (p.bindings ++ [("store", .code (some p.store))])] :=
    ⟨isBlind_documentation _, trivial, trivial⟩
  rw [commands, script, printed_append _ blind, printed_blankLine, PrintedItem.lines_behind]
  congr 1
  refine printed_behind rows ⟨⟨"pub fn set_", by simp, by decide⟩, ?_⟩
  simp [-String.reduceToList, -String.reduceAppend, rowText, bindings, inPlaceSetterHeader]

/-- What is printed at a section with functions or fields is its items. -/
theorem printed_contribute {sec : ConfigSection}
    (h : sec = .structFields ∨ sec = .functions ∨ sec = .builderFunctions) :
    printed ((p.contribute sec).getD []) = (p.items sec).flatMap PrintedItem.lines := by
  rcases h with rfl | rfl | rfl
  case inl =>
    cases storage : p.storage with
    | ownField =>
      rw [contribute, items, storage]
      exact p.printed_field.trans (List.flatMap_singleton ..).symm
    | bag newtype =>
      rw [contribute, items, storage]
      rfl
  case inr.inl =>
    cases storage : p.storage with
    | ownField =>
      rw [contribute, items, storage]
      rfl
    | bag newtype =>
      rw [contribute, items, storage]
      exact (p.printed_getter newtype).trans (List.flatMap_singleton ..).symm
  case inr.inr =>
    show printed p.setters = p.setterItems.flatMap PrintedItem.lines
    have last : Command.AllBlind (p.setters.drop 2) :=
      ⟨trivial, isBlind_documentation _, trivial, trivial⟩
    rw [← List.take_append_drop 2 p.setters, printed_append _ last, printed_builderSetter,
      printed_inPlaceSetter, setterItems, List.flatMap_cons, List.flatMap_singleton]

theorem not_isDocLine_nil : ¬ IsDocLine [] := by
  rintro (slashes | permission)
  · exact absurd slashes (by decide)
  · exact absurd permission (by decide)

/-- The documentation of the items at a section. -/
def docsAt : ConfigSection → Option String
  | .builderFunctions => p.param.setterDocs
  | _ => p.param.getterDocs

theorem isDocumented_iff_of_mem_items {sec : ConfigSection} {i : PrintedItem}
    (h : i ∈ p.items sec) : i.IsDocumented ↔ ¬ IsBlankDocs (p.docsAt sec) := by
  have first {docs : Option String} {head : String} {rest : List (List Char)} :
      (PrintedItem.behind [] docs head rest).IsDocumented ↔ ¬ IsBlankDocs docs :=
    isDocumented_behind_iff (fun l last => by cases last)
  cases sec with
  | structFields =>
    cases storage : p.storage with
    | ownField =>
      rw [items, storage] at h
      rw [List.mem_singleton.mp h]
      exact first
    | bag newtype =>
      rw [items, storage] at h
      cases h
  | functions =>
    cases storage : p.storage with
    | ownField =>
      rw [items, storage] at h
      cases h
    | bag newtype =>
      rw [items, storage] at h
      rw [List.mem_singleton.mp h]
      exact first
  | builderFunctions =>
    rcases List.mem_pair.mp h with rfl | rfl
    · exact first
    · refine isDocumented_behind_iff fun l last => ?_
      cases last
      exact not_isDocLine_nil
  | _ => cases h

theorem error_contribute {sec : ConfigSection}
    (h : sec = .structFields ∨ sec = .functions ∨ sec = .builderFunctions) :
    (runAll {} ((p.contribute sec).getD [])).error = none := by
  rcases h with rfl | rfl | rfl
  case inl =>
    cases storage : p.storage with
    | ownField =>
      rw [contribute, storage]
      exact p.writes_field.error {}
    | bag newtype =>
      rw [contribute, storage]
      rfl
  case inr.inl =>
    cases storage : p.storage with
    | ownField =>
      rw [contribute, storage]
      rfl
    | bag newtype =>
      rw [contribute, storage]
      exact (p.writes_getter newtype).error {}
  case inr.inr => exact p.writes_setters.error {}

/-- What the parameter says at a section is its items there, and they are documented if the
documentation is not blank. -/
structure WritesItems (sec : ConfigSection) : Prop where
  text : (render ((p.contribute sec).getD [])).map Output.contents =
    .ok (String.ofList (Text.unlines ((p.items sec).flatMap PrintedItem.lines)))
  documented : ∀ i ∈ p.items sec, i.IsDocumented ↔ ¬ IsBlankDocs (p.docsAt sec)

/-- The fields and functions of a parameter are documented, or permitted to be not, except those
that have a blank text for their documentation. -/
theorem documented_iff :
    p.WritesItems .structFields ∧ p.WritesItems .functions ∧ p.WritesItems .builderFunctions := by
  have writes {sec : ConfigSection}
      (h : sec = .structFields ∨ sec = .functions ∨ sec = .builderFunctions) :
      p.WritesItems sec :=
    ⟨by rw [render_of_error (p.error_contribute h), p.printed_contribute h],
      fun _ hi => p.isDocumented_iff_of_mem_items hi⟩
  exact ⟨writes (.inl rfl), writes (.inr (.inl rfl)), writes (.inr (.inr rfl))⟩

/-- A field with an empty text for its documentation has nothing before it. -/
theorem not_forall_documented :
    ¬ ∀ (p : StoredParam) (sec : ConfigSection), ∀ i ∈ p.items sec, i.IsDocumented := by
  intro all
  let timeout : StoredParam :=
    ⟨{ name := "timeout", type := .primitive "u32", getterDocs := some "" }, .ownField⟩
  have mem : timeout.fieldItem ∈ timeout.items .structFields := List.mem_singleton_self _
  have blank : IsBlankDocs (timeout.docsAt .structFields) := ⟨"", rfl, rfl⟩
  exact (timeout.isDocumented_iff_of_mem_items mem).mp (all timeout _ _ mem) blank

end StoredParam

end Cratewright
