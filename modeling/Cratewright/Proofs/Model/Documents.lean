/-
Models and the documents that they are read from.

A document gives a model its shapes as values. What a model has of a shape is told from its value
alone: from its type, and from the fields that shapes of that type have. A document can be read
without looking into the shapes, and wherever a model is read, that succeeds:

* `Shape.IsOf` — the shape that a value comes to;
* `follows_readShape` — shapes are read as values are, up to the same place;
* `Document` — a document whose shapes are values;
* `Model.exists_document` — every model is that of a document.
-/
import Cratewright.Model.Format
import Cratewright.Proofs.Json.Components
import Cratewright.Proofs.Json.Views
import Cratewright.Proofs.Model.Traits

namespace Cratewright

open Json Layout

/-! ### Shapes as values -/

/-- The names of the fields that a list gives after a type. -/
def ShapeKind.fieldNames : ShapeKind → List String
  | .service => serviceLayout.fields.map (·.name)
  | .resource => resourceLayout.fields.map (·.name)
  | .operation => operationLayout.fields.map (·.name)
  | .struct => structureLayout.fields.map (·.name)
  | .other => []

namespace Json

/-- The text, if it is one. -/
def asText? : Json → Option String
  | text s => some s
  | _ => none

/-- The fields of a shape: those of an object, or a type and what a list gives after it. -/
def shapeFields : Json → List (String × Json)
  | object fields => fields
  | list (text type :: items) =>
    ("type", text type) :: (ShapeKind.ofName type).fieldNames.zip items
  | _ => []

/-- The type that the fields of a shape give. -/
def typeAmong (fields : List (String × Json)) : Option String :=
  ((object fields).field? "type").bind asText?

/-- The type of a shape. -/
def shapeType? (v : Json) : Option String := typeAmong v.shapeFields

/-- The value of the last field whose name is read as the identifier. -/
def valueOf? (t : ShapeId) : Json → Option Json
  | object fields => (fields.reverse.find? fun e => ShapeId.parse e.1 = .ok t).map (·.2)
  | _ => none

/-- The value of a trait of a shape. -/
def shapeTrait? (v : Json) (t : ShapeId) : Option Json :=
  ((object v.shapeFields).field? "traits").bind (valueOf? t)

/-- What is left of the fields of a shape without its type. -/
def untyped (fields : List (String × Json)) : List (String × Json) :=
  fields.filter (·.1 != "type")

end Json

/-- The shape is what the value of its type and its other fields comes to. -/
def Shape.IsOf (s : Shape) (v : Json) : Prop :=
  ∃ type, v.shapeType? = some type ∧
    decode (.ofName type) (.object (untyped v.shapeFields)) = .ok s

section Reading

variable {depth : Nat} {s rest : List Char}

/-- A type is a text. -/
theorem exists_of_readKind {kind : ShapeKind} (h : readKind s = .ok (kind, rest)) :
    ∃ type, kind = .ofName type ∧ (∀ depth, readValue depth s = .ok (.text type, rest)) ∧
      rest.length + 2 ≤ s.length := by
  rw [readKind] at h
  split at h
  · cases h
  · next c tail found =>
    split at h
    · next quote =>
      subst quote
      obtain ⟨⟨type, after⟩, read, same⟩ := Except.map_eq_ok_iff.mp h
      cases same
      refine ⟨type, rfl, fun depth => ?_, ?_⟩
      · rw [readValue.eq_def]
        dsimp only
        rw [found]
        show (readText tail).map _ = _
        rw [read]
        rfl
      · obtain ⟨⟨cs, after'⟩, chars, same⟩ := Except.map_eq_ok_iff.mp read
        cases same
        have shorter := length_of_readChars chars
        have whole := length_skipSpace_le s
        rw [found, List.length_cons] at whole
        dsimp only
        omega
    · cases h

/-- The kind and the other fields that were met belong to the fields that were read. -/
def Met (p : Option ShapeKind × List (String × Json)) (fields : List (String × Json)) : Prop :=
  p.1 = (typeAmong fields.reverse).map .ofName ∧ p.2 = untyped fields

theorem Met.type {p : Option ShapeKind × List (String × Json)} {fields : List (String × Json)}
    (met : Met p fields) (type : String) :
    Met (some (.ofName type), p.2) (("type", text type) :: fields) := by
  constructor
  · rw [List.reverse_cons, typeAmong, field?_concat]
    rfl
  · exact met.2

theorem Met.other {p : Option ShapeKind × List (String × Json)} {fields : List (String × Json)}
    (met : Met p fields) {key : String} (ne : key ≠ "type") (v : Json) :
    Met (p.1, (key, v) :: p.2) ((key, v) :: fields) := by
  constructor
  · rw [List.reverse_cons, typeAmong, field?_concat, if_neg ne]
    exact met.1
  · rw [untyped, List.filter_cons_of_pos (by simpa using ne), met.2]
    rfl

theorem follows_readShapeField (depth : Nat) (p : Option ShapeKind × List (String × Json))
    (fields : List (String × Json)) (key : String) (s : List Char) (met : Met p fields) :
    Follows Met (readShapeField depth p key s) (readEntry depth fields key s) := by
  rw [readShapeField, readEntry]
  split
  · next same =>
    subst same
    split
    · exact follows_error _ _
    · refine follows_bind _ fun s => ?_
      intro q rest read
      -- Where a type is read, a value is read, and it is the text that names the type.
      obtain ⟨⟨kind, s'⟩, named, same⟩ := Except.bind_eq_ok_iff.mp read
      cases same
      obtain ⟨type, rfl, value, -⟩ := exists_of_readKind named
      exact ⟨_, by rw [value]; rfl, met.type type⟩
  · next ne =>
    refine follows_bind _ fun s => ?_
    refine follows_bind (readValue depth s) fun read => ?_
    exact follows_ok (met.other ne read.1) read.2

/-- Where the fields of an object were read as they are met, the shape comes from its value. -/
theorem isOf_of_met {kind : ShapeKind} {fields others : List (String × Json)}
    (met : Met (some kind, others) fields) {shape : Shape}
    (h : Shape.decode kind (object others.reverse) = .ok shape) :
    shape.IsOf (object fields.reverse) := by
  obtain ⟨kinds, rfl⟩ := met
  obtain ⟨type, typed, rfl⟩ := Option.map_eq_some_iff.mp kinds.symm
  refine ⟨type, typed, ?_⟩
  rw [untyped, ← List.filter_reverse] at h
  exact h

theorem not_mem_fieldNames (kind : ShapeKind) : "type" ∉ kind.fieldNames := by
  cases kind <;> decide

theorem Shape.decode_object_of_list (kind : ShapeKind) {items : List Json} {shape : Shape}
    (h : Shape.decode kind (list items) = .ok shape) :
    Shape.decode kind (object (kind.fieldNames.zip items)) = .ok shape := by
  cases kind with
  | service =>
    obtain ⟨s, decoded, same⟩ := Except.map_eq_ok_iff.mp h
    exact Except.map_eq_ok_iff.mpr ⟨s, Layout.decode_object_of_list (by decide) decoded, same⟩
  | resource =>
    obtain ⟨s, decoded, same⟩ := Except.map_eq_ok_iff.mp h
    exact Except.map_eq_ok_iff.mpr ⟨s, Layout.decode_object_of_list (by decide) decoded, same⟩
  | operation =>
    obtain ⟨s, decoded, same⟩ := Except.map_eq_ok_iff.mp h
    exact Except.map_eq_ok_iff.mpr ⟨s, Layout.decode_object_of_list (by decide) decoded, same⟩
  | struct =>
    obtain ⟨s, decoded, same⟩ := Except.map_eq_ok_iff.mp h
    exact Except.map_eq_ok_iff.mpr ⟨s, Layout.decode_object_of_list (by decide) decoded, same⟩
  | other =>
    cases items with
    | nil => exact h
    | cons v items => cases h

/-- A list gives the type first, and then the fields of shapes of that type in order. -/
theorem isOf_of_list {type : String} {items : List Json} {shape : Shape}
    (h : Shape.decode (.ofName type) (list items) = .ok shape) :
    shape.IsOf (list (text type :: items)) := by
  -- The type is the first field, and the fields after it have other names.
  have other : ∀ e ∈ (ShapeKind.ofName type).fieldNames.zip items, e.1 ≠ "type" := by
    intro e he same
    exact not_mem_fieldNames _ (same ▸ (List.of_mem_zip he).1)
  refine ⟨type, ?_, ?_⟩
  · rw [shapeType?, shapeFields, typeAmong, field?_cons, field?_eq_none_iff.mpr other]
    rfl
  · rw [shapeFields, untyped, List.filter_cons_of_neg (by simp),
      List.filter_eq_self.mpr fun e he => by simpa using other e he]
    exact Shape.decode_object_of_list _ h

theorem follows_readShape (depth : Nat) (s : List Char) :
    Follows Shape.IsOf (Shape.read depth s) (readValue depth s) := by
  rw [Shape.read.eq_def]
  split
  · exact follows_error _ _
  · next c tail found =>
    rw [readValue_of_skipSpace depth found]
    split
    · next bracket =>
      subst bracket
      split
      · exact follows_error _ _
      · next depth =>
        intro shape rest h
        obtain ⟨⟨more, s₁⟩, first, h⟩ := Except.bind_eq_ok_iff.mp h
        cases more with
        | false => cases h
        | true =>
          obtain ⟨⟨kind, s₂⟩, named, h⟩ := Except.bind_eq_ok_iff.mp h
          obtain ⟨⟨items, s₃⟩, elements, h⟩ := Except.bind_eq_ok_iff.mp h
          obtain ⟨_, decoded, same⟩ := Except.bind_eq_ok_iff.mp h
          cases same
          -- The type takes two quotes at least, so a reader of the whole list has steps enough.
          obtain ⟨type, rfl, value, shorter⟩ := exists_of_readKind named
          have enough : s₂.length < tail.length := by
            have whole := length_skipSpace_le tail
            rw [← eq_of_nextElement_first first] at whole
            omega
          refine ⟨_, readValue_list_cons first (value depth) enough elements, ?_⟩
          exact isOf_of_list decoded
    split
    · next brace =>
      subst brace
      split
      · exact follows_error _ _
      · next depth =>
        intro shape rest h
        obtain ⟨⟨⟨kind, others⟩, s₁⟩, entries, h⟩ := Except.bind_eq_ok_iff.mp h
        cases kind with
        | none => cases h
        | some kind =>
          obtain ⟨_, decoded, same⟩ := Except.bind_eq_ok_iff.mp h
          cases same
          have start : Met (none, []) [] := ⟨rfl, rfl⟩
          obtain ⟨fields, read, met⟩ :=
            follows_foldFields (follows_readShapeField depth) _ _ start _ _ _ entries
          refine ⟨object fields.reverse, ?_, isOf_of_met met decoded⟩
          rw [readValue_object, read]
          rfl
    · exact follows_error _ _

end Reading

/-! ### Documents -/

/-- A model document in which no shape has been looked into. -/
structure Document where
  smithy : String := "2.0"
  shapes : SortedMap ShapeId Json := ∅
deriving DecidableEq

namespace Document

/-- The fields of a document. -/
def layout : Layout Document (FromText Document) where
  name := "Model"
  start := {}
  fields := [
    { name := "smithy", required := false
      read := fun d _ s => (readString s).map fun p => ({ d with smithy := p.1 }, p.2) },
    { name := "shapes", required := false
      read := fun d depth s =>
        (readMap idOfText readValue depth s).map fun p => ({ d with shapes := p.1 }, p.2) }]

/-- Reads a document. -/
def parse (text : String) : Except Fault Document := readDocument (layout.read depthLimit) text

end Document

/-- The model has the shapes that the values of the document come to, and no others. -/
structure Model.IsOf (m : Model) (d : Document) : Prop where
  smithy : m.smithy = d.smithy
  shapes : RelatedMaps Shape.IsOf m.shapes d.shapes

theorem view_model : View Model.IsOf Model.layout Document.layout where
  start := ⟨rfl, fun _ => .none⟩
  fields := by
    refine .cons ⟨rfl, rfl, fun m d depth s same => ?_⟩
      (.cons ⟨rfl, rfl, fun m d depth s same => ?_⟩ .nil)
    · refine (follows_self (readString s)).map (f := fun v => { m with smithy := v })
        (g := fun v => { d with smithy := v }) fun a b equal => ?_
      exact ⟨equal, same.shapes⟩
    · refine (follows_readMap follows_readShape depth s).map
        (f := fun v => { m with shapes := v }) (g := fun v => { d with shapes := v })
        fun a b related => ?_
      exact ⟨same.smithy, related⟩

/-- Every model that is read is that of a document that is read from the same text. -/
theorem Model.exists_document {text : String} {m : Model} (h : Model.parse text = .ok m) :
    ∃ d, Document.parse text = .ok d ∧ m.IsOf d :=
  exists_of_readDocument (view_model.follows_read _ _) (Except.mapError_eq_ok_iff.mp h)

end Cratewright
