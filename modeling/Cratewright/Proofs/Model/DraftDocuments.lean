/-
Documents of drafts are read.

The document of a draft leaves out what a shape does not have, and gives its fields in the order of
their names, with the type somewhere among them. If all its identifiers are well formed, it is read
as a model that has for every shape of the draft one of its own:

* `DraftShape.toShape`, `Draft.model` — the model of a draft;
* `Draft.read_shapeJson` — the shapes;
* `Draft.parse_text` — the document;
* `Draft.find?_model_iff` — what is found in the model.
-/
import Cratewright.Model.Draft
import Cratewright.Proofs.Model.RoundTrip

namespace Cratewright

open Json Layout

/-! ### Identifiers from texts -/

namespace ShapeId

/-- The text is the written form of an identifier. -/
def IsWritten (s : String) : Prop := ∃ id, parse s = .ok id

/-- The identifier that a text is the written form of. -/
def ofText (s : String) : ShapeId := (parse s).toOption.getD default

variable {s : String} {id : ShapeId}

instance : Decidable (IsWritten s) :=
  decidable_of_iff ((parse s).isOk = true) <| by
    rw [IsWritten]
    cases parse s <;> simp [Except.isOk, Except.toBool]

theorem ofText_of_parse (h : parse s = .ok id) : ofText s = id := by
  rw [ofText, h]
  rfl

namespace IsWritten

theorem parse_eq (h : IsWritten s) : parse s = .ok (ofText s) := by
  obtain ⟨id, read⟩ := h
  rw [ofText_of_parse read]
  exact read

theorem parse_eq_ok_iff (h : IsWritten s) : parse s = .ok id ↔ ofText s = id := by
  rw [h.parse_eq, Except.ok.injEq]

theorem text_ofText (h : IsWritten s) : (ofText s).text = s :=
  (ShapeId.parse_eq_ok_iff.mp h.parse_eq).2

theorem isValid (h : IsWritten s) : (ofText s).IsValid :=
  isValid_iff.mpr (ShapeId.parse_eq_ok_iff.mp h.parse_eq).1

theorem idOfText (h : IsWritten s) : Json.idOfText s = .ok (ofText s) := by
  rw [Json.idOfText, h.parse_eq]
  rfl

end IsWritten

end ShapeId

/-! ### The model of a draft -/

/-- Traits without values, as a model has them. -/
def traitsOf (ids : SortedSet String) : Traits :=
  SortedMap.ofList (ids.toList.map fun id => (ShapeId.ofText id, .object []))

/-- A member of an input, as a model has it. -/
def inputMember (isToken : Bool) : MemberShape where
  target := ⟨"smithy.api", "String", none⟩
  traits := SortedMap.ofList (if isToken then [(idempotencyTokenTrait, .object [])] else [])

namespace DraftShape

/-- A shape of a draft, as a model has it. -/
def toShape : DraftShape → Shape
  | service protocols operations => .service {
      version := some "2024-01-01"
      operations := operations.map ShapeId.ofText
      traits := traitsOf protocols }
  | operation id => .operation { input := some (ShapeId.ofText id) }
  | input members => .struct { members := members.mapValues inputMember }
  | protocolDefinition => .struct {
      traits := traitsOf (SortedSet.ofList [protocolDefinitionTrait.text, "smithy.api#trait"]) }

/-- The identifiers in the shape are well formed. -/
def IsValid : DraftShape → Prop
  | service protocols operations =>
    (∀ p ∈ protocols.toList, ShapeId.IsWritten p) ∧ ∀ o ∈ operations, ShapeId.IsWritten o
  | operation id => ShapeId.IsWritten id
  | input _ => True
  | protocolDefinition => True

end DraftShape

namespace Draft

/-- The model of a draft. -/
def model (d : Draft) : Model where
  shapes := SortedMap.ofList (d.shapes.entries.map fun e => (ShapeId.ofText e.1, e.2.toShape))

/-- The identifiers in the draft are well formed. -/
def IsValid (d : Draft) : Prop :=
  ∀ e ∈ d.shapes.entries, ShapeId.IsWritten e.1 ∧ e.2.IsValid

/-! ### Parts of shapes -/

section Parts

variable {depth : Nat} {ids : SortedSet String} {operations : List String}

theorem asTraits_bareTraits (valid : ∀ id ∈ ids.toList, ShapeId.IsWritten id) :
    asTraits (bareTraits ids) = .ok (traitsOf ids) := by
  have keys : ∀ id ∈ ids.toList, idOfText id = .ok (ShapeId.ofText id) :=
    fun id hid => (valid id hid).idOfText
  show asMap idOfText (fun v => .ok v.canonical) (object (ids.toList.map fun id => (id, _))) = _
  exact asMap_fields ShapeId.ofText (fun _ => object []) keys fun _ _ => rfl

theorem faithful_bareTraits (depth : Nat) (ids : SortedSet String) :
    Faithful (depth + 2) (bareTraits ids) := by
  refine faithful_object fun e he => ?_
  obtain ⟨id, -, rfl⟩ := List.mem_map.mp he
  exact faithful_object fun e he => by cases he

theorem mem_keys_traitsOf (valid : ∀ id ∈ ids.toList, ShapeId.IsWritten id) {t : ShapeId} :
    t ∈ (traitsOf ids).keys ↔ ∃ id ∈ ids.toList, ShapeId.parse id = .ok t := by
  have found : t ∈ (traitsOf ids).keys ↔ ∃ id ∈ ids.toList, ShapeId.ofText id = t := by
    rw [SortedMap.mem_keys_iff, ← Option.isSome_iff_exists]
    exact (SortedMap.contains_ofList ..).trans (by simp)
  rw [found]
  exact exists_congr fun id => and_congr_right fun hid => (valid id hid).parse_eq_ok_iff.symm

theorem referenceJson_ofText {id : String} (valid : ShapeId.IsWritten id) :
    referenceJson (ShapeId.ofText id) = reference id := by
  rw [referenceJson, valid.text_ofText, reference]

theorem referencesJson_ofText (valid : ∀ o ∈ operations, ShapeId.IsWritten o) :
    referencesJson (operations.map ShapeId.ofText) = .list (operations.map reference) := by
  rw [referencesJson, List.map_map]
  exact congrArg Json.list (List.map_congr_left fun o ho => referenceJson_ofText (valid o ho))

theorem memberJson_eq (isToken : Bool) : memberJson isToken = (inputMember isToken).toJson := by
  cases isToken <;> rfl

theorem isValid_token : idempotencyTokenTrait.IsValid := by
  show ShapeId.parse _ = _
  decide +kernel

theorem isStored_inputMember (depth : Nat) (isToken : Bool) :
    (inputMember isToken).IsStored (depth + 1) where
  target := by
    show ShapeId.parse (ShapeId.text ⟨"smithy.api", "String", none⟩) = .ok ⟨_, _, _⟩
    decide +kernel
  traits := by
    intro e he
    cases isToken with
    | false => cases he
    | true =>
      cases List.mem_singleton.mp he
      exact ⟨isValid_token, rfl, fits_object.mpr fun _ h => by cases h⟩

theorem floatFree_inputMember (isToken : Bool) :
    Traits.FloatFree (inputMember isToken).traits := by
  intro e he
  cases isToken with
  | false => cases he
  | true =>
    cases List.mem_singleton.mp he
    exact floatFree_object.mpr fun _ h => by cases h

end Parts

/-! ### Shapes -/

section Shapes

variable {depth : Nat} {rest : List Char}

theorem read_service {protocols : SortedSet String} {operations : List String}
    (valid : (DraftShape.service protocols operations).IsValid) :
    Shape.read (depth + 3) ((shapeJson (.service protocols operations)).print ++ rest)
      = .ok ((DraftShape.service protocols operations).toShape, rest) := by
  let before : List (Entry ServiceShape) := [
    .of "operations" (referencesJson (operations.map ShapeId.ofText))
      (fun s v => { s with operations := v }) (operations.map ShapeId.ofText),
    .of "traits" (bareTraits protocols) (fun s v => { s with traits := v }) (traitsOf protocols)]
  let after : List (Entry ServiceShape) := [
    .of "version" (.text "2024-01-01") (fun s v => { s with version := v }) (some "2024-01-01")]
  have ids : ∀ id ∈ operations.map ShapeId.ofText, id.IsValid := by
    intro id hid
    obtain ⟨o, ho, rfl⟩ := List.mem_map.mp hid
    exact (valid.2 o ho).isValid
  have writes : serviceLayout.Writes (depth + 2) (before ++ after) {
      version := some "2024-01-01"
      operations := operations.map ShapeId.ofText
      traits := traitsOf protocols } := by
    refine ⟨?_, ⟨by simp [before, after], by simp [serviceLayout]⟩, rfl⟩
    simp only [before, after, List.cons_append, List.nil_append, List.forall_mem_cons]
    refine ⟨⟨?_, ?_⟩, ⟨?_, ?_⟩, ⟨?_, ?_⟩, by simp⟩
    · exact decodes_setFrom rfl (asList_referencesJson ids)
    · exact faithful_referencesJson ..
    · exact decodes_setFrom rfl (asTraits_bareTraits valid.1)
    · exact faithful_bareTraits ..
    · exact decodes_setFrom rfl rfl
    · exact faithful_text ..
  have read := Shape.read_writes before "service" .service (fun _ => rfl) writes
    (List.Sublist.refl _) (by simp [before, after]) rest
  simp only [before, referencesJson_ofText valid.2] at read
  exact read

/-- A shape that has one field, and its type behind it. -/
theorem read_single {σ α : Type} {l : Layout σ (FromValue σ)} {item : Json → Except Fault α}
    {set : σ → α → σ} {v : Json} {a : α} (kind field : String) (mk : σ → Shape)
    (decodes : ∀ v, Shape.decode (.ofName kind) v = (l.decode v).map mk)
    (known : l.field? field = some ⟨field, false, setFrom set item⟩) (decoded : item v = .ok a)
    (faithful : Faithful depth v) (optional : ∀ f ∈ l.fields, f.required = false)
    (untyped : field ≠ "type") (rest : List Char) :
    Shape.read (depth + 1) ((object [(field, v), ("type", .text kind)]).print ++ rest)
      = .ok (mk (set l.start a), rest) := by
  let x : Entry σ := .of field v set a
  have writes : l.Writes depth ([x] ++ []) (set l.start a) := by
    refine ⟨?_, ⟨by simp, fun f hf required => ?_⟩, rfl⟩
    · rintro y hy
      cases List.mem_singleton.mp hy
      exact ⟨decodes_setFrom known decoded, faithful⟩
    · rw [optional f hf] at required
      cases required
  exact Shape.read_writes [x] kind mk decodes writes (List.Sublist.refl _)
    (by simpa [x] using untyped.symm) rest

theorem read_operation {input : String} (valid : (DraftShape.operation input).IsValid) :
    Shape.read (depth + 2) ((shapeJson (.operation input)).print ++ rest)
      = .ok ((DraftShape.operation input).toShape, rest) := by
  have decoded := asOption_referenceJson (ShapeId.IsWritten.isValid valid)
  have faithful := faithful_referenceJson depth (ShapeId.ofText input)
  rw [referenceJson_ofText valid] at decoded faithful
  exact read_single "operation" "input" .operation (fun _ => rfl) rfl decoded faithful
    (by simp [operationLayout]) (by decide) rest

theorem read_input (members : SortedMap String Bool) :
    Shape.read (depth + 5) ((shapeJson (.input members)).print ++ rest)
      = .ok ((DraftShape.input members).toShape, rest) := by
  have listed : members.entries.map (fun e => (e.1, memberJson e.2))
      = (members.mapValues inputMember).entries.map fun e => (e.1, e.2.toJson) := by
    simp [SortedMap.mapValues, memberJson_eq]
  have stored : ∀ e ∈ (members.mapValues inputMember).entries,
      e.2.IsStored (depth + 1) ∧ Traits.FloatFree e.2.traits := by
    intro e he
    obtain ⟨d, -, rfl⟩ := List.mem_map.mp he
    exact ⟨isStored_inputMember depth d.2, floatFree_inputMember d.2⟩
  rw [shapeJson, listed]
  refine read_single "structure" "members" .struct (fun _ => rfl) rfl
    (asMap_object id MemberShape.toJson (fun _ _ => rfl) ?_) (faithful_object ?_)
    (by simp [structureLayout]) (by decide) rest
  · exact fun e he => MemberShape.decode_toJson (stored e he).1
  · intro e he
    obtain ⟨m, hm, rfl⟩ := List.mem_map.mp he
    exact MemberShape.faithful_toJson (stored m hm).1 (stored m hm).2

/-- A structure that has traits and nothing else. -/
theorem read_marked {ids : SortedSet String} (valid : ∀ id ∈ ids.toList, ShapeId.IsWritten id) :
    Shape.read (depth + 3)
        ((object [("traits", bareTraits ids), ("type", .text "structure")]).print ++ rest)
      = .ok (.struct { traits := traitsOf ids }, rest) :=
  read_single "structure" "traits" .struct (fun _ => rfl) rfl (asTraits_bareTraits valid)
    (faithful_bareTraits ..) (by simp [structureLayout]) (by decide) rest

theorem isWritten_marks :
    ∀ id ∈ (SortedSet.ofList [protocolDefinitionTrait.text, "smithy.api#trait"]).toList,
      ShapeId.IsWritten id := by
  decide +kernel

/-- A shape whose identifiers are well formed is read as the model has it. -/
theorem read_shapeJson {s : DraftShape} (valid : s.IsValid) :
    Shape.read (depth + 5) ((shapeJson s).print ++ rest) = .ok (s.toShape, rest) := by
  cases s with
  | service protocols operations => exact read_service valid
  | operation input => exact read_operation valid
  | input members => exact read_input members
  | protocolDefinition => exact read_marked isWritten_marks

end Shapes

/-! ### Documents -/

section Documents

variable {d : Draft}

/-- A document of a model may give the shapes first. -/
theorem read_shapesFirst {depth : Nat} {rest : List Char} {v : Json}
    {shapes : SortedMap ShapeId Shape}
    (read : ∀ rest, readMap idOfText Shape.read depth (v.print ++ rest) = .ok (shapes, rest)) :
    Model.layout.read (depth + 1) ((object [("shapes", v), ("smithy", .text "2.0")]).print ++ rest)
      = .ok ({ shapes }, rest) := by
  let entries : List (Entry Model) := [
    .of "shapes" v (fun m v => { m with shapes := v }) shapes,
    .of "smithy" (.text "2.0") (fun m v => { m with smithy := v }) "2.0"]
  have reads : ∀ x ∈ entries, Model.layout.Reads depth x := by
    simp only [entries, List.forall_mem_cons]
    refine ⟨reads_setRead rfl ?_, reads_setRead rfl ?_, by simp⟩
    · exact fun rest _ => read rest
    · exact fun rest _ => readString_print ..
  have record : Model.layout.IsRecord entries := ⟨by simp [entries], by simp [Model.layout]⟩
  exact read_print reads record rest

theorem read_toJson (valid : d.IsValid) (depth : Nat) (rest : List Char) :
    Model.layout.read (depth + 7) (d.toJson.print ++ rest) = .ok (d.model, rest) := by
  have keys : ∀ e ∈ d.shapes.entries, idOfText e.1 = .ok (ShapeId.ofText e.1) :=
    fun e he => (valid e he).1.idOfText
  have reads : ∀ e ∈ d.shapes.entries, ∀ rest, Closes rest →
      Shape.read (depth + 5) ((shapeJson e.2).print ++ rest) = .ok (e.2.toShape, rest) :=
    fun e he rest _ => read_shapeJson (valid e he).2
  exact read_shapesFirst fun rest => readMap_fields _ _ keys reads

/-- The document of a draft whose identifiers are well formed is read as its model. -/
theorem parse_text (valid : d.IsValid) : Model.parse d.text = .ok d.model := by
  have read : Model.layout.read depthLimit (d.toJson.print ++ []) = .ok (d.model, []) :=
    read_toJson valid 120 []
  rw [text, Model.parse, readDocument_render read]
  rfl

/-- The identifiers of the draft stay apart in its model. -/
theorem nodup_ids (valid : d.IsValid) :
    ((d.shapes.entries.map fun e => (ShapeId.ofText e.1, e.2.toShape)).map Prod.fst).Nodup := by
  have keys : d.shapes.keys.Nodup := d.shapes.nodup_keys
  rw [SortedMap.keys] at keys
  rw [List.map_map]
  refine List.Nodup.map_on (fun a ha b hb same => ?_) keys.of_map
  have texts : a.1 = b.1 := by
    rw [← (valid a ha).1.text_ofText, ← (valid b hb).1.text_ofText]
    exact congrArg ShapeId.text same
  exact List.inj_on_of_nodup_map keys ha hb texts

/-- A model has the shapes of the draft, under the identifiers that its texts are read as. -/
theorem find?_model_iff (valid : d.IsValid) {id : ShapeId} {shape : Shape} :
    d.model.shapes.find? id = some shape ↔
      ∃ s t, d.shapes.find? s = some t ∧ ShapeId.parse s = .ok id ∧ t.toShape = shape := by
  refine (SortedMap.find?_ofList_eq_some_iff (nodup_ids valid)).trans ?_
  simp only [List.mem_map, Prod.mk.injEq, SortedMap.find?_eq_some_iff]
  constructor
  · rintro ⟨⟨s, t⟩, mem, same, shaped⟩
    exact ⟨s, t, mem, (valid _ mem).1.parse_eq_ok_iff.mpr same, shaped⟩
  · rintro ⟨s, t, mem, read, shaped⟩
    exact ⟨(s, t), mem, ShapeId.ofText_of_parse read, shaped⟩

end Documents

end Draft

end Cratewright
