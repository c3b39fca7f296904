/-
The traits that a model has of its document.

A model keeps the traits of services, resources, operations and structures, each with the value
that the document gives it. Of every other shape it keeps none, whatever the document says. So a
protocol that is defined by a shape of another type is not among those of a service:

* `Json.find?_of_asTraits` — the traits that an object lists;
* `Shape.find?_knownTraits` — the traits of a shape, as its value lists them;
* `Model.traits_of_document` — what is asked about traits and protocols, and where the document
  says the same;
* `Model.not_forall_lists_definitions` — a definition that is not noticed.
-/
import Cratewright.Proofs.Model.Documents

namespace Cratewright

open Json Layout

/-! ### Traits from values -/

namespace Json

variable {t : ShapeId}

/-- A later entry of the identifier hides an earlier one. -/
theorem valueOf?_cons (e : String × Json) (fields : List (String × Json)) (t : ShapeId) :
    (object (e :: fields)).valueOf? t
      = ((object fields).valueOf? t).or (if ShapeId.parse e.1 = .ok t then some e.2 else none) := by
  rw [valueOf?, valueOf?, List.reverse_cons, List.find?_append, List.find?_singleton, Option.map_or]
  by_cases same : ShapeId.parse e.1 = .ok t <;> simp [same]

theorem find?_of_foldlM {fields : List (String × Json)} {start traits : Traits}
    (h : fields.foldlM (fun m e => do return m.insert (← idOfText e.1) (← .ok e.2.canonical)) start
      = (.ok traits : Except Fault Traits)) :
    traits.find? t = (((object fields).valueOf? t).map canonical).or (start.find? t) := by
  -- Later entries hide those of the map so far, which therefore changes in the induction.
  induction fields generalizing start with
  | nil =>
    cases h
    rfl
  | cons e fields ih =>
    rw [List.foldlM_cons] at h
    obtain ⟨_, one, others⟩ := Except.bind_eq_ok_iff.mp h
    obtain ⟨id, named, same⟩ := Except.bind_eq_ok_iff.mp one
    cases same
    have parsed : ShapeId.parse e.1 = .ok id := Except.mapError_eq_ok_iff.mp named
    rw [ih others, SortedMap.find?_insert, valueOf?_cons, parsed]
    by_cases same : t = id
    · simp [same]
    · simp [same, Ne.symm same]

/-- The traits that an object lists have the values of the last entries of their names. -/
theorem find?_of_asTraits {v : Json} {traits : Traits} (h : asTraits v = .ok traits) :
    traits.find? t = (v.valueOf? t).map canonical := by
  cases v with
  | object fields =>
    rw [find?_of_foldlM h]
    exact Option.or_none
  | _ => cases h

end Json

/-! ### Traits of records -/

section Records

variable {σ α : Type} {part : σ → Traits}

/-- The field sets the traits if they are what it is named for, and keeps them if not. -/
def TakesTraits (part : σ → Traits) (f : Field σ (FromValue σ)) : Prop :=
  ∀ acc v out, f.read acc v = .ok out →
    (f.name = "traits" → asTraits v = .ok (part out)) ∧ (f.name ≠ "traits" → part out = part acc)

theorem takesTraits_traits (required : Bool) {set : σ → Traits → σ}
    (sets : ∀ acc traits, part (set acc traits) = traits) :
    TakesTraits part ⟨"traits", required, setFrom set asTraits⟩ := by
  intro acc v out h
  obtain ⟨traits, read, rfl⟩ := Except.map_eq_ok_iff.mp h
  refine ⟨fun _ => ?_, fun ne => absurd rfl ne⟩
  rw [sets]
  exact read

theorem takesTraits_other {name : String} (ne : name ≠ "traits") (required : Bool)
    {set : σ → α → σ} (item : Json → Except Fault α)
    (keeps : ∀ acc a, part (set acc a) = part acc) :
    TakesTraits part ⟨name, required, setFrom set item⟩ := by
  intro acc v out h
  obtain ⟨a, -, rfl⟩ := Except.map_eq_ok_iff.mp h
  exact ⟨fun same => absurd same ne, fun _ => keeps acc a⟩

theorem find?_of_decode {l : Layout σ (FromValue σ)} (takes : ∀ f ∈ l.fields, TakesTraits part f)
    (known : ∃ f ∈ l.fields, f.name = "traits") (start : part l.start = ∅)
    {fields : List (String × Json)} {out : σ} (h : l.decode (object fields) = .ok out)
    (t : ShapeId) :
    (part out).find? t = (((object fields).field? "traits").bind (valueOf? t)).map canonical := by
  obtain ⟨set, kept⟩ := part_of_decode (Q := fun v traits => asTraits v = .ok traits) known
    (fun f hf named acc v out read => (takes f hf acc v out read).1 named)
    (fun f hf ne acc v out read => (takes f hf acc v out read).2 ne) h
  cases found : (object fields).field? "traits" with
  | none =>
    rw [kept found, start]
    rfl
  | some v => exact find?_of_asTraits (set v found)

theorem takesTraits_service : ∀ f ∈ serviceLayout.fields, TakesTraits ServiceShape.traits f := by
  simp only [serviceLayout, List.forall_mem_cons]
  refine ⟨?_, ?_, ?_, takesTraits_traits _ fun _ _ => rfl, by simp⟩
  all_goals exact takesTraits_other (by decide) _ _ fun _ _ => rfl

theorem takesTraits_resource :
    ∀ f ∈ resourceLayout.fields, TakesTraits ResourceShape.traits f := by
  simp only [resourceLayout, resourceField, List.forall_mem_cons]
  refine ⟨?_, ?_, ?_, ?_, ?_, ?_, ?_, ?_, ?_, takesTraits_traits _ fun _ _ => rfl, by simp⟩
  all_goals exact takesTraits_other (by decide) _ _ fun _ _ => rfl

theorem takesTraits_operation :
    ∀ f ∈ operationLayout.fields, TakesTraits OperationShape.traits f := by
  simp only [operationLayout, List.forall_mem_cons]
  refine ⟨?_, ?_, takesTraits_traits _ fun _ _ => rfl, by simp⟩
  all_goals exact takesTraits_other (by decide) _ _ fun _ _ => rfl

theorem takesTraits_structure :
    ∀ f ∈ structureLayout.fields, TakesTraits StructureShape.traits f := by
  simp only [structureLayout, List.forall_mem_cons]
  refine ⟨?_, takesTraits_traits _ fun _ _ => rfl, by simp⟩
  exact takesTraits_other (by decide) _ _ fun _ _ => rfl

end Records

/-! ### Traits of shapes -/

/-- The types of the shapes that the generators look into. -/
def inspectedTypes : List String := ["service", "resource", "operation", "structure"]

/-- The generators look into the shape. -/
def Json.IsInspected (v : Json) : Prop := ∃ type ∈ inspectedTypes, v.shapeType? = some type

theorem ShapeKind.ofName_eq_other_iff {type : String} :
    ShapeKind.ofName type = .other ↔ type ∉ inspectedTypes := by
  rw [ofName, inspectedTypes]
  split_ifs <;> simp [*]

namespace Shape

variable {s : Shape} {v : Json}

theorem find?_knownTraits_of_decode {kind : ShapeKind} (inspected : kind ≠ .other)
    {fields : List (String × Json)} (h : decode kind (object fields) = .ok s) (t : ShapeId) :
    s.knownTraits.find? t
      = (((object fields).field? "traits").bind (valueOf? t)).map canonical := by
  cases kind with
  | service =>
    obtain ⟨record, read, rfl⟩ := Except.map_eq_ok_iff.mp h
    exact find?_of_decode takesTraits_service (by decide) rfl read t
  | resource =>
    obtain ⟨record, read, rfl⟩ := Except.map_eq_ok_iff.mp h
    exact find?_of_decode takesTraits_resource (by decide) rfl read t
  | operation =>
    obtain ⟨record, read, rfl⟩ := Except.map_eq_ok_iff.mp h
    exact find?_of_decode takesTraits_operation (by decide) rfl read t
  | struct =>
    obtain ⟨record, read, rfl⟩ := Except.map_eq_ok_iff.mp h
    exact find?_of_decode takesTraits_structure (by decide) rfl read t
  | other => exact absurd rfl inspected

/-- A shape that the generators look into has the traits that its value lists. -/
theorem find?_knownTraits (h : s.IsOf v) (inspected : v.IsInspected) (t : ShapeId) :
    s.knownTraits.find? t = (v.shapeTrait? t).map canonical := by
  obtain ⟨type, typed, decoded⟩ := h
  obtain ⟨type', mem, same⟩ := inspected
  obtain rfl : type' = type := Option.some.inj (same.symm.trans typed)
  have kind : ShapeKind.ofName type' ≠ .other := fun other =>
    ShapeKind.ofName_eq_other_iff.mp other mem
  rw [find?_knownTraits_of_decode kind decoded, untyped, field?_filter fun _ => rfl, shapeTrait?]

/-- No traits of any other shape are known. -/
theorem knownTraits_eq_empty (h : s.IsOf v) (skipped : ¬ v.IsInspected) : s.knownTraits = ∅ := by
  obtain ⟨type, typed, decoded⟩ := h
  have kind : ShapeKind.ofName type = .other :=
    ShapeKind.ofName_eq_other_iff.mpr fun mem => skipped ⟨type, mem, typed⟩
  rw [kind] at decoded
  cases decoded
  rfl

end Shape

/-! ### Traits of models -/

namespace Document

variable (d : Document) (id : ShapeId)

/-- The type that the document gives a shape. -/
def type? : Option String := (d.shapes.find? id).bind shapeType?

/-- The value that the document gives a trait of a shape. -/
def trait? (t : ShapeId) : Option Json :=
  (d.shapes.find? id).bind fun v => (v.shapeTrait? t).map canonical

/-- The generators look into the shape. -/
def Inspects : Prop := ∃ type ∈ inspectedTypes, d.type? id = some type

end Document

namespace Model

variable {m : Model} {d : Document} {id service : ShapeId} {f g : ShapeId → Option Json}

/-- Whatever is asked about the traits of a shape is answered from the given values. -/
def Answers (m : Model) (id : ShapeId) (f : ShapeId → Option Json) : Prop :=
  ∃ ids, m.traits id = .ok ids ∧ ∀ t, (t ∈ ids ↔ (f t).isSome) ∧
    m.hasTrait id t = (f t).isSome ∧ m.traitValue? id t = f t

theorem Answers.eq (hf : m.Answers id f) (hg : m.Answers id g) : f = g := by
  obtain ⟨_, -, known⟩ := hf
  obtain ⟨_, -, same⟩ := hg
  funext t
  exact (known t).2.2.symm.trans (same t).2.2

theorem answers_of_find? {s : Shape} (h : m.shapes.find? id = some s) :
    m.Answers id s.knownTraits.find? := by
  refine ⟨_, traits_eq_ok_iff.mpr ⟨s, h, rfl⟩, fun t => ?_⟩
  have value : m.traitValue? id t = s.knownTraits.find? t := by
    refine Option.ext fun v => ?_
    rw [traitValue?_eq_some_iff, h]
    simp
  refine ⟨?_, ?_, value⟩
  · rw [SortedMap.mem_keys_iff, Option.isSome_iff_exists]
  · rw [hasTrait, value]

theorem IsOf.exists_shape {v : Json} (h : m.IsOf d) (found : d.shapes.find? id = some v) :
    ∃ s, m.shapes.find? id = some s ∧ s.IsOf v := by
  have related := h.shapes id
  rw [found] at related
  generalize m.shapes.find? id = x at related
  cases related with
  | some same => exact ⟨_, rfl, same⟩

theorem IsOf.find?_eq_none (h : m.IsOf d) (absent : d.shapes.find? id = none) :
    m.shapes.find? id = none := by
  have related := h.shapes id
  rw [absent] at related
  generalize m.shapes.find? id = x at related
  cases related
  rfl

theorem IsOf.answers {v : Json} (h : m.IsOf d) (found : d.shapes.find? id = some v) :
    (d.Inspects id → m.Answers id (d.trait? id)) ∧
      (¬ d.Inspects id → m.Answers id fun _ => none) := by
  obtain ⟨s, known, same⟩ := h.exists_shape found
  have answers := answers_of_find? known
  have type : d.type? id = v.shapeType? := by
    rw [Document.type?, found]
    rfl
  constructor
  · intro inspected
    rw [Document.Inspects, type] at inspected
    have traits : s.knownTraits.find? = d.trait? id := by
      funext t
      rw [s.find?_knownTraits same inspected, Document.trait?, found]
      rfl
    exact traits ▸ answers
  · intro skipped
    rw [Document.Inspects, type] at skipped
    rw [s.knownTraits_eq_empty same skipped] at answers
    exact answers

/-- The document says of a trait what the model says iff the generators look into the shape, or
there is nothing to say. -/
theorem IsOf.answers_iff {v : Json} (h : m.IsOf d) (found : d.shapes.find? id = some v) :
    m.Answers id (d.trait? id) ↔ d.Inspects id ∨ ∀ t, d.trait? id t = none := by
  obtain ⟨inspected, skipped⟩ := h.answers found
  constructor
  · intro answers
    by_cases looks : d.Inspects id
    · exact .inl looks
    · exact .inr fun t => congrFun (answers.eq (skipped looks)) t
  · intro known
    by_cases looks : d.Inspects id
    · exact inspected looks
    · have none : d.trait? id = fun _ => none := funext (known.resolve_left looks)
      rw [none]
      exact skipped looks

/-! ### Protocols -/

/-- A definition is noticed in shapes that the generators look into. -/
theorem IsOf.definesProtocol_iff (h : m.IsOf d) {t : ShapeId} :
    m.DefinesProtocol t ↔ d.Inspects t ∧ (d.trait? t protocolDefinitionTrait).isSome := by
  rw [DefinesProtocol, ← hasTrait_iff]
  cases found : d.shapes.find? t with
  | none =>
    -- A trait may have no shape in the document at all.
    have absent := h.find?_eq_none found
    simp [hasTrait, traitValue?, absent, Document.trait?, found]
  | some v =>
    obtain ⟨inspected, skipped⟩ := h.answers found
    by_cases looks : d.Inspects t
    · obtain ⟨_, -, same⟩ := inspected looks
      rw [(same protocolDefinitionTrait).2.1]
      exact (and_iff_right looks).symm
    · obtain ⟨_, -, same⟩ := skipped looks
      rw [(same protocolDefinitionTrait).2.1]
      simp [looks]

theorem IsOf.exists_serviceProtocols (h : m.IsOf d) (type : d.type? service = some "service") :
    ∃ ids, m.serviceProtocols service = .ok ids ∧ ∀ t, t ∈ ids ↔ (d.trait? service t).isSome ∧
      (IsKnownProtocol t ∨ d.Inspects t ∧ (d.trait? t protocolDefinitionTrait).isSome) := by
  obtain ⟨v, found, -⟩ := Option.bind_eq_some_iff.mp type
  obtain ⟨traits, listed, same⟩ := (h.answers found).1 ⟨"service", by decide, type⟩
  refine ⟨_, serviceProtocols_eq_ok_iff.mpr ⟨traits, listed, rfl⟩, fun t => ?_⟩
  rw [List.mem_filter, isProtocol_iff, (same t).1, h.definesProtocol_iff]

/-- What a model answers about traits and protocols, told from its document. Of a shape of the
document it says what the document says iff the generators look into it or it has no traits; of
any other shape it says that it has none. A service lists the protocols among its traits that
need no definition, and those whose definition is a shape that the generators look into. -/
theorem traits_of_document {text : String} (h : parse text = .ok m) :
    ∃ d, Document.parse text = .ok d ∧
      (∀ id, (d.shapes.find? id).isSome →
        (m.Answers id (d.trait? id) ↔ d.Inspects id ∨ ∀ t, d.trait? id t = none) ∧
        (¬ d.Inspects id → m.Answers id fun _ => none)) ∧
      ∀ service, d.type? service = some "service" → ∃ ids, m.serviceProtocols service = .ok ids ∧
        ∀ t, t ∈ ids ↔ (d.trait? service t).isSome ∧
          (IsKnownProtocol t ∨ d.Inspects t ∧ (d.trait? t protocolDefinitionTrait).isSome) := by
  obtain ⟨d, read, same⟩ := exists_document h
  refine ⟨d, read, fun id known => ?_, fun service type => same.exists_serviceProtocols type⟩
  obtain ⟨v, found⟩ := Option.isSome_iff_exists.mp known
  exact ⟨same.answers_iff found, (same.answers found).2⟩

/-- A service with two protocols. The shape of one is a structure, that of the other a union. -/
def signalsDocument : String := Text.ofLines [
  "\x7b\"shapes\":\x7b\"time#Clock\":\x7b\"type\":\"service\",",
  "\"traits\":\x7b\"time#chime\":\x7b\x7d,\"time#wire\":\x7b\x7d\x7d\x7d,",
  "\"time#chime\":\x7b\"type\":\"structure\",",
  "\"traits\":\x7b\"smithy.api#protocolDefinition\":\x7b\x7d\x7d\x7d,",
  "\"time#wire\":\x7b\"type\":\"union\",",
  "\"traits\":\x7b\"smithy.api#protocolDefinition\":\x7b\x7d\x7d\x7d\x7d\x7d"]

def signalsModel : Model where
  shapes := SortedMap.ofList [
    (⟨"time", "Clock", none⟩, .service { traits := SortedMap.ofList [
      (⟨"time", "chime", none⟩, .object []), (⟨"time", "wire", none⟩, .object [])] }),
    (⟨"time", "chime", none⟩, .struct { traits := SortedMap.ofList [
      (protocolDefinitionTrait, .object [])] }),
    (⟨"time", "wire", none⟩, .other)]

def signalsValues : Document where
  shapes := SortedMap.ofList [
    (⟨"time", "Clock", none⟩, .object [("type", .text "service"), ("traits", .object [
      ("time#chime", .object []), ("time#wire", .object [])])]),
    (⟨"time", "chime", none⟩, .object [("type", .text "structure"), ("traits", .object [
      ("smithy.api#protocolDefinition", .object [])])]),
    (⟨"time", "wire", none⟩, .object [("type", .text "union"), ("traits", .object [
      ("smithy.api#protocolDefinition", .object [])])])]

theorem parse_signalsDocument :
    parse signalsDocument = .ok signalsModel ∧ Document.parse signalsDocument = .ok signalsValues :=
  ⟨Except.eq_ok_of_toOption (by decide +kernel), Except.eq_ok_of_toOption (by decide +kernel)⟩

theorem type?_wire : signalsValues.type? ⟨"time", "wire", none⟩ = some "union" := rfl

theorem definition_wire :
    signalsValues.trait? ⟨"time", "wire", none⟩ protocolDefinitionTrait = some (.object []) := by
  decide +kernel

theorem traits_of_document_signals :
    parse signalsDocument = .ok signalsModel ∧
      ∃ d, Document.parse signalsDocument = .ok d ∧
        signalsModel.Answers ⟨"time", "chime", none⟩ (d.trait? ⟨"time", "chime", none⟩) ∧
        ¬ signalsModel.Answers ⟨"time", "wire", none⟩ (d.trait? ⟨"time", "wire", none⟩) := by
  obtain ⟨parsed, values⟩ := parse_signalsDocument
  obtain ⟨d, read, shapes, -⟩ := traits_of_document parsed
  -- The document that the theorem speaks of is the one that was read.
  cases read.symm.trans values
  refine ⟨parsed, signalsValues, values, ?_, fun answers => ?_⟩
  · exact (shapes _ rfl).1.mpr (.inl ⟨"structure", by decide, rfl⟩)
  · rcases (shapes _ rfl).1.mp answers with ⟨type, mem, same⟩ | none
    · rw [type?_wire] at same
      cases same
      exact absurd mem (by decide)
    · have defined := none protocolDefinitionTrait
      rw [definition_wire] at defined
      cases defined

/-- It is not so that every protocol that a document defines is listed. -/
theorem not_forall_lists_definitions :
    ¬ ∀ text m d service t, parse text = .ok m → Document.parse text = .ok d →
      d.type? service = some "service" → (d.trait? service t).isSome →
      (d.trait? t protocolDefinitionTrait).isSome →
      ∃ ids, m.serviceProtocols service = .ok ids ∧ t ∈ ids := by
  intro listed
  obtain ⟨parsed, values⟩ := parse_signalsDocument
  obtain ⟨ids, answer, mem⟩ := listed _ _ _ ⟨"time", "Clock", none⟩ ⟨"time", "wire", none⟩ parsed
    values rfl (by decide +kernel) (by decide +kernel)
  have protocols : signalsModel.serviceProtocols ⟨"time", "Clock", none⟩
      = .ok [⟨"time", "chime", none⟩] :=
    Except.eq_ok_of_toOption (by decide +kernel)
  cases protocols.symm.trans answer
  exact absurd mem (by decide)

end Model

end Cratewright
