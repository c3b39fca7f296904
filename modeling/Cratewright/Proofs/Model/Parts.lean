/-
Parts of models are read as they were written.

What the reader makes of a value, it makes again of the value that is written from it: identifiers
are spelled in one way only, the values of traits are sorted once and for all, and what is left
out stands for what is there without it. `IsStored` says what is needed for this, and holds of all
that is read:

* `ShapeId.isValid_iff` — identifiers;
* `asTraits_traitsJson`, `isStored_of_asTraits` — traits;
* `MemberShape.decode_toJson`, `MemberShape.isStored_of_decode` — members;
* `ServiceShape.writes_entries`, `ServiceShape.isStored_of_decode` — services, and so for
  operations, resources and structures.
-/
import Cratewright.Model.Format
import Cratewright.Proofs.Json.Records
import Cratewright.Proofs.ShapeId.Grammar

namespace Cratewright

open Json Layout

/-! ### Identifiers -/

namespace ShapeId

/-- The written form of an identifier is read as the identifier. -/
def IsValid (id : ShapeId) : Prop := parse id.text = .ok id

theorem isValid_iff {id : ShapeId} : id.IsValid ↔ id.IsWellFormed := by
  rw [IsValid, parse_eq_ok_iff]
  exact and_iff_left rfl

theorem isValid_of_idOfText {s : String} {id : ShapeId} (h : idOfText s = .ok id) :
    id.IsValid :=
  isValid_iff.mpr (parse_eq_ok_iff.mp (Except.mapError_eq_ok_iff.mp h)).1

theorem IsValid.idOfText {id : ShapeId} (h : id.IsValid) : idOfText id.text = .ok id := by
  rw [Json.idOfText, show parse id.text = .ok id from h]
  rfl

theorem IsValid.asId {id : ShapeId} (h : id.IsValid) : asId (.text id.text) = .ok id := h.idOfText

end ShapeId

/-! ### Fields of records -/

/-- A part that is read from its value is set. -/
theorem decodes_setFrom {σ α : Type} {l : Layout σ (FromValue σ)} {name : String}
    {required : Bool} {set : σ → α → σ} {item : Json → Except Fault α} {v : Json} {a : α}
    (known : l.field? name = some ⟨name, required, setFrom set item⟩) (h : item v = .ok a) :
    l.Decodes (.of name v set a) := by
  refine ⟨_, known, fun acc => ?_⟩
  show (item v).map _ = _
  rw [h]
  rfl

section References

variable {depth : Nat} {v : Json} {id : ShapeId} {ids : List ShapeId}

theorem decode_referenceJson (valid : id.IsValid) :
    referenceLayout.decode (referenceJson id) = .ok id := by
  let entries : List (Entry ShapeId) := [.of "target" (.text id.text) (fun _ v => v) id]
  have decodes : ∀ x ∈ entries, referenceLayout.Decodes x := by
    simp only [entries, List.forall_mem_cons]
    exact ⟨decodes_setFrom rfl valid.asId, by simp⟩
  exact decode_object decodes ⟨by simp [entries], by simp [entries, referenceLayout]⟩

theorem asOption_referenceJson (valid : id.IsValid) :
    asOption referenceLayout.decode (referenceJson id) = .ok (some id) := by
  show (referenceLayout.decode (referenceJson id)).map some = _
  rw [decode_referenceJson valid]
  rfl

/-- The start of a reference is no valid identifier, so that the field is required matters. -/
theorem isValid_of_reference (fits : Fits (depth + 1) v)
    (h : referenceLayout.decode v = .ok id) : id.IsValid := by
  obtain ⟨seen, valid, required⟩ := decode_induction
    (fun seen id => "target" ∈ seen → ShapeId.IsValid id) (fun mem => absurd mem List.not_mem_nil)
    (by
      simp only [referenceLayout, List.forall_mem_cons]
      refine ⟨?_, by simp⟩
      intro seen acc v out _ _ read _
      obtain ⟨a, ha, rfl⟩ := Except.map_eq_ok_iff.mp read
      obtain ⟨s, -, hs⟩ := Except.bind_eq_ok_iff.mp ha
      exact ShapeId.isValid_of_idOfText hs) fits h
  exact valid (required _ (List.mem_singleton.mpr rfl) rfl)

theorem faithful_referenceJson (depth : Nat) (id : ShapeId) :
    Faithful (depth + 1) (referenceJson id) := by
  refine faithful_object ?_
  simp only [List.forall_mem_cons]
  exact ⟨faithful_text .., by simp⟩

theorem faithful_referencesJson (depth : Nat) (ids : List ShapeId) :
    Faithful (depth + 2) (referencesJson ids) := by
  refine faithful_list fun v hv => ?_
  obtain ⟨id, -, rfl⟩ := List.mem_map.mp hv
  exact faithful_referenceJson depth id

theorem asList_referencesJson (valid : ∀ id ∈ ids, id.IsValid) :
    asList referenceLayout.decode (referencesJson ids) = .ok ids :=
  asList_map fun id hid => decode_referenceJson (valid id hid)

theorem isValid_of_references (fits : Fits (depth + 2) v)
    (h : asList referenceLayout.decode v = .ok ids) : ∀ id ∈ ids, id.IsValid := by
  intro id hid
  obtain ⟨w, hw, read⟩ := exists_of_asList h id hid
  exact isValid_of_reference (fits.parts w hw) read

end References

/-! ### Traits and members -/

/-- The traits are written and read again: their identifiers are valid, and their values are sorted
and nest at most `depth` containers. -/
def Traits.IsStored (depth : Nat) (traits : Traits) : Prop :=
  ∀ e ∈ traits.entries, e.1.IsValid ∧ e.2.canonical = e.2 ∧ Fits depth e.2

/-- No trait has a floating-point number in its value. -/
def Traits.FloatFree (traits : Traits) : Prop := ∀ e ∈ traits.entries, e.2.FloatFree

section Traits

variable {depth : Nat} {v : Json} {traits : Traits}

theorem Traits.isStored_empty (depth : Nat) : Traits.IsStored depth ∅ := fun e he => by cases he

theorem asTraits_traitsJson (stored : Traits.IsStored depth traits) :
    asTraits (traitsJson traits) = .ok traits :=
  asMap_object ShapeId.text id (fun e he => (stored e he).1.idOfText)
    fun e he => congrArg Except.ok (stored e he).2.1

theorem isStored_of_asTraits (fits : Fits (depth + 1) v) (h : asTraits v = .ok traits) :
    Traits.IsStored depth traits := by
  intro e he
  obtain ⟨⟨name, known⟩, w, hw, sorted⟩ := exists_of_asMap h e he
  have same : w.canonical = e.2 := Except.ok.inj sorted
  refine ⟨ShapeId.isValid_of_idOfText known, ?_, ?_⟩
  · rw [← same, canonical_canonical]
  · rw [← same]
    exact (fits.parts w hw).canonical

theorem faithful_traitsJson (stored : Traits.IsStored depth traits)
    (free : Traits.FloatFree traits) : Faithful (depth + 1) (traitsJson traits) := by
  refine faithful_object fun e he => ?_
  obtain ⟨d, hd, rfl⟩ := List.mem_map.mp he
  exact ⟨(stored d hd).2.2, free d hd⟩

end Traits

/-- The member is written and read again. -/
structure MemberShape.IsStored (depth : Nat) (m : MemberShape) : Prop where
  target : m.target.IsValid
  traits : Traits.IsStored depth m.traits

namespace MemberShape

variable {depth : Nat} {v : Json} {m : MemberShape}

theorem decode_toJson (stored : m.IsStored depth) : memberLayout.decode m.toJson = .ok m := by
  let entries : List (Entry MemberShape) := [
    .of "target" (.text m.target.text) (fun m v => { m with target := v }) m.target,
    .of "traits" (traitsJson m.traits) (fun m v => { m with traits := v }) m.traits]
  have decodes : ∀ x ∈ entries, memberLayout.Decodes x := by
    simp only [entries, List.forall_mem_cons]
    exact ⟨decodes_setFrom rfl stored.target.asId,
      decodes_setFrom rfl (asTraits_traitsJson stored.traits), by simp⟩
  exact decode_object decodes ⟨by simp [entries], by simp [entries, memberLayout]⟩

theorem isStored_of_decode (fits : Fits (depth + 2) v) (h : memberLayout.decode v = .ok m) :
    m.IsStored depth := by
  obtain ⟨seen, ⟨target, traits⟩, required⟩ := decode_induction
    (fun seen m => ("target" ∈ seen → ShapeId.IsValid m.target) ∧ Traits.IsStored depth m.traits)
    ⟨fun mem => absurd mem List.not_mem_nil, Traits.isStored_empty depth⟩
    (by
      simp only [memberLayout, List.forall_mem_cons]
      refine ⟨?_, ?_, by simp⟩
      · intro seen acc v out known _ read
        obtain ⟨id, hid, rfl⟩ := Except.map_eq_ok_iff.mp read
        obtain ⟨s, -, hs⟩ := Except.bind_eq_ok_iff.mp hid
        exact ⟨fun _ => ShapeId.isValid_of_idOfText hs, known.2⟩
      · intro seen acc v out known fits read
        obtain ⟨traits, ht, rfl⟩ := Except.map_eq_ok_iff.mp read
        refine ⟨fun mem => known.1 ?_, isStored_of_asTraits fits ht⟩
        simpa using mem) fits h
  exact ⟨target (required _ (List.mem_cons_self ..) rfl), traits⟩

theorem faithful_toJson (stored : m.IsStored depth) (free : Traits.FloatFree m.traits) :
    Faithful (depth + 2) m.toJson := by
  refine faithful_object ?_
  simp only [List.forall_mem_cons]
  exact ⟨faithful_text .., faithful_traitsJson stored.traits free, by simp⟩

end MemberShape

/-! ### Services -/

/-- The service is written and read again. -/
structure ServiceShape.IsStored (depth : Nat) (s : ServiceShape) : Prop where
  operations : ∀ id ∈ s.operations, id.IsValid
  resources : ∀ id ∈ s.resources, id.IsValid
  traits : Traits.IsStored depth s.traits

namespace ServiceShape

variable {depth : Nat} {v : Json} {s : ServiceShape}

/-- The fields of a service, as they are written. -/
def entries (s : ServiceShape) : List (Entry ServiceShape) :=
  Entry.optional "version" .text (fun s v => { s with version := v }) s.version ++ [
    .of "operations" (referencesJson s.operations) (fun s v => { s with operations := v })
      s.operations,
    .of "resources" (referencesJson s.resources) (fun s v => { s with resources := v })
      s.resources,
    .of "traits" (traitsJson s.traits) (fun s v => { s with traits := v }) s.traits]

theorem names_entries (s : ServiceShape) :
    (s.entries.map (·.name)).Sublist ["version", "operations", "resources", "traits"] := by
  rw [entries, List.map_append]
  exact (sublist_optional ..).append (List.Sublist.refl _)

theorem writes_entries (stored : s.IsStored (depth + 1)) (free : Traits.FloatFree s.traits) :
    serviceLayout.Writes (depth + 2) s.entries s where
  fields := by
    simp only [entries, List.forall_mem_append, forall_mem_optional, List.forall_mem_cons]
    refine ⟨fun v _ => ⟨decodes_setFrom rfl rfl, faithful_text ..⟩, ⟨?_, ?_⟩, ⟨?_, ?_⟩, ⟨?_, ?_⟩,
      by simp⟩
    · exact decodes_setFrom rfl (asList_referencesJson stored.operations)
    · exact faithful_referencesJson ..
    · exact decodes_setFrom rfl (asList_referencesJson stored.resources)
    · exact faithful_referencesJson ..
    · exact decodes_setFrom rfl (asTraits_traitsJson stored.traits)
    · exact faithful_traitsJson stored.traits free
  record := ⟨s.names_entries.nodup (by decide), by simp [serviceLayout]⟩
  whole := by
    rw [entries, setAll_append, setAll_optional s.version rfl]
    rfl

theorem isStored_of_decode (fits : Fits (depth + 3) v) (h : serviceLayout.decode v = .ok s) :
    s.IsStored (depth + 1) := by
  have start : IsStored (depth + 1) serviceLayout.start :=
    ⟨fun id hid => absurd hid List.not_mem_nil, fun id hid => absurd hid List.not_mem_nil,
      Traits.isStored_empty _⟩
  obtain ⟨seen, stored, -⟩ := decode_induction (fun _ s => IsStored (depth + 1) s) start
    (by
      simp only [serviceLayout, List.forall_mem_cons]
      refine ⟨?_, ?_, ?_, ?_, by simp⟩
      all_goals
        intro seen acc v out known fits read
        obtain ⟨a, ha, rfl⟩ := Except.map_eq_ok_iff.mp read
      · exact { known with }
      · exact { known with operations := isValid_of_references fits ha }
      · exact { known with resources := isValid_of_references fits ha }
      · exact { known with traits := isStored_of_asTraits fits ha }) fits h
  exact stored

end ServiceShape

/-! ### Operations -/

/-- The operation is written and read again. -/
structure OperationShape.IsStored (depth : Nat) (s : OperationShape) : Prop where
  input : ∀ id, s.input = some id → id.IsValid
  output : ∀ id, s.output = some id → id.IsValid
  traits : Traits.IsStored depth s.traits

theorem isValid_of_option {depth : Nat} {v : Json} {a : Option ShapeId} (fits : Fits (depth + 1) v)
    (h : asOption referenceLayout.decode v = .ok a) : ∀ id, a = some id → id.IsValid := by
  rintro id rfl
  exact isValid_of_reference fits (eq_some_of_asOption h)

namespace OperationShape

variable {depth : Nat} {v : Json} {s : OperationShape}

/-- The fields of an operation, as they are written. -/
def entries (s : OperationShape) : List (Entry OperationShape) :=
  Entry.optional "input" referenceJson (fun s v => { s with input := v }) s.input ++
    Entry.optional "output" referenceJson (fun s v => { s with output := v }) s.output ++
    [.of "traits" (traitsJson s.traits) (fun s v => { s with traits := v }) s.traits]

theorem names_entries (s : OperationShape) :
    (s.entries.map (·.name)).Sublist ["input", "output", "traits"] := by
  rw [entries, List.map_append, List.map_append]
  exact ((sublist_optional ..).append (sublist_optional ..)).append (List.Sublist.refl _)

theorem writes_entries (stored : s.IsStored depth) (free : Traits.FloatFree s.traits) :
    operationLayout.Writes (depth + 1) s.entries s where
  fields := by
    simp only [entries, List.forall_mem_append, forall_mem_optional, List.forall_mem_cons]
    refine ⟨⟨fun id hid => ⟨?_, ?_⟩, fun id hid => ⟨?_, ?_⟩⟩, ⟨?_, ?_⟩, by simp⟩
    · exact decodes_setFrom rfl (asOption_referenceJson (stored.input id hid))
    · exact faithful_referenceJson ..
    · exact decodes_setFrom rfl (asOption_referenceJson (stored.output id hid))
    · exact faithful_referenceJson ..
    · exact decodes_setFrom rfl (asTraits_traitsJson stored.traits)
    · exact faithful_traitsJson stored.traits free
  record := ⟨s.names_entries.nodup (by decide), by simp [operationLayout]⟩
  whole := by
    rw [entries, setAll_append, setAll_append, setAll_optional s.input rfl,
      setAll_optional s.output rfl]
    rfl

theorem isStored_of_decode (fits : Fits (depth + 2) v) (h : operationLayout.decode v = .ok s) :
    s.IsStored depth := by
  have start : IsStored depth operationLayout.start :=
    ⟨fun id hid => (by cases hid), fun id hid => (by cases hid), Traits.isStored_empty _⟩
  obtain ⟨seen, stored, -⟩ := decode_induction (fun _ s => IsStored depth s) start
    (by
      simp only [operationLayout, List.forall_mem_cons]
      refine ⟨?_, ?_, ?_, by simp⟩
      all_goals
        intro seen acc v out known fits read
        obtain ⟨a, ha, rfl⟩ := Except.map_eq_ok_iff.mp read
      · exact { known with input := isValid_of_option fits ha }
      · exact { known with output := isValid_of_option fits ha }
      · exact { known with traits := isStored_of_asTraits fits ha }) fits h
  exact stored

end OperationShape

/-! ### Resources -/

/-- The resource is written and read again. -/
structure ResourceShape.IsStored (depth : Nat) (s : ResourceShape) : Prop where
  create : ∀ id, s.create = some id → id.IsValid
  put : ∀ id, s.put = some id → id.IsValid
  read : ∀ id, s.read = some id → id.IsValid
  update : ∀ id, s.update = some id → id.IsValid
  delete : ∀ id, s.delete = some id → id.IsValid
  list : ∀ id, s.list = some id → id.IsValid
  operations : ∀ id ∈ s.operations, id.IsValid
  collectionOperations : ∀ id ∈ s.collectionOperations, id.IsValid
  resources : ∀ id ∈ s.resources, id.IsValid
  traits : Traits.IsStored depth s.traits

namespace ResourceShape

variable {depth : Nat} {v : Json} {s : ResourceShape}

/-- The fields of a resource, as they are written. -/
def entries (s : ResourceShape) : List (Entry ResourceShape) :=
  Entry.optional "create" referenceJson (fun s v => { s with create := v }) s.create ++
    Entry.optional "put" referenceJson (fun s v => { s with put := v }) s.put ++
    Entry.optional "read" referenceJson (fun s v => { s with read := v }) s.read ++
    Entry.optional "update" referenceJson (fun s v => { s with update := v }) s.update ++
    Entry.optional "delete" referenceJson (fun s v => { s with delete := v }) s.delete ++
    Entry.optional "list" referenceJson (fun s v => { s with list := v }) s.list ++ [
    .of "operations" (referencesJson s.operations) (fun s v => { s with operations := v })
      s.operations,
    .of "collectionOperations" (referencesJson s.collectionOperations)
      (fun s v => { s with collectionOperations := v }) s.collectionOperations,
    .of "resources" (referencesJson s.resources) (fun s v => { s with resources := v })
      s.resources,
    .of "traits" (traitsJson s.traits) (fun s v => { s with traits := v }) s.traits]

theorem names_entries (s : ResourceShape) :
    (s.entries.map (·.name)).Sublist ["create", "put", "read", "update", "delete", "list",
      "operations", "collectionOperations", "resources", "traits"] := by
  simp only [entries, List.map_append]
  exact ((((((sublist_optional ..).append (sublist_optional ..)).append
    (sublist_optional ..)).append (sublist_optional ..)).append (sublist_optional ..)).append
    (sublist_optional ..)).append (List.Sublist.refl _)

theorem writes_entries (stored : s.IsStored (depth + 1)) (free : Traits.FloatFree s.traits) :
    resourceLayout.Writes (depth + 2) s.entries s where
  fields := by
    simp only [entries, List.forall_mem_append, forall_mem_optional, List.forall_mem_cons]
    refine ⟨⟨⟨⟨⟨⟨fun id hid => ⟨?_, faithful_referenceJson ..⟩,
      fun id hid => ⟨?_, faithful_referenceJson ..⟩⟩,
      fun id hid => ⟨?_, faithful_referenceJson ..⟩⟩,
      fun id hid => ⟨?_, faithful_referenceJson ..⟩⟩,
      fun id hid => ⟨?_, faithful_referenceJson ..⟩⟩,
      fun id hid => ⟨?_, faithful_referenceJson ..⟩⟩,
      ⟨?_, faithful_referencesJson ..⟩, ⟨?_, faithful_referencesJson ..⟩,
      ⟨?_, faithful_referencesJson ..⟩, ⟨?_, faithful_traitsJson stored.traits free⟩, by simp⟩
    · exact decodes_setFrom rfl (asOption_referenceJson (stored.create id hid))
    · exact decodes_setFrom rfl (asOption_referenceJson (stored.put id hid))
    · exact decodes_setFrom rfl (asOption_referenceJson (stored.read id hid))
    · exact decodes_setFrom rfl (asOption_referenceJson (stored.update id hid))
    · exact decodes_setFrom rfl (asOption_referenceJson (stored.delete id hid))
    · exact decodes_setFrom rfl (asOption_referenceJson (stored.list id hid))
    · exact decodes_setFrom rfl (asList_referencesJson stored.operations)
    · exact decodes_setFrom rfl (asList_referencesJson stored.collectionOperations)
    · exact decodes_setFrom rfl (asList_referencesJson stored.resources)
    · exact decodes_setFrom rfl (asTraits_traitsJson stored.traits)
  record := ⟨s.names_entries.nodup (by decide), by simp [resourceLayout, resourceField]⟩
  whole := by
    simp only [entries, setAll_append]
    rw [setAll_optional s.create rfl, setAll_optional s.put rfl, setAll_optional s.read rfl,
      setAll_optional s.update rfl, setAll_optional s.delete rfl, setAll_optional s.list rfl]
    rfl

theorem isStored_of_decode (fits : Fits (depth + 3) v) (h : resourceLayout.decode v = .ok s) :
    s.IsStored (depth + 1) := by
  have start : IsStored (depth + 1) resourceLayout.start := by
    constructor
    case traits => exact Traits.isStored_empty _
    case operations => exact fun id hid => absurd hid List.not_mem_nil
    case collectionOperations => exact fun id hid => absurd hid List.not_mem_nil
    case resources => exact fun id hid => absurd hid List.not_mem_nil
    all_goals
      intro id hid
      cases hid
  obtain ⟨seen, stored, -⟩ := decode_induction (fun _ s => IsStored (depth + 1) s) start
    (by
      simp only [resourceLayout, resourceField, List.forall_mem_cons]
      refine ⟨?_, ?_, ?_, ?_, ?_, ?_, ?_, ?_, ?_, ?_, by simp⟩
      all_goals
        intro seen acc v out known fits read
        obtain ⟨a, ha, rfl⟩ := Except.map_eq_ok_iff.mp read
      · exact { known with create := isValid_of_option fits ha }
      · exact { known with put := isValid_of_option fits ha }
      · exact { known with read := isValid_of_option fits ha }
      · exact { known with update := isValid_of_option fits ha }
      · exact { known with delete := isValid_of_option fits ha }
      · exact { known with list := isValid_of_option fits ha }
      · exact { known with operations := isValid_of_references fits ha }
      · exact { known with collectionOperations := isValid_of_references fits ha }
      · exact { known with resources := isValid_of_references fits ha }
      · exact { known with traits := isStored_of_asTraits fits ha }) fits h
  exact stored

end ResourceShape

/-! ### Structures -/

/-- The structure is written and read again. -/
structure StructureShape.IsStored (depth : Nat) (s : StructureShape) : Prop where
  members : ∀ e ∈ s.members.entries, e.2.IsStored depth
  traits : Traits.IsStored (depth + 2) s.traits

namespace StructureShape

variable {depth : Nat} {v : Json} {s : StructureShape}

/-- The fields of a structure, as they are written. -/
def entries (s : StructureShape) : List (Entry StructureShape) := [
  .of "members" (.object (s.members.entries.map fun e => (e.1, e.2.toJson)))
    (fun s v => { s with members := v }) s.members,
  .of "traits" (traitsJson s.traits) (fun s v => { s with traits := v }) s.traits]

theorem names_entries (s : StructureShape) :
    (s.entries.map (·.name)).Sublist ["members", "traits"] :=
  List.Sublist.refl _

theorem writes_entries (stored : s.IsStored depth)
    (members : ∀ e ∈ s.members.entries, Traits.FloatFree e.2.traits)
    (free : Traits.FloatFree s.traits) :
    structureLayout.Writes (depth + 3) s.entries s where
  fields := by
    simp only [entries, List.forall_mem_cons]
    refine ⟨⟨?_, ?_⟩, ⟨?_, ?_⟩, by simp⟩
    · refine decodes_setFrom rfl (asMap_object id MemberShape.toJson (fun _ _ => rfl) ?_)
      exact fun e he => MemberShape.decode_toJson (stored.members e he)
    · refine faithful_object fun e he => ?_
      obtain ⟨m, hm, rfl⟩ := List.mem_map.mp he
      exact MemberShape.faithful_toJson (stored.members m hm) (members m hm)
    · exact decodes_setFrom rfl (asTraits_traitsJson stored.traits)
    · exact faithful_traitsJson stored.traits free
  record := ⟨s.names_entries.nodup (by decide), by simp [structureLayout]⟩
  whole := rfl

theorem isStored_of_decode (fits : Fits (depth + 4) v) (h : structureLayout.decode v = .ok s) :
    s.IsStored depth := by
  have start : IsStored depth structureLayout.start :=
    ⟨fun e he => absurd he List.not_mem_nil, Traits.isStored_empty _⟩
  obtain ⟨seen, stored, -⟩ := decode_induction (fun _ s => IsStored depth s) start
    (by
      simp only [structureLayout, List.forall_mem_cons]
      refine ⟨?_, ?_, by simp⟩
      all_goals
        intro seen acc v out known fits read
        obtain ⟨a, ha, rfl⟩ := Except.map_eq_ok_iff.mp read
      · refine { known with members := fun e he => ?_ }
        obtain ⟨-, w, hw, read⟩ := exists_of_asMap ha e he
        exact MemberShape.isStored_of_decode (fits.parts w hw) read
      · exact { known with traits := isStored_of_asTraits fits ha }) fits h
  exact stored

end StructureShape

end Cratewright
