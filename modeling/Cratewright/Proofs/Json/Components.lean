/-
What a record takes from each of its fields.

A record that is read from a value has, in each part, what the last field of the part's name
gives, or what it had before any field was read. A list of values stands for the object in which
each value has the name of the field at its place:

* `Json.field?_cons` — the last field of a name;
* `Json.Layout.decode_object_of_list` — lists read as objects;
* `Json.Layout.part_of_decode` — one part of a record.
-/
import Mathlib.Data.List.Nodup
import Cratewright.Proofs.Json.Records

namespace Cratewright.Json

/-! ### Fields of objects -/

section Field

variable {fields : List (String × Json)} {name : String}

/-- A later field of the name hides an earlier one. -/
theorem field?_cons (e : String × Json) (fields : List (String × Json)) (name : String) :
    (object (e :: fields)).field? name
      = ((object fields).field? name).or (if e.1 = name then some e.2 else none) := by
  rw [field?, field?, List.reverse_cons, List.find?_append, List.find?_singleton, Option.map_or]
  by_cases same : e.1 = name <;> simp [same]

theorem field?_eq_none_iff :
    (object fields).field? name = none ↔ ∀ e ∈ fields, e.1 ≠ name := by
  rw [field?, Option.map_eq_none_iff, List.find?_eq_none]
  simp

theorem field?_concat (fields : List (String × Json)) (e : String × Json) (name : String) :
    (object (fields ++ [e])).field? name
      = if e.1 = name then some e.2 else (object fields).field? name := by
  rw [field?, field?, List.reverse_append, List.reverse_singleton, List.singleton_append]
  by_cases same : e.1 = name
  · rw [if_pos same, List.find?_cons_of_pos (by simpa using same)]
    rfl
  · rw [if_neg same, List.find?_cons_of_neg (by simpa using same)]

theorem field?_filter {p : String × Json → Bool} (kept : ∀ v, p (name, v) = true) :
    (object (fields.filter p)).field? name = (object fields).field? name := by
  induction fields with
  | nil => rfl
  | cons e fields ih =>
    rw [field?_cons, List.filter_cons]
    split
    · rw [field?_cons, ih]
    · next dropped =>
      have other : e.1 ≠ name := by
        rintro rfl
        exact dropped (kept e.2)
      rw [ih, if_neg other, Option.or_none]

end Field

namespace Layout

variable {σ ρ : Type} {l : Layout σ (FromValue σ)}

theorem field?_of_mem {l : Layout σ ρ} (nodup : (l.fields.map (·.name)).Nodup) {f : Field σ ρ}
    (h : f ∈ l.fields) : l.field? f.name = some f := by
  cases found : l.field? f.name with
  | none =>
    have other := List.find?_eq_none.mp found f h
    simp at other
  | some g =>
    obtain ⟨mem, same⟩ := field?_eq_some found
    exact congrArg some (List.inj_on_of_nodup_map nodup mem h same)

/-! ### Lists as objects -/

/-- The values of a list with the names of the fields at their places. -/
def positional (fs : List (Field σ ρ)) (items : List Json) : List (String × Json) :=
  (fs.map (·.name)).zip items

theorem foldlM_positional {fs : List (Field σ (FromValue σ))}
    (known : ∀ f ∈ fs, l.field? f.name = some f) (nodup : (fs.map (·.name)).Nodup)
    {items : List Json} {length index : Nat} {acc out : σ} {seen : List String}
    (fresh : ∀ f ∈ fs, f.name ∉ seen)
    (h : l.decodePositions length index fs acc items = .ok out) :
    ∃ all, (positional fs items).foldlM l.decodeField (acc, seen) = .ok (out, all) ∧
      seen ⊆ all ∧ ∀ f ∈ fs, f.required = true → f.name ∈ all := by
  induction fs generalizing items index acc seen with
  | nil =>
    cases items with
    | nil =>
      cases h
      exact ⟨seen, rfl, List.Subset.refl seen, fun f hf => by cases hf⟩
    | cons v items => cases h
  | cons f fs ih =>
    cases items with
    | nil =>
      obtain ⟨_, absent, rfl⟩ := Except.map_eq_ok_iff.mp h
      refine ⟨seen, rfl, List.Subset.refl seen, fun g hg required => ?_⟩
      rw [not_required_of_absent absent g hg] at required
      cases required
    | cons v items =>
      obtain ⟨acc', one, rest⟩ := Except.bind_eq_ok_iff.mp h
      obtain ⟨knownFirst, knownOthers⟩ := List.forall_mem_cons.mp known
      obtain ⟨freshFirst, freshOthers⟩ := List.forall_mem_cons.mp fresh
      obtain ⟨new, nodup⟩ := List.nodup_cons.mp nodup
      -- The names differ, so the first field is no duplicate of those after it.
      have later : ∀ g ∈ fs, g.name ∉ f.name :: seen := by
        intro g hg mem
        rcases List.mem_cons.mp mem with same | mem
        · exact new (List.mem_map.mpr ⟨g, hg, same⟩)
        · exact freshOthers g hg mem
      obtain ⟨all, decoded, more, required⟩ := ih knownOthers nodup later rest
      obtain ⟨mem, more⟩ := List.cons_subset.mp more
      have first : l.decodeField (acc, seen) (f.name, v) = .ok (acc', f.name :: seen) := by
        rw [decodeField, knownFirst]
        dsimp only
        rw [if_neg (by simpa using freshFirst), one]
        rfl
      refine ⟨all, ?_, more, List.forall_mem_cons.mpr ⟨fun _ => mem, required⟩⟩
      show List.foldlM l.decodeField (acc, seen) ((f.name, v) :: positional fs items) = _
      rw [List.foldlM_cons, first]
      exact decoded

theorem decode_object_of_list (nodup : (l.fields.map (·.name)).Nodup) {items : List Json} {out : σ}
    (h : l.decode (.list items) = .ok out) :
    l.decode (.object (positional l.fields items)) = .ok out := by
  have fresh : ∀ f ∈ l.fields, f.name ∉ ([] : List String) := fun f hf => List.not_mem_nil
  obtain ⟨all, decoded, -, required⟩ :=
    foldlM_positional (fun f hf => field?_of_mem nodup hf) nodup fresh h
  show ((positional l.fields items).foldlM l.decodeField (l.start, []) >>= _) = _
  rw [decoded]
  exact l.complete_eq required out

/-! ### One part -/

section Part

variable {α : Type} {part : σ → α} {Q : Json → α → Prop} {name : String}
  (known : ∃ f ∈ l.fields, f.name = name)
  (sets : ∀ f ∈ l.fields, f.name = name → ∀ acc v out, f.read acc v = .ok out → Q v (part out))
  (keeps : ∀ f ∈ l.fields, f.name ≠ name → ∀ acc v out, f.read acc v = .ok out →
    part out = part acc)

include known sets keeps

theorem part_of_decodeField {p q : σ × List String} {e : String × Json}
    (h : l.decodeField p e = .ok q) :
    (e.1 = name → Q e.2 (part q.1)) ∧ (e.1 ≠ name → part q.1 = part p.1) := by
  rw [decodeField] at h
  split at h
  · next none =>
    cases h
    refine ⟨fun same => ?_, fun _ => rfl⟩
    obtain ⟨f, hf, named⟩ := known
    have other := List.find?_eq_none.mp none f hf
    simp [named, same] at other
  · next f found =>
    obtain ⟨mem, same⟩ := field?_eq_some found
    split at h
    · cases h
    · obtain ⟨out, read, rfl⟩ := Except.map_eq_ok_iff.mp h
      constructor
      · intro named
        exact sets f mem (same.trans named) _ _ _ read
      · intro ne
        exact keeps f mem (fun named => ne (same.symm.trans named)) _ _ _ read

theorem part_of_foldlM {fields : List (String × Json)} {p q : σ × List String}
    (h : fields.foldlM l.decodeField p = .ok q) :
    (∀ v, (object fields).field? name = some v → Q v (part q.1)) ∧
      ((object fields).field? name = none → part q.1 = part p.1) := by
  induction fields generalizing p with
  | nil =>
    cases h
    exact ⟨fun v hv => (by cases hv), fun _ => rfl⟩
  | cons e fields ih =>
    rw [List.foldlM_cons] at h
    obtain ⟨r, one, others⟩ := Except.bind_eq_ok_iff.mp h
    obtain ⟨set, kept⟩ := part_of_decodeField known sets keeps one
    obtain ⟨later, left⟩ := ih others
    rw [field?_cons]
    cases found : (object fields).field? name with
    | some w =>
      refine ⟨fun v hv => ?_, fun none => by cases none⟩
      cases hv
      exact later w found
    | none =>
      rw [Option.none_or, left found]
      by_cases named : e.1 = name
      · rw [if_pos named]
        refine ⟨fun v hv => ?_, fun none => by cases none⟩
        cases hv
        exact set named
      · rw [if_neg named]
        exact ⟨fun v hv => (by cases hv), fun _ => kept named⟩

/-- A part of a record that was read from an object is what the last field of its name gives. -/
theorem part_of_decode {fields : List (String × Json)} {out : σ}
    (h : l.decode (.object fields) = .ok out) :
    (∀ v, (object fields).field? name = some v → Q v (part out)) ∧
      ((object fields).field? name = none → part out = part l.start) := by
  obtain ⟨⟨acc, seen⟩, decoded, complete⟩ := Except.bind_eq_ok_iff.mp h
  obtain ⟨rfl, -⟩ := required_of_complete complete
  exact part_of_foldlM known sets keeps decoded

end Part

end Layout

end Cratewright.Json
