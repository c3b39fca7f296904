/-
Histories of runs.

A run gathers requirements if it holds, under each key, the first fragment that they ask
for, and its set of dependencies gathers their crates. Services are committed, fragments
registered, and fragments written in such a way that what is asked for is only ever added
at the end:

* `Run.Gathers.absorbAll` — taking in requirements never fails, and the run gathers them;
* `Run.Gathers.act` — nor does a step of a history;
* `Run.exists_replay` — every history leads to a run that gathers what was asked for.
-/
import Cratewright.Proofs.Crate.Merge
import Cratewright.Proofs.Source.Layout
import Cratewright.Source.Ending

namespace Cratewright

variable {φ : Type}

namespace Requirement

theorem crates_append (rs qs : List (Requirement φ)) :
    crates (rs ++ qs) = crates rs ++ crates qs :=
  List.filterMap_append

theorem fragments_append (rs qs : List (Requirement φ)) :
    fragments (rs ++ qs) = fragments rs ++ fragments qs :=
  List.filterMap_append

theorem mem_crates_iff {rs : List (Requirement φ)} {d : CrateDependency} :
    d ∈ crates rs ↔ .crate d ∈ rs := by
  rw [crates, List.mem_filterMap]
  constructor
  · rintro ⟨r, hr, h⟩
    cases r with
    | crate e => exact Option.some.inj h ▸ hr
    | fragment f => cases h
  · exact fun h => ⟨_, h, rfl⟩

variable [FragmentKind φ]

/-- The first fragment that requirements ask for under a key. -/
def first (rs : List (Requirement φ)) (k : FragmentKey) : Option φ :=
  (fragments rs).find? fun f => FragmentKind.key f == k

theorem first_append (rs qs : List (Requirement φ)) (k : FragmentKey) :
    first (rs ++ qs) k = (first rs k).or (first qs k) := by
  rw [first, fragments_append, List.find?_append]
  rfl

theorem key_of_first {rs : List (Requirement φ)} {k : FragmentKey} {f : φ}
    (h : first rs k = some f) : FragmentKind.key f = k := by
  have found := List.find?_some h
  exact beq_iff_eq.mp found

theorem mem_of_first {rs : List (Requirement φ)} {k : FragmentKey} {f : φ}
    (h : first rs k = some f) : .fragment f ∈ rs :=
  mem_fragments_iff.mp (List.mem_of_find?_eq_some h)

theorem exists_first {rs : List (Requirement φ)} {f : φ} (h : .fragment f ∈ rs) :
    ∃ g, first rs (FragmentKind.key f) = some g := by
  rw [← Option.isSome_iff_exists, first, List.find?_isSome]
  exact ⟨f, mem_fragments_iff.mpr h, beq_self_eq_true _⟩

/-- What is first stays first, whatever is asked for later. -/
theorem first_append_of_first {rs : List (Requirement φ)} {k : FragmentKey} {f : φ}
    (h : first rs k = some f) (qs : List (Requirement φ)) : first (rs ++ qs) k = some f := by
  rw [first_append, h, Option.some_or]

end Requirement

variable [FragmentKind φ]

/-! ### What a run gathers -/

namespace Run

/-- The run holds the first fragments under their keys, and the merged crates. -/
structure Gathers (r : Run φ) (log : List (Requirement φ)) : Prop where
  fragments : ∀ k, r.fragments.get? k = Requirement.first log k
  dependencies : r.dependencies.Gathers (Requirement.crates log)

variable {r : Run φ} {log : List (Requirement φ)}

theorem gathers_empty : (empty : Run φ).Gathers [] where
  fragments _ := rfl
  dependencies := DependencySet.gathers_empty

theorem Gathers.keyed (h : r.Gathers log) : r.fragments.Keyed := by
  intro k f hf
  rw [h.fragments] at hf
  exact Requirement.key_of_first hf

theorem Gathers.mem_toList_iff (h : r.Gathers log) {f : φ} :
    f ∈ r.fragments.toList ↔ Requirement.first log (FragmentKind.key f) = some f := by
  rw [h.keyed.mem_toList_iff, h.fragments]

theorem Gathers.register (h : r.Gathers log) (f : φ) :
    ({ r with fragments := r.fragments.add f } : Run φ).Gathers (log ++ [.fragment f]) where
  fragments k := by
    rw [Requirement.first_append, ← h.fragments]
    exact Registry.get?_foldl_add [f] r.fragments k
  dependencies := by
    rw [Requirement.crates_append]
    exact (List.append_nil (Requirement.crates log)).symm ▸ h.dependencies

/-- Taking in requirements never fails, and the run gathers them. -/
theorem Gathers.absorbAll (h : r.Gathers log) (rs : List (Requirement φ)) :
    ∃ s, r.absorbAll rs = .ok s ∧ s.Gathers (log ++ rs) ∧ s.services = r.services := by
  -- Merging the crates is all that could fail.
  obtain ⟨dependencies, hs, hgs⟩ := h.dependencies.addAll (Requirement.crates rs)
  rw [absorbAll_eq, hs]
  refine ⟨_, rfl, ⟨fun k => ?_, ?_⟩, rfl⟩
  · rw [Requirement.first_append, ← h.fragments]
    exact Registry.get?_foldl_add (Requirement.fragments rs) r.fragments k
  · rw [Requirement.crates_append]
    exact hgs

/-- A run that gathers requirements mentions only what they mention. -/
theorem Gathers.mentioned (h : r.Gathers log) {f : φ}
    (hf : Mentioned (r.fragments.toList.map .fragment) f) : Mentioned log f := by
  induction hf with
  | asked hf =>
    obtain ⟨g, hg, heq⟩ := List.mem_map.mp hf
    cases heq
    exact .asked (Requirement.mem_of_first (h.mem_toList_iff.mp hg))
  | needed _ hg ih => exact ih.needed hg

end Run

/-! ### Histories -/

/-- A step in the history of a run. -/
inductive Action (φ : Type) where
  /-- A service is committed with its texts. -/
  | commit (service : ShapeId) (outputs : List (Output φ))
  /-- A fragment is registered on its own. -/
  | register (f : φ)
  /-- A fragment is registered for the path to what stands under its key. -/
  | registerOrReuse (f : φ)

namespace Action

omit [FragmentKind φ]

/-- What a step asks for. -/
def requirements : Action φ → List (Requirement φ)
  | commit _ outputs => outputs.flatMap (·.requirements)
  | register f | registerOrReuse f => [.fragment f]

/-- The services that a step commits. -/
def services : Action φ → List ShapeId
  | commit service _ => [service]
  | register _ | registerOrReuse _ => []

end Action

namespace Run

/-- Carries out a step of a history. -/
def act (r : Run φ) : Action φ → Except Error (Run φ)
  | .commit service outputs => r.commit service outputs
  | .register f => .ok { r with fragments := (r.fragments.register f).2 }
  | .registerOrReuse f => .ok { r with fragments := (r.fragments.registerOrReuse f).2 }

/-- The run that a history leads to. -/
def replay (actions : List (Action φ)) : Except Error (Run φ) := actions.foldlM act empty

variable {r : Run φ} {log : List (Requirement φ)}

theorem Gathers.commit (h : r.Gathers log) (service : ShapeId) (outputs : List (Output φ)) :
    ∃ s, r.commit service outputs = .ok s ∧
      s.Gathers (log ++ outputs.flatMap (·.requirements)) ∧
      s.services = r.services ++ [service] := by
  obtain ⟨s, hs, hgs, hservices⟩ := h.absorbAll (outputs.flatMap (·.requirements))
  refine ⟨{ s with services := s.services ++ [service] }, ?_, ⟨hgs.fragments, hgs.dependencies⟩,
    by rw [hservices]⟩
  rw [Run.commit, hs]
  rfl

/-- A step of a history never fails, and the run gathers what it asks for. -/
theorem Gathers.act (h : r.Gathers log) (a : Action φ) :
    ∃ s, r.act a = .ok s ∧ s.Gathers (log ++ a.requirements) ∧
      s.services = r.services ++ a.services := by
  cases a with
  | commit service outputs => exact h.commit service outputs
  | register f => exact ⟨_, rfl, h.register f, (List.append_nil _).symm⟩
  | registerOrReuse f => exact ⟨_, rfl, h.register f, (List.append_nil _).symm⟩

theorem Gathers.actAll (h : r.Gathers log) (actions : List (Action φ)) :
    ∃ s, actions.foldlM Run.act r = .ok s ∧
      s.Gathers (log ++ actions.flatMap Action.requirements) ∧
      s.services = r.services ++ actions.flatMap Action.services := by
  induction actions generalizing r log with
  | nil => exact ⟨r, rfl, (List.append_nil log).symm ▸ h, (List.append_nil _).symm⟩
  | cons a actions ih =>
    obtain ⟨s, hs, hgs, hservices⟩ := h.act a
    obtain ⟨t, ht, hgt, htservices⟩ := ih hgs
    refine ⟨t, ?_, ?_, ?_⟩
    · rw [List.foldlM_cons, hs]
      exact ht
    · rw [List.flatMap_cons, ← List.append_assoc]
      exact hgt
    · rw [htservices, hservices, List.flatMap_cons, List.append_assoc]

/-- Every history leads to a run that gathers what was asked for. -/
theorem exists_replay (actions : List (Action φ)) :
    ∃ r, replay actions = .ok r ∧ r.Gathers (actions.flatMap Action.requirements) ∧
      r.services = actions.flatMap Action.services :=
  gathers_empty.actAll actions

end Run

end Cratewright
