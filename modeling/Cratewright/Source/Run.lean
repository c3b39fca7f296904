/-
Runs that collect what services need.

Each service is committed with its finished texts: the fragments that they need are
registered, and the crates merged. `Run.finish?` writes the fragments. A fragment can bring
in others, which are written in the next round, until no fragment is left. There is no
outcome if the fragments go on bringing in new keys for ever: `Progress.complete` carries
the rounds out where they come to an end.

Several parties can share a run. `SharedRun.replay` carries out their steps one after the other.
-/
import Cratewright.Crate.DependencySet
import Cratewright.Source.Registry

namespace Cratewright

/-- What the services committed so far need. -/
structure Run (φ : Type) where
  fragments : Registry φ := .empty
  dependencies : DependencySet := .empty
  /-- The services, in the order of their commits. -/
  services : List ShapeId := []

/-- A module of fragments with its text. -/
structure WrittenModule where
  home : SourceModule
  contents : String
deriving DecidableEq

/-- The outcome of a run. -/
structure RunOutput where
  /-- The modules, in the order of their paths. -/
  modules : List WrittenModule
  dependencies : DependencySet
deriving DecidableEq

namespace Run

variable {φ : Type}

/-- The run that nothing was committed to. -/
def empty : Run φ := {}

/-- Everything so far, and the run that starts anew. -/
def take (r : Run φ) : Run φ × Run φ := (r, empty)

variable [FragmentKind φ]

/-- Takes in a requirement. -/
def absorb (r : Run φ) : Requirement φ → Except Error (Run φ)
  | .crate d => (r.dependencies.add d).map fun dependencies => { r with dependencies }
  | .fragment f => .ok { r with fragments := r.fragments.add f }

/-- Takes in requirements one after the other. -/
def absorbAll (r : Run φ) (rs : List (Requirement φ)) : Except Error (Run φ) :=
  rs.foldlM absorb r

/-- Takes in what the texts of a service need. -/
def commit (r : Run φ) (service : ShapeId) (outputs : List (Output φ)) :
    Except Error (Run φ) := do
  let r ← r.absorbAll (outputs.flatMap (·.requirements))
  return { r with services := r.services ++ [service] }

/-! ### Writing the fragments -/

/-- A run some of whose fragments have been written. -/
structure Progress (φ : Type) where
  run : Run φ
  /-- The texts of the fragments that have been written. -/
  written : SortedMap FragmentKey String := ∅

namespace Progress

/-- The fragments that have not been written, in key order. -/
def pending (p : Progress φ) : List φ :=
  p.run.fragments.toList.filter fun f => ! p.written.contains (FragmentKind.key f)

/-- Writes a fragment and takes in what it needs. -/
def write (p : Progress φ) (f : φ) : Except Error (Progress φ) := do
  let output ← render (FragmentKind.body f)
  let run ← p.run.absorbAll output.requirements
  let run ← run.absorbAll (FragmentKind.extra f)
  return { run, written := p.written.insert (FragmentKind.key f) output.contents }

/-- `q` is where the round leads to that starts from `p`. -/
def Next (q p : Progress φ) : Prop := p.pending ≠ [] ∧ p.pending.foldlM write p = .ok q

/-- The rounds that start from a state come to an end. -/
def Ends (p : Progress φ) : Prop := Acc Next p

instance : WellFoundedRelation { p : Progress φ // p.Ends } where
  rel := InvImage Next Subtype.val
  wf := ⟨fun p => InvImage.accessible Subtype.val p.2⟩

/-- Writes what is pending, round after round, until nothing is. -/
def complete (p : Progress φ) (ends : p.Ends) : Except Error (Progress φ) :=
  match hp : p.pending with
  | [] => .ok p
  | f :: fs =>
    match hq : (f :: fs).foldlM write p with
    | .error e => .error e
    | .ok q =>
      have next : Next q p := by
        rw [Next, hp]
        exact ⟨List.cons_ne_nil f fs, hq⟩
      complete q (ends.inv next)
termination_by (⟨p, ends⟩ : { p : Progress φ // p.Ends })
decreasing_by exact next

open Classical in
/-- What the rounds come to, if they come to an end. -/
noncomputable def complete? (p : Progress φ) : Option (Except Error (Progress φ)) :=
  if ends : p.Ends then some (p.complete ends) else none

theorem isSome_complete?_iff {p : Progress φ} : p.complete?.isSome ↔ p.Ends := by
  rw [complete?]
  split
  · exact iff_of_true rfl ‹_›
  · exact iff_of_false (fun h => by cases h) ‹_›

theorem complete?_of_idle {p : Progress φ} (h : p.pending = []) :
    p.complete? = some (.ok p) := by
  have ends : p.Ends := ⟨_, fun q next => absurd h next.1⟩
  rw [complete?, dif_pos ends, complete]
  split
  · rfl
  · rename_i hp
    rw [h] at hp
    cases hp

theorem complete?_of_error {p : Progress φ} {e : Error} (h : p.pending ≠ [])
    (he : p.pending.foldlM write p = .error e) : p.complete? = some (.error e) := by
  have ends : p.Ends := by
    constructor
    rintro q ⟨_, hq⟩
    rw [he] at hq
    cases hq
  rw [complete?, dif_pos ends, complete]
  split
  · rename_i hp
    exact absurd hp h
  · rename_i hp
    rw [hp] at he
    split
    · rename_i hq
      rw [he] at hq
      exact congrArg some hq.symm
    · rename_i hq
      rw [he] at hq
      cases hq

theorem complete?_of_ok {p q : Progress φ} (h : p.pending ≠ [])
    (hq : p.pending.foldlM write p = .ok q) : p.complete? = q.complete? := by
  -- The round from `p` leads to `q` and nowhere else.
  have iff : p.Ends ↔ q.Ends := by
    constructor
    · intro ends
      exact ends.inv ⟨h, hq⟩
    · intro ends
      constructor
      rintro q' ⟨_, hq'⟩
      rw [hq] at hq'
      cases hq'
      exact ends
  rw [complete?, complete?]
  by_cases ends : p.Ends
  · rw [dif_pos ends, dif_pos (iff.mp ends), complete]
    split
    · rename_i hp
      exact absurd hp h
    · rename_i hp
      rw [hp] at hq
      split
      · rename_i he
        rw [hq] at he
        cases he
      · rename_i hq'
        rw [hq] at hq'
        cases hq'
        rfl
  · rw [dif_neg ends, dif_neg (ends ∘ iff.mpr)]

/-- What holds where the rounds end, and carries over from a round's end to its start, holds
of every outcome. -/
theorem complete?_induction {motive : Progress φ → Except Error (Progress φ) → Prop}
    (idle : ∀ p, p.pending = [] → motive p (.ok p))
    (error : ∀ p e, p.pending.foldlM write p = .error e → motive p (.error e))
    (round : ∀ p q o, p.pending.foldlM write p = .ok q → motive q o → motive p o)
    {p : Progress φ} {o : Except Error (Progress φ)} (h : p.complete? = some o) :
    motive p o := by
  have ends : p.Ends := by
    rw [← isSome_complete?_iff, h]
    rfl
  induction ends with
  | intro p _ ih =>
    by_cases none : p.pending = []
    · rw [complete?_of_idle none, Option.some_inj] at h
      exact h ▸ idle p none
    · cases hq : p.pending.foldlM write p with
      | error e =>
        rw [complete?_of_error none hq, Option.some_inj] at h
        exact h ▸ error p e hq
      | ok q =>
        rw [complete?_of_ok none hq] at h
        exact round p q o hq (ih q ⟨none, hq⟩ h)

/-- The modules of the fragments, with the texts that have been written. -/
def modules (p : Progress φ) : List WrittenModule :=
  p.run.fragments.byModule.map fun (home, members) =>
    { home
      contents := "\n".intercalate
        (members.filterMap fun f => p.written.find? (FragmentKind.key f)) }

/-- What a run has come to when its fragments have been written. -/
def output (p : Progress φ) : RunOutput where
  modules := p.modules
  dependencies := p.run.dependencies

end Progress

/-- Writes every fragment, also those that other fragments bring in. -/
noncomputable def finish? (r : Run φ) : Option (Except Error RunOutput) :=
  (Progress.complete? { run := r }).map (·.map Progress.output)

end Run

/-! ### Sharing a run -/

section Sharing

variable {φ : Type}

/-- A step of a party that shares a run. -/
inductive SharedAction (φ : Type) where
  /-- A service is committed with its texts. -/
  | commit (service : ShapeId) (outputs : List (Output φ))
  /-- The run is copied. -/
  | snapshot
  /-- The run is taken, and starts anew. -/
  | take

/-- What a step commits. -/
def SharedAction.commit? : SharedAction φ → Option (ShapeId × List (Output φ))
  | commit service outputs => some (service, outputs)
  | snapshot | take => none

/-- A run that is shared, with the runs that were taken from it in their order. -/
structure SharedRun (φ : Type) where
  taken : List (Run φ) := []
  current : Run φ := .empty

namespace SharedRun

/-- The runs that were taken, and the one that is left. -/
def runs (s : SharedRun φ) : List (Run φ) := s.taken ++ [s.current]

variable [FragmentKind φ]

/-- Carries out a step. -/
def act (s : SharedRun φ) : SharedAction φ → Except Error (SharedRun φ)
  | .commit service outputs =>
    (s.current.commit service outputs).map fun current => { s with current }
  | .snapshot => .ok s
  | .take =>
    let (taken, left) := s.current.take
    .ok { taken := s.taken ++ [taken], current := left }

/-- Where steps lead to. -/
def replay (actions : List (SharedAction φ)) : Except Error (SharedRun φ) :=
  actions.foldlM act {}

end SharedRun

end Sharing

end Cratewright
