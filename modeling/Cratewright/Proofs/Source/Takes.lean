/-
Runs that are shared and taken.

Several parties commit to one run, copy it, and now and then take what it has come to, so
that it starts anew. Since each step is carried out as a whole, what happens is a sequence of
steps, and it cuts the commits into parts: those of each run that was taken, and those of the
run that is left:

* `SharedRun.Parts.act` — a step keeps the parts in their order, and none is lost or doubled;
* `DependencySet.extendAll_of_gathers` — sets that gather parts, put together in any order,
  gather the whole;
* `SharedRun.runs_of_replay` — the runs together are the one run that received all commits.
-/
import Mathlib.Data.List.Perm.Basic
import Cratewright.Proofs.Source.CommitOrder

namespace Cratewright

/-! ### Sets of parts -/

namespace DependencySet

/-- Adds every dependency of sets, one set after the other. -/
def extendAll (s : DependencySet) (ts : List DependencySet) : Except Error DependencySet :=
  ts.foldlM extend s

/-- Sets that gather parts gather the whole when they are put together. -/
theorem Gathers.extendAll {s : DependencySet} {ds : List CrateDependency} (h : s.Gathers ds)
    {ts : List DependencySet} {parts : List (List CrateDependency)}
    (hts : List.Forall₂ Gathers ts parts) :
    ∃ u, s.extendAll ts = .ok u ∧ u.Gathers (ds ++ parts.flatten) := by
  induction hts generalizing s ds with
  | nil => exact ⟨s, rfl, by rwa [List.flatten_nil, List.append_nil]⟩
  | cons ht _ ih =>
    obtain ⟨t, hst, hgt⟩ := h.extend ht
    obtain ⟨u, hu, hgu⟩ := ih hgt
    refine ⟨u, ?_, ?_⟩
    · rw [DependencySet.extendAll, List.foldlM_cons, hst]
      exact hu
    · rwa [List.flatten_cons, ← List.append_assoc]

/-- In whatever order sets that gather parts are put together, they make up the set that
gathers the whole. -/
theorem extendAll_of_gathers {u : DependencySet} {ts us : List DependencySet}
    {parts : List (List CrateDependency)} (hu : u.Gathers parts.flatten)
    (hus : List.Forall₂ Gathers us parts) (perm : ts.Perm us) :
    empty.extendAll ts = .ok u := by
  -- The parts are put into the order of the sets.
  obtain ⟨reordered, hts, hparts⟩ := List.perm_comp_forall₂ perm hus
  obtain ⟨v, hv, hgv⟩ := gathers_empty.extendAll hts
  rw [hv, hgv.unique (hu.congr fun d => ?_)]
  exact hparts.flatten.mem_iff.symm

end DependencySet

/-! ### The parts of a shared run -/

variable {φ : Type} [FragmentKind φ]

theorem Run.Gathers.mem_keys_iff {r : Run φ} {log : List (Requirement φ)} (h : r.Gathers log)
    {k : FragmentKey} :
    k ∈ r.fragments.keys ↔ ∃ f, .fragment f ∈ log ∧ FragmentKind.key f = k := by
  have found : k ∈ r.fragments.keys ↔ ∃ f, Requirement.first log k = some f := by
    rw [Registry.keys, SortedMap.mem_keys_iff]
    exact exists_congr fun f => by rw [← h.fragments k]; rfl
  rw [found]
  constructor
  · rintro ⟨f, hf⟩
    exact ⟨f, Requirement.mem_of_first hf, Requirement.key_of_first hf⟩
  · rintro ⟨f, hf, rfl⟩
    exact Requirement.exists_first hf

namespace SharedRun

/-- The runs gather the parts that the commits are cut into, and list their services. -/
structure Parts (s : SharedRun φ) (commits : List (ShapeId × List (Output φ))) : Prop where
  gathers : ∃ parts last, List.Forall₂ Run.Gathers s.taken parts ∧ s.current.Gathers last ∧
    parts.flatten ++ last = Run.committed commits
  services : s.runs.flatMap Run.services = commits.map Prod.fst

variable {s : SharedRun φ} {commits : List (ShapeId × List (Output φ))}

theorem parts_empty : Parts ({} : SharedRun φ) [] where
  gathers := ⟨[], [], .nil, Run.gathers_empty, rfl⟩
  services := rfl

/-- What is committed joins the last part. -/
theorem Parts.commit (h : s.Parts commits) (service : ShapeId) (outputs : List (Output φ)) :
    ∃ t, s.act (.commit service outputs) = .ok t ∧ t.Parts (commits ++ [(service, outputs)]) := by
  obtain ⟨parts, last, htaken, hcurrent, whole⟩ := h.gathers
  obtain ⟨r, hr, hgr, hservices⟩ := hcurrent.commit service outputs
  refine ⟨{ s with current := r }, by rw [act, hr]; rfl, ?_, ?_⟩
  · refine ⟨parts, _, htaken, hgr, ?_⟩
    rw [← List.append_assoc, whole, Run.committed, Run.committed, List.flatMap_append,
      List.flatMap_singleton]
  · have services := h.services
    rw [runs, List.flatMap_append, List.flatMap_singleton] at services ⊢
    rw [hservices, ← List.append_assoc, services, List.map_append]
    rfl

/-- A run that is taken has gathered the last part, and the next part is empty so far. -/
theorem Parts.take (h : s.Parts commits) :
    ∃ t, s.act .take = .ok t ∧ t.Parts commits := by
  obtain ⟨parts, last, htaken, hcurrent, whole⟩ := h.gathers
  refine ⟨{ taken := s.runs, current := .empty }, rfl, ?_, ?_⟩
  · refine ⟨parts ++ [last], [], List.rel_append htaken (.cons hcurrent .nil),
      Run.gathers_empty, ?_⟩
    rw [List.flatten_append, List.flatten_singleton, List.append_nil, whole]
  · rw [← h.services]
    show (s.runs ++ [Run.empty]).flatMap Run.services = _
    rw [List.flatMap_append, List.flatMap_singleton]
    exact List.append_nil _

/-- A step never fails, and the parts are those before with what it commits. -/
theorem Parts.act (h : s.Parts commits) (a : SharedAction φ) :
    ∃ t, s.act a = .ok t ∧ t.Parts (commits ++ a.commit?.toList) := by
  cases a with
  | commit service outputs => exact h.commit service outputs
  | snapshot => exact ⟨s, rfl, (List.append_nil commits).symm ▸ h⟩
  | take =>
    rw [SharedAction.commit?, Option.toList_none, List.append_nil]
    exact h.take

theorem Parts.actAll (h : s.Parts commits) (actions : List (SharedAction φ)) :
    ∃ t, actions.foldlM SharedRun.act s = .ok t ∧
      t.Parts (commits ++ actions.filterMap SharedAction.commit?) := by
  induction actions generalizing s commits with
  | nil => exact ⟨s, rfl, (List.append_nil commits).symm ▸ h⟩
  | cons a actions ih =>
    obtain ⟨t, ht, hpt⟩ := h.act a
    obtain ⟨u, hu, hpu⟩ := ih hpt
    refine ⟨u, ?_, ?_⟩
    · rw [List.foldlM_cons, ht]
      exact hu
    · have commits : (a :: actions).filterMap SharedAction.commit?
          = a.commit?.toList ++ actions.filterMap SharedAction.commit? := by
        rw [List.filterMap_cons]
        cases a.commit? <;> rfl
      rwa [commits, ← List.append_assoc]

theorem Parts.forall₂_runs (h : s.Parts commits) :
    ∃ parts, List.Forall₂ Run.Gathers s.runs parts ∧ parts.flatten = Run.committed commits := by
  obtain ⟨parts, last, htaken, hcurrent, whole⟩ := h.gathers
  refine ⟨parts ++ [last], List.rel_append htaken (.cons hcurrent .nil), ?_⟩
  rw [List.flatten_append, List.flatten_singleton, whole]

/-- The keys of the parts are those of the whole. -/
theorem Parts.mem_keys_iff (h : s.Parts commits) {r : Run φ}
    (hr : r.Gathers (Run.committed commits)) (k : FragmentKey) :
    k ∈ r.fragments.keys ↔ ∃ part ∈ s.runs, k ∈ part.fragments.keys := by
  obtain ⟨parts, hparts, whole⟩ := h.forall₂_runs
  rw [hr.mem_keys_iff, ← whole]
  clear hr whole
  generalize s.runs = rs at hparts ⊢
  induction hparts with
  | nil => simp
  | cons hpart _ ih =>
    rw [List.flatten_cons, List.exists_mem_cons_iff, ← ih, hpart.mem_keys_iff, ← exists_or]
    refine exists_congr fun f => ?_
    rw [List.mem_append, or_and_right]

/-- In whatever order they are put together, the dependencies of the parts are those of the
whole. -/
theorem Parts.extendAll (h : s.Parts commits) {r : Run φ}
    (hr : r.Gathers (Run.committed commits)) {rs : List (Run φ)} (perm : rs.Perm s.runs) :
    DependencySet.empty.extendAll (rs.map Run.dependencies) = .ok r.dependencies := by
  obtain ⟨parts, hparts, whole⟩ := h.forall₂_runs
  have gathers : List.Forall₂ DependencySet.Gathers (s.runs.map Run.dependencies)
      (parts.map Requirement.crates) := by
    rw [List.forall₂_map_left_iff, List.forall₂_map_right_iff]
    exact hparts.imp fun _ _ h => h.dependencies
  refine DependencySet.extendAll_of_gathers ?_ gathers (perm.map _)
  have crates : (parts.map Requirement.crates).flatten = Requirement.crates parts.flatten :=
    (List.filterMap_flatten ..).symm
  rw [crates, whole]
  exact hr.dependencies

/-- **Nothing is lost between takes.**  Steps of parties that share a run never fail. The runs
that were taken, with the one that is left, list the services in the order of their commits,
each once; they have the fragment keys of the one run that received all the commits; and their
dependencies, put together in any order, are the dependencies of that run. -/
theorem runs_of_replay (actions : List (SharedAction φ)) :
    ∃ s r, replay actions = .ok s ∧
      Run.empty.commitAll (actions.filterMap SharedAction.commit?) = .ok r ∧
      r.services = (actions.filterMap SharedAction.commit?).map Prod.fst ∧
      s.runs.flatMap Run.services = r.services ∧
      (∀ k, k ∈ r.fragments.keys ↔ ∃ part ∈ s.runs, k ∈ part.fragments.keys) ∧
      ∀ rs : List (Run φ), rs.Perm s.runs →
        DependencySet.empty.extendAll (rs.map Run.dependencies) = .ok r.dependencies := by
  obtain ⟨s, hs, parts⟩ := parts_empty.actAll actions
  obtain ⟨r, hr, hgr, hservices⟩ :=
    Run.gathers_empty.commitAll (actions.filterMap SharedAction.commit?)
  rw [List.nil_append] at hgr parts
  have services : r.services = (actions.filterMap SharedAction.commit?).map Prod.fst := hservices
  exact ⟨s, r, hs, hr, services, parts.services.trans services.symm, parts.mem_keys_iff hgr,
    fun _ perm => parts.extendAll hgr perm⟩

end SharedRun

end Cratewright
