/-
When writing the fragments of a run comes to an end.

Requirements mention the fragments that they ask for, the fragments that those need, and so
on. Every round writes keys that were not written before, and all of them are keys of
mentioned fragments:

* `Run.absorbAll_eq` says what taking in requirements does to a run;
* `Run.isSome_finish?`: a run has an outcome if its fragments mention finitely many keys.
-/
import Cratewright.Outcome
import Cratewright.Source.Run

namespace Cratewright

variable {φ : Type}

/-! ### The crates and the fragments among requirements -/

namespace Requirement

/-- The crate that is asked for. -/
def crate? : Requirement φ → Option CrateDependency
  | .crate d => some d
  | .fragment _ => none

/-- The fragment that is asked for. -/
def fragment? : Requirement φ → Option φ
  | .crate _ => none
  | .fragment f => some f

/-- The crates that are asked for, in order. -/
def crates (rs : List (Requirement φ)) : List CrateDependency := rs.filterMap crate?

/-- The fragments that are asked for, in order. -/
def fragments (rs : List (Requirement φ)) : List φ := rs.filterMap fragment?

theorem mem_fragments_iff {rs : List (Requirement φ)} {f : φ} :
    f ∈ fragments rs ↔ .fragment f ∈ rs := by
  rw [fragments, List.mem_filterMap]
  constructor
  · rintro ⟨_ | g, h, hg⟩
    · cases hg
    · cases hg
      exact h
  · intro h
    exact ⟨_, h, rfl⟩

end Requirement

variable [FragmentKind φ]

/-- The fragments that requirements mention: those they ask for, and what those need. -/
inductive Mentioned (rs : List (Requirement φ)) : φ → Prop where
  | asked {f : φ} : .fragment f ∈ rs → Mentioned rs f
  | needed {f g : φ} : Mentioned rs f → .fragment g ∈ FragmentKind.needs f → Mentioned rs g

namespace Run

theorem absorbAll_append (r : Run φ) (rs qs : List (Requirement φ)) :
    r.absorbAll (rs ++ qs) = r.absorbAll rs >>= (absorbAll · qs) :=
  List.foldlM_append

/-- Taking in requirements merges their crates and registers their fragments. -/
theorem absorbAll_eq (r : Run φ) (rs : List (Requirement φ)) :
    r.absorbAll rs = (r.dependencies.addAll (Requirement.crates rs)).map fun dependencies =>
      { r with
        fragments := (Requirement.fragments rs).foldl Registry.add r.fragments
        dependencies } := by
  induction rs generalizing r with
  | nil => rfl
  | cons q rs ih =>
    cases q with
    | crate d =>
      show (r.absorb (.crate d)).bind (absorbAll · rs)
        = ((r.dependencies.add d).bind (DependencySet.addAll · (Requirement.crates rs))).map _
      rw [absorb]
      cases r.dependencies.add d with
      | error e => rfl
      | ok s => exact ih _
    | fragment f => exact ih { r with fragments := r.fragments.add f }

theorem fragments_of_absorbAll {r s : Run φ} {rs : List (Requirement φ)}
    (h : r.absorbAll rs = .ok s) :
    s.fragments = (Requirement.fragments rs).foldl Registry.add r.fragments := by
  rw [absorbAll_eq] at h
  obtain ⟨d, _, rfl⟩ := Except.map_eq_ok_iff.mp h
  rfl

namespace Progress

/-- Writing a fragment fails with the error of its script. Otherwise its needs are taken in
and its text is kept. -/
theorem write_eq (p : Progress φ) (f : φ) :
    p.write f =
      match (FragmentKind.written f).error with
      | some e => .error e
      | none => (p.run.absorbAll (FragmentKind.needs f)).map fun run =>
          { run
            written := p.written.insert (FragmentKind.key f)
              (FragmentKind.written f).contents } := by
  show (FragmentKind.written f).finish >>= _ = _
  rw [Writer.finish, FragmentKind.needs, absorbAll_append]
  cases (FragmentKind.written f).error with
  | some e => rfl
  | none =>
    show p.run.absorbAll (FragmentKind.written f).requirements >>= _
      = Except.map _ (p.run.absorbAll (FragmentKind.written f).requirements >>= _)
    cases p.run.absorbAll (FragmentKind.written f).requirements with
    | error e => rfl
    | ok r =>
      show r.absorbAll (FragmentKind.extra f) >>= _ = Except.map _ (r.absorbAll _)
      cases r.absorbAll (FragmentKind.extra f) <;> rfl

/-! ### The end of the rounds -/

/-- What keeps the rounds within bounds: only mentioned fragments are registered. -/
def Within (rs : List (Requirement φ)) (p : Progress φ) : Prop :=
  ∀ f ∈ p.run.fragments.toList, Mentioned rs f

theorem mentioned_of_pending {rs : List (Requirement φ)} {p : Progress φ} (h : p.Within rs)
    {f : φ} (hf : f ∈ p.pending) : Mentioned rs f :=
  h f (List.mem_filter.mp hf).1

theorem Within.write {rs : List (Requirement φ)} {p q : Progress φ} {f : φ}
    (h : p.Within rs) (hf : Mentioned rs f) (hq : p.write f = .ok q) : q.Within rs := by
  rw [write_eq] at hq
  split at hq
  · cases hq
  · obtain ⟨r, hr, rfl⟩ := Except.map_eq_ok_iff.mp hq
    intro g hg
    rw [fragments_of_absorbAll hr] at hg
    obtain ⟨k, hk⟩ := Registry.mem_toList_iff.mp hg
    rw [Registry.get?_foldl_add] at hk
    rcases Option.or_eq_some_iff.mp hk with hk | ⟨_, hk⟩
    · exact h g (Registry.mem_toList_iff.mpr ⟨k, hk⟩)
    · exact hf.needed (Requirement.mem_fragments_iff.mp (List.mem_of_find?_eq_some hk))

theorem contains_of_write {p q : Progress φ} {f : φ} (hq : p.write f = .ok q)
    (k : FragmentKey) :
    q.written.contains k = (decide (k = FragmentKind.key f) || p.written.contains k) := by
  rw [write_eq] at hq
  split at hq
  · cases hq
  · obtain ⟨r, _, rfl⟩ := Except.map_eq_ok_iff.mp hq
    show (SortedMap.find? _ k).isSome = _
    rw [SortedMap.find?_insert]
    by_cases hk : k = FragmentKind.key f
    · simp [hk]
    · simp [hk, SortedMap.contains]

/-- A round stays within bounds, writes all that it sets out to, and forgets nothing. -/
theorem round {rs : List (Requirement φ)} : ∀ {fs : List φ} {p q : Progress φ},
    p.Within rs → (∀ f ∈ fs, Mentioned rs f) → fs.foldlM write p = .ok q →
      q.Within rs ∧ (∀ k, p.written.contains k → q.written.contains k) ∧
        ∀ f ∈ fs, q.written.contains (FragmentKind.key f)
  | [], p, q, hp, _, hq => by
    cases hq
    exact ⟨hp, fun _ hk => hk, fun _ hf => by cases hf⟩
  | f :: fs, p, q, hp, hfs, hq => by
    rw [List.foldlM_cons] at hq
    obtain ⟨p', hp', hq⟩ := Except.bind_eq_ok_iff.mp hq
    have hf : Mentioned rs f := hfs f (List.mem_cons_self ..)
    obtain ⟨hw, hkeep, hall⟩ := round (hp.write hf hp')
      (fun g hg => hfs g (List.mem_cons_of_mem _ hg)) hq
    refine ⟨hw, fun k hk => hkeep k ?_, fun g hg => ?_⟩
    · rw [contains_of_write hp', hk, Bool.or_true]
    · rcases List.mem_cons.mp hg with rfl | hg
      · exact hkeep _ (by rw [contains_of_write hp', decide_eq_true rfl, Bool.true_or])
      · exact hall g hg

/-- The keys of a list that have not been written. -/
def unwritten (keys : List FragmentKey) (p : Progress φ) : List FragmentKey :=
  keys.filter fun k => ! p.written.contains k

omit [FragmentKind φ] in
/-- A round that writes a key of the list leaves fewer of them unwritten. -/
theorem unwritten_lt {keys : List FragmentKey} {p q : Progress φ} {k : FragmentKey}
    (hkeep : ∀ k, p.written.contains k → q.written.contains k) (hk : k ∈ keys)
    (hp : p.written.contains k = false) (hq : q.written.contains k) :
    (unwritten keys q).length < (unwritten keys p).length := by
  have sub : unwritten keys q
      = (unwritten keys p).filter fun k => ! q.written.contains k := by
    rw [unwritten, unwritten, List.filter_filter]
    apply List.filter_congr
    intro j _
    cases hj : p.written.contains j with
    | false => rw [Bool.not_false, Bool.and_true]
    | true => rw [hkeep j hj, Bool.not_true, Bool.false_and]
  rw [sub, List.length_filter_lt_length_iff_exists]
  refine ⟨k, List.mem_filter.mpr ⟨hk, by rw [hp]; rfl⟩, ?_⟩
  rw [hq]
  decide

theorem isSome_complete? {rs : List (Requirement φ)} {keys : List FragmentKey}
    (bound : ∀ f, Mentioned rs f → FragmentKind.key f ∈ keys) {p : Progress φ}
    (h : p.Within rs) : p.complete?.isSome := by
  -- The rounds get by with ever fewer unwritten keys.
  generalize hn : (unwritten keys p).length = n
  induction n using Nat.strongRecOn generalizing p with
  | ind n ih =>
    by_cases idle : p.pending = []
    · rw [complete?_of_idle idle]
      rfl
    · cases hq : p.pending.foldlM write p with
      | error e =>
        rw [complete?_of_error idle hq]
        rfl
      | ok q =>
        rw [complete?_of_ok idle hq]
        obtain ⟨hw, hkeep, hall⟩ := round h (fun g => mentioned_of_pending h) hq
        obtain ⟨f, hf⟩ := List.exists_mem_of_ne_nil _ idle
        have free : p.written.contains (FragmentKind.key f) = false :=
          (Bool.not_eq_true' _).mp (List.mem_filter.mp hf).2
        refine ih _ ?_ hw rfl
        rw [← hn]
        exact unwritten_lt hkeep (bound f (mentioned_of_pending h hf)) free (hall f hf)

end Progress

/-- A run has an outcome if what is registered mentions only finitely many keys. -/
theorem isSome_finish? {r : Run φ} {keys : List FragmentKey}
    (bound : ∀ f, Mentioned (r.fragments.toList.map .fragment) f →
      FragmentKind.key f ∈ keys) : r.finish?.isSome := by
  rw [finish?, Option.isSome_map]
  refine Progress.isSome_complete? bound fun f hf => ?_
  exact .asked (List.mem_map.mpr ⟨f, hf, rfl⟩)

end Run

end Cratewright
