/-
The order of commits.

Which of several fragments of one key is registered depends on who comes first. If those
that the commits mention are alike, a run has the same outcome whichever it is:

* `Run.Twin` relates the fragments that can take each other's place, `Run.Progress.Sim` the
  states that differ in nothing else;
* `Run.Progress.Sim.write`, `Run.Progress.Sim.complete?` — such states stay so, round after
  round;
* `Run.finish?_commitAll_perm` — commits in any order lead to one outcome.
-/
import Cratewright.Proofs.Source.History

namespace Cratewright

variable {φ : Type}

/-! ### Fragments that are alike -/

namespace Requirement

/-- Requirements of one crate, or of related fragments. -/
inductive Related (R : φ → φ → Prop) : Requirement φ → Requirement φ → Prop where
  | crate (d : CrateDependency) : Related R (.crate d) (.crate d)
  | fragment {f g : φ} : R f g → Related R (.fragment f) (.fragment g)

variable {R : φ → φ → Prop} {rs qs : List (Requirement φ)}

theorem Related.crates_eq (h : List.Forall₂ (Related R) rs qs) : crates rs = crates qs := by
  induction h with
  | nil => rfl
  | cons h _ ih =>
    cases h with
    | crate d => exact congrArg (d :: ·) ih
    | fragment _ => exact ih

theorem Related.fragments (h : List.Forall₂ (Related R) rs qs) :
    List.Forall₂ R (Requirement.fragments rs) (Requirement.fragments qs) := by
  induction h with
  | nil => exact .nil
  | cons h _ ih =>
    cases h with
    | crate d => exact ih
    | fragment h => exact .cons h ih

end Requirement

variable [FragmentKind φ]

/-- Fragments that are written alike: into the same module, with the same text and the same
error, and asking for the same crates and for fragments of the same keys. -/
structure FragmentKind.Alike (f g : φ) : Prop where
  home : FragmentKind.home f = FragmentKind.home g
  contents : (FragmentKind.written f).contents = (FragmentKind.written g).contents
  error : (FragmentKind.written f).error = (FragmentKind.written g).error
  requirements : List.Forall₂
    (Requirement.Related fun a b => FragmentKind.key a = FragmentKind.key b)
    (FragmentKind.written f).requirements (FragmentKind.written g).requirements
  extra : List.Forall₂
    (Requirement.Related fun a b => FragmentKind.key a = FragmentKind.key b)
    (FragmentKind.extra f) (FragmentKind.extra g)

theorem FragmentKind.Alike.needs {f g : φ} (h : FragmentKind.Alike f g) :
    List.Forall₂ (Requirement.Related fun a b => FragmentKind.key a = FragmentKind.key b)
      (FragmentKind.needs f) (FragmentKind.needs g) :=
  List.rel_append h.requirements h.extra

namespace Run

/-- Of the fragments that requirements mention, those of one key are alike. -/
def Unambiguous (rs : List (Requirement φ)) : Prop :=
  ∀ f g, Mentioned rs f → Mentioned rs g → FragmentKind.key f = FragmentKind.key g →
    FragmentKind.Alike f g

/-- The same fragment, or two of one key that requirements mention. -/
def Twin (rs : List (Requirement φ)) (f g : φ) : Prop :=
  f = g ∨ Mentioned rs f ∧ Mentioned rs g ∧ FragmentKind.key f = FragmentKind.key g

variable {rs : List (Requirement φ)} {f g : φ}

theorem Twin.refl (rs : List (Requirement φ)) (f : φ) : Twin rs f f := .inl rfl

theorem Twin.symm (h : Twin rs f g) : Twin rs g f :=
  h.imp Eq.symm fun ⟨hf, hg, key⟩ => ⟨hg, hf, key.symm⟩

theorem Twin.key_eq (h : Twin rs f g) : FragmentKind.key f = FragmentKind.key g := by
  rcases h with rfl | ⟨_, _, key⟩
  · rfl
  · exact key

theorem Twin.home_eq (h : Twin rs f g) (one : Unambiguous rs) :
    FragmentKind.home f = FragmentKind.home g := by
  rcases h with rfl | ⟨hf, hg, key⟩
  · rfl
  · exact (one f g hf hg key).home

theorem Twin.contents_eq (h : Twin rs f g) (one : Unambiguous rs) :
    (FragmentKind.written f).contents = (FragmentKind.written g).contents := by
  rcases h with rfl | ⟨hf, hg, key⟩
  · rfl
  · exact (one f g hf hg key).contents

theorem Twin.error_eq (h : Twin rs f g) (one : Unambiguous rs) :
    (FragmentKind.written f).error = (FragmentKind.written g).error := by
  rcases h with rfl | ⟨hf, hg, key⟩
  · rfl
  · exact (one f g hf hg key).error

/-- What is mentioned, and asked for by key, is asked for by twins. -/
theorem forall₂_twin {as bs : List (Requirement φ)}
    (h : List.Forall₂
      (Requirement.Related fun a b => FragmentKind.key a = FragmentKind.key b) as bs)
    (has : ∀ f, .fragment f ∈ as → Mentioned rs f)
    (hbs : ∀ f, .fragment f ∈ bs → Mentioned rs f) :
    List.Forall₂ (Requirement.Related (Twin rs)) as bs := by
  induction h with
  | nil => exact .nil
  | cons h _ ih =>
    refine .cons ?_ (ih (fun f hf => has f (List.mem_cons_of_mem _ hf))
      fun f hf => hbs f (List.mem_cons_of_mem _ hf))
    cases h with
    | crate d => exact .crate d
    | fragment key =>
      exact .fragment (.inr ⟨has _ (List.mem_cons_self ..), hbs _ (List.mem_cons_self ..), key⟩)

/-- Twins need the same crates, and twins. -/
theorem Twin.needs (h : Twin rs f g) (one : Unambiguous rs) :
    List.Forall₂ (Requirement.Related (Twin rs))
      (FragmentKind.needs f) (FragmentKind.needs g) := by
  rcases h with rfl | ⟨hf, hg, key⟩
  · refine List.forall₂_same.mpr fun r _ => ?_
    cases r with
    | crate d => exact .crate d
    | fragment a => exact .fragment (.refl rs a)
  · exact forall₂_twin (one f g hf hg key).needs (fun _ => hf.needed) fun _ => hg.needed

theorem Twin.find? {fs gs : List φ} (h : List.Forall₂ (Twin rs) fs gs) (k : FragmentKey) :
    Option.Rel (Twin rs) (fs.find? fun f => FragmentKind.key f == k)
      (gs.find? fun g => FragmentKind.key g == k) := by
  induction h with
  | nil => exact .none
  | cons h _ ih =>
    rw [List.find?_cons, List.find?_cons, ← h.key_eq]
    split
    · exact .some h
    · exact ih

/-! ### States that differ in twins only -/

namespace Progress

/-- The states hold twins under their keys and agree in everything else. -/
structure Sim (rs : List (Requirement φ)) (p q : Progress φ) : Prop where
  fragments : ∀ k, Option.Rel (Twin rs) (p.run.fragments.get? k) (q.run.fragments.get? k)
  dependencies : p.run.dependencies = q.run.dependencies
  written : p.written = q.written

/-- The same error, or states that differ in twins only. -/
inductive Agree (rs : List (Requirement φ)) :
    Except Error (Progress φ) → Except Error (Progress φ) → Prop where
  | error (e : Error) : Agree rs (.error e) (.error e)
  | ok {p q : Progress φ} : Sim rs p q → Agree rs (.ok p) (.ok q)

variable {p q : Progress φ}

theorem Sim.symm (h : Sim rs p q) : Sim rs q p where
  fragments k := by
    have rel := h.fragments k
    revert rel
    generalize p.run.fragments.get? k = a
    generalize q.run.fragments.get? k = b
    rintro (twin | _)
    · exact .some twin.symm
    · exact .none
  dependencies := h.dependencies.symm
  written := h.written.symm

theorem Sim.toList (h : Sim rs p q) :
    List.Forall₂ (Twin rs) p.run.fragments.toList q.run.fragments.toList := by
  have entries := SortedMap.forall₂_entries h.fragments
  rw [Registry.toList, Registry.toList, SortedMap.values, SortedMap.values,
    List.forall₂_map_left_iff, List.forall₂_map_right_iff]
  exact entries.imp fun _ _ h => h.2

theorem Sim.pending (h : Sim rs p q) : List.Forall₂ (Twin rs) p.pending q.pending := by
  refine List.rel_filter (fun f g twin => ?_) h.toList
  show (! p.written.contains (FragmentKind.key f)) = true ↔
    (! q.written.contains (FragmentKind.key g)) = true
  rw [h.written, twin.key_eq]

/-- Writing twins leads to the same error or to such states. -/
theorem Sim.write (h : Sim rs p q) (one : Unambiguous rs) (twin : Twin rs f g) :
    Agree rs (p.write f) (q.write g) := by
  have needs := twin.needs one
  rw [write_eq, write_eq, twin.error_eq one]
  cases (FragmentKind.written g).error with
  | some e => exact .error e
  | none =>
    dsimp only
    rw [absorbAll_eq, absorbAll_eq, Requirement.Related.crates_eq needs, h.dependencies]
    cases q.run.dependencies.addAll (Requirement.crates (FragmentKind.needs g)) with
    | error e => exact .error e
    | ok dependencies =>
      -- What is registered stays, and twins are asked for first under the other keys.
      refine .ok ⟨fun k => ?_, rfl, ?_⟩
      · show Option.Rel _ (Registry.get? (List.foldl ..) k) (Registry.get? (List.foldl ..) k)
        rw [Registry.get?_foldl_add, Registry.get?_foldl_add]
        have old := h.fragments k
        have new := Twin.find? (Requirement.Related.fragments needs) k
        revert old
        generalize p.run.fragments.get? k = a
        generalize q.run.fragments.get? k = b
        rintro (twin | _)
        · exact .some twin
        · exact new
      · show p.written.insert _ _ = q.written.insert _ _
        rw [h.written, twin.key_eq, twin.contents_eq one]

theorem Sim.writeAll (one : Unambiguous rs) {fs gs : List φ}
    (twins : List.Forall₂ (Twin rs) fs gs) (h : Sim rs p q) :
    Agree rs (fs.foldlM Progress.write p) (gs.foldlM Progress.write q) := by
  induction twins generalizing p q with
  | nil => exact .ok h
  | cons twin _ ih =>
    rw [List.foldlM_cons, List.foldlM_cons]
    have agree := h.write one twin
    revert agree
    generalize p.write _ = x
    generalize q.write _ = y
    rintro (e | h')
    · exact .error e
    · exact ih h'

/-- The rounds of such states end alike. -/
theorem Sim.complete? (one : Unambiguous rs) {o : Except Error (Progress φ)}
    (hp : p.complete? = some o) : ∀ q, Sim rs p q → ∃ o', q.complete? = some o' ∧
      Agree rs o o' := by
  refine complete?_induction (motive := fun p o => ∀ q, Sim rs p q →
    ∃ o', q.complete? = some o' ∧ Agree rs o o') ?idle ?error ?round hp
  case idle =>
    intro p idle q h
    have pending := h.pending
    rw [idle, List.forall₂_nil_left_iff] at pending
    exact ⟨_, complete?_of_idle pending, .ok h⟩
  case error =>
    intro p e he q h
    have agree := h.writeAll one h.pending
    rw [he] at agree
    -- So the round of `q` fails as well, and cannot have been an empty one.
    generalize hq : q.pending.foldlM Progress.write q = y at agree
    cases agree with
    | error =>
      have busy : q.pending ≠ [] := by
        intro idle
        rw [idle] at hq
        cases hq
      exact ⟨_, complete?_of_error busy hq, .error e⟩
  case round =>
    intro p p' o hp' ih q h
    have agree := h.writeAll one h.pending
    rw [hp'] at agree
    generalize hq : q.pending.foldlM Progress.write q = y at agree
    cases agree with
    | @ok _ q' h' =>
      obtain ⟨o', ho', agree⟩ := ih q' h'
      by_cases idle : q.pending = []
      -- A round that writes nothing leads back to where it starts.
      · rw [idle] at hq
        cases hq
        exact ⟨o', ho', agree⟩
      · rw [← complete?_of_ok idle hq] at ho'
        exact ⟨o', ho', agree⟩

theorem forall₂_group (one : Unambiguous rs) {fs gs : List φ}
    (h : List.Forall₂ (Twin rs) fs gs) :
    List.Forall₂ (fun a b => a.1 = b.1 ∧ List.Forall₂ (Twin rs) a.2 b.2)
      (Registry.group fs) (Registry.group gs) := by
  induction h with
  | nil => exact .nil
  | @cons f g fs gs twin _ ih =>
    have home := twin.home_eq one
    cases hfs : Registry.group fs with
    | nil =>
      rw [hfs, List.forall₂_nil_left_iff] at ih
      rw [Registry.group_cons_of_nil hfs, Registry.group_cons_of_nil ih]
      exact .cons ⟨home, .cons twin .nil⟩ .nil
    | cons a as =>
      rw [hfs] at ih
      cases hgs : Registry.group gs with
      | nil =>
        rw [hgs] at ih
        cases ih
      | cons b bs =>
        obtain ⟨next, members⟩ := a
        obtain ⟨_, members'⟩ := b
        rw [hgs] at ih
        obtain ⟨⟨rfl, twins⟩, rest⟩ := List.forall₂_cons.mp ih
        rw [Registry.group_cons_of_cons hfs, Registry.group_cons_of_cons hgs, ← home]
        split
        · exact .cons ⟨rfl, .cons twin twins⟩ rest
        · exact .cons ⟨rfl, .cons twin .nil⟩ (.cons ⟨rfl, twins⟩ rest)

theorem filterMap_find?_eq {fs gs : List φ} (h : List.Forall₂ (Twin rs) fs gs)
    (m : SortedMap FragmentKey String) :
    (fs.filterMap fun f => m.find? (FragmentKind.key f))
      = gs.filterMap fun g => m.find? (FragmentKind.key g) := by
  induction h with
  | nil => rfl
  | cons twin _ ih => rw [List.filterMap_cons, List.filterMap_cons, twin.key_eq, ih]

theorem Sim.output_eq (h : Sim rs p q) (one : Unambiguous rs) : p.output = q.output := by
  have modules : p.modules = q.modules := by
    rw [← List.forall₂_eq_eq_eq, Progress.modules, Progress.modules,
      List.forall₂_map_left_iff, List.forall₂_map_right_iff]
    refine (forall₂_group one h.toList).imp fun a b ⟨home, twins⟩ => ?_
    show (⟨a.1, _⟩ : WrittenModule) = ⟨b.1, _⟩
    rw [home, h.written, filterMap_find?_eq twins]
  rw [output, output, modules, h.dependencies]

/-- Such states have the same outcome, or both have none. -/
theorem Sim.outcome_eq (h : Sim rs p q) (one : Unambiguous rs) :
    p.complete?.map (·.map Progress.output) = q.complete?.map (·.map Progress.output) := by
  cases hp : p.complete? with
  | some o =>
    obtain ⟨o', ho', agree⟩ := Sim.complete? one hp q h
    rw [ho']
    cases agree with
    | error e => rfl
    | ok h' => exact congrArg (fun out => some (Except.ok out)) (h'.output_eq one)
  | none =>
    cases hq : q.complete? with
    | none => rfl
    | some o =>
      obtain ⟨o', ho', _⟩ := Sim.complete? one hq p h.symm
      rw [hp] at ho'
      cases ho'

end Progress

/-! ### Commits in any order -/

/-- What commits ask for. -/
def committed (commits : List (ShapeId × List (Output φ))) : List (Requirement φ) :=
  commits.flatMap fun c => c.2.flatMap (·.requirements)

/-- Commits services one after the other. -/
def commitAll (r : Run φ) (commits : List (ShapeId × List (Output φ))) :
    Except Error (Run φ) :=
  commits.foldlM (fun r c => r.commit c.1 c.2) r

variable {r s : Run φ} {log : List (Requirement φ)}

theorem Gathers.commitAll (h : r.Gathers log)
    (commits : List (ShapeId × List (Output φ))) :
    ∃ s, r.commitAll commits = .ok s ∧ s.Gathers (log ++ committed commits) ∧
      s.services = r.services ++ commits.map Prod.fst := by
  induction commits generalizing r log with
  | nil => exact ⟨r, rfl, (List.append_nil log).symm ▸ h, (List.append_nil _).symm⟩
  | cons c commits ih =>
    obtain ⟨s, hs, hgs, hservices⟩ := h.commit c.1 c.2
    obtain ⟨t, ht, hgt, htservices⟩ := ih hgs
    refine ⟨t, ?_, ?_, ?_⟩
    · rw [Run.commitAll, List.foldlM_cons, hs]
      exact ht
    · rw [committed, List.flatMap_cons, ← List.append_assoc]
      exact hgt
    · rw [htservices, hservices, List.append_assoc]
      rfl

/-- Under a key, requirements in another order have a twin first, or none. -/
theorem first_perm {as bs : List (Requirement φ)} (perm : as.Perm bs) (k : FragmentKey) :
    Option.Rel (Twin as) (Requirement.first as k) (Requirement.first bs k) := by
  -- Both ask for the key or neither does; which fragment is first may differ.
  cases ha : Requirement.first as k with
  | none =>
    cases hb : Requirement.first bs k with
    | none => exact .none
    | some g =>
      obtain ⟨f, hf⟩ :=
        Requirement.exists_first (perm.mem_iff.mpr (Requirement.mem_of_first hb))
      rw [Requirement.key_of_first hb, ha] at hf
      cases hf
  | some f =>
    obtain ⟨g, hg⟩ :=
      Requirement.exists_first (perm.mem_iff.mp (Requirement.mem_of_first ha))
    rw [Requirement.key_of_first ha] at hg
    rw [hg]
    refine .some (.inr ⟨.asked (Requirement.mem_of_first ha),
      .asked (perm.mem_iff.mpr (Requirement.mem_of_first hg)), ?_⟩)
    rw [Requirement.key_of_first ha, Requirement.key_of_first hg]

/-- Runs that gather the same requirements in another order differ in twins only. -/
theorem Gathers.sim {as bs : List (Requirement φ)} (perm : as.Perm bs)
    (hr : r.Gathers (log ++ as)) (hs : s.Gathers (log ++ bs)) :
    Progress.Sim as { run := r } { run := s } where
  fragments k := by
    -- What the run held before stands first in either order.
    rw [hr.fragments, hs.fragments, Requirement.first_append, Requirement.first_append]
    cases Requirement.first log k with
    | some f => exact .some (.refl as f)
    | none => exact first_perm perm k
  dependencies := by
    have same : s.dependencies.Gathers (Requirement.crates (log ++ as)) := by
      refine hs.dependencies.congr fun d => ?_
      exact ((perm.append_left log).filterMap Requirement.crate?).mem_iff.symm
    exact hr.dependencies.unique same
  written := rfl

/-- **The order of commits does not matter.**  If those of the fragments that commits mention
that have one key are alike, committing to a run in any order leads to the same outcome, an
output, an error or none. Only the services stand in another order. -/
theorem finish?_commitAll_perm (actions : List (Action φ))
    {cs ds : List (ShapeId × List (Output φ))} (perm : cs.Perm ds)
    (one : Unambiguous (committed cs)) :
    ∃ r s t, replay actions = .ok r ∧ r.commitAll cs = .ok s ∧ r.commitAll ds = .ok t ∧
      s.finish? = t.finish? ∧
      s.dependencies = t.dependencies ∧ s.fragments.keys = t.fragments.keys ∧
      s.services = r.services ++ cs.map Prod.fst ∧
      t.services = r.services ++ ds.map Prod.fst := by
  obtain ⟨r, hr, h, _⟩ := exists_replay actions
  obtain ⟨s, hs, hgs, hsservices⟩ := h.commitAll cs
  obtain ⟨t, ht, hgt, htservices⟩ := h.commitAll ds
  have sim := Gathers.sim (perm.flatMap_right _) hgs hgt
  refine ⟨r, s, t, hr, hs, ht, sim.outcome_eq one, sim.dependencies, ?_, hsservices,
    htservices⟩
  have entries := SortedMap.forall₂_entries sim.fragments
  rw [Registry.keys, Registry.keys, SortedMap.keys, SortedMap.keys, ← List.forall₂_eq_eq_eq,
    List.forall₂_map_left_iff, List.forall₂_map_right_iff]
  exact entries.imp fun _ _ h => h.1

/-- Fragments of one key that two services bring along, each with a symbol of its own. -/
inductive Clock where
  | ofOrders
  | ofPayments

instance : FragmentKind Clock where
  name _ := "now"
  home _ := ⟨"clock", .withinCrate⟩
  symbol
    | .ofOrders => "crate::clock::now"
    | .ofPayments => "crate::clock::current"
  extra
    | .ofOrders => [.fragment .ofPayments]
    | .ofPayments => [.fragment .ofOrders]
  body _ := [.code "fn now() {}", .require (.fragment .ofOrders)]

/-- Two commits, each with its own clock. -/
def clockCommits : List (ShapeId × List (Output Clock)) :=
  [(⟨"shop", "Orders", none⟩, [⟨"", [.fragment .ofOrders]⟩]),
    (⟨"shop", "Payments", none⟩, [⟨"", [.fragment .ofPayments]⟩])]

/-- Whichever clock comes first, the outcome is the same. -/
theorem finish?_commitAll_perm_clock :
    clockCommits.Perm clockCommits.reverse ∧ Unambiguous (committed clockCommits) ∧
      ∃ r s t, replay [] = .ok r ∧ r.commitAll clockCommits = .ok s ∧
        r.commitAll clockCommits.reverse = .ok t ∧ s.finish? = t.finish? := by
  have perm : clockCommits.Perm clockCommits.reverse := clockCommits.reverse_perm.symm
  have one : Unambiguous (committed clockCommits) := by
    intro f g _ _ _
    constructor
    case home => rfl
    case contents => rfl
    case error => rfl
    case requirements => exact .cons (.fragment rfl) .nil
    case extra => cases f <;> cases g <;> exact .cons (.fragment rfl) .nil
  obtain ⟨r, s, t, hr, hs, ht, same, _⟩ := finish?_commitAll_perm [] perm one
  exact ⟨perm, one, r, s, t, hr, hs, ht, same⟩

end Run

end Cratewright
