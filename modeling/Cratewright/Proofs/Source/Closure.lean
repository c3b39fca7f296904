/-
What a run writes.

Fragments are written in rounds. Each round takes up, in key order, the fragments that are
registered and not yet written, and what it brings in is left to the next. So the keys that
are written in the end are the least ones that contain what was asked for and what the
fragment under each of them needs:

* `Run.chronicle_schedule` — every fragment is written once, as the first under its key;
* `Run.Chronicle.least` — nothing is written that was not asked for or needed;
* `Run.Progress.reaches_complete?` — the rounds follow the schedule to where it stays;
* `Run.finish?_closure` — the outcome of a run.
-/
import Mathlib.Data.Set.Finite.Basic
import Mathlib.Order.Bounds.Basic
import Cratewright.Proofs.Source.History

namespace Cratewright

variable {φ : Type} [FragmentKind φ]

namespace Requirement

/-- The register of the fragments that requirements ask for. -/
def registered (rs : List (Requirement φ)) : Registry φ :=
  (fragments rs).foldl Registry.add .empty

theorem get?_registered (rs : List (Requirement φ)) (k : FragmentKey) :
    (registered rs).get? k = first rs k :=
  Registry.get?_foldl_add (fragments rs) .empty k

theorem keyed_registered (rs : List (Requirement φ)) : (registered rs).Keyed := by
  intro k f hf
  rw [get?_registered] at hf
  exact key_of_first hf

end Requirement

namespace Run

/-! ### The schedule -/

/-- What is asked for once given fragments have been written. -/
def asked (log : List (Requirement φ)) (done : List φ) : List (Requirement φ) :=
  log ++ done.flatMap FragmentKind.needs

/-- The fragments that the next round writes. -/
def upcoming (log : List (Requirement φ)) (done : List φ) : List φ :=
  (Requirement.registered (asked log done)).toList.filter fun f =>
    FragmentKind.key f ∉ done.map FragmentKind.key

/-- The fragments that some number of rounds write, in the order of writing. -/
def schedule (log : List (Requirement φ)) : Nat → List φ
  | 0 => []
  | n + 1 => schedule log n ++ upcoming log (schedule log n)

/-- The orders in which fragments can be written: each is then the first under its key, and
the key has not been written. -/
inductive Chronicle (log : List (Requirement φ)) : List φ → Prop where
  | nil : Chronicle log []
  | snoc {done : List φ} {f : φ} : Chronicle log done →
      Requirement.first (asked log done) (FragmentKind.key f) = some f →
      FragmentKind.key f ∉ done.map FragmentKind.key → Chronicle log (done ++ [f])

variable {log : List (Requirement φ)} {done : List φ}

theorem asked_append (log : List (Requirement φ)) (done fs : List φ) :
    asked log (done ++ fs) = asked log done ++ fs.flatMap FragmentKind.needs := by
  rw [asked, asked, List.flatMap_append, List.append_assoc]

theorem mem_upcoming_iff {f : φ} :
    f ∈ upcoming log done ↔ Requirement.first (asked log done) (FragmentKind.key f) = some f ∧
      FragmentKind.key f ∉ done.map FragmentKind.key := by
  rw [upcoming, List.mem_filter, (Requirement.keyed_registered _).mem_toList_iff,
    Requirement.get?_registered, decide_eq_true_iff]

theorem Chronicle.append (h : Chronicle log done) {fs : List φ}
    (hfs : ∀ f ∈ fs, Requirement.first (asked log done) (FragmentKind.key f) = some f ∧
      FragmentKind.key f ∉ done.map FragmentKind.key)
    (nodup : (fs.map FragmentKind.key).Nodup) : Chronicle log (done ++ fs) := by
  induction fs generalizing done with
  | nil => exact (List.append_nil done).symm ▸ h
  | cons f fs ih =>
    obtain ⟨hfirst, hfree⟩ := hfs f (List.mem_cons_self ..)
    have ⟨hne, hnodup⟩ := List.nodup_cons.mp nodup
    rw [List.append_cons]
    -- Writing `f` leaves the later ones first under their keys, and these keys free.
    refine ih (h.snoc hfirst hfree) (fun g hg => ?_) hnodup
    obtain ⟨hgfirst, hgfree⟩ := hfs g (List.mem_cons_of_mem _ hg)
    constructor
    · rw [asked_append]
      exact Requirement.first_append_of_first hgfirst _
    · rw [List.map_append, List.mem_append, not_or]
      refine ⟨hgfree, fun same => hne ?_⟩
      rw [← List.mem_singleton.mp same]
      exact List.mem_map.mpr ⟨g, hg, rfl⟩

/-- The schedule writes every fragment as the first under its key. -/
theorem chronicle_schedule (log : List (Requirement φ)) (n : Nat) :
    Chronicle log (schedule log n) := by
  induction n with
  | zero => exact .nil
  | succ n ih =>
    refine ih.append (fun f hf => mem_upcoming_iff.mp hf) ?_
    exact (Requirement.keyed_registered _).nodup_keys.sublist (List.filter_sublist.map _)

theorem Chronicle.nodup (h : Chronicle log done) : (done.map FragmentKind.key).Nodup := by
  induction h with
  | nil => exact List.nodup_nil
  | snoc _ _ free ih =>
    rw [List.map_append, List.nodup_append]
    refine ⟨ih, List.nodup_singleton _, ?_⟩
    rintro k hk _ hf rfl
    exact free (List.mem_singleton.mp hf ▸ hk)

/-- What has been written stays first under its key. -/
theorem Chronicle.first (h : Chronicle log done) :
    ∀ f ∈ done, Requirement.first (asked log done) (FragmentKind.key f) = some f := by
  induction h with
  | nil => exact fun f hf => by cases hf
  | snoc _ first _ ih =>
    intro g hg
    rw [asked_append]
    refine Requirement.first_append_of_first ?_ _
    rcases List.mem_append.mp hg with hg | hg
    · exact ih g hg
    · rw [List.mem_singleton.mp hg]
      exact first

/-! ### The least closed set of keys -/

/-- The keys contain those asked for and, with a key, those that the fragment under it
needs. -/
structure Closed (log : List (Requirement φ)) (under : FragmentKey → Option φ)
    (keys : Set FragmentKey) : Prop where
  asked : ∀ f, .fragment f ∈ log → FragmentKind.key f ∈ keys
  needed : ∀ k ∈ keys, ∀ f, under k = some f →
    ∀ g, .fragment g ∈ FragmentKind.needs f → FragmentKind.key g ∈ keys

/-- Keys are written only if they are in all closed sets. -/
theorem Chronicle.least (h : Chronicle log done) {keys : Set FragmentKey}
    (closed : Closed log (Requirement.first (Run.asked log done)) keys) :
    ∀ f ∈ done, FragmentKind.key f ∈ keys := by
  -- The fragments under the keys stay the same as more is written.
  have needed : ∀ f ∈ done, FragmentKind.key f ∈ keys →
      ∀ g, .fragment g ∈ FragmentKind.needs f → FragmentKind.key g ∈ keys :=
    fun f hf hk => closed.needed _ hk f (h.first f hf)
  have asked := closed.asked
  clear closed
  induction h with
  | nil => exact fun f hf => by cases hf
  | @snoc done f _ first _ ih =>
    have before := ih fun g hg => needed g (List.mem_append_left _ hg)
    intro g hg
    rcases List.mem_append.mp hg with hg | hg
    · exact before g hg
    · rw [List.mem_singleton.mp hg]
      rcases List.mem_append.mp (Requirement.mem_of_first first) with hlog | hneeds
      · exact asked f hlog
      · obtain ⟨d, hd, hf⟩ := List.mem_flatMap.mp hneeds
        exact needed d (List.mem_append_left _ hd) (before d hd) f hf

/-- Where nothing is left to write, what is asked for has been written. -/
theorem exists_of_asked (idle : upcoming log done = []) {f : φ}
    (hf : .fragment f ∈ asked log done) :
    ∃ g ∈ done, FragmentKind.key g = FragmentKind.key f := by
  -- Unless its key has been written, the first fragment under it would be written next.
  obtain ⟨g, hg⟩ := Requirement.exists_first hf
  have key := Requirement.key_of_first hg
  rw [← key] at hg ⊢
  by_contra fresh
  have left : g ∈ upcoming log done := by
    refine mem_upcoming_iff.mpr ⟨hg, fun hk => fresh ?_⟩
    obtain ⟨d, hd, same⟩ := List.mem_map.mp hk
    exact ⟨d, hd, same⟩
  rw [idle] at left
  cases left

/-- Where nothing is left to write, the keys that have been written are the least closed
ones. -/
theorem Chronicle.isLeast (h : Chronicle log done) (idle : upcoming log done = []) :
    IsLeast {keys | Closed log (Requirement.first (asked log done)) keys}
      {k | ∃ f ∈ done, FragmentKind.key f = k} := by
  constructor
  · constructor
    · intro f hf
      exact exists_of_asked idle (List.mem_append_left _ hf)
    · rintro k ⟨d, hd, rfl⟩ f hf g hg
      -- The fragment under the key is the one that has been written.
      rw [h.first d hd, Option.some_inj] at hf
      subst hf
      exact exists_of_asked idle
        (List.mem_append_right _ (List.mem_flatMap.mpr ⟨d, hd, hg⟩))
  · rintro keys closed _ ⟨f, hf, rfl⟩
    exact h.least closed f hf

/-! ### The rounds of a run -/

namespace Progress

/-- Exactly the given fragments have been written, and what they need has been taken in. -/
structure Tracks (log : List (Requirement φ)) (done : List φ) (p : Progress φ) : Prop where
  run : p.run.Gathers (asked log done)
  written : p.written = SortedMap.ofList
    (done.map fun f => (FragmentKind.key f, (FragmentKind.written f).contents))

variable {p q : Progress φ}

/-- Writing a fragment fails with the error of its script, or adds the fragment. -/
theorem Tracks.write (h : p.Tracks log done) (f : φ) :
    (∃ e, p.write f = .error e ∧ (FragmentKind.written f).error = some e) ∨
      ∃ q, p.write f = .ok q ∧ q.Tracks log (done ++ [f]) := by
  rw [write_eq]
  cases (FragmentKind.written f).error with
  | some e => exact .inl ⟨e, rfl, rfl⟩
  | none =>
    obtain ⟨r, hr, hgr, _⟩ := h.run.absorbAll (FragmentKind.needs f)
    refine .inr ⟨_, congrArg (Except.map _) hr, ?_, ?_⟩
    · rw [asked_append, List.flatMap_singleton]
      exact hgr
    · show p.written.insert _ _ = _
      rw [h.written, SortedMap.ofList, SortedMap.ofList, List.map_append, List.foldl_append]
      rfl

theorem Tracks.writeAll (h : p.Tracks log done) (fs : List φ) :
    (∃ e, fs.foldlM Progress.write p = .error e ∧
      ∃ f ∈ fs, (FragmentKind.written f).error = some e) ∨
      ∃ q, fs.foldlM Progress.write p = .ok q ∧ q.Tracks log (done ++ fs) := by
  induction fs generalizing p done with
  | nil => exact .inr ⟨p, rfl, (List.append_nil done).symm ▸ h⟩
  | cons f fs ih =>
    rw [List.foldlM_cons]
    rcases h.write f with ⟨e, he, hf⟩ | ⟨q, hq, hgq⟩
    · rw [he]
      exact .inl ⟨e, rfl, f, List.mem_cons_self .., hf⟩
    · rw [hq, List.append_cons]
      rcases ih hgq with ⟨e, he, g, hg, hge⟩ | done
      · exact .inl ⟨e, he, g, List.mem_cons_of_mem _ hg, hge⟩
      · exact .inr done

/-- What is pending is what the next round of the schedule writes. -/
theorem Tracks.pending (h : p.Tracks log done) : p.pending = upcoming log done := by
  have fragments :
      p.run.fragments.entries = (Requirement.registered (asked log done)).entries := by
    apply SortedMap.ext_find?
    intro k
    exact (h.run.fragments k).trans (Requirement.get?_registered _ k).symm
  rw [Progress.pending, upcoming, Registry.toList, Registry.toList, fragments]
  apply List.filter_congr
  intro f _
  have contains : p.written.contains (FragmentKind.key f) = true ↔
      FragmentKind.key f ∈ done.map FragmentKind.key := by
    rw [h.written, SortedMap.contains_ofList, List.map_map]
    rfl
  rw [decide_not]
  exact congrArg Bool.not (Bool.eq_iff_iff.mpr (contains.trans decide_eq_true_iff.symm))

/-- What the rounds can come to: an error that a scheduled fragment records, or the state
where the schedule stays. -/
def Reaches (log : List (Requirement φ)) : Except Error (Progress φ) → Prop
  | .error e => ∃ n, ∃ f ∈ schedule log n, (FragmentKind.written f).error = some e
  | .ok q => ∃ n, q.Tracks log (schedule log n) ∧ upcoming log (schedule log n) = []

/-- The rounds follow the schedule to where it stays. -/
theorem reaches_complete? {o : Except Error (Progress φ)} (h : p.complete? = some o) :
    ∀ n, p.Tracks log (schedule log n) → Reaches log o := by
  refine complete?_induction (motive := fun p o => ∀ n, p.Tracks log (schedule log n) →
    Reaches log o) ?idle ?error ?round h
  case idle =>
    intro p idle n hp
    exact ⟨n, hp, hp.pending.symm.trans idle⟩
  case error =>
    intro p e he n hp
    rw [hp.pending] at he
    rcases hp.writeAll (upcoming log (schedule log n)) with ⟨e', he', f, hf, hfe⟩ | ⟨q, hq, _⟩
    · rw [he'] at he
      cases he
      exact ⟨n + 1, f, List.mem_append_right _ hf, hfe⟩
    · rw [hq] at he
      cases he
  case round =>
    intro p q o hq ih n hp
    rw [hp.pending] at hq
    rcases hp.writeAll (upcoming log (schedule log n)) with ⟨e, he, _⟩ | ⟨q', hq', hgq⟩
    · rw [he] at hq
      cases hq
    · rw [hq'] at hq
      cases hq
      exact ih (n + 1) hgq

end Progress

/-! ### The outcome -/

/-- The output consists of the given fragments, which are all that was asked for and all
that they need. -/
structure Completes (log : List (Requirement φ)) (members : List φ) (out : RunOutput) :
    Prop where
  /-- The fragments are those that the schedule comes to. -/
  scheduled : ∃ n, schedule log n = members ∧ schedule log (n + 1) = members
  nodup : (members.map FragmentKind.key).Nodup
  first : ∀ f ∈ members,
    Requirement.first (asked log members) (FragmentKind.key f) = some f
  least : IsLeast {keys | Closed log (Requirement.first (asked log members)) keys}
    {k | ∃ f ∈ members, FragmentKind.key f = k}
  /-- The modules hold their texts in key order. -/
  modules : ∃ (listing : List φ) (groups : List (SourceModule × List φ)),
    listing.Perm members ∧
    listing.Pairwise (fun f g => compare (FragmentKind.key f) (FragmentKind.key g) = .lt) ∧
    Registry.Layout listing groups ∧
    out.modules = groups.map fun g =>
      ⟨g.1, "\n".intercalate (g.2.map fun f => (FragmentKind.written f).contents)⟩
  dependencies :
    DependencySet.empty.addAll (Requirement.crates (asked log members)) = .ok out.dependencies

namespace Progress

variable {q : Progress φ}

/-- Where nothing is left to write, the register holds what has been written. -/
theorem Tracks.perm_toList (h : q.Tracks log done) (chronicle : Chronicle log done)
    (idle : upcoming log done = []) : q.run.fragments.toList.Perm done := by
  refine (List.perm_ext_iff_of_nodup h.run.keyed.nodup_keys.of_map
    chronicle.nodup.of_map).mpr fun f => ?_
  rw [h.run.mem_toList_iff]
  constructor
  · intro hf
    obtain ⟨g, hg, key⟩ := exists_of_asked idle (Requirement.mem_of_first hf)
    rw [← key, chronicle.first g hg, Option.some_inj] at hf
    exact hf ▸ hg
  · exact chronicle.first f

theorem Tracks.text (h : q.Tracks log done) (chronicle : Chronicle log done) {f : φ}
    (hf : f ∈ done) :
    q.written.find? (FragmentKind.key f) = some (FragmentKind.written f).contents := by
  rw [h.written, SortedMap.find?_ofList, ← List.map_reverse, List.find?_map, Option.map_map]
  -- No other fragment of the key has been written.
  have found : done.reverse.find? (fun g => FragmentKind.key g == FragmentKind.key f)
      = some f := by
    cases hg : done.reverse.find? fun g => FragmentKind.key g == FragmentKind.key f with
    | none =>
      have none := List.find?_eq_none.mp hg f (List.mem_reverse.mpr hf)
      exact absurd (beq_self_eq_true _) none
    | some g =>
      have mem := List.mem_reverse.mp (List.mem_of_find?_eq_some hg)
      have same := List.find?_some hg
      exact congrArg some
        (List.inj_on_of_nodup_map chronicle.nodup mem hf (beq_iff_eq.mp same))
  exact congrArg (Option.map _) found

theorem Tracks.modules (h : q.Tracks log done) (chronicle : Chronicle log done)
    (perm : q.run.fragments.toList.Perm done) :
    q.modules = q.run.fragments.byModule.map fun g =>
      ⟨g.1, "\n".intercalate (g.2.map fun f => (FragmentKind.written f).contents)⟩ := by
  have layout := Registry.layout_byModule h.run.keyed
  rw [Progress.modules]
  refine List.map_congr_left fun g hg => ?_
  have texts : (g.2.filterMap fun f => q.written.find? (FragmentKind.key f))
      = g.2.map fun f => (FragmentKind.written f).contents := by
    rw [← List.filterMap_eq_map]
    refine List.filterMap_congr fun f hf => ?_
    have mem : f ∈ q.run.fragments.toList := by
      rw [← layout.flatMap_eq]
      exact List.mem_flatMap.mpr ⟨g, hg, hf⟩
    exact h.text chronicle (perm.mem_iff.mp mem)
  show (⟨g.1, _⟩ : WrittenModule) = ⟨g.1, _⟩
  rw [texts]

theorem Tracks.completes {n : Nat} (h : q.Tracks log (schedule log n))
    (idle : upcoming log (schedule log n) = []) :
    Completes log (schedule log n) q.output := by
  have chronicle := chronicle_schedule log n
  have perm := h.perm_toList chronicle idle
  constructor
  case scheduled => exact ⟨n, rfl, by rw [schedule, idle, List.append_nil]⟩
  case nodup => exact chronicle.nodup
  case first => exact chronicle.first
  case least => exact chronicle.isLeast idle
  case modules =>
    exact ⟨_, _, perm, h.run.keyed.pairwise_toList, Registry.layout_byModule h.run.keyed,
      h.modules chronicle perm⟩
  case dependencies => exact DependencySet.addAll_of_gathers h.run.dependencies

end Progress

variable {r : Run φ}

/-- The outcome of a run that gathers requirements is what its rounds can come to. -/
theorem Gathers.exists_reaches (h : r.Gathers log) {outcome : Except Error RunOutput}
    (hr : r.finish? = some outcome) :
    ∃ o, Progress.Reaches log o ∧ outcome = o.map Progress.output := by
  rw [Run.finish?, Option.map_eq_some_iff] at hr
  obtain ⟨o, ho, rfl⟩ := hr
  -- No round has been carried out yet.
  have start : Progress.Tracks log (schedule log 0) { run := r } := by
    refine ⟨?_, rfl⟩
    rw [asked, schedule, List.flatMap_nil, List.append_nil]
    exact h
  exact ⟨o, Progress.reaches_complete? ho 0 start, rfl⟩

/-- What a run that gathers requirements comes to, if it comes to an end. -/
theorem Gathers.finish? (h : r.Gathers log) {outcome : Except Error RunOutput}
    (hr : r.finish? = some outcome) :
    (∃ e n, ∃ f ∈ schedule log n,
      outcome = .error e ∧ (FragmentKind.written f).error = some e) ∨
    ∃ out members, outcome = .ok out ∧ Completes log members out := by
  obtain ⟨o, reaches, rfl⟩ := h.exists_reaches hr
  cases o with
  | error e =>
    obtain ⟨n, f, hf, he⟩ := reaches
    exact .inl ⟨e, n, f, hf, rfl, he⟩
  | ok q =>
    obtain ⟨n, hq, idle⟩ := reaches
    exact .inr ⟨_, _, rfl, hq.completes idle⟩

/-- A run has an outcome if what was asked for mentions finitely many keys. -/
theorem Gathers.exists_outcome (h : r.Gathers log)
    (finite : {k | ∃ f, Mentioned log f ∧ FragmentKind.key f = k}.Finite) :
    ∃ outcome, r.finish? = some outcome := by
  have bound : ∀ f, Mentioned (r.fragments.toList.map .fragment) f →
      FragmentKind.key f ∈ finite.toFinset.toList := by
    intro f hf
    rw [Finset.mem_toList, Set.Finite.mem_toFinset]
    exact ⟨f, h.mentioned hf, rfl⟩
  exact Option.isSome_iff_exists.mp (isSome_finish? bound)

/-- **Runs write the closure.**  Every history leads to a run, and if what it asks for
mentions finitely many keys, the run has an outcome. If no fragment that is written records
an error, this is an output that consists of what was asked for and all that it needs. -/
theorem finish?_closure {actions : List (Action φ)}
    (finite : {k | ∃ f, Mentioned (actions.flatMap Action.requirements) f ∧
      FragmentKind.key f = k}.Finite) :
    ∃ r, replay actions = .ok r ∧ (∃ outcome, r.finish? = some outcome) ∧
      ((∀ n, ∀ f ∈ schedule (actions.flatMap Action.requirements) n,
        (FragmentKind.written f).error = none) →
      ∃ out members, r.finish? = some (.ok out) ∧
        Completes (actions.flatMap Action.requirements) members out) := by
  obtain ⟨r, hr, h, _⟩ := exists_replay actions
  obtain ⟨outcome, ho⟩ := h.exists_outcome finite
  refine ⟨r, hr, ⟨outcome, ho⟩, fun clean => ?_⟩
  rcases h.finish? ho with ⟨e, n, f, hf, _, he⟩ | ⟨out, members, rfl, completes⟩
  · rw [clean n f hf] at he
    cases he
  · exact ⟨out, members, ho, completes⟩

/-- Fragments that refer to themselves, to each other in a circle, and to another of the
same key. -/
inductive CodecPart where
  | reader
  | element
  | otherReader
  | buffer

instance : FragmentKind CodecPart where
  name
    | .reader | .otherReader => "reader"
    | .element => "element"
    | .buffer => "buffer"
  home
    | .buffer => ⟨"buffers", .withinCrate⟩
    | _ => ⟨"codec", .withinCrate⟩
  symbol
    | .reader | .otherReader => "crate::codec::reader"
    | .element => "crate::codec::element"
    | .buffer => "crate::buffers::buffer"
  extra
    | .element => [.fragment .buffer]
    | _ => []
  body
    | .reader => [.code "fn reader() {}", .require (.fragment .element)]
    | .element => [.require (.fragment .element), .require (.fragment .otherReader)]
    | .otherReader => [.code "fn other_reader() {}"]
    | .buffer => [.code "fn buffer() {}", .require (.fragment .reader)]

/-- A history that asks for some of them. -/
def codecHistory : List (Action CodecPart) := [.register .reader, .registerOrReuse .buffer]

/-- Circles of fragments come to an end. -/
theorem finish?_closure_codec :
    ∃ r out members, replay codecHistory = .ok r ∧ r.finish? = some (.ok out) ∧
      Completes (codecHistory.flatMap Action.requirements) members out := by
  have parts := Set.toFinite
    (FragmentKind.key '' {CodecPart.reader, .element, .otherReader, .buffer})
  have finite : {k | ∃ f, Mentioned (codecHistory.flatMap Action.requirements) f ∧
      FragmentKind.key f = k}.Finite :=
    parts.subset fun _ ⟨f, _, hf⟩ => ⟨f, by cases f <;> simp, hf⟩
  obtain ⟨r, hr, _, complete⟩ := finish?_closure finite
  obtain ⟨out, members, ho, h⟩ := complete fun _ f _ => by cases f <;> rfl
  exact ⟨r, out, members, hr, ho, h⟩

end Run

end Cratewright
