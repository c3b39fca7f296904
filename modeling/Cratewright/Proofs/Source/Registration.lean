/-
Sequences of registrations.

Fragments are registered one after the other, each in one of two ways: one tells whether the
fragment was new, the other gives the path of the fragment that stands under the key. Either
way the register does the same, so a sequence of registrations is one of additions:

* `Registry.performAll_snd` — what is registered after a sequence of registrations;
* `Registry.get?_performAll` — under each key stands the first fragment of that key;
* `Registry.answer_performAll` — what a registration answers in the middle of others;
* `Registry.size_performAll` — there is one fragment for each key that was used;
* `Registry.first_registration_stands` — the first registration of a key stands, and the
  modules of the register divide its fragments among them.
-/
import Mathlib.Data.List.Dedup
import Cratewright.Proofs.Source.Layout

namespace Cratewright

namespace Registry

variable {φ : Type}

/-- A registration of a fragment. -/
inductive Call (φ : Type) where
  /-- Asks whether the fragment was new. -/
  | register (f : φ)
  /-- Asks for the path of the fragment under the key. -/
  | registerOrReuse (f : φ)

def Call.fragment : Call φ → φ
  | register f | registerOrReuse f => f

/-- What a registration answers. -/
inductive Answer (φ : Type) where
  | isNew (new : Bool)
  | path (item : ItemPath φ)

variable [FragmentKind φ]

/-- The key that a registration is about. -/
def Call.key (c : Call φ) : FragmentKey := FragmentKind.key c.fragment

def perform (r : Registry φ) : Call φ → Answer φ × Registry φ
  | .register f => ((r.register f).map .isNew id)
  | .registerOrReuse f => ((r.registerOrReuse f).map .path id)

/-- The answers of registrations one after the other, and the register that they leave. -/
def performAll (r : Registry φ) : List (Call φ) → List (Answer φ) × Registry φ
  | [] => ([], r)
  | c :: calls =>
    let (answer, next) := r.perform c
    let (answers, last) := next.performAll calls
    (answer :: answers, last)

/-! ### What is registered -/

/-- In either way the fragment is added to the register. -/
theorem perform_snd (r : Registry φ) (c : Call φ) : (r.perform c).2 = r.add c.fragment := by
  cases c <;> rfl

theorem performAll_snd (r : Registry φ) (calls : List (Call φ)) :
    (r.performAll calls).2 = (calls.map Call.fragment).foldl add r := by
  induction calls generalizing r with
  | nil => rfl
  | cons c calls ih =>
    show ((r.perform c).2.performAll calls).2 = _
    rw [ih, perform_snd]
    rfl

/-- The first fragment of a key that is registered. -/
def firstOf (calls : List (Call φ)) (k : FragmentKey) : Option φ :=
  (calls.map Call.fragment).find? fun f => FragmentKind.key f == k

theorem get?_performAll (calls : List (Call φ)) (k : FragmentKey) :
    (performAll empty calls).2.get? k = firstOf calls k := by
  rw [performAll_snd, get?_foldl_add]
  exact Option.none_or

theorem firstOf_append (earlier later : List (Call φ)) (k : FragmentKey) :
    firstOf (earlier ++ later) k = (firstOf earlier k).or (firstOf later k) := by
  rw [firstOf, List.map_append, List.find?_append]
  rfl

theorem firstOf_cons (c : Call φ) (later : List (Call φ)) :
    firstOf (c :: later) c.key = some c.fragment :=
  List.find?_cons_of_pos (beq_self_eq_true c.key)

theorem key_of_firstOf {calls : List (Call φ)} {k : FragmentKey} {f : φ}
    (h : firstOf calls k = some f) : FragmentKind.key f = k := by
  have found := List.find?_some h
  exact beq_iff_eq.mp found

theorem isSome_firstOf {calls : List (Call φ)} {k : FragmentKey} :
    (firstOf calls k).isSome = true ↔ k ∈ calls.map Call.key := by
  simp [firstOf, Call.key]

theorem keyed_performAll (calls : List (Call φ)) : (performAll empty calls).2.Keyed := by
  intro k f h
  rw [get?_performAll] at h
  exact key_of_firstOf h

/-! ### What is answered -/

theorem performAll_append (r : Registry φ) (earlier later : List (Call φ)) :
    (r.performAll (earlier ++ later)).1 =
      (r.performAll earlier).1 ++ ((r.performAll earlier).2.performAll later).1 := by
  induction earlier generalizing r with
  | nil => rfl
  | cons c earlier ih => exact congrArg ((r.perform c).1 :: ·) (ih (r.perform c).2)

theorem length_performAll (r : Registry φ) (calls : List (Call φ)) :
    (r.performAll calls).1.length = calls.length := by
  induction calls generalizing r with
  | nil => rfl
  | cons c calls ih => exact congrArg (· + 1) (ih (r.perform c).2)

theorem answer_performAll (earlier later : List (Call φ)) (c : Call φ) :
    (performAll empty (earlier ++ c :: later)).1[earlier.length]? =
      some ((performAll empty earlier).2.perform c).1 := by
  rw [performAll_append, List.getElem?_append_right (Nat.le_of_eq (length_performAll ..)),
    length_performAll, Nat.sub_self]
  rfl

variable (earlier later : List (Call φ)) (f : φ)

/-- A fragment is new just if no earlier one has its key. -/
theorem perform_register : ((performAll empty earlier).2.perform (.register f)).1 =
    .isNew (decide (FragmentKind.key f ∉ earlier.map Call.key)) := by
  have taken : (performAll empty earlier).2.entries.contains (FragmentKind.key f) =
      (firstOf earlier (FragmentKind.key f)).isSome :=
    congrArg Option.isSome (get?_performAll earlier _)
  show Answer.isNew (Registry.register _ f).1 = _
  rw [register, taken]
  by_cases known : FragmentKind.key f ∈ earlier.map Call.key
  · rw [if_pos (isSome_firstOf.mpr known), decide_eq_false (not_not_intro known)]
  · rw [if_neg (mt isSome_firstOf.mp known), decide_eq_true known]

/-- The fragment whose path is given is the one that stands under the key in the end. -/
theorem perform_registerOrReuse : ∃ g,
    (performAll empty (earlier ++ .registerOrReuse f :: later)).2.get? (FragmentKind.key f)
      = some g ∧
    ((performAll empty earlier).2.perform (.registerOrReuse f)).1 =
      .path (FragmentKind.item g) := by
  have own := firstOf_cons (.registerOrReuse f) later
  have answer : ((performAll empty earlier).2.perform (.registerOrReuse f)).1 =
      .path (FragmentKind.item ((firstOf earlier (FragmentKind.key f)).getD f)) := by
    rw [← get?_performAll]
    rfl
  rw [get?_performAll, firstOf_append, answer]
  cases found : firstOf earlier (FragmentKind.key f) with
  | none => exact ⟨f, own, rfl⟩
  | some g => exact ⟨g, rfl, rfl⟩

/-! ### How many there are -/

theorem size_performAll (calls : List (Call φ)) :
    (performAll empty calls).2.size = (calls.map Call.key).dedup.length := by
  have members (k : FragmentKey) :
      k ∈ (performAll empty calls).2.keys ↔ k ∈ (calls.map Call.key).dedup := by
    rw [List.mem_dedup, ← isSome_firstOf, Option.isSome_iff_exists, ← get?_performAll]
    exact SortedMap.mem_keys_iff
  have perm :=
    (List.perm_ext_iff_of_nodup (SortedMap.nodup_keys _) (List.nodup_dedup _)).mpr members
  rw [← perm.length_eq]
  exact (List.length_map _).symm

/-! ### All about a sequence of registrations -/

/-- After any sequence of registrations, under each key stands the first fragment that was
registered under it. A registration answers that its fragment is new just if no earlier one
has the key, or gives the path of the fragment that stands under the key. There are as many
fragments as different keys, and the modules of the register hold each fragment once, in
groups of strictly increasing paths, the members of a group in the module of its path. -/
theorem first_registration_stands :
    (∀ (calls : List (Call φ)) k, (performAll empty calls).2.get? k =
      (calls.map Call.fragment).find? fun f => FragmentKind.key f == k) ∧
    (∀ (earlier later : List (Call φ)) f,
      (performAll empty (earlier ++ .register f :: later)).1[earlier.length]? =
        some (.isNew (decide (FragmentKind.key f ∉ earlier.map Call.key)))) ∧
    (∀ (earlier later : List (Call φ)) f, ∃ g,
      (performAll empty (earlier ++ .registerOrReuse f :: later)).2.get? (FragmentKind.key f)
        = some g ∧
      (performAll empty (earlier ++ .registerOrReuse f :: later)).1[earlier.length]? =
        some (.path (FragmentKind.item g))) ∧
    ∀ calls : List (Call φ), let r := (performAll empty calls).2
      r.size = (calls.map Call.key).dedup.length ∧
      (∀ f, f ∈ r.toList ↔ r.get? (FragmentKind.key f) = some f) ∧
      (r.toList.map FragmentKind.key).Nodup ∧
      Layout r.toList r.byModule := by
  refine ⟨get?_performAll, fun earlier later f => ?_, fun earlier later f => ?_, ?_⟩
  · rw [answer_performAll, perform_register]
  · obtain ⟨g, registered, answer⟩ := perform_registerOrReuse earlier later f
    refine ⟨g, registered, ?_⟩
    rw [answer_performAll, answer]
  · intro calls r
    have keyed : r.Keyed := keyed_performAll calls
    exact ⟨size_performAll calls, fun f => keyed.mem_toList_iff, keyed.nodup_keys,
      layout_byModule keyed⟩

end Registry

end Cratewright
