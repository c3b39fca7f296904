/-
Maps kept in key order, through what is found in them.

Two maps in which the same is found are equal, entry by entry:

* `SortedMap.forall₂_entries` — maps that agree up to a relation on values list their
  entries side by side, in the same order of keys;
* `SortedMap.ext_find?` — maps in which the same is found are equal;
* `SortedMap.find?_override` — what is found in a map that is laid over another;
* `SortedMap.pairwise_values` — values that stand under keys of their own are listed in the
  order of these keys;
* `SortedSet.mem_toList_ofList`, `SortedSet.mem_toList_union` — the members of a set that
  was built from a list, and of a union.
-/
import Mathlib.Data.List.Forall2
import Mathlib.Data.List.Induction
import Mathlib.Data.List.Nodup
import Mathlib.Tactic.Tauto
import Cratewright.SortedMap

namespace Cratewright

universe u v w

namespace SortedMap

variable {κ : Type u} {ν : Type v} {μ : Type w} [Ord κ]

theorem findEntry_of_lt {k : κ} : ∀ {l : List (κ × ν)},
    (∀ e ∈ l, compare k e.1 = .lt) → findEntry k l = none
  | [], _ => rfl
  | e :: rest, h => by
    rw [findEntry, h e (List.mem_cons_self ..), if_neg (by decide)]
    exact findEntry_of_lt fun d hd => h d (List.mem_cons_of_mem _ hd)

variable [Std.LawfulEqOrd κ]

theorem findEntry_cons_self (k : κ) (v : ν) (l : List (κ × ν)) :
    findEntry k ((k, v) :: l) = some v := by
  rw [findEntry, if_pos Std.ReflOrd.compare_self]

theorem findEntry_cons_of_ne {k : κ} {e : κ × ν} (h : k ≠ e.1) (l : List (κ × ν)) :
    findEntry k (e :: l) = findEntry k l := by
  rw [findEntry, if_neg fun he => h (Std.LawfulEqOrd.eq_of_compare he)]

variable [Std.TransOrd κ]

/-- Of two sorted lists in which related values are found, neither starts with the lesser
key. -/
theorem not_lt_head {R : ν → μ → Prop} {a : κ × ν} {b : κ × μ} {l : List (κ × ν)}
    {m : List (κ × μ)} (hm : (b :: m).Pairwise fun x y => compare x.1 y.1 = .lt)
    (h : ∀ k, Option.Rel R (findEntry k (a :: l)) (findEntry k (b :: m))) :
    compare a.1 b.1 ≠ .lt := by
  intro lt
  -- Below the first key of a sorted list nothing is found.
  have none : findEntry a.1 (b :: m) = none := by
    apply findEntry_of_lt
    intro e he
    rcases List.mem_cons.mp he with rfl | he
    · exact lt
    · exact Std.TransCmp.lt_trans lt ((List.pairwise_cons.mp hm).1 e he)
  have rel := h a.1
  rw [findEntry_cons_self, none] at rel
  cases rel

theorem forall₂_of_findEntry {R : ν → μ → Prop} : ∀ {l : List (κ × ν)} {m : List (κ × μ)},
    l.Pairwise (fun a b => compare a.1 b.1 = .lt) →
    m.Pairwise (fun a b => compare a.1 b.1 = .lt) →
    (∀ k, Option.Rel R (findEntry k l) (findEntry k m)) →
    List.Forall₂ (fun a b => a.1 = b.1 ∧ R a.2 b.2) l m
  | [], [], _, _, _ => .nil
  | [], b :: m, _, _, h => by
    have rel := h b.1
    rw [findEntry_cons_self] at rel
    cases rel
  | a :: l, [], _, _, h => by
    have rel := h a.1
    rw [findEntry_cons_self] at rel
    cases rel
  | a :: l, b :: m, hl, hm, h => by
    have key : a.1 = b.1 := by
      have h' : ∀ k, Option.Rel (fun y x => R x y) (findEntry k (b :: m))
          (findEntry k (a :: l)) := by
        intro k
        have rel := h k
        revert rel
        generalize findEntry k (a :: l) = x
        generalize findEntry k (b :: m) = y
        rintro (hR | _)
        · exact .some hR
        · exact .none
      cases hc : compare a.1 b.1 with
      | lt => exact absurd hc (not_lt_head hm h)
      | eq => exact Std.LawfulEqOrd.eq_of_compare hc
      | gt => exact absurd (Std.OrientedCmp.gt_iff_lt.mp hc) (not_lt_head hl h')
    obtain ⟨k, x⟩ := a
    obtain ⟨_, y⟩ := b
    cases key
    have ⟨hl₁, hl₂⟩ := List.pairwise_cons.mp hl
    have ⟨hm₁, hm₂⟩ := List.pairwise_cons.mp hm
    -- The tails agree as well: neither finds the first key, and others stand in the tails.
    refine .cons ⟨rfl, ?_⟩ (forall₂_of_findEntry hl₂ hm₂ fun j => ?_)
    · have rel := h k
      rw [findEntry_cons_self, findEntry_cons_self] at rel
      cases rel with
      | some hR => exact hR
    · by_cases hj : j = k
      · subst hj
        rw [findEntry_of_lt hl₁, findEntry_of_lt hm₁]
        exact .none
      · have rel := h j
        rw [findEntry_cons_of_ne hj, findEntry_cons_of_ne hj] at rel
        exact rel

/-- Maps in which related values are found list them side by side. -/
theorem forall₂_entries {R : ν → μ → Prop} {a : SortedMap κ ν} {b : SortedMap κ μ}
    (h : ∀ k, Option.Rel R (a.find? k) (b.find? k)) :
    List.Forall₂ (fun x y => x.1 = y.1 ∧ R x.2 y.2) a.entries b.entries :=
  forall₂_of_findEntry a.sorted b.sorted h

/-- Maps in which the same is found are equal. -/
theorem ext_find? {a b : SortedMap κ ν} (h : ∀ k, a.find? k = b.find? k) : a = b := by
  apply ext
  have same : List.Forall₂ (fun x y => x.1 = y.1 ∧ x.2 = y.2) a.entries b.entries := by
    apply forall₂_entries
    intro k
    rw [h k]
    cases b.find? k with
    | none => exact .none
    | some v => exact .some rfl
  exact List.forall₂_eq_eq_eq ▸ same.imp fun _ _ h => Prod.ext h.1 h.2

omit [Std.TransOrd κ] in
theorem nodup_keys (m : SortedMap κ ν) : m.keys.Nodup := by
  rw [keys, List.Nodup, List.pairwise_map]
  refine m.sorted.imp fun {a b} lt same => ?_
  rw [same, Std.ReflOrd.compare_self] at lt
  exact absurd lt (by decide)

/-! ### Maps over maps -/

/-- The map in which the keys of another have their values there, and all others their own. -/
def override (m after : SortedMap κ ν) : SortedMap κ ν :=
  after.entries.foldl (fun m e => m.insert e.1 e.2) m

theorem find?_override [DecidableEq κ] (m after : SortedMap κ ν) (k : κ) :
    (m.override after).find? k = (after.find? k).or (m.find? k) := by
  have insertions : ∀ (l : List (κ × ν)) (m : SortedMap κ ν),
      l.Pairwise (fun a b => compare a.1 b.1 = .lt) →
      (l.foldl (fun m e => m.insert e.1 e.2) m).find? k = (findEntry k l).or (m.find? k) := by
    intro l
    induction l with
    | nil => exact fun _ _ => rfl
    | cons e l ih =>
      intro m sorted
      obtain ⟨first, rest⟩ := List.pairwise_cons.mp sorted
      rw [List.foldl_cons, ih _ rest, find?_insert]
      by_cases same : k = e.1
      · rw [if_pos same, same, findEntry_of_lt first, findEntry_cons_self]
        rfl
      · rw [if_neg same, findEntry_cons_of_ne same]
  exact insertions after.entries m after.sorted

/-! ### Maps with other values -/

/-- The map with other values under the same keys. -/
def mapValues (f : ν → μ) (m : SortedMap κ ν) : SortedMap κ μ :=
  ⟨m.entries.map fun e => (e.1, f e.2), List.pairwise_map.mpr m.sorted⟩

omit [Std.LawfulEqOrd κ] [Std.TransOrd κ] in
theorem find?_mapValues (f : ν → μ) (m : SortedMap κ ν) (k : κ) :
    (m.mapValues f).find? k = (m.find? k).map f := by
  show findEntry k (m.entries.map fun e => (e.1, f e.2)) = (findEntry k m.entries).map f
  induction m.entries with
  | nil => rfl
  | cons e l ih =>
    rw [List.map_cons, findEntry, findEntry, ih]
    split <;> rfl

/-! ### Values under keys of their own -/

section OwnKey

variable {m : SortedMap κ ν} {key : ν → κ} (own : ∀ k v, m.find? k = some v → key v = k)

include own

theorem mem_values_iff_own {v : ν} : v ∈ m.values ↔ m.find? (key v) = some v := by
  rw [mem_values_iff]
  constructor
  · rintro ⟨k, hk⟩
    rw [own k v hk]
    exact hk
  · intro h
    exact ⟨_, h⟩

theorem pairwise_values :
    m.values.Pairwise fun a b => compare (key a) (key b) = .lt := by
  rw [values, List.pairwise_map]
  refine m.sorted.imp_of_mem fun {a b} ha hb lt => ?_
  rw [own a.1 a.2 (find?_eq_some_iff.mpr ha), own b.1 b.2 (find?_eq_some_iff.mpr hb)]
  exact lt

end OwnKey

/-- What the last of equal keys has put into a map. -/
theorem find?_ofList [DecidableEq κ] (l : List (κ × ν)) (k : κ) :
    (ofList l).find? k = (l.reverse.find? fun e => e.1 == k).map Prod.snd := by
  rw [ofList]
  induction l using List.reverseRecOn with
  | nil => rfl
  | append_singleton l e ih =>
    rw [List.foldl_append, List.foldl_cons, List.foldl_nil, find?_insert, ih,
      List.reverse_append, List.reverse_singleton, List.singleton_append, List.find?_cons]
    by_cases h : k = e.1
    · simp [h]
    · simp [h, beq_eq_false_iff_ne.mpr (Ne.symm h)]

/-- The last value that is given for a key is found under it. -/
theorem find?_ofList_iff_last [DecidableEq κ] {l : List (κ × ν)} {k : κ} {v : ν} :
    (ofList l).find? k = some v ↔
      ∃ before after, l = before ++ (k, v) :: after ∧ ∀ e ∈ after, e.1 ≠ k := by
  rw [find?_ofList, Option.map_eq_some_iff]
  constructor
  · rintro ⟨⟨k', v⟩, found, rfl⟩
    obtain ⟨same, after, before, split, others⟩ := List.find?_eq_some_iff_append.mp found
    cases beq_iff_eq.mp same
    refine ⟨before.reverse, after.reverse, ?_, fun e he => ?_⟩
    · rw [List.reverse_eq_iff.mp split]
      simp
    · simpa using others e (List.mem_reverse.mp he)
  · rintro ⟨before, after, rfl, others⟩
    refine ⟨(k, v), List.find?_eq_some_iff_append.mpr ⟨by simp, after.reverse, before.reverse, ?_⟩,
      rfl⟩
    exact ⟨by simp, fun e he => by simpa using others e (List.mem_reverse.mp he)⟩

theorem mem_of_find?_ofList [DecidableEq κ] {l : List (κ × ν)} {k : κ} {v : ν}
    (h : (ofList l).find? k = some v) : (k, v) ∈ l := by
  rw [find?_ofList] at h
  obtain ⟨e, he, rfl⟩ := Option.map_eq_some_iff.mp h
  have key : e.1 == k := List.find?_some (p := fun e : κ × ν => e.1 == k) he
  rw [← beq_iff_eq.mp key]
  exact List.mem_reverse.mp (List.mem_of_find?_eq_some he)

theorem contains_ofList [DecidableEq κ] (l : List (κ × ν)) (k : κ) :
    (ofList l).contains k = true ↔ k ∈ l.map Prod.fst := by
  rw [contains, find?_ofList, Option.isSome_map, List.find?_isSome]
  simp

/-- Entries of different keys are all found. -/
theorem find?_ofList_eq_some_iff [DecidableEq κ] {l : List (κ × ν)}
    (nodup : (l.map Prod.fst).Nodup) {k : κ} {v : ν} :
    (ofList l).find? k = some v ↔ (k, v) ∈ l := by
  refine ⟨mem_of_find?_ofList, fun h => ?_⟩
  have known := (contains_ofList l k).mpr (List.mem_map.mpr ⟨_, h, rfl⟩)
  obtain ⟨w, hw⟩ := Option.isSome_iff_exists.mp known
  have same := List.inj_on_of_nodup_map nodup (mem_of_find?_ofList hw) h rfl
  rw [hw]
  exact congrArg (some ∘ Prod.snd) same

/-- A map is the map of the entries that are found in it. -/
theorem ofList_eq [DecidableEq κ] {m : SortedMap κ ν} {l : List (κ × ν)}
    (h : ∀ k v, (k, v) ∈ l ↔ m.find? k = some v) : ofList l = m := by
  apply ext_find?
  intro k
  cases found : m.find? k with
  | some v =>
    have mem : k ∈ l.map Prod.fst := List.mem_map.mpr ⟨_, (h k v).mpr found, rfl⟩
    obtain ⟨w, hw⟩ := Option.isSome_iff_exists.mp ((contains_ofList l k).mpr mem)
    rw [hw, ← (h k w).mp (mem_of_find?_ofList hw), found]
  | none =>
    cases hw : (ofList l).find? k with
    | none => rfl
    | some w =>
      rw [(h k w).mp (mem_of_find?_ofList hw)] at found
      cases found

end SortedMap

namespace SortedSet

variable {α : Type u} [Ord α] [Std.TransOrd α] [Std.LawfulEqOrd α] [DecidableEq α]

theorem mem_toList_add {s : SortedSet α} {a b : α} :
    b ∈ (s.add a).toList ↔ b = a ∨ b ∈ s.toList := by
  rw [toList, toList, add, SortedMap.mem_keys_iff, SortedMap.mem_keys_iff]
  by_cases h : b = a
  · simp [h]
  · simp [h]

theorem mem_toList_addAll {s : SortedSet α} {l : List α} {b : α} :
    b ∈ (s.addAll l).toList ↔ b ∈ l ∨ b ∈ s.toList := by
  rw [addAll]
  induction l generalizing s with
  | nil => simp
  | cons a l ih =>
    rw [List.foldl_cons, ih, mem_toList_add, List.mem_cons]
    tauto

theorem mem_toList_ofList {l : List α} {b : α} : b ∈ (ofList l).toList ↔ b ∈ l := by
  rw [ofList, mem_toList_addAll]
  exact or_iff_left (by rintro ⟨⟩)

theorem mem_toList_union {s t : SortedSet α} {b : α} :
    b ∈ (s.union t).toList ↔ b ∈ s.toList ∨ b ∈ t.toList := by
  rw [union, mem_toList_addAll, or_comm]

omit [DecidableEq α] in
/-- Sets of the same members are equal. -/
theorem ext_mem {s t : SortedSet α} (h : ∀ a, a ∈ s.toList ↔ a ∈ t.toList) : s = t := by
  apply SortedMap.ext_find?
  intro a
  have ha := h a
  rw [toList, toList, SortedMap.mem_keys_iff, SortedMap.mem_keys_iff] at ha
  cases hs : s.find? a with
  | none =>
    cases ht : t.find? a with
    | none => rfl
    | some _ =>
      obtain ⟨v, hv⟩ := ha.mpr ⟨_, ht⟩
      rw [hs] at hv
      cases hv
  | some _ =>
    obtain ⟨_, hv⟩ := ha.mp ⟨_, hs⟩
    exact hv.symm

end SortedSet

end Cratewright
