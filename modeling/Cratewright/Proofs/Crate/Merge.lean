/-
Merging as a semilattice.

A dependency gathers the requests of a list for one key if it asks for what they ask for
together: the union of their features, default features and being optional only if all agree,
and the least of their names in code. There is one such dependency at most, and it depends
only on which requests there are:

* `CrateDependency.Gathers.merge` — merging joins what two dependencies gather;
* `DependencySet.Gathers.addAll` — adding requests to a set never fails, and the set gathers
  them;
* `DependencySet.addAll_semilattice` — sets depend neither on the order nor on the number of
  the requests, and `merge` is commutative, associative and idempotent.
-/
import Mathlib.Data.String.Basic
import Cratewright.Crate.DependencySet
import Cratewright.Outcome
import Cratewright.Proofs.SortedMap

namespace Cratewright

/-! ### What a merged dependency asks for -/

namespace CrateDependency

/-- `m` asks for what the requests of key `k` in `ds` ask for together. -/
structure Gathers (ds : List CrateDependency) (k : DependencyKey) (m : CrateDependency) :
    Prop where
  key : m.key = k
  features : ∀ f, f ∈ m.features.toList ↔ ∃ d ∈ ds, d.key = k ∧ f ∈ d.features.toList
  defaultFeatures :
    m.defaultFeatures = true ↔ ∀ d ∈ ds, d.key = k → d.defaultFeatures = true
  optional : m.optional = true ↔ ∀ d ∈ ds, d.key = k → d.optional = true
  importName_mem : ∃ d ∈ ds, d.key = k ∧ d.importName = m.importName
  importName_le : ∀ d ∈ ds, d.key = k → m.importName ≤ d.importName

theorem lesser_eq_or (a b : String) : lesser a b = a ∧ a ≤ b ∨ lesser a b = b ∧ b ≤ a := by
  have le : (compare a b).isLE ↔ a ≤ b :=
    isLE_compareOfLessAndEq String.le_antisymm String.not_le String.le_total
  rw [lesser]
  by_cases h : (compare a b).isLE
  · rw [if_pos h]
    exact .inl ⟨rfl, le.mp h⟩
  · rw [if_neg h]
    exact .inr ⟨rfl, (String.le_total a b).resolve_left fun hab => h (le.mpr hab)⟩

theorem lesser_le_left (a b : String) : lesser a b ≤ a := by
  rcases lesser_eq_or a b with ⟨h, _⟩ | ⟨h, hb⟩
  · exact le_of_eq h
  · rw [h]
    exact hb

theorem lesser_le_right (a b : String) : lesser a b ≤ b := by
  rcases lesser_eq_or a b with ⟨h, ha⟩ | ⟨h, _⟩
  · rw [h]
    exact ha
  · exact le_of_eq h

theorem ext_key {a b : CrateDependency} (key : a.key = b.key)
    (features : a.features = b.features) (defaultFeatures : a.defaultFeatures = b.defaultFeatures)
    (optional : a.optional = b.optional) (importName : a.importName = b.importName) : a = b := by
  obtain ⟨_, _, _, _, _, _, _⟩ := a
  obtain ⟨_, _, _, _, _, _, _⟩ := b
  cases key
  cases features
  cases defaultFeatures
  cases optional
  cases importName
  rfl

variable {ds es : List CrateDependency} {k : DependencyKey} {m n : CrateDependency}

/-- A dependency gathers itself. -/
theorem gathers_singleton (d : CrateDependency) : Gathers [d] d.key d where
  key := rfl
  features f := by simp
  defaultFeatures := by simp
  optional := by simp
  importName_mem := ⟨d, List.mem_singleton_self d, rfl, rfl⟩
  importName_le e he _ := by
    rw [List.mem_singleton.mp he]

theorem Gathers.congr (h : Gathers ds k m) (same : ∀ d, d.key = k → (d ∈ ds ↔ d ∈ es)) :
    Gathers es k m where
  key := h.key
  features f := by
    rw [h.features f]
    constructor
    · rintro ⟨d, hd, hk, hf⟩
      exact ⟨d, (same d hk).mp hd, hk, hf⟩
    · rintro ⟨d, hd, hk, hf⟩
      exact ⟨d, (same d hk).mpr hd, hk, hf⟩
  defaultFeatures := by
    rw [h.defaultFeatures]
    exact ⟨fun all d hd hk => all d ((same d hk).mpr hd) hk,
      fun all d hd hk => all d ((same d hk).mp hd) hk⟩
  optional := by
    rw [h.optional]
    exact ⟨fun all d hd hk => all d ((same d hk).mpr hd) hk,
      fun all d hd hk => all d ((same d hk).mp hd) hk⟩
  importName_mem := by
    obtain ⟨d, hd, hk, hn⟩ := h.importName_mem
    exact ⟨d, (same d hk).mp hd, hk, hn⟩
  importName_le d hd hk := h.importName_le d ((same d hk).mpr hd) hk

/-- One dependency at most gathers given requests. -/
theorem Gathers.unique (hm : Gathers ds k m) (hn : Gathers ds k n) : m = n := by
  apply ext_key (hm.key.trans hn.key.symm)
  · exact SortedSet.ext_mem fun f => (hm.features f).trans (hn.features f).symm
  · exact Bool.eq_iff_iff.mpr (hm.defaultFeatures.trans hn.defaultFeatures.symm)
  · exact Bool.eq_iff_iff.mpr (hm.optional.trans hn.optional.symm)
  · obtain ⟨d, hd, hdk, hdn⟩ := hm.importName_mem
    obtain ⟨e, he, hek, hen⟩ := hn.importName_mem
    apply String.le_antisymm
    · rw [← hen]
      exact hm.importName_le e he hek
    · rw [← hdn]
      exact hn.importName_le d hd hdk

/-- Merging joins what two dependencies of one key gather. -/
theorem Gathers.merge (hm : Gathers ds k m) (hn : Gathers es k n) :
    ∃ p, m.merge n = .ok p ∧ Gathers (ds ++ es) k p := by
  rw [CrateDependency.merge, if_pos (hm.key.trans hn.key.symm)]
  refine ⟨_, rfl, ?_⟩
  constructor
  case key => exact hm.key
  case features =>
    intro f
    rw [SortedSet.mem_toList_union, hm.features, hn.features]
    -- Either side stands for requests of its own part of the list.
    constructor
    · rintro (⟨d, hd, h⟩ | ⟨d, hd, h⟩)
      · exact ⟨d, List.mem_append_left _ hd, h⟩
      · exact ⟨d, List.mem_append_right _ hd, h⟩
    · rintro ⟨d, hd, h⟩
      exact (List.mem_append.mp hd).imp (fun hd => ⟨d, hd, h⟩) fun hd => ⟨d, hd, h⟩
  case defaultFeatures =>
    rw [Bool.and_eq_true, hm.defaultFeatures, hn.defaultFeatures]
    exact List.forall_mem_append.symm
  case optional =>
    rw [Bool.and_eq_true, hm.optional, hn.optional]
    exact List.forall_mem_append.symm
  case importName_mem =>
    rcases lesser_eq_or m.importName n.importName with ⟨h, _⟩ | ⟨h, _⟩
    · obtain ⟨d, hd, hk, hdn⟩ := hm.importName_mem
      exact ⟨d, List.mem_append_left _ hd, hk, hdn.trans h.symm⟩
    · obtain ⟨d, hd, hk, hdn⟩ := hn.importName_mem
      exact ⟨d, List.mem_append_right _ hd, hk, hdn.trans h.symm⟩
  case importName_le =>
    intro d hd hk
    rcases List.mem_append.mp hd with hd | hd
    · exact String.le_trans (lesser_le_left _ _) (hm.importName_le d hd hk)
    · exact String.le_trans (lesser_le_right _ _) (hn.importName_le d hd hk)

theorem merge_comm {a b : CrateDependency} (h : a.key = b.key) :
    ∃ m, a.merge b = .ok m ∧ b.merge a = .ok m := by
  have hb := b.gathers_singleton
  rw [← h] at hb
  obtain ⟨m, hm, hgm⟩ := a.gathers_singleton.merge hb
  obtain ⟨n, hn, hgn⟩ := hb.merge a.gathers_singleton
  have swap : n.Gathers ([a] ++ [b]) a.key := by
    refine hgn.congr fun d _ => ?_
    rw [List.mem_append, List.mem_append, or_comm]
  rw [swap.unique hgm] at hn
  exact ⟨m, hm, hn⟩

theorem merge_assoc {a b c : CrateDependency} (hab : a.key = b.key) (hbc : b.key = c.key) :
    ∃ ab bc m, a.merge b = .ok ab ∧ b.merge c = .ok bc ∧
      ab.merge c = .ok m ∧ a.merge bc = .ok m := by
  have ha := a.gathers_singleton
  have hb := b.gathers_singleton
  have hc := c.gathers_singleton
  rw [hab, hbc] at ha
  rw [hbc] at hb
  obtain ⟨ab, hab, hgab⟩ := ha.merge hb
  obtain ⟨bc, hbc, hgbc⟩ := hb.merge hc
  -- Either way the three are gathered, and one dependency at most does so.
  obtain ⟨m, hm, hgm⟩ := hgab.merge hc
  obtain ⟨n, hn, hgn⟩ := ha.merge hgbc
  rw [List.append_assoc] at hgm
  rw [hgn.unique hgm] at hn
  exact ⟨ab, bc, m, hab, hbc, hm, hn⟩

theorem merge_self (a : CrateDependency) : a.merge a = .ok a := by
  obtain ⟨m, hm, hgm⟩ := a.gathers_singleton.merge a.gathers_singleton
  have once : m.Gathers [a] a.key := by
    refine hgm.congr fun d _ => ?_
    rw [List.mem_append, or_self]
  rw [once.unique a.gathers_singleton] at hm
  exact hm

/-- A gathered dependency stands for the requests that it gathers. -/
theorem Gathers.flatten (hm : Gathers (ds ++ [n]) k m) (hn : Gathers es k n) :
    Gathers (ds ++ es) k m where
  key := hm.key
  features f := by
    rw [hm.features f]
    constructor
    · rintro ⟨d, hd, hk, hf⟩
      rcases List.mem_append.mp hd with hd | hd
      · exact ⟨d, List.mem_append_left _ hd, hk, hf⟩
      · rw [List.mem_singleton.mp hd, hn.features f] at hf
        obtain ⟨e, he, hek, hef⟩ := hf
        exact ⟨e, List.mem_append_right _ he, hek, hef⟩
    · rintro ⟨d, hd, hk, hf⟩
      rcases List.mem_append.mp hd with hd | hd
      · exact ⟨d, List.mem_append_left _ hd, hk, hf⟩
      · exact ⟨n, by simp, hn.key, (hn.features f).mpr ⟨d, hd, hk, hf⟩⟩
  defaultFeatures := by
    rw [hm.defaultFeatures, List.forall_mem_append, List.forall_mem_append,
      List.forall_mem_singleton, ← hn.defaultFeatures, imp_iff_right hn.key]
  optional := by
    rw [hm.optional, List.forall_mem_append, List.forall_mem_append,
      List.forall_mem_singleton, ← hn.optional, imp_iff_right hn.key]
  importName_mem := by
    obtain ⟨d, hd, hk, hdm⟩ := hm.importName_mem
    rcases List.mem_append.mp hd with hd | hd
    · exact ⟨d, List.mem_append_left _ hd, hk, hdm⟩
    · rw [List.mem_singleton.mp hd] at hdm
      obtain ⟨e, he, hek, hen⟩ := hn.importName_mem
      exact ⟨e, List.mem_append_right _ he, hek, hen.trans hdm⟩
  importName_le d hd hk := by
    rcases List.mem_append.mp hd with hd | hd
    · exact hm.importName_le d (List.mem_append_left _ hd) hk
    · exact String.le_trans (hm.importName_le n (by simp) hn.key) (hn.importName_le d hd hk)

end CrateDependency

/-! ### What a set asks for -/

namespace DependencySet

/-- Every request is met under its key, and what stands under a key gathers the requests
for it. -/
structure Gathers (s : DependencySet) (ds : List CrateDependency) : Prop where
  complete : ∀ d ∈ ds, ∃ m, s.get? d.key = some m
  sound : ∀ k m, s.get? k = some m → m.Gathers ds k

variable {s t u : DependencySet} {ds es : List CrateDependency}

theorem gathers_empty : empty.Gathers [] where
  complete d hd := by cases hd
  sound k m hm := by cases hm

theorem Gathers.congr (h : s.Gathers ds) (same : ∀ d, d ∈ ds ↔ d ∈ es) : s.Gathers es where
  complete d hd := h.complete d ((same d).mpr hd)
  sound k m hm := (h.sound k m hm).congr fun d _ => same d

/-- Nothing is asked of a key that nothing stands under. -/
theorem Gathers.key_ne (h : s.Gathers ds) {k : DependencyKey} (none : s.get? k = none) :
    ∀ d ∈ ds, d.key ≠ k := by
  rintro d hd rfl
  obtain ⟨m, hm⟩ := h.complete d hd
  rw [none] at hm
  cases hm

/-- One set at most gathers given requests. -/
theorem Gathers.unique (hs : s.Gathers ds) (ht : t.Gathers ds) : s = t := by
  have same : ∀ k, s.get? k = t.get? k := by
    intro k
    cases hm : s.get? k with
    | some m =>
      obtain ⟨d, hd, rfl, _⟩ := (hs.sound k m hm).importName_mem
      obtain ⟨n, hn⟩ := ht.complete d hd
      rw [hn, (hs.sound _ m hm).unique (ht.sound _ n hn)]
    | none =>
      cases hn : t.get? k with
      | none => rfl
      | some n =>
        obtain ⟨d, hd, hk, _⟩ := (ht.sound k n hn).importName_mem
        exact absurd hk (hs.key_ne hm d hd)
  obtain ⟨a⟩ := s
  obtain ⟨b⟩ := t
  exact congrArg DependencySet.mk (SortedMap.ext_find? same)

theorem get?_insert (k j : DependencyKey) (d : CrateDependency) :
    (⟨s.entries.insert k d⟩ : DependencySet).get? j = if j = k then some d else s.get? j :=
  SortedMap.find?_insert ..

/-- Under a key of its own, a dependency that gathers the requests for it completes a set. -/
theorem Gathers.insert (h : s.Gathers ds) {d m : CrateDependency}
    (hm : m.Gathers (ds ++ [d]) d.key) :
    (⟨s.entries.insert d.key m⟩ : DependencySet).Gathers (ds ++ [d]) := by
  constructor
  case complete =>
    intro e he
    -- Requests of the key are met by `m`, all others as before.
    rw [get?_insert]
    by_cases hk : e.key = d.key
    · exact ⟨m, if_pos hk⟩
    · rw [if_neg hk]
      rcases List.mem_append.mp he with he | he
      · exact h.complete e he
      · exact absurd (congrArg _ (List.mem_singleton.mp he)) hk
  case sound =>
    intro k n hn
    rw [get?_insert] at hn
    by_cases hk : k = d.key
    · rw [if_pos hk] at hn
      cases hn
      exact hk ▸ hm
    · rw [if_neg hk] at hn
      -- Of another key, nothing is asked that was not asked before.
      refine (h.sound k n hn).congr fun e he => ?_
      have ne : e ≠ d := by
        rintro rfl
        exact hk he.symm
      simp [ne]

theorem Gathers.add (h : s.Gathers ds) (d : CrateDependency) :
    ∃ t, s.add d = .ok t ∧ t.Gathers (ds ++ [d]) := by
  rw [DependencySet.add]
  cases hold : s.get? d.key with
  | none =>
    refine ⟨_, rfl, h.insert ((CrateDependency.gathers_singleton d).congr fun e he => ?_)⟩
    have fresh : e ∉ ds := fun hmem => h.key_ne hold e hmem he
    simp [fresh]
  | some old =>
    obtain ⟨m, hmerge, hm⟩ :=
      (h.sound _ old hold).merge (CrateDependency.gathers_singleton d)
    refine ⟨_, ?_, h.insert hm⟩
    show (old.merge d).map _ = _
    rw [hmerge]
    rfl

/-- Adding requests one by one never fails, and the set gathers them. -/
theorem Gathers.addAll (h : s.Gathers ds) (es : List CrateDependency) :
    ∃ t, s.addAll es = .ok t ∧ t.Gathers (ds ++ es) := by
  induction es generalizing s ds with
  | nil => exact ⟨s, rfl, (List.append_nil ds).symm ▸ h⟩
  | cons e es ih =>
    obtain ⟨t, ht, hgt⟩ := h.add e
    obtain ⟨u, hu, hgu⟩ := ih hgt
    refine ⟨u, ?_, ?_⟩
    · rw [DependencySet.addAll, List.foldlM_cons, ht]
      exact hu
    · rw [← List.append_cons] at hgu
      exact hgu

theorem exists_addAll (ds : List CrateDependency) :
    ∃ s, empty.addAll ds = .ok s ∧ s.Gathers ds :=
  gathers_empty.addAll ds

theorem addAll_of_gathers (h : s.Gathers ds) : empty.addAll ds = .ok s := by
  obtain ⟨t, ht, hgt⟩ := exists_addAll ds
  rw [ht, hgt.unique h]

/-- A set depends only on which requests were added. -/
theorem addAll_congr (same : ∀ d, d ∈ ds ↔ d ∈ es) : empty.addAll ds = empty.addAll es := by
  obtain ⟨s, hs, hgs⟩ := exists_addAll ds
  rw [hs, addAll_of_gathers (hgs.congr same)]

/-- A set lists what stands under its own key. -/
theorem Gathers.mem_toList_iff (h : s.Gathers ds) {m : CrateDependency} :
    m ∈ s.toList ↔ s.get? m.key = some m :=
  SortedMap.mem_values_iff_own fun k n hn => (h.sound k n hn).key

/-- The dependencies of a set stand for the requests that the set gathers. -/
theorem Gathers.flatten (hu : u.Gathers (ds ++ t.toList)) (ht : t.Gathers es) :
    u.Gathers (ds ++ es) := by
  constructor
  case complete =>
    intro d hd
    rcases List.mem_append.mp hd with hd | hd
    · exact hu.complete d (List.mem_append_left _ hd)
    · obtain ⟨m, hm⟩ := ht.complete d hd
      have hk : m.key = d.key := (ht.sound _ m hm).key
      rw [← hk] at hm ⊢
      exact hu.complete m (List.mem_append_right _ (ht.mem_toList_iff.mpr hm))
  case sound =>
    intro k m hm
    cases hn : t.get? k with
    -- Under a key `t` lists one dependency or none; it stands for what `es` asks of the key.
    | some n =>
      have direct : m.Gathers (ds ++ [n]) k := by
        refine (hu.sound k m hm).congr fun d hd => ?_
        rw [List.mem_append, List.mem_append, ht.mem_toList_iff, hd, hn, List.mem_singleton,
          Option.some_inj, eq_comm]
      exact direct.flatten (ht.sound k n hn)
    | none =>
      refine (hu.sound k m hm).congr fun d hd => ?_
      have fresh : d ∉ es := fun hmem => ht.key_ne hn d hmem hd
      rw [List.mem_append, List.mem_append, ht.mem_toList_iff, hd, hn]
      simp [fresh]

theorem Gathers.extend (hs : s.Gathers ds) (ht : t.Gathers es) :
    ∃ u, s.extend t = .ok u ∧ u.Gathers (ds ++ es) := by
  obtain ⟨u, hu, hgu⟩ := hs.addAll t.toList
  exact ⟨u, hu, hgu.flatten ht⟩

/-- Sets of two lists, extended by each other, are the set of both. -/
theorem exists_extend (ds es : List CrateDependency) :
    ∃ s t u, empty.addAll ds = .ok s ∧ empty.addAll es = .ok t ∧
      s.extend t = .ok u ∧ t.extend s = .ok u ∧ empty.addAll (ds ++ es) = .ok u := by
  obtain ⟨s, hs, hgs⟩ := exists_addAll ds
  obtain ⟨t, ht, hgt⟩ := exists_addAll es
  obtain ⟨u, hu, hgu⟩ := hgs.extend hgt
  obtain ⟨v, hv, hgv⟩ := hgt.extend hgs
  -- Both extensions gather the requests of both lists, and one set at most does.
  have swap : v.Gathers (ds ++ es) := by
    refine hgv.congr fun d => ?_
    rw [List.mem_append, List.mem_append, or_comm]
  rw [swap.unique hgu] at hv
  exact ⟨s, t, u, hs, ht, hu, hv, addAll_of_gathers hgu⟩

/-- **Merging is a semilattice.**  Requests that are added one by one never fail, what stands
under a key gathers the requests for it, and sets depend neither on the order nor on the
number of the requests; on dependencies of one key, merging is commutative, associative and
idempotent. -/
theorem addAll_semilattice :
    (∀ ds, ∃ s, empty.addAll ds = .ok s ∧
      (∀ d ∈ ds, ∃ m, s.get? d.key = some m) ∧
      ∀ k m, s.get? k = some m → m.Gathers ds k) ∧
    (∀ ds es, (∀ d, d ∈ ds ↔ d ∈ es) → empty.addAll ds = empty.addAll es) ∧
    (∀ ds es, ∃ s t u, empty.addAll ds = .ok s ∧ empty.addAll es = .ok t ∧
      s.extend t = .ok u ∧ t.extend s = .ok u ∧ empty.addAll (ds ++ es) = .ok u) ∧
    (∀ a b : CrateDependency, a.key = b.key →
      ∃ m, a.merge b = .ok m ∧ b.merge a = .ok m) ∧
    (∀ a b c : CrateDependency, a.key = b.key → b.key = c.key →
      ∃ ab bc m, a.merge b = .ok ab ∧ b.merge c = .ok bc ∧
        ab.merge c = .ok m ∧ a.merge bc = .ok m) ∧
    ∀ a : CrateDependency, a.merge a = .ok a := by
  refine ⟨fun ds => ?_, fun _ _ => addAll_congr, exists_extend,
    fun _ _ => CrateDependency.merge_comm, fun _ _ _ => CrateDependency.merge_assoc,
    CrateDependency.merge_self⟩
  obtain ⟨s, hs, hgs⟩ := exists_addAll ds
  exact ⟨s, hs, hgs.complete, hgs.sound⟩

end DependencySet

end Cratewright
