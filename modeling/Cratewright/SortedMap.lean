/-
Finite maps kept in key order.

A `SortedMap κ ν` is a list of entries whose keys strictly increase, so two maps
with the same entries are equal and every listing comes out in key order.

* `SortedMap.insert` replaces the value of a key or puts a new entry in its place;
* `SortedMap.find?` looks a key up;
* `SortedMap.ofList` inserts from left to right, so the last of equal keys wins.

A `SortedSet` is a map that carries nothing besides its keys.
-/
namespace Cratewright

universe u v

/-- A finite map whose entries stand in strictly increasing order of their keys. -/
structure SortedMap (κ : Type u) (ν : Type v) [Ord κ] where
  /-- The entries, in key order. -/
  entries : List (κ × ν)
  /-- Every key is below the keys that follow it. -/
  sorted : entries.Pairwise fun a b => compare a.1 b.1 = .lt

namespace SortedMap

variable {κ : Type u} {ν : Type v} [Ord κ]

theorem ext {a b : SortedMap κ ν} (h : a.entries = b.entries) : a = b := by
  cases a
  cases b
  cases h
  rfl

instance [DecidableEq κ] [DecidableEq ν] : DecidableEq (SortedMap κ ν) := fun a b =>
  decidable_of_iff (a.entries = b.entries) ⟨ext, fun h => h ▸ rfl⟩

/-- The map without entries. -/
def empty : SortedMap κ ν := ⟨[], .nil⟩

instance : EmptyCollection (SortedMap κ ν) := ⟨empty⟩

instance : Inhabited (SortedMap κ ν) := ⟨empty⟩

/-! ### Looking up -/

/-- The value that stands first under `k`. -/
def findEntry (k : κ) : List (κ × ν) → Option ν
  | [] => none
  | e :: rest => if compare k e.1 = .eq then some e.2 else findEntry k rest

/-- The value of `k`, if the map has one. -/
def find? (m : SortedMap κ ν) (k : κ) : Option ν := findEntry k m.entries

/-- Whether `k` has a value. -/
def contains (m : SortedMap κ ν) (k : κ) : Bool := (m.find? k).isSome

/-- The keys, in order. -/
def keys (m : SortedMap κ ν) : List κ := m.entries.map Prod.fst

/-- The values, in the order of their keys. -/
def values (m : SortedMap κ ν) : List ν := m.entries.map Prod.snd

/-- The number of entries. -/
def size (m : SortedMap κ ν) : Nat := m.entries.length

/-- Whether there are no entries. -/
def isEmpty (m : SortedMap κ ν) : Bool := m.entries.isEmpty

/-! ### Inserting -/

/-- Puts `v` under `k`, at its place in key order. -/
def insertEntry (k : κ) (v : ν) : List (κ × ν) → List (κ × ν)
  | [] => [(k, v)]
  | e :: rest =>
    match compare k e.1 with
    | .lt => (k, v) :: e :: rest
    | .eq => (k, v) :: rest
    | .gt => e :: insertEntry k v rest

theorem mem_insertEntry {k : κ} {v : ν} {e : κ × ν} :
    ∀ {l : List (κ × ν)}, e ∈ insertEntry k v l → e = (k, v) ∨ e ∈ l
  | [], h => Or.inl (by simpa [insertEntry] using h)
  | d :: rest, h => by
    unfold insertEntry at h
    split at h
    · simpa using h
    · rcases List.mem_cons.mp h with h | h
      · exact .inl h
      · exact .inr (List.mem_cons_of_mem _ h)
    · rcases List.mem_cons.mp h with h | h
      · exact .inr (h ▸ List.mem_cons_self ..)
      · exact (mem_insertEntry h).imp id (List.mem_cons_of_mem _)

theorem sorted_insertEntry [Std.TransOrd κ] (k : κ) (v : ν) :
    ∀ {l : List (κ × ν)}, l.Pairwise (fun a b => compare a.1 b.1 = .lt) →
      (insertEntry k v l).Pairwise fun a b => compare a.1 b.1 = .lt
  | [], _ => List.pairwise_singleton ..
  | d :: rest, h => by
    have ⟨hd, hr⟩ := List.pairwise_cons.mp h
    unfold insertEntry
    split
    · rename_i lt
      refine List.pairwise_cons.mpr ⟨fun e he => ?_, h⟩
      rcases List.mem_cons.mp he with rfl | he
      · exact lt
      · exact Std.TransCmp.lt_trans lt (hd e he)
    · rename_i eq
      exact List.pairwise_cons.mpr ⟨fun e he => Std.TransCmp.lt_of_eq_of_lt eq (hd e he), hr⟩
    · rename_i gt
      refine List.pairwise_cons.mpr ⟨fun e he => ?_, sorted_insertEntry k v hr⟩
      rcases mem_insertEntry he with rfl | he
      · exact Std.OrientedCmp.gt_iff_lt.mp gt
      · exact hd e he

/-- The map in which `k` has the value `v` and every other key its old one. -/
def insert [Std.TransOrd κ] (m : SortedMap κ ν) (k : κ) (v : ν) : SortedMap κ ν :=
  ⟨insertEntry k v m.entries, sorted_insertEntry k v m.sorted⟩

/-! ### What is found after an insertion -/

theorem findEntry_insertEntry [Std.TransOrd κ] [Std.LawfulEqOrd κ] [DecidableEq κ]
    (k : κ) (v : ν) (j : κ) : ∀ l : List (κ × ν),
      findEntry j (insertEntry k v l) = if j = k then some v else findEntry j l
  | [] => by simp [insertEntry, findEntry]
  | e :: rest => by
    have ih := findEntry_insertEntry k v j rest
    unfold insertEntry
    split
    · simp [findEntry]
    · rename_i eq
      obtain rfl := Std.LawfulEqOrd.eq_of_compare eq
      by_cases h : j = e.1
      · simp [findEntry, h]
      · simp [findEntry, h]
    · rename_i gt
      have ne : k ≠ e.1 := by
        rintro rfl
        rw [Std.ReflOrd.compare_self] at gt
        exact absurd gt (by decide)
      by_cases h : j = k
      · subst h
        simp [findEntry, ne, ih]
      · simp [findEntry, h, ih]

@[simp] theorem find?_empty (k : κ) : (empty : SortedMap κ ν).find? k = none := rfl

@[simp] theorem find?_insert [Std.TransOrd κ] [Std.LawfulEqOrd κ] [DecidableEq κ]
    (m : SortedMap κ ν) (k : κ) (v : ν) (j : κ) :
    (m.insert k v).find? j = if j = k then some v else m.find? j :=
  findEntry_insertEntry k v j m.entries

theorem findEntry_eq_some_iff [Std.TransOrd κ] [Std.LawfulEqOrd κ] {k : κ} {v : ν} :
    ∀ {l : List (κ × ν)}, l.Pairwise (fun a b => compare a.1 b.1 = .lt) →
      (findEntry k l = some v ↔ (k, v) ∈ l)
  | [], _ => by simp [findEntry]
  | e :: rest, h => by
    have ⟨hd, hr⟩ := List.pairwise_cons.mp h
    rw [findEntry, List.mem_cons]
    split
    · rename_i eq
      obtain rfl := Std.LawfulEqOrd.eq_of_compare eq
      -- A later entry has a greater key, so only the first can be the one under `e.1`.
      have later : (e.1, v) ∉ rest := by
        intro hv
        have lt := hd _ hv
        rw [Std.ReflOrd.compare_self] at lt
        exact absurd lt (by decide)
      simp [later, Prod.ext_iff, eq_comm]
    · rename_i ne
      have first : (k, v) ≠ e := by
        rintro rfl
        exact ne Std.ReflOrd.compare_self
      simp [first, findEntry_eq_some_iff hr]

theorem find?_eq_some_iff [Std.TransOrd κ] [Std.LawfulEqOrd κ] {m : SortedMap κ ν}
    {k : κ} {v : ν} : m.find? k = some v ↔ (k, v) ∈ m.entries :=
  findEntry_eq_some_iff m.sorted

theorem mem_values_iff [Std.TransOrd κ] [Std.LawfulEqOrd κ] {m : SortedMap κ ν} {v : ν} :
    v ∈ m.values ↔ ∃ k, m.find? k = some v := by
  simp [values, find?_eq_some_iff]

theorem mem_keys_iff [Std.TransOrd κ] [Std.LawfulEqOrd κ] {m : SortedMap κ ν} {k : κ} :
    k ∈ m.keys ↔ ∃ v, m.find? k = some v := by
  simp [keys, find?_eq_some_iff]

/-- The map of the given entries; of equal keys the last one counts. -/
def ofList [Std.TransOrd κ] (entries : List (κ × ν)) : SortedMap κ ν :=
  entries.foldl (fun m e => m.insert e.1 e.2) empty

end SortedMap

/-- A finite set, as a map that carries nothing. -/
abbrev SortedSet (α : Type u) [Ord α] := SortedMap α Unit

namespace SortedSet

variable {α : Type u} [Ord α]

/-- The members, in order. -/
def toList (s : SortedSet α) : List α := s.keys

/-- Adds one member. -/
def add [Std.TransOrd α] (s : SortedSet α) (a : α) : SortedSet α := s.insert a ()

/-- Adds every member of a list. -/
def addAll [Std.TransOrd α] (s : SortedSet α) (l : List α) : SortedSet α := l.foldl add s

/-- The set of a list's members. -/
def ofList [Std.TransOrd α] (l : List α) : SortedSet α := addAll SortedMap.empty l

/-- The members of either set. -/
def union [Std.TransOrd α] (s t : SortedSet α) : SortedSet α := s.addAll t.toList

end SortedSet

end Cratewright
