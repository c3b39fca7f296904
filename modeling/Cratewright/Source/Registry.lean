/-
Registers of fragments.

A register holds one fragment for each key, the first that was registered under it. The
fragments of a module stand together, because keys are ordered by module first.
-/
import Cratewright.Source.Fragment

namespace Cratewright

/-- Fragments by key. -/
structure Registry (φ : Type) where
  entries : SortedMap FragmentKey φ := ∅

namespace Registry

variable {φ : Type}

/-- The register without fragments. -/
def empty : Registry φ := {}

/-- The fragment that is registered under a key. -/
def get? (r : Registry φ) (key : FragmentKey) : Option φ := r.entries.find? key

/-- The fragments, in key order. -/
def toList (r : Registry φ) : List φ := r.entries.values

/-- The keys, in order. -/
def keys (r : Registry φ) : List FragmentKey := r.entries.keys

theorem mem_toList_iff {r : Registry φ} {f : φ} : f ∈ r.toList ↔ ∃ k, r.get? k = some f :=
  SortedMap.mem_values_iff

/-- The number of fragments. -/
def size (r : Registry φ) : Nat := r.entries.size

/-- Whether there are no fragments. -/
def isEmpty (r : Registry φ) : Bool := r.entries.isEmpty

variable [FragmentKind φ]

/-- Registers a fragment unless its key is taken, and says whether it was not. -/
def register (r : Registry φ) (f : φ) : Bool × Registry φ :=
  let key := FragmentKind.key f
  if r.entries.contains key then (false, r) else (true, ⟨r.entries.insert key f⟩)

/-- Registers a fragment unless its key is taken. -/
def add (r : Registry φ) (f : φ) : Registry φ := (r.register f).2

theorem add_eq (r : Registry φ) (f : φ) :
    r.add f = if r.entries.contains (FragmentKind.key f) then r
      else ⟨r.entries.insert (FragmentKind.key f) f⟩ := by
  show (if _ then _ else _ : Bool × Registry φ).2 = _
  split <;> rfl

/-- What is registered stays, and a fragment takes its key if that is free. -/
theorem get?_add (r : Registry φ) (f : φ) (k : FragmentKey) :
    (r.add f).get? k = (r.get? k).or (if FragmentKind.key f = k then some f else none) := by
  rw [add_eq]
  split
  · rename_i taken
    by_cases hk : FragmentKind.key f = k
    · obtain ⟨g, hg⟩ := Option.isSome_iff_exists.mp (hk ▸ taken)
      rw [show r.get? k = some g from hg]
      rfl
    · rw [if_neg hk, Option.or_none]
  · rename_i free
    rw [get?, get?, SortedMap.find?_insert]
    by_cases hk : FragmentKind.key f = k
    · have none : r.entries.find? k = none := by
        rw [← Option.not_isSome_iff_eq_none, ← hk]
        exact free
      rw [if_pos hk.symm, if_pos hk, none, Option.none_or]
    · rw [if_neg (Ne.symm hk), if_neg hk, Option.or_none]

/-- Of several fragments of one key, the first is registered, unless the key was taken. -/
theorem get?_foldl_add (fs : List φ) (r : Registry φ) (k : FragmentKey) :
    (fs.foldl add r).get? k
      = (r.get? k).or (fs.find? fun f => FragmentKind.key f == k) := by
  induction fs generalizing r with
  | nil => rw [List.find?_nil, Option.or_none, List.foldl_nil]
  | cons f fs ih =>
    rw [List.foldl_cons, ih, get?_add, Option.or_assoc, List.find?_cons]
    by_cases hk : FragmentKind.key f = k
    · simp [hk]
    · simp [beq_eq_false_iff_ne.mpr hk, hk]

/-- Registers a fragment unless its key is taken, and gives the path of the fragment that
is now registered under the key. -/
def registerOrReuse (r : Registry φ) (f : φ) : ItemPath φ × Registry φ :=
  (FragmentKind.item ((r.get? (FragmentKind.key f)).getD f), r.add f)

/-- Groups neighbours that are written into modules of one path. The first of a group
decides which module it is. -/
def group : List φ → List (SourceModule × List φ)
  | [] => []
  | f :: rest =>
    let home := FragmentKind.home f
    match group rest with
    | [] => [(home, [f])]
    | (next, members) :: groups =>
      if home.path = next.path then (home, f :: members) :: groups
      else (home, [f]) :: (next, members) :: groups

/-- The fragments of each module, in the order of the modules' paths. -/
def byModule (r : Registry φ) : List (SourceModule × List φ) := group r.toList

end Registry

end Cratewright
