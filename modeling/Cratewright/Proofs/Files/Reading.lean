/-
Texts below a directory.

Reading a directory gives the texts of all files below it, by their paths from there. In a tree
the names that lead to a file can be told from its path, so every file below has a path of its
own:

* `FileTree.IsTree.find?_textsBelow` — the texts below a place;
* `FileTree.IsTree.readAll_eq` — what reading a directory gives.
-/
import Cratewright.Proofs.Files.Listing
import Cratewright.Proofs.Files.Trees

namespace Cratewright

/-- Names without slashes can be told from the path that they make up. -/
theorem Path.intercalate_inj {a b : List String} (ha : a ≠ []) (hb : b ≠ [])
    (slashA : ∀ name ∈ a, '/' ∉ name.toList) (slashB : ∀ name ∈ b, '/' ∉ name.toList)
    (h : "/".intercalate a = "/".intercalate b) : a = b := by
  have pieces {l : List String} (ne : l ≠ []) (slash : ∀ name ∈ l, '/' ∉ name.toList) :
      Text.splitAt '/' ("/".intercalate l).toList = l.map String.toList := by
    rw [String.toList_intercalate]
    refine splitAt_intercalate (by simpa using ne) fun p hp => ?_
    obtain ⟨name, mem, rfl⟩ := List.mem_map.mp hp
    exact slash name mem
  have same : a.map String.toList = b.map String.toList := by
    rw [← pieces ha slashA, h, pieces hb slashB]
  exact List.map_injective_iff.mpr (fun _ _ => String.toList_inj.mp) same

namespace FileTree

variable {t : FileTree} {place : List String}

/-- A file with the path to it, if it holds a text. -/
def named? : List String × FileContents → Option (String × String)
  | (names, .text s) => some ("/".intercalate names, s)
  | (_, .binary) => none

/-- The texts below a place, by their paths from there. -/
def textsBelow (t : FileTree) (place : List String) : SortedMap String String :=
  SortedMap.ofList ((t.filesBelow place).filterMap named?)

theorem named?_eq_some_iff {e : List String × FileContents} {key s : String} :
    named? e = some (key, s) ↔ ∃ names, e = (names, .text s) ∧ "/".intercalate names = key := by
  obtain ⟨names, c⟩ := e
  cases c <;> simp [named?, and_comm]

variable (tree : t.IsTree)

include tree

theorem IsTree.mem_filesBelow_iff {rest : List String} {c : FileContents} :
    (rest, c) ∈ t.filesBelow place ↔ t.file? (place ++ rest) = some c := by
  by_cases ne : place ++ rest = []
  · obtain ⟨rfl, rfl⟩ := List.append_eq_nil_iff.mp ne
    refine iff_of_false (fun mem => ?_) nofun
    obtain ⟨⟨names, n⟩, entry, h⟩ := List.mem_filterMap.mp mem
    dsimp only at h
    split at h
    · rename_i below
      cases h
      rw [List.isPrefixOf?_eq_some_iff_append_eq] at below
      exact tree.ne_nil _ entry below.symm
    · cases h
  · exact mem_filesBelow_iff_of_append ne

/-- The file below a place that a path leads to is the only one. -/
theorem IsTree.file?_unique (noFile : t.file? place = none) {a b : List String}
    {c d : FileContents} (ha : t.file? (place ++ a) = some c) (hb : t.file? (place ++ b) = some d)
    (h : "/".intercalate a = "/".intercalate b) : a = b := by
  have below {rest : List String} {c : FileContents} (hc : t.file? (place ++ rest) = some c) :
      rest ≠ [] ∧ ∀ name ∈ rest, '/' ∉ name.toList := by
    constructor
    · rintro rfl
      rw [List.append_nil, noFile] at hc
      cases hc
    · exact fun name mem => tree.slash_not_mem (file?_eq_some_iff.mp hc) name
        (List.mem_append_right place mem)
  exact Path.intercalate_inj (below ha).1 (below hb).1 (below ha).2 (below hb).2 h

theorem IsTree.find?_textsBelow (noFile : t.file? place = none) {key s : String} :
    (t.textsBelow place).find? key = some s ↔
      ∃ names, t.file? (place ++ names) = some (.text s) ∧ "/".intercalate names = key := by
  have mem_iff {s : String} : (key, s) ∈ (t.filesBelow place).filterMap named? ↔
      ∃ names, t.file? (place ++ names) = some (.text s) ∧ "/".intercalate names = key := by
    simp [named?_eq_some_iff, ← tree.mem_filesBelow_iff]
  rw [textsBelow, ← mem_iff]
  constructor
  · exact SortedMap.mem_of_find?_ofList
  · intro mem
    obtain ⟨r, found⟩ := Option.isSome_iff_exists.mp
      ((SortedMap.contains_ofList _ key).mpr (List.mem_map.mpr ⟨_, mem, rfl⟩))
    obtain ⟨a, ha, key_a⟩ := mem_iff.mp mem
    obtain ⟨b, hb, key_b⟩ := mem_iff.mp (SortedMap.mem_of_find?_ofList found)
    have same := tree.file?_unique noFile ha hb (key_a.trans key_b.symm)
    rw [same, hb, Option.some_inj, FileContents.text.injEq] at ha
    rw [found, ha]

/-- Where nothing stands, there are no texts below. -/
theorem IsTree.textsBelow_eq_empty (absent : t.node? place = none) :
    t.textsBelow place = SortedMap.empty := by
  have noFile : t.file? place = none := file?_eq_none_of_node? absent
  refine SortedMap.ext_find? fun key => Option.eq_none_iff_forall_ne_some.mpr fun s found => ?_
  obtain ⟨names, file, -⟩ := (tree.find?_textsBelow noFile).mp found
  obtain ⟨n, some⟩ := tree.exists_node? (file?_eq_some_iff.mp file)
  rw [absent] at some
  cases some

/-- Reading a directory in which all files hold texts gives these texts. -/
theorem IsTree.readAll_eq {root : String} (there : t.directory t.current root = .ok place)
    (texts : ∀ rest, t.file? (place ++ rest) ≠ some .binary) :
    t.readAll root = .ok (t.textsBelow place) := by
  have noFile : t.file? place = none := by
    rw [file?, (of_directory there).2]
  have mem_iff {rest : List String} {c : FileContents} :
      (rest, c) ∈ (t.filesBelow place).mergeSort (fun a b => a.1.length ≤ b.1.length) ↔
        t.file? (place ++ rest) = some c := by
    rw [(List.mergeSort_perm _ _).mem_iff, tree.mem_filesBelow_iff]
  obtain ⟨found, read, mem⟩ := foldlM_readInto root
    ((t.filesBelow place).mergeSort fun a b => a.1.length ≤ b.1.length) SortedMap.empty
    fun e he => by
      obtain ⟨rest, c⟩ := e
      cases c with
      | text s => exact ⟨s, rfl⟩
      | binary => exact absurd (mem_iff.mp he) (texts rest)
  rw [readAll_eq_foldlM, there]
  refine read.trans (congrArg Except.ok (SortedMap.ofList_eq fun key s => ?_))
  rw [mem, tree.find?_textsBelow noFile]
  exact exists_congr fun names => and_congr_left fun _ => mem_iff

end FileTree

end Cratewright
