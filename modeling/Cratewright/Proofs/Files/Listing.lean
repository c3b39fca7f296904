/-
The files below a directory.

`FileTree.readAll` reads the files below a directory into a map. If these are the files of a
map, each at the place that its key leads to, it gives this map back:

* `FileTree.mem_filesBelow_iff` — the files below a place;
* `FileTree.readAll_eq` — the map that is read back.
-/
import Mathlib.Data.List.Perm.Basic
import Cratewright.Proofs.Files.Effects

namespace Cratewright

theorem FileTree.foldl_step_names (start names : List String) :
    (names.map Path.Component.normal).foldl FileTree.step start = start ++ names := by
  induction names generalizing start with
  | nil => exact (List.append_nil start).symm
  | cons name names ih =>
    rw [List.map_cons, List.foldl_cons, ih, FileTree.step, List.append_assoc]
    rfl

namespace Path

variable {path : String} {names : List String}

/-- A path that goes down from one name to the next, however many slashes stand between them. -/
structure Descends (path : String) (names : List String) : Prop where
  components : Path.components path = names.map .normal
  ne_nil : names ≠ []

theorem Descends.follow_eq (h : Descends path names) (start : List String) :
    FileTree.follow start path = start ++ names := by
  rw [FileTree.follow, h.components, FileTree.foldl_step_names]

/-- The places that such a path comes through are one below the other. -/
theorem Descends.exists_foldl_step (h : Descends path names) {ds : List Component}
    (sub : ds <+: Path.components path) :
    ∃ front, ds = front.map .normal ∧
      ∀ start, ds.foldl FileTree.step start = start ++ front := by
  rw [h.components] at sub
  obtain ⟨front, -, rfl⟩ := List.prefix_map_iff.mp sub
  exact ⟨front, rfl, fun start => FileTree.foldl_step_names start front⟩

/-- A path that consists of names, one below the other. -/
structure Names (path : String) (names : List String) : Prop extends Descends path names where
  text : "/".intercalate names = path

end Path

namespace FileTree

variable {t : FileTree} {place : List String}

theorem mem_filesBelow_iff_of_append {rest : List String} (ne : place ++ rest ≠ [])
    {c : FileContents} : (rest, c) ∈ t.filesBelow place ↔ t.file? (place ++ rest) = some c := by
  have found : t.file? (place ++ rest) = some c ↔
      (place ++ rest, FileNode.file c) ∈ t.nodes.entries := by
    rw [file?_eq_some_iff, node?_eq_some_iff ne]
  rw [found, filesBelow, List.mem_filterMap]
  constructor
  · rintro ⟨⟨names, n⟩, mem, h⟩
    dsimp only at h
    split at h
    · rename_i below
      cases h
      rw [List.isPrefixOf?_eq_some_iff_append_eq] at below
      rw [below]
      exact mem
    · cases h
  · intro mem
    refine ⟨_, mem, ?_⟩
    have below : place.isPrefixOf? (place ++ rest) = some rest :=
      List.isPrefixOf?_eq_some_iff_append_eq.mpr rfl
    simp only [below]

theorem mem_filesBelow_iff (ne : place ≠ []) {rest : List String} {c : FileContents} :
    (rest, c) ∈ t.filesBelow place ↔ t.file? (place ++ rest) = some c :=
  mem_filesBelow_iff_of_append (List.append_ne_nil_of_left_ne_nil ne rest)

/-- A step of reading files into a map. -/
def readInto (root : String) (files : SortedMap String String)
    (file : List String × FileContents) : Except ReadFault (SortedMap String String) :=
  match file.2 with
  | .text s => .ok (files.insert ("/".intercalate file.1) s)
  | .binary => .error (.reading (file.1.foldl Path.join root))

theorem readAll_eq_foldlM (root : String) :
    t.readAll root = ((t.directory t.current root).mapError fun _ => .listing root) >>= fun place =>
      ((t.filesBelow place).mergeSort fun a b => a.1.length ≤ b.1.length).foldlM
        (readInto root) SortedMap.empty :=
  rfl

/-- Files that hold texts are all read. -/
theorem foldlM_readInto (root : String) : ∀ (l : List (List String × FileContents))
    (files : SortedMap String String), (∀ e ∈ l, ∃ s, e.2 = .text s) →
      ∃ texts : List (String × String),
        l.foldlM (readInto root) files = .ok (texts.foldl (fun m e => m.insert e.1 e.2) files) ∧
        ∀ key s, (key, s) ∈ texts ↔ ∃ names, (names, .text s) ∈ l ∧ "/".intercalate names = key
  | [], files, _ => ⟨[], rfl, by simp⟩
  | (names, c) :: l, files, h => by
    obtain ⟨s, rfl⟩ : ∃ s, c = .text s := h _ (List.mem_cons_self ..)
    obtain ⟨texts, read, mem⟩ := foldlM_readInto root l
      (files.insert ("/".intercalate names) s) fun e he => h e (List.mem_cons_of_mem _ he)
    refine ⟨("/".intercalate names, s) :: texts, read, fun key r => ?_⟩
    rw [List.mem_cons, mem]
    constructor
    · rintro (same | ⟨others, ho, text⟩)
      · cases same
        exact ⟨names, List.mem_cons_self .., rfl⟩
      · exact ⟨others, List.mem_cons_of_mem _ ho, text⟩
    · rintro ⟨others, ho, text⟩
      rcases List.mem_cons.mp ho with same | ho
      · cases same
        exact .inl (by rw [text])
      · exact .inr ⟨others, ho, text⟩

/-- The files below a directory are those of a map. -/
theorem readAll_eq {root : String} {files : SortedMap String String}
    (there : t.directory t.current root = .ok place) (ne : place ≠ [])
    (named : ∀ key ∈ files.keys, ∃ names, Path.Names key names)
    (holds : ∀ rest c, t.file? (place ++ rest) = some c ↔
      ∃ key text, files.find? key = some text ∧ c = .text text ∧ Path.Names key rest) :
    t.readAll root = .ok files := by
  have mem_iff {rest : List String} {c : FileContents} :
      (rest, c) ∈ (t.filesBelow place).mergeSort (fun a b => a.1.length ≤ b.1.length) ↔
        ∃ key text, files.find? key = some text ∧ c = .text text ∧ Path.Names key rest := by
    rw [(List.mergeSort_perm _ _).mem_iff, mem_filesBelow_iff ne, holds]
  obtain ⟨texts, read, mem⟩ := foldlM_readInto root
    ((t.filesBelow place).mergeSort fun a b => a.1.length ≤ b.1.length) SortedMap.empty
    (fun ⟨rest, c⟩ he => by
      obtain ⟨_, text, _, same, _⟩ := mem_iff.mp he
      exact ⟨text, same⟩)
  rw [readAll_eq_foldlM, there]
  refine read.trans (congrArg Except.ok (SortedMap.ofList_eq fun key s => ?_))
  rw [mem]
  constructor
  · rintro ⟨names, he, text⟩
    obtain ⟨k, r, found, same, hn⟩ := mem_iff.mp he
    cases same
    rw [← text, hn.text]
    exact found
  · intro found
    obtain ⟨names, hn⟩ := named key (SortedMap.mem_keys_iff.mpr ⟨s, found⟩)
    exact ⟨names, mem_iff.mpr ⟨key, s, found, rfl, hn⟩, hn.text⟩

end FileTree

end Cratewright
