/-
What operations on files do to a tree.

Operations lose no directory, and they change no file but the one that they write:

* `FileTree.Changes` — a tree has changed at certain places only;
* `FileTree.directory_of_ensureDirectory` — a directory that has been made is there;
* `FileTree.writeText_spec` — writing a file changes that file, if anything.
-/
import Cratewright.Proofs.Files.Places
import Cratewright.Proofs.SortedMap

namespace Cratewright

namespace FileTree

/-! ### Files of a tree -/

/-- What the file at a place holds, if one stands there. -/
def file? (t : FileTree) (place : List String) : Option FileContents :=
  match t.node? place with
  | some (.file c) => some c
  | _ => none

variable {t u v : FileTree} {place : List String}

theorem node?_eq_some_iff (ne : place ≠ []) {n : FileNode} :
    t.node? place = some n ↔ (place, n) ∈ t.nodes.entries := by
  rw [node?, List.isEmpty_eq_false_iff.mpr ne, ← SortedMap.find?_eq_some_iff]
  rfl

theorem node?_eq_none (ne : place ≠ []) (absent : ∀ n, (place, n) ∉ t.nodes.entries) :
    t.node? place = none :=
  Option.eq_none_iff_forall_ne_some.mpr fun n h => absent n ((node?_eq_some_iff ne).mp h)

theorem node?_put (ne : place ≠ []) (n : FileNode) (other : List String) :
    (t.put place n).node? other = if other = place then some n else t.node? other := by
  rw [node?, node?, put, SortedMap.find?_insert]
  cases other with
  | nil => exact (if_neg ne.symm).symm
  | cons => rfl

theorem file?_eq_none_of_node? (h : t.node? place = none) : t.file? place = none := by
  rw [file?, h]

theorem file?_eq_some_iff {c : FileContents} :
    t.file? place = some c ↔ t.node? place = some (.file c) := by
  rw [file?]
  cases t.node? place with
  | none => simp
  | some n => cases n <;> simp

/-! ### Changes -/

/-- From one tree to the next, files have changed at certain places only, and all files and
directories are still there. -/
structure Changes (at? : List String → Prop) (t u : FileTree) : Prop where
  current : u.current = t.current
  file? : ∀ place, ¬ at? place → u.file? place = t.file? place
  remains : ∀ place, t.file? place ≠ none → u.file? place ≠ none
  directory : ∀ place, t.node? place = some .directory → u.node? place = some .directory

theorem changes_refl (p : List String → Prop) (t : FileTree) : Changes p t t :=
  ⟨rfl, fun _ _ => rfl, fun _ h => h, fun _ h => h⟩

variable {p q : List String → Prop}

theorem Changes.trans (h : Changes p t u) (hu : Changes p u v) : Changes p t v where
  current := hu.current.trans h.current
  file? place out := (hu.file? place out).trans (h.file? place out)
  remains place f := hu.remains place (h.remains place f)
  directory place d := hu.directory place (h.directory place d)

theorem Changes.mono (h : Changes p t u) (sub : ∀ place, p place → q place) :
    Changes q t u where
  current := h.current
  file? place out := h.file? place fun hp => out (sub place hp)
  remains := h.remains
  directory := h.directory

theorem Changes.target (h : Changes p t u) (path : String) : u.target path = t.target path :=
  congrArg (follow · path) h.current

/-- No file has changed. -/
abbrev Keeps (t u : FileTree) : Prop := Changes (fun _ => False) t u

/-- A file has been put at a place, and no other has changed. -/
structure Puts (place : List String) (c : FileContents) (t u : FileTree) : Prop
    extends Changes (· = place) t u where
  written : u.file? place = some c

/-! ### Single operations -/

variable {base path : String}

theorem puts_put (noDirectory : t.node? place ≠ some .directory) (c : FileContents) :
    Puts place c t (t.put place (.file c)) := by
  -- The root is a directory.
  have ne : place ≠ [] := by
    rintro rfl
    exact noDirectory rfl
  have here : (t.put place (.file c)).file? place = some c := by
    rw [file?, node?_put ne, if_pos rfl]
  have same (other : List String) (elsewhere : other ≠ place) :
      (t.put place (.file c)).file? other = t.file? other := by
    rw [file?, file?, node?_put ne, if_neg elsewhere]
  refine ⟨⟨rfl, same, fun other f => ?_, fun other h => ?_⟩, here⟩
  · by_cases at? : other = place
    · rw [at?, here]
      exact Option.some_ne_none c
    · rw [same other at?]
      exact f
  · rw [node?_put ne, if_neg]
    · exact h
    · rintro rfl
      exact noDirectory h

/-- A file is put where its path leads, and not where a directory stands. -/
theorem of_write {c : FileContents} (h : t.write base path c = .ok u) :
    t.node? (follow (t.target base) path) ≠ some .directory ∧
      u = t.put (follow (t.target base) path) (.file c) := by
  obtain ⟨place, hp, h⟩ := Except.bind_eq_ok_iff.mp h
  rw [← of_place hp]
  split at h
  · cases h
  · rename_i noDirectory
    cases h
    exact ⟨noDirectory, rfl⟩

theorem puts_write {c : FileContents} (h : t.write base path c = .ok u) :
    Puts (follow (t.target base) path) c t u := by
  obtain ⟨noDirectory, rfl⟩ := of_write h
  exact puts_put noDirectory c

/-- Writing a file changes nothing if it fails. -/
theorem writeText_spec (base path text : String) (t : FileTree) :
    (∃ fault, (FileAccess.writeText base path text : StateM FileTree _) t = (.error fault, t)) ∨
      ∃ u, (FileAccess.writeText base path text : StateM FileTree _) t = (.ok (), u) ∧
        Puts (follow (t.target base) path) (.text text) t u := by
  show (∃ fault, t.settle (t.write base path (.text text)) = _) ∨
    ∃ u, t.settle (t.write base path (.text text)) = _ ∧ _
  cases h : t.write base path (.text text) with
  | error fault => exact .inl ⟨fault, rfl⟩
  | ok u => exact .inr ⟨u, rfl, puts_write h⟩

/-! ### Directories that are there -/

theorem bind_apply {σ α β : Type} (x : StateM σ α) (f : α → StateM σ β) (s : σ) :
    (x >>= f) s = f (x s).1 (x s).2 :=
  rfl

theorem Changes.walk (h : Changes p t u) {cs : List Path.Component} {start : List String}
    (hw : t.walk start cs = .ok place) : u.walk start cs = .ok place := by
  induction cs generalizing start with
  | nil => exact hw
  | cons c cs ih =>
    rw [FileTree.walk] at hw ⊢
    obtain ⟨_, entered, hw⟩ := Except.bind_eq_ok_iff.mp hw
    obtain ⟨_, named, hw⟩ := Except.bind_eq_ok_iff.mp hw
    have entered : u.enter start = .ok () :=
      enter_eq_ok_iff.mpr (h.directory start (enter_eq_ok_iff.mp entered))
    exact Except.bind_eq_ok_iff.mpr
      ⟨_, entered, Except.bind_eq_ok_iff.mpr ⟨_, named, ih hw⟩⟩

/-- What leads to a directory goes on leading there. -/
theorem Changes.directory_eq (h : Changes p t u) {start : List String} {path : String}
    (hd : t.directory start path = .ok place) : u.directory start path = .ok place := by
  obtain ⟨_, checked, hd⟩ := Except.bind_eq_ok_iff.mp hd
  obtain ⟨end_, walked, hd⟩ := Except.bind_eq_ok_iff.mp hd
  obtain ⟨_, entered, hd⟩ := Except.bind_eq_ok_iff.mp hd
  have entered : u.enter end_ = .ok () :=
    enter_eq_ok_iff.mpr (h.directory end_ (enter_eq_ok_iff.mp entered))
  exact Except.bind_eq_ok_iff.mpr ⟨_, checked, Except.bind_eq_ok_iff.mpr
    ⟨_, h.walk walked, Except.bind_eq_ok_iff.mpr ⟨_, entered, hd⟩⟩⟩

theorem directory_of_checkDirectory
    (h : (FileAccess.checkDirectory currentDirectory path : StateM FileTree _) t = (.ok (), u)) :
    u.directory u.current path = .ok (u.target path) := by
  obtain ⟨found, rfl⟩ := Prod.mk.inj h
  obtain ⟨start, here, found⟩ := Except.bind_eq_ok_iff.mp found
  obtain ⟨place, there, _⟩ := Except.bind_eq_ok_iff.mp found
  have start_eq : start = t.current := (of_directory here).1
  subst start_eq
  rw [there, (of_directory there).1]
  rfl

/-- A directory that has been made is there. -/
theorem directory_of_ensureDirectory
    (h : (ensureDirectory path : StateM FileTree _) t = (.ok (), u)) :
    u.directory u.current path = .ok (u.target path) := by
  rw [ensureDirectory, bind_apply] at h
  generalize found : (FileAccess.checkDirectory currentDirectory path : StateM FileTree _) t
    = result at h
  obtain ⟨result, after⟩ := result
  dsimp only at h
  split at h
  · rw [bind_apply] at h
    generalize (makeDirectories currentDirectory path : StateM FileTree _) after = made at h
    obtain ⟨made, after⟩ := made
    cases made with
    | ok _ => exact directory_of_checkDirectory h
    | error _ => cases h
  · obtain ⟨rfl, rfl⟩ := Prod.mk.inj h
    exact directory_of_checkDirectory found

end FileTree

end Cratewright
