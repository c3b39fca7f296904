/-
Room for the files of a crate.

Operations on files can fail for many reasons. A crate can be written if no file stands where a
directory has to be, and no directory where one of its files has to be:

* `fitting_of_generateCrate` — the paths of the files of a crate are none that an operation
  refuses, and no file has to be in a directory of another one's name;
* `Room.writeFile` — where there is room for files, one of them can be written, and there is
  still room;
* `Site.exists_writeCrate` — where nothing is in the way, a crate can be written;
* `Selection.perform_attempt_of_site` — the attempt at a service succeeds.
-/
import Cratewright.Proofs.Files.Making
import Cratewright.Proofs.Pipeline.Runs

namespace Cratewright.Pipeline

open FileTree

variable {t u : FileTree}

/-! ### Paths of files -/

/-- What a path for a file in a crate can be. -/
structure Fits (key : String) (names : List String) : Prop extends Path.Descends key names where
  checked : checkPath .invalidPath key = .ok ()
  short : ∀ name ∈ names, checkName (.normal name) = .ok ()

variable {key : String} {names : List String}

theorem Fits.short_components (h : Fits key names) :
    ∀ c ∈ Path.components key, checkName c = .ok () := by
  rw [h.components]
  intro c hc
  obtain ⟨name, mem, rfl⟩ := List.mem_map.mp hc
  exact h.short name mem

theorem Fits.exists_parent (h : Fits key names) : ∃ parent c,
    Path.parent? key = some parent ∧ Path.components key = Path.components parent ++ [c] ∧
      Ends parent ∧ parent.toList <+: key.toList := by
  cases found : Path.parent? key with
  | none =>
    have nothing := Path.components_of_parent?_eq_none found
    obtain ⟨name, rest, rfl⟩ := List.exists_cons_of_ne_nil h.ne_nil
    rw [h.components] at nothing
    rcases nothing with nothing | nothing <;> cases nothing
  | some parent =>
    have above := Path.isAbove_of_parent? found
    obtain ⟨c, parts, -⟩ := above.components
    exact ⟨parent, c, rfl, parts, above.exists_steps, above.isPrefix⟩

theorem exists_fits_iff : (∃ names, Fits key names) ↔
    Path.components key = ((Path.components key).map (·.text)).map .normal ∧
      Path.components key ≠ [] ∧ checkPath .invalidPath key = .ok () ∧
      ∀ c ∈ Path.components key, checkName c = .ok () := by
  constructor
  · rintro ⟨names, h⟩
    have texts : (names.map Path.Component.normal).map (·.text) = names := by
      rw [List.map_map]
      exact List.map_id names
    refine ⟨?_, ?_, h.checked, h.short_components⟩
    · rw [h.components, texts]
    · rw [h.components]
      exact mt List.map_eq_nil_iff.mp h.ne_nil
  · rintro ⟨components, ne, checked, short⟩
    refine ⟨_, ⟨components, mt List.map_eq_nil_iff.mp ne⟩, checked, fun name mem => short _ ?_⟩
    rw [components]
    exact List.mem_map_of_mem mem

instance (key : String) : Decidable (∃ names, Fits key names) :=
  decidable_of_iff' _ exists_fits_iff

/-- Paths for files none of which leads below another. -/
structure Fitting (keys : List String) : Prop where
  fits : ∀ key ∈ keys, ∃ names, Fits key names
  apart : ∀ key ∈ keys, ∀ other ∈ keys,
    Path.components key <+: Path.components other → key = other

variable {keys : List String} {place : List String}

instance (keys : List String) : Decidable (Fitting keys) :=
  decidable_of_iff ((∀ key ∈ keys, ∃ names, Fits key names) ∧
      ∀ key ∈ keys, ∀ other ∈ keys,
        Path.components key <+: Path.components other → key = other)
    ⟨fun ⟨fits, apart⟩ => ⟨fits, apart⟩, fun h => ⟨h.fits, h.apart⟩⟩

theorem Fitting.mono {others : List String} (h : Fitting keys) (sub : ∀ key ∈ others, key ∈ keys) :
    Fitting others where
  fits key hk := h.fits key (sub key hk)
  apart key hk other ho := h.apart key (sub key hk) other (sub other ho)

/-- No directory above a file has to be where another file has to be. -/
theorem Fitting.place_ne (h : Fitting keys) {other : String} (hk : key ∈ keys)
    (ho : other ∈ keys) {ds : List Path.Component}
    (sub : ds <+: (Path.components other).dropLast) : ds.foldl step place ≠ follow place key := by
  intro same
  obtain ⟨a, ha⟩ := h.fits key hk
  obtain ⟨b, hb⟩ := h.fits other ho
  obtain ⟨front, rfl, below⟩ := hb.exists_foldl_step (sub.trans (List.dropLast_prefix _))
  rw [below, ha.follow_eq, List.append_cancel_left_eq] at same
  rw [same, ← ha.components] at sub
  have eq := h.apart key hk other ho (sub.trans (List.dropLast_prefix _))
  -- A path is no start of the one above it.
  have short := sub.length_le
  rw [eq, List.length_dropLast, hb.components, List.length_map] at short
  have := List.length_pos_iff.mpr hb.ne_nil
  omega

/-! ### Operations -/

/-- Where files need a directory there is no file, and where they have to be there is no
directory. -/
structure Vacant (place : List String) (keys : List String) (t : FileTree) : Prop where
  clear : ∀ key ∈ keys, t.Clear place (Path.components key).dropLast
  free : ∀ key ∈ keys, t.node? (follow place key) ≠ some .directory

theorem Vacant.mono {others : List String} (h : Vacant place keys t)
    (sub : ∀ key ∈ others, key ∈ keys) : Vacant place others t where
  clear key hk := h.clear key (sub key hk)
  free key hk := h.free key (sub key hk)

theorem Vacant.adds (h : Vacant place keys t) {p : List String → Prop} (adds : Adds p t u)
    (elsewhere : ∀ key ∈ keys, ¬ p (follow place key)) : Vacant place keys u := by
  refine ⟨fun key hk => ?_, fun key hk directory => ?_⟩
  · exact (h.clear key hk).mono fun p none => (adds.file? p).trans none
  · rcases adds.node? (follow place key) with same | ⟨-, -, made⟩
    · exact h.free key hk (same ▸ directory)
    · exact elsewhere key hk made

/-- The directory of a crate is there, and has room for files. -/
structure Room (root : String) (place : List String) (keys : List String) (t : FileTree) : Prop
    extends Vacant place keys t where
  isTree : t.IsTree
  there : t.directory t.current root = .ok place

variable {root : String}

/-- The directories above a file can be made. -/
theorem Room.makeAbove (h : Room root place keys t) (fitting : Fitting keys)
    (hk : key ∈ keys) {parent : String} {c : Path.Component} (ends : Ends parent)
    (parts : Path.components key = Path.components parent ++ [c])
    (sub : parent.toList <+: key.toList) :
    ∃ u, (makeDirectories root parent : StateM FileTree _) t = (.ok (), u) ∧
      Room root place keys u ∧ u.Passes place (Path.components parent) := by
  obtain ⟨names, fits⟩ := fitting.fits key hk
  have above : (Path.components key).dropLast = Path.components parent := by
    rw [parts, List.dropLast_concat]
  have makeable (ne : parent ≠ "") : t.Makeable place parent :=
    ⟨checkPath_of_isPrefix fits.checked sub ne,
      fun d hd => fits.short_components d (parts ▸ List.mem_append_left _ hd),
      above ▸ h.clear key hk⟩
  obtain ⟨u, made, passes⟩ := exists_makeDirectories h.isTree h.there ends makeable
  obtain ⟨adds, isTree⟩ := (builds_makeDirectories root parent).of_eq made
  refine ⟨u, made, ⟨h.adds adds fun other ho => ?_, isTree h.isTree, ?_⟩, passes⟩
  · rintro ⟨ds, start, here⟩
    rw [← (of_directory h.there).1] at here
    exact fitting.place_ne ho hk (above.symm ▸ start) here.symm
  · rw [adds.current]
    exact adds.keeps.directory_eq h.there

/-- A file can be written if the directories above it are there. -/
theorem Room.write (h : Room root place keys t) (fitting : Fitting keys) (hk : key ∈ keys)
    {cs : List Path.Component} {c : Path.Component} (parts : Path.components key = cs ++ [c])
    (passes : t.Passes place cs) (text : String) :
    ∃ u, (FileAccess.writeText root key text : StateM FileTree _) t = (.ok (), u) ∧
      Room root place keys u := by
  obtain ⟨names, fits⟩ := fitting.fits key hk
  have written := write_of_passes h.there fits.checked parts fits.short_components passes
    (h.free key hk) (.text text)
  have puts := puts_put (h.free key hk) (.text text)
  have ne : follow place key ≠ [] := by
    rw [fits.follow_eq]
    exact List.append_ne_nil_of_right_ne_nil place fits.ne_nil
  refine ⟨_, congrArg t.settle written,
    ⟨fun other ho => ?_, fun other ho => ?_⟩, h.isTree.write written, puts.directory_eq h.there⟩
  · refine along_iff.mpr fun ds sub => ?_
    rw [puts.file? _ (fitting.place_ne hk ho sub)]
    exact along_iff.mp (h.clear other ho) ds sub
  · rw [node?_put ne]
    split
    · nofun
    · exact h.free other ho

theorem perform_atPath_of_ok {α : Type} {x : StateM FileTree (Except FileFault α)} {a : α}
    (h : x t = (.ok a, u)) (path : String) : perform (atPath path x) t = (.ok a, u) := by
  rw [perform_atPath, h]
  rfl

theorem Room.writeFile (h : Room root place keys t) (fitting : Fitting keys) (hk : key ∈ keys)
    (text : String) :
    ∃ u, perform (Pipeline.writeFile root key text) t = (.ok (), u) ∧ Room root place keys u := by
  obtain ⟨names, fits⟩ := fitting.fits key hk
  obtain ⟨parent, c, found, parts, ends, sub⟩ := fits.exists_parent
  rw [Pipeline.writeFile, found]
  dsimp only [Option.getD_some]
  split
  · rename_i none
    have here : t.Passes place (Path.components parent) := by
      rw [String.isEmpty_iff.mp none]
      exact (of_directory h.there).2
    obtain ⟨u, written, room⟩ := h.write fitting hk parts here text
    exact ⟨u, perform_atPath_of_ok written _, room⟩
  · obtain ⟨v, made, room, passes⟩ := h.makeAbove fitting hk ends parts sub
    obtain ⟨u, written, room⟩ := room.write fitting hk parts passes text
    exact ⟨u, (perform_bind_of_ok (perform_atPath_of_ok made _)).trans
      (perform_atPath_of_ok written _), room⟩

theorem Room.writeFiles (fitting : Fitting keys) {entries : List (String × String)}
    (known : ∀ e ∈ entries, e.1 ∈ keys) (h : Room root place keys t) :
    ∃ u, perform (entries.forM fun (relative, text) => Pipeline.writeFile root relative text) t
      = (.ok (), u) ∧ Room root place keys u := by
  induction entries generalizing t with
  | nil => exact ⟨t, rfl, h⟩
  | cons e entries ih =>
    obtain ⟨v, hv, room⟩ := h.writeFile fitting (known e (List.mem_cons_self ..)) e.2
    obtain ⟨u, hu, room⟩ := ih (fun d hd => known d (List.mem_cons_of_mem _ hd)) room
    exact ⟨u, (perform_bind_of_ok hv).trans hu, room⟩

/-! ### Crates -/

/-- Nothing is in the way of files in a directory that may be missing: none stands at a place
that the path of the directory comes through, none has to be at such a place, and where they are
put there is room for them. -/
structure Site (root : String) (keys : List String) (t : FileTree) : Prop
    extends Vacant (t.target root) keys t where
  makeable : t.Makeable t.current root
  ends : Ends root ∨ t.Passes t.current (Path.components root)
  elsewhere : ∀ key ∈ keys, ¬ OnWay t.current root (follow (t.target root) key)

/-- A path that does not go below where it leads does not come through a file there. -/
theorem Fits.not_onWay (h : Fits key names)
    (level : Along (·.length ≤ (t.target root).length) t.current (Path.components root)) :
    ¬ OnWay t.current root (follow (t.target root) key) := by
  intro onWay
  have short := along_components_iff.mp level _ onWay
  rw [h.follow_eq, List.length_append] at short
  have := List.length_pos_iff.mpr h.ne_nil
  omega

/-- Nothing is in the way in a directory that is missing, if its path does not go below it. -/
theorem Site.of_absent (fitting : Fitting keys) (makeable : t.Makeable t.current root)
    (ends : Ends root)
    (level : Along (·.length ≤ (t.target root).length) t.current (Path.components root))
    (absent : ∀ rest, t.node? (t.target root ++ rest) = none) : Site root keys t := by
  refine ⟨⟨fun key hk => ?_, fun key hk directory => ?_⟩, makeable, .inl ends, fun key hk => ?_⟩
  · obtain ⟨names, fits⟩ := fitting.fits key hk
    refine along_iff.mpr fun ds sub => ?_
    obtain ⟨front, -, below⟩ := fits.exists_foldl_step (sub.trans (List.dropLast_prefix _))
    rw [below]
    exact file?_eq_none_of_node? (absent front)
  · obtain ⟨names, fits⟩ := fitting.fits key hk
    rw [fits.follow_eq, absent] at directory
    cases directory
  · obtain ⟨names, fits⟩ := fitting.fits key hk
    exact fits.not_onWay level

/-- Where nothing is in the way, a crate can be written. -/
theorem Site.exists_writeCrate {outDir name : String} {files : SortedMap String String}
    (fitting : Fitting files.keys) (tree : t.IsTree)
    (site : Site (Path.join outDir name) files.keys t) :
    ∃ u, perform (Pipeline.writeCrate outDir name files) t = (.ok (Path.join outDir name), u) := by
  obtain ⟨v, ensured⟩ := exists_ensureDirectory tree site.makeable site.ends
  obtain ⟨adds, isTree⟩ := (builds_ensureDirectory (Path.join outDir name)).of_eq ensured
  have there := directory_of_ensureDirectory ensured
  rw [adds.keeps.target] at there
  have room : Room (Path.join outDir name) (t.target (Path.join outDir name)) files.keys v :=
    ⟨site.adds adds site.elsewhere, isTree tree, there⟩
  obtain ⟨u, written, _⟩ := room.writeFiles fitting fun e he => List.mem_map.mpr ⟨e, he, rfl⟩
  exact ⟨u, (perform_bind_of_ok (perform_atPath_of_ok ensured _)).trans
    ((perform_bind_of_ok written).trans rfl)⟩

/-! ### The files of a generated crate -/

theorem fitting_knownFiles : Fitting knownFiles := by decide

theorem fitting_of_generateCrate {ctx : Context} {target : Target} {withPlugin : Bool}
    {files : SortedMap String String}
    (h : generateCrate ctx (.forTarget target) withPlugin = .ok files) : Fitting files.keys :=
  fitting_knownFiles.mono (mem_knownFiles_of_generateCrate h)

/-- If nothing is in the way of a service's crate, the attempt at the service succeeds. -/
theorem Selection.perform_attempt_of_site {s : Selection} {arguments : Arguments}
    {service : ShapeId} {files : SortedMap String String} (tree : t.IsTree)
    (h : s.generate arguments service = .ok files)
    (site : Site (s.root arguments service) files.keys t) :
    (perform (s.attempt arguments service) t).1 = .ok (s.crate arguments service) := by
  obtain ⟨v, hv⟩ := Site.exists_writeCrate (fitting_of_generateCrate h) tree site
  rw [attempt, h, perform_bind]
  show (perform (_ >>= _) t).1 = _
  rw [perform_bind_of_ok hv]
  rfl

end Cratewright.Pipeline
