/-
The files of a crate.

The text of a module is put into its file, after what stands there already; then come the
root and the manifest. Modules of distinct files therefore each end up in their own:

* `Artifacts.find?_moduleFiles` — what the file of a module holds;
* `Artifacts.find?_files`, `Artifacts.keys_files_perm` — the files of a crate;
* `Artifacts.declarations_perm` — the modules that the root declares.
-/
import Mathlib.Tactic.SplitIfs
import Cratewright.Generation
import Cratewright.Proofs.SortedMap

namespace Cratewright.Artifacts

variable {file : String}

/-! ### Module files -/

theorem find?_addModule (files : SortedMap String String) (w : WrittenModule) :
    (addModule files w).find? file =
      if file = w.home.file then
        some (((files.find? file).map (· ++ "\n" ++ w.contents)).getD w.contents)
      else files.find? file := by
  rw [addModule]
  by_cases same : file = w.home.file
  · subst same
    cases files.find? w.home.file <;> simp
  · cases files.find? w.home.file <;> simp [same]

theorem find?_foldl_addModule {modules : List WrittenModule}
    (distinct : modules.Pairwise fun v w => v.home.file ≠ w.home.file)
    (files : SortedMap String String) :
    (modules.foldl addModule files).find? file =
      match modules.find? (·.home.file == file) with
      | none => files.find? file
      | some w => some (((files.find? file).map (· ++ "\n" ++ w.contents)).getD w.contents) := by
  induction modules generalizing files with
  | nil => rfl
  | cons w ws ih =>
    have ⟨ne, distinct⟩ := List.pairwise_cons.mp distinct
    rw [List.foldl_cons, ih distinct, find?_addModule, List.find?_cons]
    by_cases same : w.home.file = file
    · -- No later module is written into the same file.
      have none : ws.find? (·.home.file == file) = none := by
        rw [List.find?_eq_none]
        intro v hv
        simpa [← same] using (ne v hv).symm
      simp [none, same]
    · rw [beq_eq_false_iff_ne.mpr same, if_neg (Ne.symm same)]

variable {a : Artifacts} {modules : List WrittenModule}
  (distinct : modules.Pairwise fun v w => v.home.file ≠ w.home.file)

/-- The texts of the service's own modules, by file. -/
theorem find?_ownModules (a : Artifacts) :
    (SortedMap.ofList (a.ownModules.map fun m => (m.home.file, m.contents))).find? file =
      if file = SourceModule.config.file then some a.config.contents
      else if file = SourceModule.protocol.file then some a.protocolModule.contents
      else none := by
  have ne : SourceModule.config.file ≠ SourceModule.protocol.file := by decide
  rw [SortedMap.find?_ofList]
  by_cases config : file = SourceModule.config.file
  · subst config
    simp [ownModules, ne.symm]
  · by_cases protocol : file = SourceModule.protocol.file
    · subst protocol
      simp [ownModules, ne.symm]
    · simp [ownModules, config, protocol, Ne.symm config, Ne.symm protocol]

include distinct

theorem find?_moduleFiles : (a.moduleFiles modules).find? file =
    match modules.find? (·.home.file == file) with
    | none =>
      if file = SourceModule.config.file then some a.config.contents
      else if file = SourceModule.protocol.file then some a.protocolModule.contents
      else none
    | some w => some <|
      if file = SourceModule.config.file then a.config.contents ++ "\n" ++ w.contents
      else if file = SourceModule.protocol.file then
        a.protocolModule.contents ++ "\n" ++ w.contents
      else w.contents := by
  rw [moduleFiles, find?_foldl_addModule distinct, find?_ownModules]
  cases modules.find? (·.home.file == file) with
  | none => rfl
  | some w =>
    simp only
    split_ifs <;> rfl

/-- A file holds a module if it is one of the service's own, or of another module. -/
theorem isSome_find?_moduleFiles : ((a.moduleFiles modules).find? file).isSome ↔
    file = SourceModule.config.file ∨ file = SourceModule.protocol.file ∨
      ∃ w ∈ modules, w.home.file = file := by
  rw [find?_moduleFiles distinct]
  cases hw : modules.find? (·.home.file == file) with
  | none =>
    have none : ¬ ∃ w ∈ modules, w.home.file = file := by
      rintro ⟨w, hw', same⟩
      exact List.find?_eq_none.mp hw w hw' (beq_iff_eq.mpr same)
    simp only
    split_ifs with config protocol
    · simp [config]
    · simp [protocol]
    · simp [config, protocol, none]
  | some w =>
    have found : ∃ w ∈ modules, w.home.file = file :=
      ⟨w, List.mem_of_find?_eq_some hw, by simpa using List.find?_some hw⟩
    simp [found]

omit distinct

/-! ### The files of a crate -/

variable {settings : Settings} {out : RunOutput}

theorem find?_files : (a.files settings out).find? file =
    if file = manifestFile then some (manifestText settings out.dependencies)
    else if file = libFile then some (a.libText out.modules)
    else (a.moduleFiles out.modules).find? file := by
  rw [files, SortedMap.find?_insert, SortedMap.find?_insert]

theorem find?_lib : (a.files settings out).find? libFile = some (a.libText out.modules) := by
  have ne : libFile ≠ manifestFile := by decide
  rw [find?_files, if_neg ne, if_pos rfl]

theorem mem_keys_files_iff
    (distinct : out.modules.Pairwise fun v w => v.home.file ≠ w.home.file) :
    file ∈ (a.files settings out).keys ↔ file = manifestFile ∨ file = libFile ∨
      file = SourceModule.config.file ∨ file = SourceModule.protocol.file ∨
        ∃ w ∈ out.modules, w.home.file = file := by
  rw [SortedMap.mem_keys_iff, ← Option.isSome_iff_exists, find?_files,
    ← isSome_find?_moduleFiles (a := a) distinct]
  split_ifs with manifest lib
  · simp [manifest]
  · simp [lib]
  · simp [manifest, lib]

theorem mem_declarations_iff {line : String} :
    line ∈ (a.declarations modules).toList ↔ line = SourceModule.config.declaration ∨
      line = SourceModule.protocol.declaration ∨ ∃ w ∈ modules, w.home.declaration = line := by
  rw [declarations, SortedSet.mem_toList_ofList]
  simp [ownModules, eq_comm]

section Homes

variable {homes : List SourceModule}
  (mem_iff : ∀ m, m ∈ homes ↔
    m = SourceModule.config ∨ m = SourceModule.protocol ∨ ∃ w ∈ out.modules, w.home = m)

include mem_iff

/-- What is made of the modules of a crate is made of the two of the service, or of a
further one. -/
theorem mem_map_homes_iff (f : SourceModule → String) {t : String} :
    t ∈ homes.map f ↔
      t = f .config ∨ t = f .protocol ∨ ∃ w ∈ out.modules, f w.home = t := by
  simp only [List.mem_map, mem_iff]
  constructor
  · rintro ⟨m, rfl | rfl | ⟨w, hw, rfl⟩, rfl⟩
    · exact .inl rfl
    · exact .inr (.inl rfl)
    · exact .inr (.inr ⟨w, hw, rfl⟩)
  · rintro (rfl | rfl | ⟨w, hw, rfl⟩)
    · exact ⟨_, .inl rfl, rfl⟩
    · exact ⟨_, .inr (.inl rfl), rfl⟩
    · exact ⟨_, .inr (.inr ⟨w, hw, rfl⟩), rfl⟩

/-- If no two of its modules share a file, a crate has a file for each. -/
theorem keys_files_perm (nodup : (manifestFile :: libFile :: homes.map SourceModule.file).Nodup)
    (distinct : out.modules.Pairwise fun v w => v.home.file ≠ w.home.file) :
    (a.files settings out).keys.Perm
      (manifestFile :: libFile :: homes.map SourceModule.file) := by
  rw [List.perm_ext_iff_of_nodup (SortedMap.nodup_keys _) nodup]
  intro file
  rw [mem_keys_files_iff distinct, List.mem_cons, List.mem_cons, mem_map_homes_iff mem_iff]

/-- If no two of its modules share a declaration, the root declares each once. -/
theorem declarations_perm (nodup : (homes.map SourceModule.declaration).Nodup) :
    (a.declarations out.modules).toList.Perm (homes.map SourceModule.declaration) := by
  rw [SortedSet.toList, List.perm_ext_iff_of_nodup (SortedMap.nodup_keys _) nodup]
  intro line
  rw [← SortedSet.toList, mem_declarations_iff, mem_map_homes_iff mem_iff]

end Homes

end Cratewright.Artifacts
