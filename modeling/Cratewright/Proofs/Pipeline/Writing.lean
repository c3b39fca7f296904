/-
Writing crates.

A crate is written file by file into its own directory. An operation that fails ends the
writing of the crate; what has been written until then stays, and is in the crate's directory
too:

* `Attempt` — what an action comes to if no operation fails, and what is left if one does;
* `attempt_writeFile`, `attempt_writeCrate` — the files that are written;
* `names_of_generateCrate` — the files of a crate are named by names, so they all stand below
  its directory;
* `Lays.holds` — a crate that has been written is all that its directory holds.
-/
import Cratewright.Pipeline
import Cratewright.Proofs.Files.Reading
import Cratewright.Proofs.Generation.Layout

namespace Cratewright.Pipeline

open FileTree

/-! ### Actions on a tree of files -/

section Actions

variable {α β : Type}

/-- What an action comes to in a tree of files, and the tree that it leaves. -/
def perform (x : ExceptT Failure (StateM FileTree) α) (t : FileTree) :
    Except Failure α × FileTree :=
  x.run t

/-- An operation of the action fails, and leaves a tree of which `left` holds, or the action
comes to a result and a tree of which `done` holds. -/
def Attempt (x : ExceptT Failure (StateM FileTree) α) (t : FileTree) (left : FileTree → Prop)
    (done : α → FileTree → Prop) : Prop :=
  (∃ path fault u, perform x t = (.error (.files path fault), u) ∧ left u) ∨
    ∃ a u, perform x t = (.ok a, u) ∧ done a u

variable {x : ExceptT Failure (StateM FileTree) α} {f : α → ExceptT Failure (StateM FileTree) β}
  {t : FileTree} {left : FileTree → Prop} {done : α → FileTree → Prop}
  {after : β → FileTree → Prop}

theorem perform_bind (x : ExceptT Failure (StateM FileTree) α)
    (f : α → ExceptT Failure (StateM FileTree) β) (t : FileTree) :
    perform (x >>= f) t =
      match perform x t with
      | (.ok a, u) => perform (f a) u
      | (.error e, u) => (.error e, u) := by
  have step : perform (x >>= f) t =
      ExceptT.bindCont f (perform x t).1 (perform x t).2 := rfl
  rw [step]
  rcases perform x t with ⟨_ | _, _⟩ <;> rfl

theorem perform_bind_of_ok {a : α} {u : FileTree} (h : perform x t = (.ok a, u)) :
    perform (x >>= f) t = perform (f a) u := by
  rw [perform_bind, h]

theorem attempt_pure {a : α} (h : done a t) : Attempt (pure a) t left done :=
  .inr ⟨a, t, rfl, h⟩

theorem Attempt.bind (h : Attempt x t left done)
    (hf : ∀ a u, done a u → Attempt (f a) u left after) : Attempt (x >>= f) t left after := by
  rcases h with ⟨path, fault, u, hx, hu⟩ | ⟨a, u, hx, hu⟩
  · exact .inl ⟨path, fault, u, by rw [perform_bind, hx], hu⟩
  · have rest := perform_bind_of_ok (f := f) hx
    rcases hf a u hu with ⟨path, fault, v, hv, hl⟩ | ⟨b, v, hv, hd⟩
    · exact .inl ⟨path, fault, v, rest.trans hv, hl⟩
    · exact .inr ⟨b, v, rest.trans hv, hd⟩

theorem Attempt.mono (h : Attempt x t left done) {left' : FileTree → Prop}
    {done' : α → FileTree → Prop} (hl : ∀ u, left u → left' u)
    (hd : ∀ a u, done a u → done' a u) : Attempt x t left' done' := by
  rcases h with ⟨path, fault, u, hx, hu⟩ | ⟨a, u, hx, hu⟩
  · exact .inl ⟨path, fault, u, hx, hl u hu⟩
  · exact .inr ⟨a, u, hx, hd a u hu⟩

theorem perform_atPath (path : String) (x : StateM FileTree (Except FileFault α))
    (t : FileTree) : perform (atPath path x) t = ((x t).1.mapError (.files path), (x t).2) :=
  rfl

/-- An operation fails at the path that is given, or succeeds. -/
theorem attempt_atPath {x : StateM FileTree (Except FileFault α)} (path : String)
    (failed : ∀ fault u, x t = (.error fault, u) → left u)
    (succeeded : ∀ a u, x t = (.ok a, u) → done a u) : Attempt (atPath path x) t left done := by
  rw [Attempt, perform_atPath]
  generalize x t = result at failed succeeded
  obtain ⟨fault | a, u⟩ := result
  · exact .inl ⟨path, fault, u, rfl, failed fault u rfl⟩
  · exact .inr ⟨a, u, rfl, succeeded a u rfl⟩

/-- Making directories changes no file, whether it succeeds or not. -/
theorem attempt_of_builds {x : StateM FileTree (Except FileFault α)}
    {p : List String → List String → Prop} (h : Builds p x) (path : String) (t : FileTree) :
    Attempt (atPath path x) t (Keeps t) fun a u => x t = (.ok a, u) ∧ Keeps t u :=
  attempt_atPath path (fun _ _ hx => (h.of_eq hx).1.keeps) fun _ _ hx =>
    ⟨hx, (h.of_eq hx).1.keeps⟩

end Actions

/-! ### Files of a crate -/

variable {t u : FileTree}

/-- A file is written, once its directory is there. -/
theorem attempt_writeFile (root relative text : String) (t : FileTree) :
    Attempt (writeFile root relative text) t (Keeps t)
      fun _ u => Puts (follow (t.target root) relative) (.text text) t u := by
  have writes (v : FileTree) (keeps : Keeps t v) : Attempt (atPath (Path.join root relative)
      (FileAccess.writeText root relative text)) v (Keeps t)
        fun _ u => Puts (follow (t.target root) relative) (.text text) t u := by
    rcases writeText_spec root relative text v with ⟨fault, failed⟩ | ⟨u, written, puts⟩
    · refine attempt_atPath _ (fun _ w h => ?_) fun _ w h => ?_
      · cases failed.symm.trans h
        exact keeps
      · cases failed.symm.trans h
    · rw [keeps.target] at puts
      refine attempt_atPath _ (fun _ w h => ?_) fun _ w h => ?_
      · cases written.symm.trans h
      · cases written.symm.trans h
        exact ⟨(keeps.mono fun _ h => h.elim).trans puts.toChanges, puts.written⟩
  rw [writeFile]
  dsimp only
  split
  · exact writes t (changes_refl _ t)
  · exact (attempt_of_builds (builds_makeDirectories _ _) _ t).bind fun _ v made =>
      writes v made.2

/-- Files are at the places that paths lead to. -/
def FilePlace (start : List String) (entries : List (String × String)) (place : List String) :
    Prop :=
  ∃ e ∈ entries, place = follow start e.1

/-- Texts have been put at the places that their paths lead to. -/
structure Lays (start : List String) (entries : List (String × String)) (t u : FileTree) : Prop
    extends Changes (FilePlace start entries) t u where
  written : ∀ place, FilePlace start entries place →
    ∃ e ∈ entries, place = follow start e.1 ∧ u.file? place = some (.text e.2)

theorem attempt_writeFiles (root : String) (start : List String) :
    ∀ (entries : List (String × String)) (t : FileTree), t.target root = start →
      Attempt (entries.forM fun (relative, text) => writeFile root relative text) t
        (Changes (FilePlace start entries) t) fun _ u => Lays start entries t u
  | [], t, _ => attempt_pure ⟨changes_refl _ t, fun _ ⟨_, he, _⟩ => by cases he⟩
  | e :: entries, t, hs => by
    have first {u : FileTree} (h : Changes (· = follow start e.1) t u) :
        Changes (FilePlace start (e :: entries)) t u :=
      h.mono fun place here => ⟨e, List.mem_cons_self .., here⟩
    have later {v u : FileTree} (h : Changes (FilePlace start entries) v u) :
        Changes (FilePlace start (e :: entries)) v u :=
      h.mono fun place ⟨d, hd, here⟩ => ⟨d, List.mem_cons_of_mem _ hd, here⟩
    have write := attempt_writeFile root e.1 e.2 t
    rw [hs] at write
    refine (write.mono (fun u keeps => keeps.mono fun _ h => h.elim) fun _ _ h => h).bind
      fun _ v puts => ?_
    refine (attempt_writeFiles root start entries v ((puts.target root).trans hs)).mono
      (fun u left => (first puts.toChanges).trans (later left)) fun _ u lays => ?_
    refine ⟨(first puts.toChanges).trans (later lays.toChanges), fun place here => ?_⟩
    by_cases again : FilePlace start entries place
    · obtain ⟨d, hd, at?, text⟩ := lays.written place again
      exact ⟨d, List.mem_cons_of_mem _ hd, at?, text⟩
    · -- Nothing is put there after the first file.
      obtain ⟨d, hd, at?⟩ := here
      rcases List.mem_cons.mp hd with rfl | hd
      · refine ⟨d, List.mem_cons_self .., at?, ?_⟩
        rw [lays.file? place again, at?]
        exact puts.written
      · exact absurd ⟨d, hd, at?⟩ again

/-- A crate is written, and its directory is there. -/
theorem attempt_writeCrate (outDir name : String) (files : SortedMap String String)
    (t : FileTree) :
    Attempt (writeCrate outDir name files) t
      (Changes (FilePlace (t.target (Path.join outDir name)) files.entries) t) fun path u =>
        path = Path.join outDir name ∧
        Lays (t.target (Path.join outDir name)) files.entries t u ∧
        u.directory u.current (Path.join outDir name) = .ok (t.target (Path.join outDir name)) := by
  have unchanged {u : FileTree} (h : Keeps t u) :
      Changes (FilePlace (t.target (Path.join outDir name)) files.entries) t u :=
    h.mono fun _ h => h.elim
  rw [writeCrate]
  refine ((attempt_of_builds (builds_ensureDirectory _) _ t).mono
    (fun u => unchanged) fun _ _ h => h).bind fun _ v ⟨ensured, keeps⟩ => ?_
  have there := directory_of_ensureDirectory ensured
  rw [keeps.target] at there
  refine ((attempt_writeFiles _ _ files.entries v (keeps.target _)).mono
    (fun u left => (unchanged keeps).trans left) fun _ _ h => h).bind fun _ u lays => ?_
  refine attempt_pure ⟨rfl, ⟨(unchanged keeps).trans lays.toChanges, lays.written⟩, ?_⟩
  rw [lays.current]
  exact lays.directory_eq there

/-! ### The files of a generated crate -/

/-- The paths of the files that a crate can have. -/
def knownFiles : List String :=
  Artifacts.manifestFile :: Artifacts.libFile :: SourceModule.known.map SourceModule.file

theorem names_of_mem_knownFiles {key : String} (h : key ∈ knownFiles) :
    Path.Names key ((Path.components key).map (·.text)) := by
  have all : ∀ key ∈ knownFiles,
      Path.components key = ((Path.components key).map (·.text)).map Path.Component.normal ∧
        (Path.components key).map (·.text) ≠ [] ∧
        "/".intercalate ((Path.components key).map (·.text)) = key := by
    decide
  obtain ⟨components, ne, text⟩ := all key h
  exact ⟨⟨components, ne⟩, text⟩

theorem mem_knownFiles_of_generateCrate {ctx : Context} {target : Target} {withPlugin : Bool}
    {files : SortedMap String String}
    (h : generateCrate ctx (.forTarget target) withPlugin = .ok files) :
    ∀ key ∈ files.keys, key ∈ knownFiles := by
  obtain ⟨_, _, modules, _, mem_iff, keys⟩ := exists_keys_perm h
  have known : ∀ m ∈ modules, m ∈ SourceModule.known := fun m hm => ((mem_iff m).mp hm).mem_known
  intro key hk
  exact List.cons_subset_cons _ (List.cons_subset_cons _ (List.map_subset _ known))
    (keys.mem_iff.mp hk)

/-- Every file of a crate is named by names, one below the other. -/
theorem names_of_generateCrate {ctx : Context} {target : Target} {withPlugin : Bool}
    {files : SortedMap String String}
    (h : generateCrate ctx (.forTarget target) withPlugin = .ok files) :
    ∀ key ∈ files.keys, ∃ names, Path.Names key names :=
  fun key hk => ⟨_, names_of_mem_knownFiles (mem_knownFiles_of_generateCrate h key hk)⟩

/-- Below a place are exactly the files of a map. -/
def Holds (files : SortedMap String String) (place : List String) (u : FileTree) : Prop :=
  ∀ rest c, u.file? (place ++ rest) = some c ↔
    ∃ key text, files.find? key = some text ∧ c = .text text ∧ Path.Names key rest

section Named

variable {files : SortedMap String String}
  (named : ∀ key ∈ files.keys, ∃ names, Path.Names key names) {place : List String}

include named

/-- Files that are named by names are below the place that they are written to. -/
theorem exists_of_filePlace {other : List String} (h : FilePlace place files.entries other) :
    ∃ key text rest, files.find? key = some text ∧ Path.Names key rest ∧ other = place ++ rest := by
  obtain ⟨⟨key, text⟩, he, rfl⟩ := h
  have found := SortedMap.find?_eq_some_iff.mpr he
  obtain ⟨rest, hn⟩ := named key (SortedMap.mem_keys_iff.mpr ⟨text, found⟩)
  exact ⟨key, text, rest, found, hn, hn.follow_eq place⟩

/-- A file of the map is there, since no other key leads to its place. -/
theorem Lays.file?_eq (h : Lays place files.entries t u) {key text : String}
    {rest : List String} (found : files.find? key = some text) (hn : Path.Names key rest) :
    u.file? (place ++ rest) = some (.text text) := by
  have here : FilePlace place files.entries (place ++ rest) :=
    ⟨_, SortedMap.find?_eq_some_iff.mp found, (hn.follow_eq place).symm⟩
  obtain ⟨⟨other, text'⟩, he, at?, written⟩ := h.written _ here
  have found' := SortedMap.find?_eq_some_iff.mpr he
  obtain ⟨names, hn'⟩ := named other (SortedMap.mem_keys_iff.mpr ⟨text', found'⟩)
  rw [hn'.follow_eq, List.append_cancel_left_eq] at at?
  have key_eq : other = key := by rw [← hn.text, ← hn'.text, at?]
  rw [key_eq, found, Option.some_inj] at found'
  rw [written, found']

theorem Lays.holds (h : Lays place files.entries t u)
    (free : ∀ rest, t.file? (place ++ rest) = none) : Holds files place u := by
  intro rest c
  constructor
  · intro found
    by_cases here : FilePlace place files.entries (place ++ rest)
    · obtain ⟨⟨key, text⟩, he, at?, written⟩ := h.written _ here
      have found' := SortedMap.find?_eq_some_iff.mpr he
      obtain ⟨names, hn⟩ := named key (SortedMap.mem_keys_iff.mpr ⟨text, found'⟩)
      rw [hn.follow_eq, List.append_cancel_left_eq] at at?
      rw [written, Option.some_inj] at found
      exact ⟨key, text, found', found.symm, at? ▸ hn⟩
    · rw [h.file? _ here, free] at found
      cases found
  · rintro ⟨key, text, found, rfl, hn⟩
    exact h.file?_eq named found hn

end Named

end Cratewright.Pipeline
