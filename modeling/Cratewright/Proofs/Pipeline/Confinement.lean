/-
Where a run writes.

A crate is written below the place that the output directory and the crate's name lead to. The
name is taken as it is, so it may lead out of the output directory:

* `Selection.file?_manifest_ne_none` — a crate that has been written is at its place;
* `Path.isConfined_kebabCase` — the names of services lead nowhere else;
* `run_writesInside_iff` — which runs write inside the output directory only;
* `not_forall_writesInside` — a run that does not.
-/
import Cratewright.Proofs.Pipeline.CrateNames
import Cratewright.Proofs.Pipeline.Room

namespace Cratewright

/-! ### The names of services -/

namespace Text

theorem isSeparator_dot : IsSeparator '.' := ⟨by decide, by decide, by decide⟩

end Text

namespace Path

theorem isConfined_kebabCase (name : String) : isConfined (Text.kebabCase name) = true := by
  have slash : '/' ∉ (Text.kebabCase name).toList := fun mem =>
    absurd (Text.isSeparator_slash.eq_of_mem_kebabCase mem) (by decide)
  have dot : '.' ∉ (Text.kebabCase name).toList := fun mem =>
    absurd (Text.isSeparator_dot.eq_of_mem_kebabCase mem) (by decide)
  have noParent : (Text.kebabCase name).toList ≠ ['.', '.'] := by
    intro parent
    rw [parent] at dot
    exact dot (List.mem_cons_self ..)
  rw [isConfined_iff]
  intro start
  rw [FileTree.follow_eq, isAbsolute_kebabCase, if_neg Bool.false_ne_true, inner,
    Text.splitAt_of_not_mem slash, List.filterMap_cons, component?, if_neg noParent]
  split_ifs
  · exact List.prefix_refl start
  · exact List.prefix_append start _

end Path

namespace Pipeline

open FileTree

/-! ### Inside a directory -/

/-- A place is strictly inside another. -/
def Inside (directory place : List String) : Prop :=
  ∃ below, below ≠ [] ∧ place = directory ++ below

theorem Inside.of_prefix {directory other place : List String} (h : Inside other place)
    (below : directory <+: other) : Inside directory place := by
  obtain ⟨rest, ne, rfl⟩ := h
  obtain ⟨between, rfl⟩ := below
  exact ⟨between ++ rest, List.append_ne_nil_of_right_ne_nil between ne, List.append_assoc ..⟩

theorem isPrefix_of_inside_concat {directory above : List String} (name : String)
    (h : Inside directory (above ++ [name])) : directory <+: above := by
  obtain ⟨below, ne, same⟩ := h
  obtain ⟨front, last, rfl⟩ := (List.eq_nil_or_concat' below).resolve_left ne
  rw [← List.append_assoc] at same
  exact ⟨front, (List.append_inj_left' same rfl).symm⟩

/-- All files that a run changes are strictly inside its output directory. -/
def WritesInside (arguments : Arguments) (t : FileTree) : Prop :=
  ∀ place, (perform (run arguments) t).2.file? place ≠ t.file? place →
    Inside (t.target arguments.outDir) place

namespace Selection

variable {s : Selection} {arguments : Arguments} {t : FileTree} {service : ShapeId}
  {files : SortedMap String String}

/-- The crates that are generated have their places in the output directory. -/
def IsInside (s : Selection) (arguments : Arguments) (t : FileTree) : Prop :=
  ∀ a ∈ s.services, (∃ files, s.generate arguments a = .ok files) →
    t.target arguments.outDir <+: s.place arguments t a

/-- A crate's place is where its name leads to from the output directory. -/
theorem place_eq (s : Selection) (arguments : Arguments) (t : FileTree) (service : ShapeId) :
    s.place arguments t service =
      follow (t.target arguments.outDir) (s.settingsOf service).moduleName :=
  follow_join _ _ _

theorem isInside_of_isConfined
    (h : ∀ a ∈ s.services, Path.isConfined (s.settingsOf a).moduleName = true) :
    s.IsInside arguments t := by
  intro a ha _
  rw [place_eq]
  exact (Path.isConfined_iff _).mp (h a ha) _

theorem descends_manifestFile : Path.Descends Artifacts.manifestFile ["Cargo.toml"] :=
  ⟨by decide, List.cons_ne_nil _ _⟩

/-- A crate that has been written is at its place. -/
theorem file?_manifest_ne_none (h : s.generate arguments service = .ok files)
    (succeed : ∀ path fault,
      (perform (s.attempt arguments service) t).1 ≠ .error (.files path fault)) :
    (perform (s.attempt arguments service) t).2.file?
      (s.place arguments t service ++ ["Cargo.toml"]) ≠ none := by
  rcases attempt_spec h t with ⟨path, fault, u, hu, _⟩ | ⟨_, u, hu, _, lays, _⟩
  · exact absurd (congrArg Prod.fst hu) (succeed path fault)
  · obtain ⟨_, _, modules, _, _, keys⟩ := exists_keys_perm h
    have mem : Artifacts.manifestFile ∈ files.keys := keys.mem_iff.mpr (List.mem_cons_self ..)
    obtain ⟨text, found⟩ := SortedMap.mem_keys_iff.mp mem
    have here : FilePlace (s.place arguments t service) files.entries
        (s.place arguments t service ++ ["Cargo.toml"]) :=
      ⟨_, SortedMap.find?_eq_some_iff.mp found, (descends_manifestFile.follow_eq _).symm⟩
    obtain ⟨e, _, _, written⟩ := lays.written _ here
    rw [hu, written]
    exact Option.some_ne_none _

/-- Other crates do not take it away. -/
theorem file?_manifest_ne_none_of_mem {services : List ShapeId} (mem : service ∈ services)
    (h : s.generate arguments service = .ok files)
    (succeed : ∀ r ∈ (s.attemptAll arguments services t).1, ∀ path fault,
      r.2 ≠ .error (.files path fault)) :
    (s.attemptAll arguments services t).2.file?
      (s.place arguments t service ++ ["Cargo.toml"]) ≠ none := by
  induction services generalizing t with
  | nil => cases mem
  | cons a services ih =>
    rw [attemptAll_cons] at succeed ⊢
    rcases List.mem_cons.mp mem with rfl | mem
    · have written := file?_manifest_ne_none h (succeed _ (List.mem_cons_self ..))
      exact (changes_attemptAll s arguments _ services).remains _ written
    · have first := changes_attempt s arguments t a
      have rest := ih mem fun r hr => succeed r (List.mem_cons_of_mem _ hr)
      rw [place_of_changes s arguments first] at rest
      exact rest

/-- Where crates are inside the output directory, so are all files that change. -/
theorem writesInside_of_isInside (prepared : (perform (prepare arguments) t).1 = .ok s)
    (h : s.IsInside arguments t) : WritesInside arguments t := by
  intro place changed
  rw [snd_perform_run prepared] at changed
  have here : s.InCrate arguments t s.services place := by
    by_contra elsewhere
    exact changed ((changes_attemptAll s arguments t s.services).file? place elsewhere)
  obtain ⟨a, ha, generated, inside⟩ := here
  exact Inside.of_prefix inside (h a ha generated)

/-- Where crates have been written, and there was no file before, they are among the files that
have changed. -/
theorem isInside_of_writesInside (prepared : (perform (prepare arguments) t).1 = .ok s)
    (free : ∀ place, s.InCrate arguments t s.services place → t.file? place = none)
    (succeed : ∀ r ∈ (s.attemptAll arguments s.services t).1, ∀ path fault,
      r.2 ≠ .error (.files path fault))
    (h : WritesInside arguments t) : s.IsInside arguments t := by
  intro a ha ⟨files, generated⟩
  have nothing : t.file? (s.place arguments t a ++ ["Cargo.toml"]) = none :=
    free _ ⟨a, ha, ⟨files, generated⟩, _, List.cons_ne_nil _ _, rfl⟩
  refine isPrefix_of_inside_concat "Cargo.toml" (h _ ?_)
  rw [snd_perform_run prepared, nothing]
  exact file?_manifest_ne_none_of_mem ha generated succeed

end Selection

/-- **Where a run writes.** If the inputs cannot be read, nothing changes. Otherwise all files
that change are strictly inside the output directory if the places of the crates are in it, and
only if so where no file is there before and no attempt fails at a file. A crate's place is
where its name leads to from the output directory, so names that never lead out of the place
that they start from are safe, in every output directory, and others are safe in some only;
the names that are used without settings are safe. -/
theorem run_writesInside_iff (arguments : Arguments) (t : FileTree) :
    (∀ e, (perform (prepare arguments) t).1 = .error e → (perform (run arguments) t).2 = t) ∧
    (∀ s, (perform (prepare arguments) t).1 = .ok s →
      (s.IsInside arguments t → WritesInside arguments t) ∧
      ((∀ place, s.InCrate arguments t s.services place → t.file? place = none) →
        (∀ r ∈ (s.attemptAll arguments s.services t).1, ∀ path fault,
          r.2 ≠ .error (.files path fault)) →
        WritesInside arguments t → s.IsInside arguments t) ∧
      ((∀ a ∈ s.services, Path.isConfined (s.settingsOf a).moduleName = true) →
        s.IsInside arguments t) ∧
      (s.settings = none →
        ∀ a ∈ s.services, Path.isConfined (s.settingsOf a).moduleName = true)) ∧
    ∀ name, Path.isConfined name = true ↔
      ∀ (outDir : String) (u : FileTree), u.target outDir <+: u.target (Path.join outDir name) := by
  refine ⟨fun e failed => by rw [perform_run_of_error failed], fun s prepared =>
    ⟨Selection.writesInside_of_isInside prepared, Selection.isInside_of_writesInside prepared,
      Selection.isInside_of_isConfined, fun none a _ => ?_⟩,
    fun name => ⟨fun confined outDir u => ?_,
      fun inside => (Path.isConfined_iff name).mpr fun start => ?_⟩⟩
  · rw [Selection.settingsOf, none]
    exact Path.isConfined_kebabCase a.name
  · rw [FileTree.target, FileTree.target, follow_join]
    exact (Path.isConfined_iff name).mp confined _
  · have at? := inside "" { current := start }
    rw [FileTree.target, FileTree.target, follow_join] at at?
    exact at?

/-! ### A name that leads out of the output directory -/

def escapeText : String :=
  "\x7b\"smithy\":\"2.0\",\"shapes\":\x7b\"time#Clock\":\x7b\"type\":\"service\"," ++
    "\"traits\":\x7b\"aws.protocols#restJson1\":\x7b\x7d\x7d\x7d\x7d\x7d"

def escapeSettingsText : String := "\x7b\"moduleName\":\"../escaped\"\x7d"

/-- A directory with a model and with settings. -/
def escapeFiles : FileTree where
  nodes := SortedMap.ofList [(["model.json"], .file (.text escapeText)),
    (["settings.json"], .file (.text escapeSettingsText))]

def escapeArguments : Arguments := ⟨"model.json", some "settings.json", "generated", [], false⟩

def escape : Selection := ⟨clockModel, some { moduleName := "../escaped" }, [clock]⟩

theorem prepare_escape : (perform (prepare escapeArguments) escapeFiles).1 = .ok escape := by
  have readModel : (perform (readInput "model.json") escapeFiles).1 = .ok escapeText :=
    Except.eq_ok_of_toOption (by decide)
  have readSettings : (perform (readInput "settings.json") escapeFiles).1
      = .ok escapeSettingsText :=
    Except.eq_ok_of_toOption (by decide)
  have model : Model.parse escapeText = .ok clockModel :=
    Except.eq_ok_of_toOption (by decide +kernel)
  have settings : Settings.parse escapeSettingsText = .ok { moduleName := "../escaped" } :=
    Except.eq_ok_of_toOption (by decide +kernel)
  exact perform_prepare (perform_readModel readModel model)
    (perform_readSettings readSettings settings) rfl

theorem root_escape : escape.root escapeArguments clock = "generated/../escaped" := by
  decide

theorem place_escape : escape.place escapeArguments escapeFiles clock = ["escaped"] := by
  rw [Selection.place, root_escape]
  decide

theorem generate_escape : ∃ files, escape.generate escapeArguments clock = .ok files :=
  exists_crate_of_no_operations ⟨clockModel, clock, escape.settingsOf clock⟩ select_clock
    operations_clock false

theorem absent_escape (rest : List String) : escapeFiles.node? ("escaped" :: rest) = none := by
  refine node?_eq_none (List.cons_ne_nil _ _) fun n mem => ?_
  have entries : escapeFiles.nodes.entries = [(["model.json"], .file (.text escapeText)),
      (["settings.json"], .file (.text escapeSettingsText))] := rfl
  rw [entries] at mem
  simp at mem

/-- Nothing is in the way of the crate. -/
theorem site_escape {files : SortedMap String String} (fitting : Fitting files.keys) :
    Site (escape.root escapeArguments clock) files.keys escapeFiles := by
  have place : escapeFiles.target "generated/../escaped" = ["escaped"] := by decide
  rw [root_escape]
  exact .of_absent fitting ⟨by decide, by decide, by decide⟩
    (.inr (.inr ⟨[.normal "generated", .parent], .normal "escaped", by decide, nofun⟩))
    (by decide) (by rw [place]; exact absent_escape)

theorem succeed_escape :
    ∀ r ∈ (escape.attemptAll escapeArguments escape.services escapeFiles).1,
      ∀ path fault, r.2 ≠ .error (.files path fault) := by
  obtain ⟨files, generated⟩ := generate_escape
  have site := site_escape (fitting_of_generateCrate generated)
  have services : escape.services = [clock] := rfl
  rw [services, Selection.attemptAll_cons,
    Selection.perform_attempt_of_site (by decide) generated site]
  intro r hr path fault
  rw [List.mem_singleton.mp hr]
  nofun

/-- The crate is written beside the output directory. -/
theorem file?_escape : (perform (run escapeArguments) escapeFiles).2.file?
    ["escaped", "Cargo.toml"] ≠ none := by
  obtain ⟨files, generated⟩ := generate_escape
  have first : clock ∈ escape.services := List.mem_cons_self ..
  have manifest : ["escaped", "Cargo.toml"]
      = escape.place escapeArguments escapeFiles clock ++ ["Cargo.toml"] := by
    rw [place_escape]
    rfl
  rw [snd_perform_run prepare_escape, manifest]
  exact Selection.file?_manifest_ne_none_of_mem first generated succeed_escape

theorem free_escape (place : List String)
    (h : escape.InCrate escapeArguments escapeFiles escape.services place) :
    escapeFiles.file? place = none := by
  obtain ⟨a, ha, _, rest, _, rfl⟩ := h
  rw [List.mem_singleton.mp ha, place_escape]
  exact file?_eq_none_of_node? (absent_escape rest)

/-- This run would write inside its output directory only if the crate's place were there. -/
theorem run_writesInside_iff_escape :
    WritesInside escapeArguments escapeFiles ↔ escape.IsInside escapeArguments escapeFiles :=
  have ⟨inside, places, _⟩ :=
    (run_writesInside_iff escapeArguments escapeFiles).2.1 escape prepare_escape
  ⟨places free_escape succeed_escape, inside⟩

/-- Not all runs write inside their output directory only. -/
theorem not_forall_writesInside :
    ¬ ∀ (arguments : Arguments) (t : FileTree), WritesInside arguments t := by
  intro all
  have free : escapeFiles.file? ["escaped", "Cargo.toml"] = none := by decide
  obtain ⟨below, _, same⟩ := all escapeArguments escapeFiles ["escaped", "Cargo.toml"] (by
    rw [free]
    exact file?_escape)
  have target : escapeFiles.target "generated" = ["generated"] := by decide
  rw [show escapeArguments.outDir = "generated" from rfl, target] at same
  exact absurd (List.cons.inj same).1 (by decide)

end Pipeline

end Cratewright
