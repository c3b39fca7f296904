/-
What becomes of the fragments of a crate.

Modules with the same name share a path and a file, but not a declaration, as this also
tells who may use them. And the root is put into its file in place of what stands there. So
nothing is lost as long as fragments keep to the modules as the service has them and stay
out of the root:

* `Run.Gathers.exists_register` — the modules of an outcome are those of a register;
* `Artifacts.exists_declarations`, `Artifacts.nodup_declared_iff` — what the root declares;
* `Artifacts.occurs_of_home_ne` — where the texts of fragments are found;
* `generateCrate_sound_iff` — when the files of a crate are sound;
* `not_forall_generateCrate_sound` — a crate that declares a module twice.
-/
import Mathlib.Data.List.Dedup
import Cratewright.Proofs.Generation.Layout

namespace Cratewright

/-! ### Texts -/

namespace Text

/-- A text is found within another. -/
def Occurs (part text : String) : Prop := part.toList <:+: text.toList

variable {part text : String}

theorem Occurs.append_left (h : Occurs part text) (before : String) :
    Occurs part (before ++ text) := by
  rw [Occurs, String.toList_append]
  exact h.trans (List.suffix_append ..).isInfix

theorem occurs_append_right (part after : String) : Occurs part (part ++ after) := by
  rw [Occurs, String.toList_append]
  exact (List.prefix_append ..).isInfix

/-- What is joined is found in the whole. -/
theorem occurs_intercalate {separator : String} {parts : List String} (h : part ∈ parts) :
    Occurs part (separator.intercalate parts) := by
  induction parts with
  | nil => cases h
  | cons p ps ih =>
    by_cases last : ps = []
    · subst last
      rw [List.mem_singleton.mp h, String.intercalate_singleton]
      exact List.infix_rfl
    · rw [String.intercalate_cons_of_ne_nil last]
      rcases List.mem_cons.mp h with rfl | h
      · rw [String.append_assoc]
        exact occurs_append_right ..
      · exact (ih h).append_left _

end Text

/-! ### Modules -/

namespace SourceModule

/-- The modules of a service itself. -/
def own : List SourceModule := [.config, .protocol]

/-- A declaration tells the name of the module and who may use it. -/
theorem declaration_injective : Function.Injective declaration := by
  rintro ⟨m, v⟩ ⟨n, w⟩ same
  cases v <;> cases w
  all_goals
    simp_all [declaration, Visibility.keyword, ← String.toList_inj, String.toList_append]

theorem file_ne_manifestFile (m : SourceModule) : m.file ≠ Artifacts.manifestFile := by
  intro same
  simp [file, Artifacts.manifestFile, ← String.toList_inj, String.toList_append] at same

theorem file_eq_libFile_iff {m : SourceModule} : m.file = Artifacts.libFile ↔ m.name = "lib" :=
  file_eq_iff (n := ⟨"lib", .everyone⟩)

end SourceModule

/-! ### Modules of fragments -/

namespace Registry

variable {φ : Type} [FragmentKind φ] {fs gs : List φ} {f g : φ} {r : Registry φ}

/-- Of the fragments of its path, the fragment has the least key. -/
structure IsFirst (fs : List φ) (f : φ) : Prop where
  mem : f ∈ fs
  le : ∀ g ∈ fs, (FragmentKind.home g).path = (FragmentKind.home f).path →
    compare (FragmentKind.key f) (FragmentKind.key g) ≠ .gt

theorem isFirst_congr (perm : fs.Perm gs) : IsFirst fs f ↔ IsFirst gs f where
  mp h := ⟨perm.mem_iff.mp h.mem, fun g hg => h.le g (perm.mem_iff.mpr hg)⟩
  mpr h := ⟨perm.mem_iff.mpr h.mem, fun g hg => h.le g (perm.mem_iff.mp hg)⟩

theorem IsFirst.key_eq (hf : IsFirst fs f) (hg : IsFirst fs g)
    (path : (FragmentKind.home f).path = (FragmentKind.home g).path) :
    FragmentKind.key f = FragmentKind.key g := by
  have le := hf.le g hg.mem path.symm
  have ge := hg.le f hf.mem path
  rw [Std.OrientedOrd.eq_swap (a := FragmentKind.key g)] at ge
  cases order : compare (FragmentKind.key f) (FragmentKind.key g) with
  | eq => exact Std.LawfulEqOrd.eq_of_compare order
  | lt => simp [order] at ge
  | gt => exact absurd order le

theorem Keyed.exists_isFirst (h : r.Keyed) {w : WrittenModule} (hw : w ∈ r.written) :
    ∃ f, IsFirst r.toList f ∧ FragmentKind.home f = w.home := by
  obtain ⟨g, hg, rfl⟩ := List.mem_map.mp hw
  obtain ⟨f, rest, members, home⟩ := exists_head_of_mem_group hg
  have group := ((layout_byModule h).filter_eq hg).trans members
  have sorted := h.pairwise_toList.sublist (List.filter_sublist (p := fun f =>
    (FragmentKind.key f).modulePath = g.1.path))
  rw [group, List.pairwise_cons] at sorted
  have mem {k : φ} (hk : k ∈ f :: rest) := List.mem_filter.mp (group ▸ hk)
  refine ⟨f, ⟨(mem (List.mem_cons_self ..)).1, fun k hk path => ?_⟩, home⟩
  have same : k ∈ f :: rest := by
    rw [← group]
    exact List.mem_filter.mpr ⟨hk, decide_eq_true (path.trans (congrArg _ home))⟩
  rcases List.mem_cons.mp same with rfl | later
  · rw [Std.ReflOrd.compare_self]
    decide
  · rw [sorted.1 k later]
    decide

/-- The module that is written for a path is that of the first fragment. -/
theorem Keyed.exists_home_iff (h : r.Keyed) {m : SourceModule} :
    (∃ w ∈ r.written, w.home = m) ↔ ∃ f, IsFirst r.toList f ∧ FragmentKind.home f = m := by
  constructor
  · rintro ⟨w, hw, rfl⟩
    exact h.exists_isFirst hw
  · rintro ⟨f, first, rfl⟩
    obtain ⟨w, hw, path⟩ := h.exists_written first.mem
    obtain ⟨g, other, home⟩ := h.exists_isFirst hw
    rw [← home] at path
    have key := other.key_eq first path
    have stands := h.mem_toList_iff.mp other.mem
    rw [key, h.mem_toList_iff.mp first.mem, Option.some_inj] at stands
    exact ⟨w, hw, stands ▸ home.symm⟩

end Registry

/-- The modules of an outcome are those of a register of all that has been written. -/
theorem Run.Gathers.exists_register {φ : Type} [FragmentKind φ] {r : Run φ}
    {log : List (Requirement φ)} (h : r.Gathers log) {out : RunOutput}
    (hr : r.finish? = some (.ok out)) :
    ∃ members, Completes log members out ∧
      ∃ register : Registry φ, register.Keyed ∧ register.toList.Perm members ∧
        out.modules = register.written := by
  obtain ⟨o, reaches, same⟩ := h.exists_reaches hr
  cases o with
  | error e => cases same
  | ok q =>
    cases same
    obtain ⟨n, hq, idle⟩ := reaches
    have chronicle := chronicle_schedule log n
    have perm := hq.perm_toList chronicle idle
    exact ⟨_, hq.completes idle, _, hq.run.keyed, perm, hq.modules chronicle perm⟩

/-! ### What the root declares -/

namespace Artifacts

variable {a : Artifacts} {modules : List WrittenModule} {m : SourceModule}

/-- The modules that the root declares. -/
def declared (a : Artifacts) (modules : List WrittenModule) : List SourceModule :=
  ((a.ownModules ++ modules).map (·.home)).dedup

theorem nodup_declared (a : Artifacts) : (a.declared modules).Nodup := List.nodup_dedup _

theorem mem_declared_iff :
    m ∈ a.declared modules ↔ m ∈ SourceModule.own ∨ ∃ w ∈ modules, w.home = m := by
  simp [declared, ownModules, SourceModule.own, eq_comm, or_assoc]

/-- The root is made of the documentation and a line for each module that it declares. -/
theorem exists_declarations (a : Artifacts) (out : RunOutput) :
    ∃ lines : List String,
      lines.Perm ((a.declared out.modules).map SourceModule.declaration) ∧
      a.libText out.modules = a.crateDocs ++ String.join (lines.map (· ++ "\n")) := by
  refine ⟨_, declarations_perm (fun m => ?_) ?_, rfl⟩
  · rw [mem_declared_iff]
    simp [SourceModule.own, or_assoc]
  · exact a.nodup_declared.map SourceModule.declaration_injective

variable (distinct : modules.Pairwise fun v w => v.home.path ≠ w.home.path)

include distinct

theorem eq_of_path_eq {v w : WrittenModule} (hv : v ∈ modules) (hw : w ∈ modules)
    (path : v.home.path = w.home.path) : v = w :=
  List.inj_on_of_nodup_map (f := (·.home.path)) (List.pairwise_map.mpr distinct) hv hw path

/-- Each name is declared once if the modules of fragments that bear the name of one of the
service's own are that module. -/
theorem nodup_declared_iff :
    ((a.declared modules).map SourceModule.name).Nodup ↔
      ∀ w ∈ modules, ∀ own ∈ SourceModule.own, w.home.name = own.name → w.home = own := by
  have apart : (SourceModule.own.map SourceModule.name).Nodup := by decide
  rw [List.nodup_map_iff_inj_on a.nodup_declared]
  constructor
  · intro inj w hw own hown same
    exact inj _ (mem_declared_iff.mpr (.inr ⟨w, hw, rfl⟩)) _
      (mem_declared_iff.mpr (.inl hown)) same
  · intro keeps m hm n hn same
    rcases mem_declared_iff.mp hm with hm | ⟨v, hv, rfl⟩ <;>
      rcases mem_declared_iff.mp hn with hn | ⟨w, hw, rfl⟩
    · exact List.inj_on_of_nodup_map apart hm hn same
    · exact (keeps w hw m hm same.symm).symm
    · exact keeps v hv n hn same
    · rw [eq_of_path_eq distinct hv hw (SourceModule.path_eq_iff.mpr same)]

/-! ### Where texts are found -/

variable {settings : Settings} {out : RunOutput}

omit distinct in
theorem find?_files_of_mem_own (hm : m ∈ SourceModule.own) :
    (a.files settings out).find? m.file = (a.moduleFiles out.modules).find? m.file := by
  have others : ∀ m ∈ SourceModule.own, m.file ≠ libFile := by decide
  rw [find?_files, if_neg m.file_ne_manifestFile, if_neg (others m hm)]

end Artifacts

/-! ### Where texts are found -/

/-- The text is found in the file of the module. -/
def IsKept (files : SortedMap String String) (m : SourceModule) (text : String) : Prop :=
  ∃ whole, files.find? m.file = some whole ∧ Text.Occurs text whole

namespace Artifacts

variable {a : Artifacts} {settings : Settings} {out : RunOutput} {m w : WrittenModule}
  (distinct : out.modules.Pairwise fun v w => v.home.path ≠ w.home.path)

include distinct

/-- The texts of the service's own modules are in their files. -/
theorem isKept_of_mem_ownModules (hm : m ∈ a.ownModules) :
    IsKept (a.files settings out) m.home m.contents := by
  have apart : SourceModule.protocol.file ≠ SourceModule.config.file := by decide
  have own : m.home ∈ SourceModule.own := List.mem_map_of_mem (f := (·.home)) hm
  rw [IsKept, find?_files_of_mem_own own, find?_moduleFiles (pairwise_file_ne distinct)]
  rcases List.mem_pair.mp hm with rfl | rfl <;>
    cases out.modules.find? _ <;>
    simp only [↓reduceIte, if_neg apart]
  all_goals refine ⟨_, rfl, ?_⟩
  · exact List.infix_rfl
  · rw [String.append_assoc]
    exact Text.occurs_append_right ..
  · exact List.infix_rfl
  · rw [String.append_assoc]
    exact Text.occurs_append_right ..

theorem find?_home_file (hw : w ∈ out.modules) :
    out.modules.find? (·.home.file == w.home.file) = some w := by
  cases found : out.modules.find? (·.home.file == w.home.file) with
  | none => exact absurd (beq_self_eq_true _) (List.find?_eq_none.mp found w hw)
  | some v =>
    have file := List.find?_some found
    rw [beq_iff_eq, SourceModule.file_eq_iff, ← SourceModule.path_eq_iff] at file
    rw [eq_of_path_eq distinct (List.mem_of_find?_eq_some found) hw file]

/-- The text of a module is in its file, unless that is the root. -/
theorem isKept_of_mem_modules (hw : w ∈ out.modules) (ne : w.home.name ≠ "lib") :
    IsKept (a.files settings out) w.home w.contents := by
  rw [IsKept, find?_files, if_neg w.home.file_ne_manifestFile,
    if_neg (mt SourceModule.file_eq_libFile_iff.mp ne),
    find?_moduleFiles (pairwise_file_ne distinct), find?_home_file distinct hw]
  refine ⟨_, rfl, ?_⟩
  split_ifs
  · exact Text.Occurs.append_left List.infix_rfl _
  · exact Text.Occurs.append_left List.infix_rfl _
  · exact List.infix_rfl

end Artifacts

/-! ### Generated crates -/

/-- Runs that write all that is asked for write the same fragments. -/
theorem Run.Completes.members_eq {φ : Type} [FragmentKind φ] {log : List (Requirement φ)}
    {fs gs : List φ} {out out' : RunOutput} (h : Completes log fs out)
    (h' : Completes log gs out') : fs = gs := by
  obtain ⟨n, hn, hstays⟩ := h.scheduled
  obtain ⟨n', hn', hstays'⟩ := h'.scheduled
  -- Where the schedule stays, it stays for ever.
  have stays {fs : List φ} {n : Nat} (hn : schedule log n = fs)
      (hs : schedule log (n + 1) = fs) (k : Nat) : schedule log (n + k) = fs := by
    induction k with
    | zero => exact hn
    | succ k ih =>
      rw [schedule, hn] at hs
      rw [← Nat.add_assoc, schedule, ih]
      exact hs
  rw [← stays hn hstays n', ← stays hn' hstays' n, Nat.add_comm]

/-- A run that starts with a commit gathers what the outputs ask for. -/
theorem Run.gathers_of_commit {φ : Type} [FragmentKind φ] {service : ShapeId}
    {outputs : List (Output φ)} {run : Run φ} (h : Run.empty.commit service outputs = .ok run) :
    run.Gathers (outputs.flatMap (·.requirements)) := by
  obtain ⟨r, hr, gathers, _⟩ := Run.gathers_empty.commit service outputs
  rw [h, Except.ok.injEq] at hr
  exact hr ▸ gathers

section Crate

variable {ctx : Context} {loader : ProtocolLoader} {withPlugin : Bool} {a : Artifacts}
  {members : List Fragment} {out : RunOutput} {files : SortedMap String String}

/-- How the files of a crate come about: modules are rendered, and a run writes the fragments
that they call for. -/
structure Assembled (ctx : Context) (loader : ProtocolLoader) (withPlugin : Bool)
    (a : Artifacts) (members : List Fragment) (out : RunOutput)
    (files : SortedMap String String) : Prop where
  rendered : renderService ctx loader withPlugin = .ok a
  finished : ∃ run, (Run.empty : Run Fragment).commit ctx.service a.outputs = .ok run ∧
    run.finish = .ok out
  completes : Run.Completes (a.outputs.flatMap (·.requirements)) members out
  files_eq : files = a.files ctx.settings out

theorem exists_assembled (h : generateCrate ctx loader withPlugin = .ok files) :
    ∃ a members out, Assembled ctx loader withPlugin a members out files := by
  obtain ⟨a, rendered, h⟩ := Except.bind_eq_ok_iff.mp h
  obtain ⟨run, committed, h⟩ := Except.bind_eq_ok_iff.mp h
  obtain ⟨out, finished, h⟩ := Except.bind_eq_ok_iff.mp h
  cases h
  have outcome := run.finish?_eq_some_finish
  rw [finished] at outcome
  obtain ⟨members, completes, _⟩ := (Run.gathers_of_commit committed).exists_register outcome
  exact ⟨a, members, out, rendered, ⟨run, committed, finished⟩, completes, rfl⟩

namespace Assembled

variable (h : Assembled ctx loader withPlugin a members out files)

include h

theorem exists_register : ∃ register : Registry Fragment, register.Keyed ∧
    register.toList.Perm members ∧ out.modules = register.written := by
  obtain ⟨run, committed, finished⟩ := h.finished
  have outcome := run.finish?_eq_some_finish
  rw [finished] at outcome
  obtain ⟨fs, completes, register, keyed, perm, modules⟩ :=
    (Run.gathers_of_commit committed).exists_register outcome
  rw [completes.members_eq h.completes] at perm
  exact ⟨register, keyed, perm, modules⟩

theorem distinct : out.modules.Pairwise fun v w => v.home.path ≠ w.home.path := by
  obtain ⟨register, keyed, _, modules⟩ := h.exists_register
  exact modules ▸ keyed.pairwise_written

/-- The modules that are written are those of the first fragments. -/
theorem exists_home_iff {m : SourceModule} : (∃ w ∈ out.modules, w.home = m) ↔
    ∃ f, Registry.IsFirst members f ∧ f.home = m := by
  obtain ⟨register, keyed, perm, modules⟩ := h.exists_register
  rw [modules, keyed.exists_home_iff]
  simp only [Registry.isFirst_congr perm]
  rfl

/-- Each name is declared once if the first fragments of the service's own modules are in
these as the service has them. -/
theorem nodup_declared_iff : ((a.declared out.modules).map SourceModule.name).Nodup ↔
    ∀ f, Registry.IsFirst members f → ∀ own ∈ SourceModule.own,
      f.home.name = own.name → f.home = own := by
  rw [Artifacts.nodup_declared_iff h.distinct]
  constructor
  · intro keeps f first
    obtain ⟨w, hw, home⟩ := h.exists_home_iff.mpr ⟨f, first, rfl⟩
    exact home ▸ keeps w hw
  · intro keeps w hw
    obtain ⟨f, first, home⟩ := h.exists_home_iff.mp ⟨w, hw, rfl⟩
    exact home ▸ keeps f first

/-- Every module that is declared has a file. -/
theorem exists_file {m : SourceModule} (hm : m ∈ a.declared out.modules) :
    ∃ text, files.find? m.file = some text := by
  rw [h.files_eq]
  by_cases lib : m.name = "lib"
  · rw [SourceModule.file_eq_libFile_iff.mpr lib]
    exact ⟨_, a.find?_lib⟩
  · rcases Artifacts.mem_declared_iff.mp hm with own | ⟨w, hw, rfl⟩
    · obtain ⟨v, hv, rfl⟩ := List.mem_map.mp (show m ∈ a.ownModules.map (·.home) from own)
      obtain ⟨text, found, _⟩ := Artifacts.isKept_of_mem_ownModules h.distinct hv
      exact ⟨text, found⟩
    · obtain ⟨text, found, _⟩ := Artifacts.isKept_of_mem_modules h.distinct hw lib
      exact ⟨text, found⟩

/-- The text of a fragment is in the file of its module, unless that is the root. -/
theorem isKept {f : Fragment} (hf : f ∈ members) (ne : f.home.name ≠ "lib") :
    IsKept files f.home (FragmentKind.written f).contents := by
  obtain ⟨register, keyed, perm, modules⟩ := h.exists_register
  have mem := perm.mem_iff.mpr hf
  obtain ⟨w, hw, path⟩ := keyed.exists_written mem
  have file : w.home.file = f.home.file :=
    SourceModule.file_eq_iff.mpr (SourceModule.path_eq_iff.mp path)
  have name : w.home.name = f.home.name := SourceModule.path_eq_iff.mp path
  have kept : IsKept (a.files ctx.settings out) w.home w.contents :=
    Artifacts.isKept_of_mem_modules h.distinct (modules ▸ hw) (name ▸ ne)
  obtain ⟨text, found, occurs⟩ := kept
  rw [← h.files_eq, file] at found
  -- The text of the fragment is joined into that of the module.
  have joined : Text.Occurs (FragmentKind.written f).contents w.contents := by
    rw [keyed.contents_eq hw]
    refine Text.occurs_intercalate (List.mem_map_of_mem ?_)
    exact List.mem_filter.mpr ⟨mem, decide_eq_true path.symm⟩
  exact ⟨text, found, joined.trans occurs⟩

/-- What a fragment of the root's name writes is in the crate only if the root says it. -/
theorem isKept_lib_iff {f : Fragment} (lib : f.home.name = "lib") :
    IsKept files f.home (FragmentKind.written f).contents ↔
      Text.Occurs (FragmentKind.written f).contents (a.libText out.modules) := by
  rw [IsKept, h.files_eq, SourceModule.file_eq_libFile_iff.mpr lib, a.find?_lib]
  simp

end Assembled

/-- What holds of the files of every crate: the root consists of the documentation and one line
for each module that it declares, each of these has a file, and texts are where they belong,
unless that is the root. -/
structure Placed (a : Artifacts) (members : List Fragment) (out : RunOutput)
    (files : SortedMap String String) : Prop where
  root : ∃ lines : List String,
    lines.Perm ((a.declared out.modules).map SourceModule.declaration) ∧
    files.find? Artifacts.libFile = some (a.crateDocs ++ String.join (lines.map (· ++ "\n")))
  /-- Besides the service's own modules, the root declares those of the first fragments. -/
  declared : ∀ m, m ∈ a.declared out.modules ↔
    m ∈ SourceModule.own ∨ ∃ f, Registry.IsFirst members f ∧ f.home = m
  present : ∀ m ∈ a.declared out.modules, ∃ text, files.find? m.file = some text
  own : ∀ m ∈ a.ownModules, IsKept files m.home m.contents
  outside : ∀ f ∈ members, f.home.name ≠ "lib" →
    IsKept files f.home (FragmentKind.written f).contents

/-- Moreover, the root declares each name once, and the text of every fragment is in the file of
its module. -/
structure Sound (a : Artifacts) (members : List Fragment) (out : RunOutput)
    (files : SortedMap String String) : Prop extends Placed a members out files where
  once : ((a.declared out.modules).map SourceModule.name).Nodup
  kept : ∀ f ∈ members, IsKept files f.home (FragmentKind.written f).contents

theorem Assembled.placed (h : Assembled ctx loader withPlugin a members out files) :
    Placed a members out files where
  root := by
    obtain ⟨lines, perm, text⟩ := a.exists_declarations out
    refine ⟨lines, perm, ?_⟩
    rw [h.files_eq, a.find?_lib, text]
  declared m := by rw [Artifacts.mem_declared_iff, h.exists_home_iff]
  present m hm := h.exists_file hm
  own m hm := h.files_eq ▸ Artifacts.isKept_of_mem_ownModules h.distinct hm
  outside f hf ne := h.isKept hf ne

/-- **When a crate is sound.**  Whatever loader a crate is generated with, texts are where they
belong, unless that is the root, and each module that is declared has a file. Names are
declared once exactly if the first fragments of the service's own modules are in these as the
service has them, and nothing is lost exactly if what fragments of the root's name write
happens to be in the root. -/
theorem generateCrate_sound_iff (h : generateCrate ctx loader withPlugin = .ok files) :
    ∃ a members out, Assembled ctx loader withPlugin a members out files ∧
      Placed a members out files ∧
      (Sound a members out files ↔
        (∀ f, Registry.IsFirst members f → ∀ own ∈ SourceModule.own,
          f.home.name = own.name → f.home = own) ∧
        ∀ f ∈ members, f.home.name = "lib" →
          Text.Occurs (FragmentKind.written f).contents (a.libText out.modules)) := by
  obtain ⟨a, members, out, assembled⟩ := exists_assembled h
  refine ⟨a, members, out, assembled, assembled.placed, ?_⟩
  constructor
  · intro sound
    refine ⟨assembled.nodup_declared_iff.mp sound.once, fun f hf lib => ?_⟩
    exact (assembled.isKept_lib_iff lib).mp (sound.kept f hf)
  · rintro ⟨keeps, told⟩
    refine ⟨assembled.placed, assembled.nodup_declared_iff.mpr keeps, fun f hf => ?_⟩
    by_cases lib : f.home.name = "lib"
    · exact (assembled.isKept_lib_iff lib).mpr (told f hf lib)
    · exact assembled.isKept hf lib

end Crate

/-! ### A crate that declares a module twice -/

/-- A fragment that would keep the module of the configuration within the crate. -/
def now : Fragment := .named "now" ⟨"config", .withinCrate⟩ [] [.code "pub fn now() {}"]

/-- A family with a contributor that needs the fragment. -/
def nowFamily : ProtocolFamily := .restJson [.needing "now" now]

/-- A loader that knows no other family. -/
def nowLoader : ProtocolLoader := ⟨SortedMap.ofList [(protocolId "restJson1", nowFamily)]⟩

theorem select_now :
    nowLoader.select clockModel clock = .ok (protocolId "restJson1", nowFamily) :=
  rfl

/-- The protocol module of the family asks for the fragment, and else for files, which are in
other modules. -/
theorem exists_asks_now (ctx : Context) :
    ∃ fs, Writer.Asks (nowFamily.generator ctx).script fs ∧ now ∈ fs ∧
      (∀ f ∈ fs, FragmentKind.IsShallow f) ∧ ∀ f ∈ fs, f.home.path = now.home.path → f = now := by
  obtain ⟨fs, asks, mem, shallow, known⟩ := ProtocolFamily.exists_asks_needing "now"
    (FragmentKind.isShallow_of_asks (f := now) (Writer.asks_code _) rfl) ctx
  refine ⟨fs, asks, mem, shallow, fun f hf path => (known f hf).resolve_right ?_⟩
  rintro ⟨r, rfl⟩
  have apart : ∀ r : Resource, r.home.path ≠ now.home.path := by
    intro r
    cases r <;> decide
  exact apart r path

theorem exists_crate_now :
    ∃ files, generateCrate (clockContext []) nowLoader false = .ok files := by
  obtain ⟨fs, asks, _, shallow, _⟩ := exists_asks_now (clockContext [])
  obtain ⟨_, _, _, _, _, _, generated⟩ :=
    exists_generateCrate_of_asks select_now asks shallow (token_clock []) false
  exact ⟨_, generated⟩

/-- The fragment is written, and alone in its module. -/
theorem isFirst_now {a : Artifacts} {members : List Fragment} {out : RunOutput}
    {files : SortedMap String String}
    (h : Assembled (clockContext []) nowLoader false a members out files) :
    Registry.IsFirst members now := by
  obtain ⟨fs, asks, mem, shallow, alone⟩ := exists_asks_now (clockContext [])
  obtain ⟨a', rendered, _, _, config, module⟩ :=
    Context.exists_artifacts select_now asks (token_clock []) false
  rw [h.rendered, Except.ok.injEq] at rendered
  subst rendered
  have fragments : Requirement.fragments (a.outputs.flatMap (·.requirements)) = fs := by
    rw [Artifacts.outputs, Requirement.fragments_flatMap, ← module]
    simp [config, configFragments_clock]
  constructor
  · -- What is asked for first under the key is in the same module, so it is the fragment.
    have needed : .fragment now ∈ a.outputs.flatMap (·.requirements) := by
      rw [← Requirement.mem_fragments_iff, fragments]
      exact mem
    obtain ⟨f, first⟩ := Requirement.exists_first needed
    have asked := Requirement.mem_fragments_iff.mpr (Requirement.mem_of_first first)
    have path := congrArg FragmentKey.modulePath (Requirement.key_of_first first)
    rw [alone f (fragments ▸ asked) path] at first
    exact h.completes.mem_of_first first
  · intro f hf path
    obtain ⟨n, scheduled, _⟩ := h.completes.scheduled
    have chronicle := Run.chronicle_schedule (a.outputs.flatMap (·.requirements)) n
    rw [scheduled] at chronicle
    have asked := chronicle.mem_fragments (fragments ▸ shallow) f hf
    rw [alone f (fragments ▸ asked) path, Std.ReflOrd.compare_self]
    decide

/-- The crate has the fragment in the file of the configuration, but its root declares that
module twice. -/
theorem generateCrate_sound_iff_now :
    ∃ files, generateCrate (clockContext []) nowLoader false = .ok files ∧
      ∃ a members out, Assembled (clockContext []) nowLoader false a members out files ∧
        Placed a members out files ∧ now ∈ members ∧ ¬ Sound a members out files := by
  obtain ⟨files, generated⟩ := exists_crate_now
  obtain ⟨a, members, out, assembled, placed, sound⟩ := generateCrate_sound_iff generated
  have isFirst := isFirst_now assembled
  refine ⟨files, generated, a, members, out, assembled, placed, isFirst.mem, fun h => ?_⟩
  have same := (sound.mp h).1 now isFirst .config (by decide) rfl
  exact absurd same (by decide)

/-- So there is a loader whose crates are not sound. -/
theorem not_forall_generateCrate_sound :
    ¬ ∀ (ctx : Context) (loader : ProtocolLoader) (withPlugin : Bool)
        (files : SortedMap String String), generateCrate ctx loader withPlugin = .ok files →
      ∃ a members out, Assembled ctx loader withPlugin a members out files ∧
        Sound a members out files := by
  intro claim
  obtain ⟨files, generated⟩ := exists_crate_now
  obtain ⟨a, members, out, assembled, sound⟩ := claim _ _ _ files generated
  have same := assembled.nodup_declared_iff.mp sound.once now (isFirst_now assembled) .config
    (by decide) rfl
  exact absurd same (by decide)

end Cratewright
