/-
Insertions into a configuration.

What customizations say reaches the text of a configuration in blocks and at the outermost
level, where it is written as it is, and in templates, where it fills holes. These stand alone
on their lines in every template of a configuration. The built-in customizations are blind: what
they say does not depend on what has been written. So whatever a further customization has to
say beside blind ones, and wherever it stands among them, it only inserts:

* `BuiltIn.isBlind_customization` — built-in customizations do not look at the writer;
* `ConfigGenerator.keeps_script`, `ConfigGenerator.keeps_pluginScript` — generators with some of
  the customizations of others;
* `ConfigGenerator.inserts_customization` — generators with one customization more;
* `ConfigGenerator.not_forall_inserts` — a customization that looks for what another one says.
-/
import Cratewright.Generation
import Cratewright.Proofs.Config.Code
import Cratewright.Proofs.Source.Composition

namespace Cratewright

open Writer

/-! ### Blind customizations -/

theorem isBlind_documentation (docs : Option String) : (documentation docs).IsBlind := by
  cases docs <;> exact trivial

theorem StoredParam.isBlind_customization (p : StoredParam) : p.customization.IsBlind := by
  obtain ⟨param, storage⟩ := p
  intro s
  cases s with
  | structFields =>
    cases storage with
    | ownField => exact ⟨isBlind_documentation _, trivial, trivial⟩
    | bag _ => exact trivial
  | functions =>
    cases storage with
    | ownField => exact trivial
    | bag _ => exact ⟨isBlind_documentation _, trivial, trivial⟩
  | builderFields | build =>
    cases storage with
    | ownField => exact ⟨trivial, trivial⟩
    | bag _ => exact trivial
  | builderFunctions =>
    exact ⟨isBlind_documentation _, trivial, trivial, isBlind_documentation _, trivial, trivial⟩
  | _ => exact trivial

theorem TokenProvider.isBlind_customization (t : TokenProvider) : t.customization.IsBlind := by
  obtain ⟨mode, provider, defaultProvider⟩ := t
  intro s
  cases s with
  | structFields | builderFields =>
    cases mode with
    | directFields => exact ⟨trivial, trivial⟩
    | layeredBag => exact trivial
  | functions | builderFunctions | build => cases mode <;> exact ⟨trivial, trivial⟩
  | testDefaults _ => exact ⟨trivial, trivial⟩
  | _ => exact trivial

theorem Interceptors.isBlind_customization (i : Interceptors) : i.customization.IsBlind := by
  obtain ⟨mode, runtime⟩ := i
  intro s
  cases s with
  | structFields | functions | builderFields | builderFunctions => exact ⟨trivial, trivial⟩
  | build =>
    cases mode with
    | directFields => exact ⟨trivial, trivial⟩
    | layeredBag => exact trivial
  | buildFields =>
    cases mode with
    | directFields => exact trivial
    | layeredBag => exact ⟨trivial, trivial⟩
  | pluginInterceptors _ => exact ⟨trivial, trivial⟩
  | _ => exact trivial

/-- Built-in customizations do not look at the writer. -/
theorem BuiltIn.isBlind_customization {mode : StorageMode} (b : BuiltIn mode) :
    b.customization.IsBlind := by
  cases b with
  | parameter _ p _ => exact p.isBlind_customization
  | tokenProvider _ t _ => exact t.isBlind_customization
  | interceptors runtime => exact (⟨mode, runtime⟩ : Interceptors).isBlind_customization

namespace ConfigGenerator

/-! ### Generators with some of the customizations of others -/

variable {mode : StorageMode} {runtime : RuntimeConfig} {cs all : List ConfigCustomization}

theorem allBlind_bagField (g : ConfigGenerator) (type : String) :
    Command.AllBlind (g.bagField type) := by
  obtain ⟨_, mode, _⟩ := g
  cases mode with
  | directFields => exact trivial
  | layeredBag => exact ⟨trivial, trivial⟩

theorem isBlind_build (g : ConfigGenerator) : g.build.IsBlind := by
  obtain ⟨_, mode, _⟩ := g
  cases mode <;> exact trivial

/-- A hole for what the customizations say at a section. -/
def slot (h : cs.Sublist all) (blind : ∀ c ∈ cs, c.IsBlind) (name : String) (s : ConfigSection) :
    Slot Fragment where
  name
  snippet := Customization.compose cs s
  extended := Customization.compose all s
  keeps := Customization.keeps_compose h blind s

variable (h : cs.Sublist all) (blind : ∀ c ∈ cs, c.IsBlind)

include h blind

theorem keeps_splice (s : ConfigSection) :
    Keeps [.splice (Customization.compose cs s)] [.splice (Customization.compose all s)] :=
  (Customization.keeps_compose h blind s).splice

theorem keeps_testDefaults :
    Keeps [testDefaults ⟨cs, mode, runtime⟩] [testDefaults ⟨all, mode, runtime⟩] :=
  .template [] [] [slot h blind "defaults" (.testDefaults "self")] rfl
    (Template.isolatesIn_ofLines (by repeat constructor) (by decide))

theorem keeps_build : Keeps [build ⟨cs, mode, runtime⟩] [build ⟨all, mode, runtime⟩] := by
  cases mode with
  | directFields =>
    exact .template [] [] [slot h blind "build" .build] rfl
      (Template.isolatesIn_ofLines (by repeat constructor) (by decide))
  | layeredBag =>
    exact .template [] [] [slot h blind "build" .build, slot h blind "extras" .buildFields] rfl
      (Template.isolatesIn_ofLines (by repeat constructor) (by decide))

/-- A struct keeps its fields, behind that for the layered bag. -/
theorem keeps_struct (header type : String) (s : ConfigSection) :
    Keeps [.block header (bagField ⟨cs, mode, runtime⟩ type ++
        [.splice (Customization.compose cs s)])]
      [.block header (bagField ⟨all, mode, runtime⟩ type ++
        [.splice (Customization.compose all s)])] :=
  ((Keeps.refl (allBlind_bagField ⟨cs, mode, runtime⟩ type)).append (keeps_splice h blind s)).block header

theorem keeps_script : Keeps (script ⟨cs, mode, runtime⟩) (script ⟨all, mode, runtime⟩) := by
  have functions (code : String) :
      Keeps [.code code, .splice (Customization.compose cs .functions)]
        [.code code, .splice (Customization.compose all .functions)] :=
    .after trivial (keeps_splice h blind _)
  have builderFunctions (code docs : String) :
      Keeps
        [.code code, .splice (Customization.compose cs .builderFunctions),
          testDefaults ⟨cs, mode, runtime⟩, .docs docs, build ⟨cs, mode, runtime⟩]
        [.code code, .splice (Customization.compose all .builderFunctions),
          testDefaults ⟨all, mode, runtime⟩, .docs docs, build ⟨all, mode, runtime⟩] :=
    .after trivial <| (keeps_splice h blind _).cons <| (keeps_testDefaults h blind).cons <|
      .after trivial (keeps_build h blind)
  exact .after trivial <| (keeps_splice h blind .structDocs).cons <| .after trivial <|
    (keeps_struct h blind _ _ .structFields).cons <| .after trivial <|
    ((functions _).block _).cons <| .after trivial <| .after trivial <|
    (keeps_struct h blind _ _ .builderFields).cons <| .after trivial <|
    ((builderFunctions _ _).block _).cons (keeps_splice h blind .extras)

theorem keeps_pluginScript :
    Keeps (pluginScript ⟨cs, mode, runtime⟩) (pluginScript ⟨all, mode, runtime⟩) := by
  let g : ConfigGenerator := ⟨cs, mode, runtime⟩
  exact .template ["RuntimePlugin", "FrozenLayer", "Layer", "InterceptorRegistrar"]
    [("RuntimePlugin", .item (g.clientItem "runtime_plugin::RuntimePlugin")),
      ("FrozenLayer", .item (g.bagItem "FrozenLayer")),
      ("Layer", .item (g.bagItem "Layer")),
      ("InterceptorRegistrar", .item (g.clientItem "interceptors::InterceptorRegistrar"))]
    [slot h blind "config" (.pluginConfig "cfg"),
      slot h blind "interceptors" (.pluginInterceptors "_interceptors")]
    rfl (Template.isolatesIn_ofLines (by repeat constructor) (by decide))

theorem keeps_moduleScript (withPlugin : Bool) :
    Keeps (moduleScript ⟨cs, mode, runtime⟩ withPlugin)
      (moduleScript ⟨all, mode, runtime⟩ withPlugin) := by
  cases withPlugin with
  | false => exact keeps_script h blind
  | true => exact (keeps_script h blind).append (.after trivial (keeps_pluginScript h blind))

omit h blind

/-- **A customization only inserts.**  Wherever it stands among others that are built in or blind,
and whatever it says and looks at, nothing that is written or needed without it is missing with
it, and the order stays the same. This holds of the configuration, of its plugin, and of the
module that is made of them. -/
theorem inserts_customization (mode : StorageMode) (runtime : RuntimeConfig)
    (before after : List ConfigCustomization) (c : ConfigCustomization)
    (others : ∀ d ∈ before ++ after, (∃ b : BuiltIn mode, b.customization = d) ∨ d.IsBlind) :
    Inserts (script ⟨before ++ after, mode, runtime⟩)
      (script ⟨before ++ c :: after, mode, runtime⟩) ∧
    Inserts (pluginScript ⟨before ++ after, mode, runtime⟩)
      (pluginScript ⟨before ++ c :: after, mode, runtime⟩) ∧
    ∀ withPlugin, Inserts (moduleScript ⟨before ++ after, mode, runtime⟩ withPlugin)
      (moduleScript ⟨before ++ c :: after, mode, runtime⟩ withPlugin) := by
  have more : (before ++ after).Sublist (before ++ c :: after) :=
    (List.sublist_cons_self c after).append_left before
  have blind : ∀ d ∈ before ++ after, d.IsBlind := by
    intro d hd
    rcases others d hd with ⟨b, rfl⟩ | blind
    · exact b.isBlind_customization
    · exact blind
  exact ⟨(keeps_script more blind).inserts, (keeps_pluginScript more blind).inserts,
    fun withPlugin => (keeps_moduleScript more blind withPlugin).inserts⟩

/-- Leaves a marker behind the builder. -/
def marking : ConfigCustomization where
  name := "marking"
  contribute
    | .extras => some [.code "// marker"]
    | _ => none

/-- The text ends in the line of the marker. -/
def EndsMarked (text : String) : Prop := "// marker\n".toList <:+ text.toList

instance (text : String) : Decidable (EndsMarked text) :=
  inferInstanceAs (Decidable (_ <:+ _))

/-- Writes a function behind the builder, but not right behind the marker. -/
def avoiding : ConfigCustomization where
  name := "avoiding"
  contribute
    | .extras => some [.look fun v =>
        if EndsMarked v.contents then [] else [.code "pub fn x() \x7b\x7d"]]
    | _ => none

theorem inserts_avoiding :
    let interceptors : BuiltIn .layeredBag := .interceptors {}
    (∀ d ∈ [marking] ++ [interceptors.customization],
      (∃ b : BuiltIn .layeredBag, b.customization = d) ∨ d.IsBlind) ∧
    Inserts (script ⟨[marking, interceptors.customization], .layeredBag, {}⟩)
      (script ⟨[marking, avoiding, interceptors.customization], .layeredBag, {}⟩) := by
  intro interceptors
  have blind : marking.IsBlind := by
    intro s
    cases s with
    | extras => exact ⟨trivial, trivial⟩
    | _ => exact trivial
  have others : ∀ d ∈ [marking] ++ [interceptors.customization],
      (∃ b : BuiltIn .layeredBag, b.customization = d) ∨ d.IsBlind :=
    List.forall_mem_cons.mpr ⟨.inr blind, List.forall_mem_singleton.mpr (.inl ⟨interceptors, rfl⟩)⟩
  exact ⟨others,
    (inserts_customization .layeredBag {} [marking] [interceptors.customization] avoiding others).1⟩

theorem run_marking (u : Writer Fragment) :
    run u (.splice (marking.contribute .extras)) = u.line "// marker".toList := by
  have text : Text.dedent "// marker".toList = ["// marker".toList] := by decide
  show u.writeLines (Text.dedent "// marker".toList) = _
  rw [text]
  rfl

theorem run_avoiding (u : Writer Fragment) : run u (.splice (avoiding.contribute .extras)) =
    if EndsMarked u.contents then u else u.line "pub fn x() \x7b\x7d".toList := by
  have text : Text.dedent "pub fn x() \x7b\x7d".toList = ["pub fn x() \x7b\x7d".toList] := by
    decide
  show runAll u (if EndsMarked u.contents then [] else [.code "pub fn x() \x7b\x7d"]) = _
  split
  · rfl
  · rw [runAll, runAll, run, text]
    rfl

section Line

variable {u : Writer Fragment} (top : u.depth = 0) {text : List Char}
  (line : indented 0 text = text)

include top line

theorem toList_contents_line :
    (u.line text).contents.toList = u.contents.toList ++ (text ++ ['\n']) := by
  have lines : (u.line text).lines = u.lines ++ [indented u.depth text] := rfl
  rw [toList_contents, toList_contents, lines, top, line]
  exact List.flatMap_append.trans (congrArg _ (List.flatMap_singleton ..))

theorem pieces_contents_line (whole : Text.pieces text = [text]) :
    Text.pieces (u.line text).contents.toList
      = u.lines.flatMap Text.pieces ++ [text, []] := by
  have lines : (u.line text).lines = u.lines ++ [indented u.depth text] := rfl
  rw [toList_contents, Text.pieces_unlines, lines, top, line, List.flatMap_append,
    List.flatMap_singleton, whole, List.append_assoc]
  rfl

end Line

/-- The writer at the end of the builder, if the customizations speak only behind it. -/
theorem exists_builder : ∃ u : Writer Fragment, u.depth = 0 ∧
    ∀ cs ∈ [[avoiding], [marking, avoiding]],
      runAll {} (script ⟨cs, .directFields, {}⟩)
        = run (u.line ['\x7d']) (.splice (Customization.compose cs .extras)) := by
  obtain ⟨front, header, body, parts⟩ : ∃ front header body,
      ∀ cs ∈ [[avoiding], [marking, avoiding]], script ⟨cs, .directFields, {}⟩ =
        front ++ [.block header body] ++ [.splice (Customization.compose cs .extras)] :=
    ⟨(script ⟨[avoiding], .directFields, {}⟩).take 10, _, _,
      List.forall_mem_cons.mpr ⟨rfl, List.forall_mem_singleton.mpr rfl⟩⟩
  obtain ⟨u, block⟩ : ∃ u : Writer Fragment,
      runAll {} (front ++ [.block header body]) = u.line ['\x7d'] := by
    rw [runAll_append, runAll, runAll, run_block]
    exact ⟨_, rfl⟩
  refine ⟨u, ?_, fun cs hcs => ?_⟩
  · have top : (runAll {} (front ++ [.block header body])).depth = 0 := depth_runAll ..
    rw [block] at top
    exact top
  · rw [parts cs hcs, runAll_append, block]
    rfl

/-- With the marker before it, the function is missing. -/
theorem not_forall_inserts :
    ¬ ∀ (mode : StorageMode) (runtime : RuntimeConfig) (before after : List ConfigCustomization)
        (c : ConfigCustomization), Inserts (script ⟨before ++ after, mode, runtime⟩)
          (script ⟨before ++ c :: after, mode, runtime⟩) := by
  intro all
  obtain ⟨u, top, whole⟩ := exists_builder
  let v : Writer Fragment := u.line ['\x7d']
  have atTop : v.depth = 0 := top
  have closed : ¬ EndsMarked v.contents := by
    rw [EndsMarked, toList_contents_line top (by decide)]
    rintro ⟨front, same⟩
    have last := congrArg (fun l => l.reverse.take 2) same
    simp at last
  have marked : EndsMarked (v.line "// marker".toList).contents := by
    rw [EndsMarked, toList_contents_line atTop (by decide)]
    exact ⟨_, rfl⟩
  have without : runAll {} (script ⟨[] ++ [avoiding], .directFields, {}⟩)
      = v.line "pub fn x() \x7b\x7d".toList := by
    rw [List.nil_append, whole _ (List.mem_cons_self ..), Customization.run_splice_compose,
      List.foldl_cons, run_avoiding, if_neg closed]
    rfl
  have behind : runAll {} (script ⟨[] ++ [marking, avoiding], .directFields, {}⟩)
      = v.line "// marker".toList := by
    rw [List.nil_append, whole _ (List.mem_cons_of_mem _ (List.mem_cons_self ..)),
      Customization.run_splice_compose, List.foldl_cons, List.foldl_cons, run_marking,
      run_avoiding, if_pos marked]
    rfl
  -- Both texts have one line behind the builder, so that the one would be the other.
  have kept := (all .directFields {} [] [avoiding] marking).contents {}
  rw [without, behind, pieces_contents_line atTop (by decide) (by decide),
    pieces_contents_line atTop (by decide) (by decide)] at kept
  have same := kept.eq_of_length (by simp)
  simp at same

end ConfigGenerator

end Cratewright
