/-
The names that a crate gives to its protocol.

The module of the protocol begins with a constant, and the root of the crate with a line of
documentation. Both are written before all that depends on the family of the protocol, and both
name the protocol that was chosen:

* `Writer.templateLine_text` — a line of a template with a text in its hole;
* `ProtocolGenerator.exists_contents_eq` — how the module of a protocol begins;
* `ProtocolLoader.select_names` — what is chosen, and what it is called.
-/
import Cratewright.Proofs.Generation.Layout
import Cratewright.Proofs.Protocol.Selection
import Cratewright.Proofs.Source.Embedding

namespace Cratewright

/-! ### Lines of templates -/

namespace Writer

variable {φ : Type}

theorem expand_chars_append (fillings : List (String × Filling φ)) (leading : List Char)
    (w : Writer φ) (s : List Char) (segments : List Template.Segment) :
    expand fillings leading w (s.map .char ++ segments)
      = ((expand fillings leading w segments).1, s ++ (expand fillings leading w segments).2) := by
  induction s with
  | nil => rfl
  | cons c s ih => rw [List.map_cons, List.cons_append, expand, ih]; rfl

/-- A line with a hole that is bound to a text is written with the text in place of the hole. -/
theorem templateLine_text {fillings : List (String × Filling φ)} (w : Writer φ) {name : String}
    {l before t after : List Char}
    (parts : Template.parse l = before.map .char ++ .hole name :: after.map .char)
    (bound : fillings.lookup name = some { text := t }) (feed : '\n' ∉ before ++ (t ++ after))
    (full : Text.isBlankText (before ++ (t ++ after)) = false) :
    templateLine fillings w l = w.line (before ++ (t ++ after)) := by
  have inner : '\n' ∉ t := by
    rw [List.mem_append, List.mem_append, not_or, not_or] at feed
    exact feed.2.1
  have under (leading : List Char) : Filling.under { text := t : Filling φ } leading = t := by
    rw [Filling.under, if_pos rfl, Text.pieces_eq_splitAt, Text.splitAt_of_not_mem inner]
    exact List.append_nil t
  have filled (leading : List Char) : w.fill fillings leading name = (w, t) := by
    rw [fill, bound]
    dsimp only
    rw [under, require, List.append_nil]
  have written (leading : List Char) : expand fillings leading w (Template.parse l)
      = (w, before ++ (t ++ after)) := by
    rw [parts, expand_chars_append, expand, filled]
    simp only [expand_chars]
  rw [templateLine, written]
  dsimp only
  rw [full, Bool.and_false, if_neg Bool.false_ne_true, Text.pieces_eq_splitAt,
    Text.splitAt_of_not_mem feed]
  rfl

/-- What a template writes is written after what was there. -/
theorem exists_lines_template (w : Writer φ) (fillings : List (String × Filling φ))
    (ls : List (List Char)) : ∃ more, (w.template fillings ls).lines = w.lines ++ more := by
  have continued := extend_template w {} fillings ls
  rw [extend_fresh] at continued
  exact ⟨_, congrArg lines continued⟩

end Writer

/-! ### The module of the protocol -/

/-- The documentation of the protocol's constant. -/
def constantDocs : String := "/// Protocol trait the service is generated for."

/-- What stands before the protocol in its constant. -/
def constantOpening : String := "pub(crate) const PROTOCOL: &str = \""

/-- What stands after it. -/
def constantClosing : String := "\";"

/-- The constant of a protocol, with its documentation. -/
def protocolConstant (id : ShapeId) : String :=
  constantDocs ++ "\n" ++ constantOpening ++ id.text ++ constantClosing ++ "\n"

namespace ProtocolGenerator

open Writer

/-- The line of the constant, as it is written. -/
def constantLine (id : ShapeId) : List Char :=
  constantOpening.toList ++ (id.text.toList ++ constantClosing.toList)

theorem trimEnd_constantLine (id : ShapeId) :
    Text.trimEnd (constantLine id) = constantLine id := by
  refine Text.dropEndWhile_of_getLast? fun c hc => ?_
  have some : constantClosing.toList ≠ [] := by decide
  rw [constantLine, ← List.append_assoc, List.getLast?_append_of_ne_nil _ some] at hc
  cases hc
  rfl

/-- The lines of the template that names the protocol. -/
theorem exists_script_eq (g : ProtocolGenerator) :
    ∃ text bindings hole more after,
      g.script = .template text (("protocol", .text g.protocol.id.text) :: bindings) :: after ∧
      Text.dedent text.toList = constantDocs.toList :: hole :: more ∧
      Template.parse hole = constantOpening.toList.map .char ++
        .hole "protocol" :: constantClosing.toList.map .char :=
  ⟨_, _, (constantOpening ++ "#\x7bprotocol\x7d" ++ constantClosing).toList,
    ["".toList, "/// Content type of serialized bodies.".toList,
      "pub(crate) const CONTENT_TYPE: &str = #\x7bcontent_type\x7d;".toList], _, rfl,
    by decide +kernel, by decide +kernel⟩

/-- The first two lines of the module, if the spelling of the protocol is on one line. -/
theorem exists_lines (g : ProtocolGenerator) (feed : '\n' ∉ g.protocol.id.text.toList) :
    ∃ ls, (runAll {} g.script).lines
      = constantDocs.toList :: constantLine g.protocol.id :: ls := by
  obtain ⟨text, bindings, hole, more, after, script, lines, parts⟩ := g.exists_script_eq
  let fs : List (String × Filling Fragment) :=
    fillings (("protocol", .text g.protocol.id.text) :: bindings)
  have docs : templateLine fs {} constantDocs.toList
      = ({} : Writer Fragment).line constantDocs.toList :=
    templateLine_literal fs {} (s := []) (by decide) (by decide +kernel)
  have constant (w : Writer Fragment) :
      templateLine fs w hole = w.line (constantLine g.protocol.id) := by
    refine templateLine_text w parts rfl ?_ ?_
    · rw [List.mem_append, List.mem_append, not_or, not_or]
      exact ⟨by decide, feed, by decide⟩
    · rw [Text.isBlankText_append, Bool.and_eq_false_iff]
      exact .inl (by decide)
  obtain ⟨rest, written⟩ := exists_lines_template
    ((({} : Writer Fragment).line constantDocs.toList).line (constantLine g.protocol.id)) fs more
  obtain ⟨others, all⟩ := exists_lines_runAll
    (run {} (.template text (("protocol", .text g.protocol.id.text) :: bindings))) after
  refine ⟨rest ++ others, ?_⟩
  have opening : (run {} (.template text (("protocol", .text g.protocol.id.text) :: bindings))).lines
      = constantDocs.toList :: constantLine g.protocol.id :: rest := by
    rw [run, lines]
    show (((templateLine fs (templateLine fs {} constantDocs.toList) hole).template fs more).lines)
      = _
    rw [docs, constant, written]
    show [indented 0 constantDocs.toList, indented 0 (constantLine g.protocol.id)] ++ rest = _
    rw [indented_zero, indented_zero, trimEnd_constantLine]
    rfl
  rw [script, runAll, all, opening]
  rfl

/-- The module begins with the constant. -/
theorem exists_contents_eq {g : ProtocolGenerator} (feed : '\n' ∉ g.protocol.id.text.toList)
    {out : Output Fragment} (h : render g.script = .ok out) :
    ∃ rest, out.contents = protocolConstant g.protocol.id ++ rest := by
  obtain ⟨ls, lines⟩ := g.exists_lines feed
  have contents : out.contents = (runAll {} g.script).contents := by
    rw [render, finish] at h
    split at h
    · cases h
    · cases h
      rfl
  refine ⟨String.ofList (Text.unlines ls), ?_⟩
  rw [contents, ← String.toList_inj, toList_contents, lines, protocolConstant]
  simp [Text.unlines, constantLine]

end ProtocolGenerator

/-! ### The crate -/

section Crate

variable {ctx : Context} {target : Target} {id : ShapeId} {family : ProtocolFamily}

theorem ProtocolFamily.IsStandard.feed_not_mem (h : family.IsStandard target) :
    '\n' ∉ family.protocol.id.text.toList := by
  have json : ∀ id ∈ jsonProtocols, '\n' ∉ id.text.toList := by decide +kernel
  rcases h.errorFormat with ⟨mem, -⟩ | ⟨xml, -⟩
  · exact json _ mem
  · rw [xml]
    decide +kernel

theorem ProtocolLoader.exists_protocolModule
    (chosen : (forTarget target).select ctx.model ctx.service = .ok (id, family)) :
    ∃ g out, family.build ctx = .ok g ∧ render g.script = .ok out ∧
      ∃ rest, out.contents = protocolConstant id ++ rest := by
  obtain ⟨rfl, standard⟩ := isStandard_of_select chosen
  obtain ⟨out, rendered, -⟩ := (ProtocolFamily.asks_generator standard ctx).render
  have same : (family.generator ctx).protocol.id = family.protocol.id := rfl
  refine ⟨family.generator ctx, out, family.build_eq ctx, rendered, ?_⟩
  rw [← same]
  exact ProtocolGenerator.exists_contents_eq (same ▸ standard.feed_not_mem) rendered

/-- The documentation of a crate up to the line that names its protocol. -/
def protocolDocs (service id : ShapeId) : String :=
  "//! Generated code for `" ++ service.text ++ "`.\n//!\n//! Speaks the `" ++ id.text ++
    "` protocol.\n"

theorem Artifacts.crateDocs_eq (a : Artifacts) :
    a.crateDocs = protocolDocs a.service a.protocol ++ "\n" := by
  have feeds : "` protocol.\n\n" = "` protocol.\n" ++ "\n" := by decide
  exact (congrArg (_ ++ ·) feeds).trans (String.append_assoc ..).symm

/-- The text of the protocol module is that of the chosen family. -/
theorem protocolModule_of_renderService {loader : ProtocolLoader} {withPlugin : Bool}
    {a : Artifacts} (chosen : loader.select ctx.model ctx.service = .ok (id, family))
    (h : renderService ctx loader withPlugin = .ok a) :
    ∃ g, family.build ctx = .ok g ∧ render g.script = .ok a.protocolModule := by
  obtain ⟨⟨_, _⟩, same, h⟩ := Except.bind_eq_ok_iff.mp h
  rw [chosen] at same
  cases same
  obtain ⟨g, built, h⟩ := Except.bind_eq_ok_iff.mp h
  obtain ⟨out, rendered, h⟩ := Except.bind_eq_ok_iff.mp h
  obtain ⟨_, -, h⟩ := Except.bind_eq_ok_iff.mp h
  obtain ⟨_, -, h⟩ := Except.bind_eq_ok_iff.mp h
  obtain ⟨_, -, h⟩ := Except.bind_eq_ok_iff.mp h
  cases h
  exact ⟨g, built, rendered⟩

open Artifacts in
/-- The files in which a crate names its protocol. -/
theorem ProtocolLoader.exists_named_files {withPlugin : Bool} {files : SortedMap String String}
    (chosen : (forTarget target).select ctx.model ctx.service = .ok (id, family))
    (h : generateCrate ctx (.forTarget target) withPlugin = .ok files) :
    (∃ rest, files.find? SourceModule.protocol.file = some (protocolConstant id ++ rest)) ∧
      ∃ rest, files.find? libFile = some (protocolDocs ctx.service id ++ rest) := by
  obtain ⟨_, _, needsToken, chosen', token, -⟩ := exists_of_generateCrate h
  rw [chosen] at chosen'
  cases chosen'
  obtain ⟨a, out, rendered, service, rfl, ⟨log, -, modules⟩, generated⟩ :=
    exists_generateCrate chosen token withPlugin
  rw [generated] at h
  cases h
  obtain ⟨g, built, module⟩ := protocolModule_of_renderService chosen rendered
  obtain ⟨g', out', built', rendered', rest, contents⟩ := exists_protocolModule chosen
  cases built.symm.trans built'
  cases module.symm.trans rendered'
  constructor
  · have manifest : SourceModule.protocol.file ≠ manifestFile := by decide
    have lib : SourceModule.protocol.file ≠ libFile := by decide
    have config : SourceModule.protocol.file ≠ SourceModule.config.file := by decide
    rw [find?_files, if_neg manifest, if_neg lib, modules,
      find?_moduleFiles (pairwise_file_ne (Requirement.keyed_registered log).pairwise_written)]
    -- A module of the same file would be put after the text, not before it.
    split
    · exact ⟨rest, by rw [if_neg config, if_pos rfl, contents]⟩
    · next w _ =>
      refine ⟨rest ++ "\n" ++ w.contents, ?_⟩
      rw [if_neg config, if_pos rfl, contents, String.append_assoc, String.append_assoc,
        String.append_assoc]
  · refine ⟨"\n" ++ String.join ((a.declarations out.modules).toList.map (· ++ "\n")), ?_⟩
    rw [find?_lib, libText, crateDocs_eq, service, String.append_assoc]

/-- The protocol of a service, for every model and every loader: it is the least of those that are
declared and supported, an unknown service is reported, and a service without a supported protocol
is reported with all that it declares and all that are supported. With the usual families the
module of the protocol and the root of the crate name this protocol. -/
theorem ProtocolLoader.select_names :
    (∀ (l : ProtocolLoader) (m : Model) (service : ShapeId)
      (outcome : Except Error (ShapeId × ProtocolFamily)),
      l.select m service = outcome ↔ l.Selects m service outcome) ∧
    ∀ (ctx : Context) (target : Target) (id : ShapeId) (family : ProtocolFamily),
      (forTarget target).select ctx.model ctx.service = .ok (id, family) →
      (∃ g out, family.build ctx = .ok g ∧ render g.script = .ok out ∧
        ∃ rest, out.contents = protocolConstant id ++ rest) ∧
      ∀ withPlugin files, generateCrate ctx (.forTarget target) withPlugin = .ok files →
        (∃ rest, files.find? SourceModule.protocol.file = some (protocolConstant id ++ rest)) ∧
        ∃ rest, files.find? Artifacts.libFile = some (protocolDocs ctx.service id ++ rest) :=
  ⟨fun _ _ _ _ => select_eq_iff, fun _ _ _ _ chosen =>
    ⟨exists_protocolModule chosen, fun _ _ => exists_named_files chosen⟩⟩

theorem ProtocolLoader.select_names_clock :
    (forTarget .client).IsFirst clockModel clock (protocolId "restJson1") (.restJson []) ∧
      ∃ files, generateCrate (clockContext []) (.forTarget .client) false = .ok files ∧
        (∃ rest, files.find? SourceModule.protocol.file
          = some (protocolConstant (protocolId "restJson1") ++ rest)) ∧
        ∃ rest, files.find? Artifacts.libFile
          = some (protocolDocs clock (protocolId "restJson1") ++ rest) := by
  obtain ⟨select, names⟩ := select_names
  obtain ⟨files, generated⟩ := exists_crate_clock []
  refine ⟨?_, files, generated, ?_⟩
  · cases (select _ _ _ _).mp select_clock with
    | chosen first => exact first
  · exact (names (clockContext []) .client _ _ select_clock).2 _ _ generated

end Crate

end Cratewright
