/-
States of writers.

A state of a writer is below another if what it holds is in the other as well, in the same
order. A blind script, which does not look at the writer, leads to such states again if it is
run in both. This also holds if a template's hole is filled with less in the first, as long as
the hole stands on a line of its own: the line is left out if the filling is blank, and
otherwise each line of the filling becomes one of the text.

* `Writer.sublist_inset` — the lines that code leaves where a hole was;
* `Writer.Below.template` — a template, in two states and with two sets of fillings;
* `Writer.Below.runAll` — a blind script, in two states;
* `Writer.below_runAll` — a script takes nothing back.
-/
import Mathlib.Data.List.Flatten
import Cratewright.Proofs.Source.Lines

namespace Cratewright

variable {φ : Type}

/-! ### Holes that stand alone -/

namespace Template

/-- The hole stands on the line after blanks, and nothing else does. -/
structure StandsAlone (l : List Char) (name : String) : Prop where
  parse_eq : parse l = (Text.leadingBlanks l).map .char ++ [.hole name]
  feed : '\n' ∉ Text.leadingBlanks l

instance (l : List Char) (name : String) : Decidable (StandsAlone l name) :=
  decidable_of_iff (_ ∧ _) ⟨fun ⟨h, feed⟩ => ⟨h, feed⟩, fun h => ⟨h.parse_eq, h.feed⟩⟩

/-- Holes of the template stand alone on their lines, unless they are fixed. -/
def IsolatesIn (fixed : List String) (text : List Char) : Prop :=
  ∀ l ∈ Text.dedent text, ∀ name ∈ (parse l).filterMap Segment.name?,
    name ∈ fixed ∨ StandsAlone l name

instance (fixed : List String) (text : List Char) : Decidable (IsolatesIn fixed text) :=
  inferInstanceAs (Decidable (∀ l ∈ _, ∀ name ∈ _, _))

theorem isolatesIn_ofLines {ls : List String} {css : List (List Char)} {fixed : List String}
    (h : List.Forall₂ Spelled ls css) (hn : IsolatesIn fixed (['\n'].intercalate css)) :
    IsolatesIn fixed (Text.ofLines ls).toList := by
  rw [toList_ofLines h]
  exact hn

end Template

/-! ### Scripts that do not look at the writer -/

mutual

/-- A command does not look at the writer. What fills the holes of a template may look, since it
is written on its own. -/
def Command.IsBlind : Command φ → Prop
  | .look _ => False
  | .block _ body => Command.AllBlind body
  | .splice (some script) => Command.AllBlind script
  | .splice none => True
  | .code _ => True
  | .raw _ => True
  | .template _ _ => True
  | .blankLine => True
  | .docs _ => True
  | .attribute _ => True
  | .require _ => True
  | .fail _ => True

/-- No command of a script looks at the writer. -/
def Command.AllBlind : List (Command φ) → Prop
  | [] => True
  | c :: script => c.IsBlind ∧ Command.AllBlind script

end

theorem Command.AllBlind.append {script more : List (Command φ)} (h : Command.AllBlind script)
    (hm : Command.AllBlind more) : Command.AllBlind (script ++ more) := by
  induction script with
  | nil => exact hm
  | cons c script ih => exact ⟨h.1, ih h.2⟩

theorem Command.allBlind_flatMap {α : Type} {l : List α} {f : α → List (Command φ)}
    (h : ∀ a ∈ l, Command.AllBlind (f a)) : Command.AllBlind (l.flatMap f) := by
  induction l with
  | nil => trivial
  | cons a l ih =>
    rw [List.flatMap_cons]
    exact (h a (List.mem_cons_self ..)).append (ih fun b hb => h b (List.mem_cons_of_mem _ hb))

/-- What is said at a place does not depend on what stands before it. -/
def Snippet.IsBlind (s : Snippet φ) : Prop := Command.AllBlind (s.getD [])

theorem Snippet.IsBlind.splice {s : Snippet φ} (h : s.IsBlind) :
    Command.IsBlind (.splice s) := by
  cases s with
  | none => exact trivial
  | some script => exact h

/-- A customization looks nowhere at the writer. -/
def Customization.IsBlind {σ : Type} (c : Customization σ) : Prop :=
  ∀ s, (c.contribute s).IsBlind

namespace Writer

/-! ### States -/

/-- What the first state holds is in the second as well, in the same order, and nothing has gone
wrong in the first unless it has in the second. -/
structure Below (w w' : Writer φ) : Prop where
  lines : w.lines.Sublist w'.lines
  depth : w.depth = w'.depth
  requirements : w.requirements.Sublist w'.requirements
  error : w'.error = none → w.error = none

variable {w w' : Writer φ}

theorem Below.refl (w : Writer φ) : Below w w := ⟨.refl _, rfl, .refl _, id⟩

theorem Below.trans {v : Writer φ} (h : Below w w') (h' : Below w' v) : Below w v :=
  ⟨h.lines.trans h'.lines, h.depth.trans h'.depth, h.requirements.trans h'.requirements,
    h.error ∘ h'.error⟩

theorem depth_writeLines (w : Writer φ) (ls : List (List Char)) :
    (w.writeLines ls).depth = w.depth := by
  induction ls generalizing w with
  | nil => rfl
  | cons l ls ih => exact ih (w.line l)

theorem Below.writeLines {ls ks : List (List Char)} (h : Below w w')
    (hl : (ls.map (indented w.depth)).Sublist (ks.map (indented w.depth))) :
    Below (w.writeLines ls) (w'.writeLines ks) where
  lines := by
    rw [lines_writeLines, lines_writeLines, ← h.depth]
    exact h.lines.append hl
  depth := by rw [depth_writeLines, depth_writeLines, h.depth]
  requirements := by
    rw [requirements_writeLines, requirements_writeLines]
    exact h.requirements
  error := by
    rw [error_writeLines, error_writeLines]
    exact h.error

theorem below_writeLines (w : Writer φ) (ls : List (List Char)) : Below w (w.writeLines ls) := by
  have nothing : Below (w.writeLines []) (w.writeLines ls) :=
    (Below.refl w).writeLines (List.nil_sublist _)
  exact nothing

theorem Below.require {rs qs : List (Requirement φ)} (h : Below w w') (hr : rs.Sublist qs) :
    Below (w.require rs) (w'.require qs) :=
  ⟨h.lines, h.depth, h.requirements.append hr, h.error⟩

theorem below_require (w : Writer φ) (rs : List (Requirement φ)) : Below w (w.require rs) :=
  ⟨.refl _, rfl, List.sublist_append_left .., id⟩

theorem Below.fail (h : Below w w') (e e' : Error) : Below (w.fail e) (w'.fail e') :=
  ⟨h.lines, h.depth, h.requirements, fun none => by cases (Option.or_eq_none_iff.mp none).2⟩

theorem below_fail (w : Writer φ) (e : Error) : Below w (w.fail e) :=
  ⟨.refl _, rfl, .refl _, fun none => (Option.or_eq_none_iff.mp none).1⟩

/-! ### Holes and their fillings -/

/-- The first filling is the second, or code of which the lines are lines of the second. -/
inductive Within : Filling φ → Filling φ → Prop where
  | refl (f : Filling φ) : Within f f
  | code {v v' : Writer φ} : Below v v' → Within v.toFilling v'.toFilling

theorem Within.requirements {f f' : Filling φ} (h : Within f f') :
    f.requirements.Sublist f'.requirements := by
  cases h with
  | refl => exact .refl _
  | code h => exact h.requirements

theorem Within.error {f f' : Filling φ} (h : Within f f') :
    f'.error = none → f.error = none := by
  cases h with
  | refl => exact id
  | code h => exact h.error

section Fillings

variable {fillings fillings' : List (String × Filling φ)}

theorem Below.fill {name : String} (h : Below w w') (leading : List Char)
    (hf : Option.Rel Within (fillings.lookup name) (fillings'.lookup name)) :
    Below (w.fill fillings leading name).1 (w'.fill fillings' leading name).1 := by
  rw [Writer.fill, Writer.fill]
  generalize fillings.lookup name = o at hf
  generalize fillings'.lookup name = o' at hf
  cases hf with
  | none => exact h.fail _ _
  | @some f f' hf =>
    have needed := h.require hf.requirements
    dsimp only
    cases he : f.error with
    | none =>
      cases f'.error with
      | none => exact needed
      | some e' => exact needed.trans (below_fail _ e')
    | some e =>
      cases he' : f'.error with
      | none =>
        rw [hf.error he'] at he
        cases he
      | some e' => exact needed.fail e e'

theorem Below.expand (h : Below w w') (leading : List Char) (segments : List Template.Segment)
    (hf : ∀ name, Option.Rel Within (fillings.lookup name) (fillings'.lookup name)) :
    Below (expand fillings leading w segments).1 (expand fillings' leading w' segments).1 := by
  induction segments generalizing w w' with
  | nil => exact h
  | cons s segments ih =>
    cases s with
    | char c => exact ih h
    | hole name => exact ih (h.fill leading (hf name))

theorem below_expand (w : Writer φ) (leading : List Char) (segments : List Template.Segment) :
    Below w (expand fillings leading w segments).1 := by
  induction segments generalizing w with
  | nil => exact .refl w
  | cons s segments ih =>
    cases s with
    | char c => exact ih w
    | hole name =>
      have filled : Below w (w.fill fillings leading name).1 := by
        rw [Writer.fill]
        cases fillings.lookup name with
        | none => exact below_fail ..
        | some f =>
          dsimp only
          cases f.error with
          | none => exact below_require ..
          | some e => exact (below_require ..).trans (below_fail ..)
      exact filled.trans (ih _)

end Fillings

/-! ### Lines of templates -/

section Inset

variable {leading : List Char}

/-- The lines that code leaves where a hole stood alone on an indented line. -/
def inset (depth : Nat) (leading : List Char) (ls : List (List Char)) : List (List Char) :=
  if ls.all Text.isBlankText then []
  else (Text.solid (ls.flatMap Text.pieces)).map fun p => indented depth (leading ++ p)

/-- Lines that code does not write leave out nothing else. -/
theorem sublist_inset (depth : Nat) (leading : List Char) {ls ks : List (List Char)}
    (h : ls.Sublist ks) : (inset depth leading ls).Sublist (inset depth leading ks) := by
  by_cases blank : ls.all Text.isBlankText = true
  · rw [inset, if_pos blank]
    exact List.nil_sublist _
  · have some : ¬ ks.all Text.isBlankText = true := by
      rw [List.all_eq_true] at blank ⊢
      exact fun all => blank fun l hl => all l (h.subset hl)
    rw [inset, inset, if_neg blank, if_neg some]
    exact (Text.sublist_solid (h.flatMap _)).map _

theorem indented_of_isBlankText (depth : Nat) {text : List Char}
    (h : Text.isBlankText text = true) : indented depth text = [] := by
  have trimmed : Text.trimEnd text = [] := by
    induction text with
    | nil => rfl
    | cons c text ih =>
      have ⟨first, rest⟩ := (Bool.and_eq_true_iff.mp h : _ ∧ Text.isBlankText text = true)
      rw [Text.trimEnd, Text.dropEndWhile, ← Text.trimEnd, ih rest]
      exact if_pos first
  rw [indented, trimmed]
  rfl

/-- A line below a hole. -/
def hung (leading p : List Char) : List Char := if p.isEmpty then [] else leading ++ p

theorem exists_under (v : Writer φ) (leading : List Char) :
    ∃ p ps, Text.pieces v.toFilling.text = p :: ps ∧
      v.toFilling.under leading = p ++ (ps.map (hung leading)).flatMap ('\n' :: ·) := by
  obtain ⟨p, ps, hp⟩ := List.exists_cons_of_ne_nil (Text.pieces_ne_nil v.toFilling.text)
  refine ⟨p, ps, hp, ?_⟩
  have hangs : v.toFilling.hangs = true := rfl
  rw [Filling.under, if_pos hangs, hp, List.flatMap_map]
  rfl

variable (blank : Text.isBlankText leading = true)

include blank

theorem isBlankText_hung (p : List Char) :
    Text.isBlankText (hung leading p) = Text.isBlankText p := by
  cases p with
  | nil => rfl
  | cons c p => exact (Text.isBlankText_append ..).trans (by rw [blank, Bool.true_and])

theorem indented_hung (depth : Nat) (p : List Char) :
    indented depth (hung leading p) = indented depth (leading ++ p) := by
  cases p with
  | nil => rw [List.append_nil, indented_of_isBlankText depth blank]; rfl
  | cons c p => rfl

theorem isBlankText_under (v : Writer φ) :
    Text.isBlankText (v.toFilling.under leading) = Text.isBlankText v.toFilling.text := by
  obtain ⟨p, ps, hp, under⟩ := exists_under v leading
  have text : v.toFilling.text = p ++ ps.flatMap ('\n' :: ·) := by
    rw [← Text.intercalate_pieces v.toFilling.text, hp, Text.intercalate_cons]
  have below : (ps.map (hung leading)).all Text.isBlankText = ps.all Text.isBlankText := by
    rw [List.all_map]
    exact congrArg ps.all (funext fun q => isBlankText_hung blank q)
  rw [under, text, Text.isBlankText_append, Text.isBlankText_append,
    Text.isBlankText_flatMap_feed, Text.isBlankText_flatMap_feed, below]

omit blank in
theorem isBlankText_text (v : Writer φ) :
    Text.isBlankText v.toFilling.text = v.lines.all Text.isBlankText := by
  obtain ⟨dropped, hs, feeds⟩ := Text.dropEndWhile_spec (· == '\n') (Text.unlines v.lines)
  have blanks : Text.isBlankText dropped = true := by
    refine List.all_eq_true.mpr fun c hc => ?_
    rw [beq_iff_eq.mp (feeds c hc)]
    rfl
  rw [← Text.isBlankText_unlines, hs, Text.isBlankText_append, blanks, Bool.and_true]
  rfl

/-- The lines of code that fills a hole, if the code does not come out blank. -/
theorem map_indented_pieces (feed : '\n' ∉ leading) (depth : Nat) (v : Writer φ)
    (some : ¬ v.lines.all Text.isBlankText = true) :
    (Text.pieces (leading ++ v.toFilling.under leading)).map (indented depth)
      = inset depth leading v.lines := by
  obtain ⟨p, ps, hp, under⟩ := exists_under v leading
  have free {q : List Char} (hq : q ∈ p :: ps) : '\n' ∉ leading ++ q := by
    rw [List.mem_append, not_or]
    exact ⟨feed, Text.feed_not_mem_of_mem_pieces (hp ▸ hq)⟩
  have pieces : Text.pieces (leading ++ v.toFilling.under leading)
      = (leading ++ p) :: ps.map (hung leading) := by
    rw [under, ← List.append_assoc]
    refine Text.pieces_flatMap_feed fun q hq => ?_
    rcases List.mem_cons.mp hq with rfl | hq
    · exact free (List.mem_cons_self ..)
    · obtain ⟨r, hr, rfl⟩ := List.mem_map.mp hq
      rw [hung]
      split
      · exact List.not_mem_nil
      · exact free (List.mem_cons_of_mem _ hr)
  have text : Text.pieces v.toFilling.text = Text.solid (v.lines.flatMap Text.pieces) := by
    have kept : v.toFilling.text ≠ [] := by
      rintro nothing
      rw [← isBlankText_text, nothing] at some
      exact some rfl
    have solid := Text.solid_pieces (Text.unlines v.lines)
    rw [Text.pieces_unlines, Text.solid_concat_nil] at solid
    exact (solid.trans (if_neg kept)).symm
  rw [pieces, inset, if_neg some, ← text, hp, List.map_cons, List.map_cons, List.map_map]
  exact congrArg _ (List.map_congr_left fun q _ => indented_hung blank depth q)

end Inset

/-- A line on which a hole for code stands alone. -/
theorem exists_templateLine_eq {fillings : List (String × Filling φ)} {l : List Char}
    {name : String} (alone : Template.StandsAlone l name) {v : Writer φ}
    (hv : fillings.lookup name = some v.toFilling) (w : Writer φ) :
    ∃ ls, templateLine fillings w l
        = (expand fillings (Text.leadingBlanks l) w (Template.parse l)).1.writeLines ls ∧
      ∀ depth, ls.map (indented depth) = inset depth (Text.leadingBlanks l) v.lines := by
  have blank : Text.isBlankText (Text.leadingBlanks l) = true :=
    List.all_eq_true.mpr fun c hc => List.mem_takeWhile_imp hc
  have hole : (Template.parse l).any (·.isHole) = true := by
    rw [alone.parse_eq, List.any_append]
    exact Bool.or_eq_true_iff.mpr (.inr rfl)
  have text : (expand fillings (Text.leadingBlanks l) w (Template.parse l)).2
      = Text.leadingBlanks l ++ v.toFilling.under (Text.leadingBlanks l) := by
    rw [(lines_expand ..).2, alone.parse_eq, List.flatMap_append, List.flatMap_map,
      List.flatMap_singleton, replaced, hv]
    exact congrArg (· ++ _) (List.flatMap_singleton' _)
  have isBlank : Text.isBlankText
      (expand fillings (Text.leadingBlanks l) w (Template.parse l)).2
        = v.lines.all Text.isBlankText := by
    rw [text, Text.isBlankText_append, blank, Bool.true_and, isBlankText_under blank,
      isBlankText_text]
  rw [templateLine]
  dsimp only
  rw [hole, Bool.true_and, isBlank]
  by_cases nothing : v.lines.all Text.isBlankText = true
  · exact ⟨[], if_pos nothing, fun depth => (if_pos nothing).symm⟩
  · refine ⟨_, if_neg nothing, fun depth => ?_⟩
    rw [text]
    exact map_indented_pieces blank alone.feed depth v nothing

/-- What stands in for the holes of a line is the same, or is within what stands in for the hole
that stands alone. -/
def Fits (fillings fillings' : List (String × Filling φ)) (l : List Char) : Prop :=
  ∀ name, .hole name ∈ Template.parse l →
    fillings.lookup name = fillings'.lookup name ∨ Template.StandsAlone l name

section Templates

variable {fillings fillings' : List (String × Filling φ)}
  (hf : ∀ name, Option.Rel Within (fillings.lookup name) (fillings'.lookup name))

include hf

/-- If the holes of a line are filled with the same, the line is the same. -/
theorem Below.templateLine_of_same {l : List Char} (h : Below w w')
    (same : ∀ name, .hole name ∈ Template.parse l →
      fillings.lookup name = fillings'.lookup name) :
    Below (Writer.templateLine fillings w l) (Writer.templateLine fillings' w' l) := by
  have expanded := h.expand (Text.leadingBlanks l) (Template.parse l) hf
  have text : (Writer.expand fillings (Text.leadingBlanks l) w (Template.parse l)).2
      = (Writer.expand fillings' (Text.leadingBlanks l) w' (Template.parse l)).2 := by
    rw [(lines_expand ..).2, (lines_expand ..).2]
    refine List.flatMap_congr fun s hs => ?_
    cases s with
    | char c => rfl
    | hole name => rw [replaced, replaced, same name hs]
  rw [Writer.templateLine, Writer.templateLine]
  dsimp only
  rw [← text]
  split
  · exact expanded
  · exact expanded.writeLines (.refl _)

theorem Below.templateLine {l : List Char} (h : Below w w') (fits : Fits fillings fillings' l) :
    Below (Writer.templateLine fillings w l) (Writer.templateLine fillings' w' l) := by
  by_cases same : ∀ name, .hole name ∈ Template.parse l →
      fillings.lookup name = fillings'.lookup name
  · exact h.templateLine_of_same hf same
  · push Not at same
    obtain ⟨name, hole, ne⟩ := same
    have alone := (fits name hole).resolve_left ne
    have within := hf name
    have expanded := h.expand (Text.leadingBlanks l) (Template.parse l) hf
    generalize hv : fillings.lookup name = o at within ne
    generalize hv' : fillings'.lookup name = o' at within ne
    cases within with
    | none => exact absurd rfl ne
    | some within =>
      cases within with
      | refl f => exact absurd rfl ne
      | code code =>
        obtain ⟨ls, line, lines⟩ := exists_templateLine_eq alone hv w
        obtain ⟨ls', line', lines'⟩ := exists_templateLine_eq alone hv' w'
        rw [line, line']
        refine expanded.writeLines ?_
        rw [lines, lines']
        exact sublist_inset _ _ code.lines

theorem Below.template {ls : List (List Char)} (h : Below w w')
    (fits : ∀ l ∈ ls, Fits fillings fillings' l) :
    Below (w.template fillings ls) (w'.template fillings' ls) := by
  induction ls generalizing w w' with
  | nil => exact h
  | cons l ls ih =>
    exact ih (h.templateLine hf (fits l (List.mem_cons_self ..)))
      fun k hk => fits k (List.mem_cons_of_mem _ hk)

omit hf

theorem below_template (w : Writer φ) (ls : List (List Char)) :
    Below w (w.template fillings ls) := by
  induction ls generalizing w with
  | nil => exact .refl w
  | cons l ls ih =>
    have line : Below w (Writer.templateLine fillings w l) := by
      have expanded : Below w
          (Writer.expand fillings (Text.leadingBlanks l) w (Template.parse l)).1 :=
        below_expand ..
      rw [Writer.templateLine]
      dsimp only
      split
      · exact expanded
      · exact expanded.trans (below_writeLines ..)
    exact line.trans (ih _)

end Templates

/-! ### Scripts -/

theorem Below.line (h : Below w w') (text : List Char) : Below (w.line text) (w'.line text) := by
  have one : Below (w.writeLines [text]) (w'.writeLines [text]) := h.writeLines (.refl _)
  exact one

theorem Below.atDepth (h : Below w w') (change : Nat → Nat) :
    Below { w with depth := change w.depth } { w' with depth := change w'.depth } :=
  ⟨h.lines, congrArg change h.depth, h.requirements, h.error⟩

theorem rel_within (o : Option (Filling φ)) : Option.Rel Within o o := by
  cases o with
  | none => exact .none
  | some f => exact .some (.refl f)

mutual

/-- A blind command, carried out in two states. -/
theorem Below.run : ∀ (c : Command φ) {w w' : Writer φ}, c.IsBlind → Below w w' →
    Below (Writer.run w c) (Writer.run w' c)
  | .code text, w, w', _, h => by
    rw [Writer.run, Writer.run]
    exact h.writeLines (.refl _)
  | .raw text, w, w', _, h => by
    rw [Writer.run, Writer.run]
    exact h.writeLines (.refl _)
  | .template text bindings, w, w', _, h => by
    rw [Writer.run, Writer.run]
    exact h.template (fun name => rel_within _) fun l _ name _ => .inl rfl
  | .blankLine, w, w', _, h => h.line []
  | .block header body, w, w', blind, h => by
    have opened := h.line (Text.trim header.toList ++ [' ', '\x7b'])
    have inside := Below.runAll body blind (opened.atDepth (· + 1))
    exact (inside.atDepth (· - 1)).line ['\x7d']
  | .docs text, w, w', _, h => by
    rw [Writer.run, Writer.run]
    exact h.writeLines (.refl _)
  | .attribute text, w, w', _, h => h.line _
  | .splice none, w, w', _, h => h
  | .splice (some script), w, w', blind, h => Below.runAll script blind h
  | .require r, w, w', _, h => h.require (.refl _)
  | .fail e, w, w', _, h => h.fail e e
  | .look choose, w, w', blind, h => blind.elim
termination_by structural c => c

/-- A blind script, carried out in two states. -/
theorem Below.runAll : ∀ (script : List (Command φ)) {w w' : Writer φ},
    Command.AllBlind script → Below w w' →
    Below (Writer.runAll w script) (Writer.runAll w' script)
  | [], _, _, _, h => h
  | c :: script, _, _, blind, h => Below.runAll script blind.2 (Below.run c blind.1 h)
termination_by structural script => script

end

mutual

/-- A command takes nothing back. -/
theorem below_run : ∀ (c : Command φ) (w : Writer φ), Below w (run w c)
  | .code text, w => by
    rw [run]
    exact below_writeLines ..
  | .raw text, w => by
    rw [run]
    exact below_writeLines ..
  | .template text bindings, w => by
    rw [run]
    exact below_template ..
  | .blankLine, w => below_writeLines w [_]
  | .block header body, w => by
    let opened := w.line (Text.trim header.toList ++ [' ', '\x7b'])
    have before : Below w opened := below_writeLines w [_]
    have inside := (below_runAll body { opened with depth := opened.depth + 1 }).atDepth (· - 1)
    exact (before.trans inside).trans (below_writeLines _ [['\x7d']])
  | .docs text, w => by
    rw [run]
    exact below_writeLines ..
  | .attribute text, w => below_writeLines w [_]
  | .splice none, w => .refl w
  | .splice (some script), w => below_runAll script w
  | .require r, w => below_require ..
  | .fail e, w => below_fail ..
  | .look choose, w => below_runAll (choose w.view) w

/-- A script takes nothing back. -/
theorem below_runAll : ∀ (script : List (Command φ)) (w : Writer φ), Below w (runAll w script)
  | [], w => .refl w
  | c :: script, w => (below_run c w).trans (below_runAll script (run w c))

end

end Writer

end Cratewright
