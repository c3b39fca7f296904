/-
Lines that scripts print.

A blind script leaves the same lines in every writer, set in by the writer's depth. So it has
lines of its own, those that it leaves in a fresh one, blanks and blank lines included, and these
are made of the lines of its commands:

* `Writer.printed_append`, `Writer.printed_flatMap` — scripts one after the other;
* `Writer.printed_block` — a block has its body's lines, set in one level;
* `Writer.printed_template` — a template is printed row by row, its holes filled;
* `Writer.printedRow_code`, `Writer.inset_pieces` — a row on which a hole for code stands alone;
* `Writer.render_of_error` — the text of a script is made of its lines.
-/
import Cratewright.Proofs.Source.Composition
import Cratewright.Proofs.Source.Embedding

namespace Cratewright

variable {φ : Type}

/-! ### Templates as rows -/

namespace Template

/-- A line of a template: the blanks that it starts with, and the chunks behind them. -/
structure Row where
  leading : List Char
  chunks : List Chunk

/-- The rows make up the lines of the template. -/
def HasRows (text : String) (rows : List Row) : Prop :=
  ((Text.dedent text.toList).map fun l => (Text.leadingBlanks l, unindented l)) =
    rows.map fun r => (r.leading, r.chunks.flatMap Chunk.segments)

/-- Rows are put together from texts that are given by their characters. -/
inductive RowReads : Row → List Char × List Segment → Prop where
  | intro {leading : List Char} {chunks : List Chunk} {segments : List Segment} :
      Reads chunks segments → RowReads ⟨leading, chunks⟩ (leading, segments)

section HasRows

variable {rows : List Row} {parts : List (List Char × List Segment)}

theorem hasRows {text : String} {cs : List Char} (h : text.toList = cs)
    (hr : List.Forall₂ RowReads rows parts)
    (hs : ((Text.dedent cs).map fun l => (Text.leadingBlanks l, unindented l)) = parts) :
    HasRows text rows := by
  rw [HasRows, h, hs]
  clear hs
  induction hr with
  | nil => rfl
  | cons first _ ih =>
    obtain ⟨reads⟩ := first
    rw [List.map_cons, ← ih, reads.eq]

theorem hasRows_of_spelled {text : String} {cs : List Char} (h : Spelled text cs)
    (hr : List.Forall₂ RowReads rows parts)
    (hs : ((Text.dedent cs).map fun l => (Text.leadingBlanks l, unindented l)) = parts) :
    HasRows text rows :=
  hasRows h.toList_eq hr hs

theorem hasRows_ofLines {ls : List String} {css : List (List Char)}
    (h : List.Forall₂ Spelled ls css) (hr : List.Forall₂ RowReads rows parts)
    (hs : ((Text.dedent (['\n'].intercalate css)).map fun l =>
      (Text.leadingBlanks l, unindented l)) = parts) :
    HasRows (Text.ofLines ls) rows :=
  hasRows (toList_ofLines h) hr hs

end HasRows

/-- The blanks at the start of a line are characters of its first segments. -/
theorem parse_eq_leading (l : List Char) :
    parse l = (Text.leadingBlanks l).map .char ++ unindented l := by
  induction l with
  | nil => rfl
  | cons c l ih =>
    by_cases blank : Text.isBlank c = true
    · have more : Text.leadingBlanks (c :: l) = c :: Text.leadingBlanks l :=
        List.takeWhile_cons_of_pos blank
      have rest : unindented (c :: l) = unindented l :=
        congrArg parse (List.dropWhile_cons_of_pos blank)
      rw [parse_cons_of_isBlank blank, ih, more, rest]
      rfl
    · have none : Text.leadingBlanks (c :: l) = [] := List.takeWhile_cons_of_neg blank
      have all : unindented (c :: l) = parse (c :: l) :=
        congrArg parse (List.dropWhile_cons_of_neg blank)
      rw [none, all]
      rfl

end Template

namespace Writer

/-! ### Scripts -/

/-- The lines of a script. -/
def printed (script : List (Command φ)) : List (List Char) := (runAll {} script).lines

/-- Everywhere, a blind script leaves its own lines, set in by the depth. -/
theorem lines_runAll (w : Writer φ) {script : List (Command φ)}
    (blind : Command.AllBlind script) :
    (runAll w script).lines = w.lines ++ (printed script).map (hung (blanks w.depth)) :=
  congrArg lines (runAll_eq_extend w blind)

theorem map_hung_nil (ls : List (List Char)) : ls.map (hung []) = ls :=
  (List.map_congr_left fun l _ => hung_nil_left l).trans (List.map_id ls)

theorem printed_append (script : List (Command φ)) {rest : List (Command φ)}
    (blind : Command.AllBlind rest) :
    printed (script ++ rest) = printed script ++ printed rest := by
  have top : (runAll ({} : Writer φ) script).depth = 0 := depth_runAll {} script
  rw [printed, runAll_append, lines_runAll _ blind, top]
  exact congrArg (printed script ++ ·) (map_hung_nil (printed rest))

theorem printed_cons (c : Command φ) {rest : List (Command φ)} (blind : Command.AllBlind rest) :
    printed (c :: rest) = printed [c] ++ printed rest :=
  printed_append [c] blind

theorem printed_flatMap {α : Type} (l : List α) {f : α → List (Command φ)}
    (blind : ∀ a ∈ l, Command.AllBlind (f a)) :
    printed (l.flatMap f) = l.flatMap fun a => printed (f a) := by
  induction l with
  | nil => rfl
  | cons a l ih =>
    have rest := fun b hb => blind b (List.mem_cons_of_mem _ hb)
    rw [List.flatMap_cons, printed_append _ (Command.allBlind_flatMap rest), ih rest,
      List.flatMap_cons]

theorem printed_splice (snippet : Snippet φ) :
    printed [.splice snippet] = printed (snippet.getD []) :=
  congrArg lines (runAll_splice {} snippet)

theorem printed_code (text : String) :
    printed [(.code text : Command φ)] = (Text.dedent text.toList).map Text.trimEnd := by
  rw [printed, runAll, runAll, run, lines_writeLines]
  exact List.map_congr_left fun l _ => indented_zero l

theorem printed_docs (text : String) : printed [(.docs text : Command φ)] =
    (Text.dedent text.toList).map fun l => Text.trimEnd
      (if Text.isBlankText l then ['/', '/', '/'] else ['/', '/', '/', ' '] ++ l) := by
  rw [printed, runAll, runAll, run, writeDocs, lines_writeLines, List.map_map]
  exact List.map_congr_left fun l _ => indented_zero _

theorem printed_block (header : String) {body : List (Command φ)}
    (blind : Command.AllBlind body) :
    printed [.block header body] =
      indented 0 (Text.trim header.toList ++ [' ', '\x7b']) ::
        (printed body).map (hung indentation) ++ [['\x7d']] := by
  rw [printed, runAll, runAll, run_block]
  show (runAll _ body).lines ++ [['\x7d']] = _
  rw [lines_runAll _ blind]
  rfl

/-! ### Texts of scripts -/

/-- A script that records no error has a text, which is made of its lines. -/
theorem render_of_error {script : List (Command φ)} (h : (runAll {} script).error = none) :
    (Cratewright.render script).map Output.contents =
      .ok (String.ofList (Text.unlines (printed script))) := by
  rw [Cratewright.render, finish, h]
  rfl

/-! ### Templates -/

section Templates

variable (fillings : List (String × Filling φ))

/-- The lines that come of a line of a template. -/
def printedLine (leading : List Char) (segments : List Template.Segment) : List (List Char) :=
  let text := leading ++ segments.flatMap (replaced fillings leading)
  if segments.any (·.isHole) && Text.isBlankText text then []
  else (Text.pieces text).map Text.trimEnd

theorem flatMap_replaced_chars (leading s : List Char) :
    (s.map .char).flatMap (replaced fillings leading) = s := by
  rw [List.flatMap_map]
  exact List.flatMap_singleton' s

theorem lines_templateLine (l : List Char) :
    (templateLine fillings {} l).lines =
      printedLine fillings (Text.leadingBlanks l) (Template.unindented l) := by
  obtain ⟨lines, text⟩ :=
    lines_expand fillings (Text.leadingBlanks l) {} (Template.parse l)
  have holes : (Template.parse l).any (·.isHole) =
      (Template.unindented l).any (·.isHole) := by
    rw [Template.parse_eq_leading, List.any_append, List.any_map]
    exact congrArg (· || _) (List.any_eq_false.mpr fun c _ hole => by cases hole)
  rw [Template.parse_eq_leading, List.flatMap_append, flatMap_replaced_chars,
    ← Template.parse_eq_leading] at text
  rw [templateLine, printedLine, ← text, ← holes]
  dsimp only
  have top : (expand fillings (Text.leadingBlanks l) {} (Template.parse l)).1.depth = 0 :=
    (below_expand ..).depth.symm
  split
  · exact lines
  · rw [lines_writeLines, lines, top]
    exact List.map_congr_left fun p _ => indented_zero p

theorem lines_template (ls : List (List Char)) :
    (({} : Writer φ).template fillings ls).lines = ls.flatMap fun l =>
      printedLine fillings (Text.leadingBlanks l) (Template.unindented l) := by
  induction ls with
  | nil => rfl
  | cons l ls ih =>
    have top : (templateLine fillings ({} : Writer φ) l).depth = 0 :=
      (below_template {} [l]).depth.symm
    have continued := extend_template (templateLine fillings {} l) {} fillings ls
    rw [extend_fresh] at continued
    show ((templateLine fillings {} l).template fillings ls).lines = _
    rw [continued, List.flatMap_cons, ← ih, ← lines_templateLine]
    show _ ++ List.map (hung (blanks (templateLine fillings {} l).depth)) _ = _
    rw [top]
    exact congrArg _ (map_hung_nil _)

end Templates

/-! ### Rows of templates -/

section Rows

variable (bindings : List (String × Argument φ))

/-- The text of a chunk on a line that is indented. -/
def chunkUnder (leading : List Char) : Template.Chunk → List Char
  | .text t => t.toList
  | .hole name => replaced (fillings bindings) leading (.hole name)

/-- The text of a row with its holes filled. -/
def rowText (r : Template.Row) : List Char :=
  r.leading ++ r.chunks.flatMap (chunkUnder bindings r.leading)

/-- The lines of a row. -/
def printedRow (r : Template.Row) : List (List Char) :=
  printedLine (fillings bindings) r.leading (r.chunks.flatMap Template.Chunk.segments)

theorem printed_template (rows : List Template.Row) {text : String}
    (h : Template.HasRows text rows) :
    printed [.template text bindings] = rows.flatMap (printedRow bindings) := by
  have each := congrArg (List.flatMap fun l => printedLine (fillings bindings) l.1 l.2) h
  rw [List.flatMap_map, List.flatMap_map] at each
  rw [printed, runAll, runAll, run, lines_template]
  exact each

theorem flatMap_replaced_segments (leading : List Char) (chunks : List Template.Chunk) :
    (chunks.flatMap Template.Chunk.segments).flatMap (replaced (fillings bindings) leading) =
      chunks.flatMap (chunkUnder bindings leading) := by
  rw [List.flatMap_assoc]
  refine List.flatMap_congr fun chunk _ => ?_
  cases chunk with
  | text t => exact flatMap_replaced_chars ..
  | hole name => exact List.flatMap_singleton ..

/-- A row with a text that is not blank is not left out. -/
theorem printedRow_of_text {r : Template.Row} (t : String) (mem : .text t ∈ r.chunks)
    (full : Text.isBlankText t.toList = false) :
    printedRow bindings r = (Text.pieces (rowText bindings r)).map Text.trimEnd := by
  have shown : Text.isBlankText (rowText bindings r) = false := by
    rw [Text.isBlankText, List.all_eq_false] at full ⊢
    obtain ⟨c, hc, visible⟩ := full
    exact ⟨c, List.mem_append_right _ (List.mem_flatMap.mpr ⟨_, mem, hc⟩), visible⟩
  rw [printedRow, printedLine, flatMap_replaced_segments]
  exact if_neg (by rw [← rowText, shown, Bool.and_false]; decide)

/-- Rows of which the holes are filled alike are printed alike. -/
theorem printedRow_congr {bindings' : List (String × Argument φ)} {r : Template.Row}
    (h : ∀ name, .hole name ∈ r.chunks →
      (fillings bindings).lookup name = (fillings bindings').lookup name) :
    printedRow bindings r = printedRow bindings' r := by
  have same : r.chunks.flatMap (chunkUnder bindings r.leading) =
      r.chunks.flatMap (chunkUnder bindings' r.leading) := by
    refine List.flatMap_congr fun chunk hc => ?_
    cases chunk with
    | text t => rfl
    | hole name => rw [chunkUnder, chunkUnder, replaced, replaced, h name hc]
  rw [printedRow, printedRow, printedLine, printedLine, flatMap_replaced_segments,
    flatMap_replaced_segments, same]

@[simp] theorem chunkUnder_text (leading : List Char) (t : String) :
    chunkUnder bindings leading (.text t) = t.toList :=
  rfl

@[simp] theorem chunkUnder_hole (n : String) (a : Argument φ) (leading : List Char)
    (name : String) : chunkUnder ((n, a) :: bindings) leading (.hole name) =
      if name = n then (filling a).under leading
      else chunkUnder bindings leading (.hole name) := by
  rw [chunkUnder, replaced, fillings, List.lookup_cons]
  by_cases same : name = n
  · rw [if_pos same, same, beq_self_eq_true]
  · rw [if_neg same, beq_eq_false_iff_ne.mpr same]
    rfl

/-- Where nothing stands before it, a filling is its own text. -/
@[simp] theorem under_nil (f : Filling φ) : f.under [] = f.text := by
  rw [Filling.under]
  split
  · obtain ⟨p, ps, hp⟩ := List.exists_cons_of_ne_nil (Text.pieces_ne_nil f.text)
    have hung : (ps.flatMap fun q => '\n' :: if q.isEmpty then [] else [] ++ q) =
        ps.flatMap ('\n' :: ·) := by
      refine List.flatMap_congr fun q _ => ?_
      cases q <;> rfl
    rw [hp, ← Text.intercalate_pieces f.text, hp, Text.intercalate_cons]
    exact congrArg (p ++ ·) hung
  · rfl

variable {bindings}

/-- A row with nothing but a hole for code has the lines of the code, if they do not come out
blank. -/
theorem printedRow_code {name : String} {script : List (Command φ)} {leading : List Char}
    (bound : (fillings bindings).lookup name = some (runAll {} script).toFilling)
    (blank : Text.isBlankText leading = true) (feed : '\n' ∉ leading) :
    printedRow bindings ⟨leading, [.hole name]⟩ = inset 0 leading (printed script) := by
  let v : Writer φ := runAll {} script
  have text : rowText bindings ⟨leading, [.hole name]⟩ =
      leading ++ v.toFilling.under leading := by
    rw [rowText, List.flatMap_singleton, chunkUnder, replaced, bound]
  have isBlank : Text.isBlankText (rowText bindings ⟨leading, [.hole name]⟩) =
      v.lines.all Text.isBlankText := by
    rw [text, Text.isBlankText_append, blank, Bool.true_and, isBlankText_under blank,
      isBlankText_text]
  rw [printedRow, printedLine, flatMap_replaced_segments]
  show (if (true && Text.isBlankText (rowText bindings ⟨leading, [.hole name]⟩)) = true then []
    else (Text.pieces (rowText bindings ⟨leading, [.hole name]⟩)).map Text.trimEnd) = _
  rw [Bool.true_and, isBlank]
  by_cases nothing : v.lines.all Text.isBlankText = true
  · rw [if_pos nothing]
    exact (if_pos nothing).symm
  · rw [if_neg nothing, text]
    refine Eq.trans ?_ (map_indented_pieces blank feed 0 v nothing)
    exact List.map_congr_left fun p _ => (indented_zero p).symm

end Rows

/-! ### Statements in holes -/

/-- The last line of a text that does not end in a line feed ends like the text. -/
theorem getLast?_pieces (front : List Char) {c : Char} (h : c ≠ '\n') :
    ∃ p, (Text.pieces (front ++ [c])).getLast? = some (p ++ [c]) := by
  induction front with
  | nil => exact ⟨[], by rw [List.nil_append, Text.pieces, if_neg h]; rfl⟩
  | cons d front ih =>
    obtain ⟨p, last⟩ := ih
    obtain ⟨q, qs, hq, cut⟩ := Text.pieces_cons d (front ++ [c])
    rw [hq] at last
    rw [List.cons_append, cut]
    split
    · exact ⟨p, last⟩
    · cases qs with
      | nil =>
        cases last
        exact ⟨d :: p, rfl⟩
      | cons r qs => exact ⟨p, last⟩

/-- A statement that fills a hole has its lines set in by the blanks before the hole. -/
theorem inset_pieces {s : List Char} (ends : s.getLast? = some ';') :
    inset 0 indentation ((Text.pieces s).map Text.trimEnd) =
      ((Text.pieces s).map Text.trimEnd).map (hung indentation) := by
  let v : Writer Fragment := { lines := (Text.pieces s).map Text.trimEnd }
  have tidy : v.IsTidy := by
    intro l hl
    obtain ⟨p, hp, rfl⟩ := List.mem_map.mp hl
    rw [← indented_zero]
    exact isTidy_indented 0 (Text.feed_not_mem_of_mem_pieces hp)
  have closed : ¬ Text.EndsBlank v.contents.toList := by
    rintro ⟨l, last, blank⟩
    obtain ⟨front, rfl⟩ := List.getLast?_eq_some_iff.mp ends
    obtain ⟨p, hp⟩ := getLast?_pieces front (c := ';') (by decide)
    have kept : Text.trimEnd (p ++ [';']) = p ++ [';'] := by
      refine Text.dropEndWhile_of_getLast? fun c hc => ?_
      rw [List.getLast?_concat] at hc
      cases hc
      decide
    rw [toList_contents, Text.lines_unlines tidy, List.getLast?_map, hp, Option.map_some,
      kept, Option.some_inj] at last
    rw [← last, Text.isBlankText_append, Bool.and_eq_true_iff] at blank
    exact absurd blank.2 (by decide)
  exact inset_lines 0 tidy closed

end Writer

end Cratewright
