/-
Two ways to put code between braces.

Code can be written as the body of a block, or it can fill a hole that stands alone on the
indented line between a header and a brace of a template. The first counts levels of depth, the
second cuts the finished text of the code into lines again. Both leave the same writer behind,
unless the code ends in a blank line, which the second drops, or looks at the writer: in a block
it sees the header, and in a hole nothing:

* `Template.parse_literal_append` — a text whose number signs are doubled is no hole;
* `Text.dedent_block` — the three lines of the template;
* `Writer.inset_lines` — the lines that a hole of its own is replaced by;
* `Writer.run_block_eq_template` — both ways lead to the same writer;
* `Writer.run_block_ne_template` — code that is left out of a block only.
-/
import Cratewright.Proofs.Source.Placement

namespace Cratewright

variable {φ : Type}

/-! ### Texts without holes -/

namespace Template

/-- A text that a template writes as it stands: its number signs are doubled. -/
def literal (s : List Char) : List Char := s.flatMap fun c => if c = '#' then ['#', '#'] else [c]

theorem parse_literal_append (s rest : List Char) :
    parse (literal s ++ rest) = s.map .char ++ parse rest := by
  induction s with
  | nil => rfl
  | cons c s ih =>
    by_cases sign : c = '#'
    · subst sign
      have signs : parseFrom 0 ('#' :: '#' :: (literal s ++ rest))
          = .char '#' :: parseFrom 0 (literal s ++ rest) := by
        rw [parseFrom.eq_def]
        rfl
      exact signs.trans (congrArg (_ :: ·) ih)
    · have first : literal (c :: s) = c :: literal s := by
        rw [literal, List.flatMap_cons, if_neg sign]
        rfl
      rw [first, List.map_cons, List.cons_append, List.cons_append, ← ih]
      show parseFrom 0 (c :: (literal s ++ rest)) = .char c :: parseFrom 0 (literal s ++ rest)
      rw [parseFrom.eq_def]
      exact if_neg sign

theorem feed_not_mem_literal {s : List Char} (h : '\n' ∉ s) : '\n' ∉ literal s := by
  intro mem
  obtain ⟨c, hc, same⟩ := List.mem_flatMap.mp mem
  have eq : '\n' = c := by
    split at same
    · simp at same
    · exact List.mem_singleton.mp same
  exact h (eq ▸ hc)

end Template

/-! ### Lines of the template -/

namespace Text

theorem dropReturn_of_getLast? {l : List Char} (h : ∀ c, l.getLast? = some c → c ≠ '\r') :
    dropReturn l = l := by
  rcases dropReturn_spec l with same | cut
  · exact same.symm
  · have last : l.getLast? = some '\r' := by
      rw [cut]
      exact List.getLast?_concat
    exact absurd rfl (h '\r' last)

theorem IsTidy.trimEnd_append {l : List Char} (tidy : IsTidy l) (ne : l ≠ [])
    (leading : List Char) : trimEnd (leading ++ l) = leading ++ l := by
  refine dropEndWhile_of_getLast? fun c hc => tidy.ending c ?_
  rw [← hc, List.getLast?_append_of_ne_nil leading ne]

/-- The lines of a text that is written line by line. -/
theorem lines_unlines {ls : List (List Char)} (tidy : ∀ l ∈ ls, IsTidy l) :
    lines (unlines ls) = ls := by
  rw [lines, pieces_unlines, flatMap_pieces_of_feedless fun l hl => (tidy l hl).feed]
  induction ls with
  | nil => rfl
  | cons l ls ih =>
    have return_ne : ∀ c, l.getLast? = some c → c ≠ '\r' := by
      rintro c hc rfl
      have blank := (tidy l (List.mem_cons_self ..)).ending _ hc
      exact absurd blank (by decide)
    have rest := ih fun k hk => tidy k (List.mem_cons_of_mem _ hk)
    obtain ⟨k, ks, hk⟩ := List.exists_cons_of_ne_nil
      (List.append_ne_nil_of_right_ne_nil ls (List.cons_ne_nil ([] : List Char) []))
    rw [hk] at rest
    rw [List.cons_append, hk, linesOfPieces, rest, dropReturn_of_getLast? return_ne]
    exact List.cons_ne_nil k ks

/-- The last line of a text is blank; a text without lines has none. -/
def EndsBlank (s : List Char) : Prop :=
  ∃ l, (lines s).getLast? = some l ∧ isBlankText l = true

theorem solid_of_getLast? {ls : List (List Char)} (h : ls.getLast? ≠ some []) : solid ls = ls := by
  induction ls with
  | nil => rfl
  | cons l ls ih =>
    cases ls with
    | nil =>
      cases l with
      | nil => exact absurd rfl h
      | cons c l => rfl
    | cons k ks =>
      have rest := ih h
      rw [solid_cons_of_ne_nil l (by rw [rest]; exact List.cons_ne_nil k ks), rest]

/-- A line between a header and a brace, as the template spells it. -/
def holeLine : List Char := [' ', ' ', ' ', ' ', '#', '\x7b', 'x', '\x7d']

/-- The template of a block has three lines and no margin, since the brace stands at the start
of its line. -/
theorem dedent_block {h : List Char} (feed : '\n' ∉ h) :
    dedent (['\n'].intercalate [h ++ [' ', '\x7b'], holeLine, ['\x7d']])
      = [h ++ [' ', '\x7b'], holeLine, ['\x7d']] := by
  have feeds : ∀ l ∈ [h ++ [' ', '\x7b'], holeLine, ['\x7d']], '\n' ∉ l := by
    simp only [List.forall_mem_cons, List.mem_append, not_or]
    exact ⟨⟨feed, by decide⟩, by decide, by decide, by simp⟩
  have header : dropReturn (h ++ [' ', '\x7b']) = h ++ [' ', '\x7b'] := by
    refine dropReturn_of_getLast? fun c hc => ?_
    rw [List.getLast?_append_of_ne_nil h (List.cons_ne_nil ' ' ['\x7b'])] at hc
    cases hc
    decide
  have cut : lines (['\n'].intercalate [h ++ [' ', '\x7b'], holeLine, ['\x7d']])
      = [h ++ [' ', '\x7b'], holeLine, ['\x7d']] := by
    rw [lines, intercalate_cons, pieces_flatMap_feed feeds, linesOfPieces, header]
    · rfl
    · simp
  have full : isBlankText (h ++ [' ', '\x7b']) = false := by
    rw [isBlankText_append, Bool.and_eq_false_iff]
    exact .inr rfl
  have trimmed : trimLines [h ++ [' ', '\x7b'], holeLine, ['\x7d']]
      = [h ++ [' ', '\x7b'], holeLine, ['\x7d']] := by
    rw [trimLines, List.dropWhile_cons_of_neg (by rw [full]; decide)]
    rfl
  have none : margin [h ++ [' ', '\x7b'], holeLine, ['\x7d']] = 0 := by
    rw [margin, List.filter_cons_of_pos (by rw [full]; rfl)]
    show ([byteLength (leadingBlanks (h ++ [' ', '\x7b'])), 4, 0].min?).getD 0 = 0
    rw [List.min?_cons']
    exact Nat.min_zero _
  have whole : dropBytes 0 = id := funext fun s => by simp [dropBytes, dropBytes?]
  rw [dedent, cut, trimmed, none, whole, List.map_id]

end Text

namespace Writer

/-! ### The header and the brace -/

theorem expand_chars (fillings : List (String × Filling φ)) (leading : List Char) (w : Writer φ)
    (s : List Char) : expand fillings leading w (s.map .char) = (w, s) := by
  induction s with
  | nil => rfl
  | cons c s ih => rw [List.map_cons, expand, ih]

/-- A line without holes is written as it stands. -/
theorem templateLine_literal (fillings : List (String × Filling φ)) (w : Writer φ)
    {s tail : List Char} (feed : '\n' ∉ s ++ tail)
    (plain : Template.parse tail = tail.map .char) :
    templateLine fillings w (Template.literal s ++ tail) = w.line (s ++ tail) := by
  have segments : Template.parse (Template.literal s ++ tail) = (s ++ tail).map .char := by
    rw [Template.parse_literal_append, plain, List.map_append]
  have holes : ((s ++ tail).map Template.Segment.char).any (·.isHole) = false := by
    rw [List.any_map, List.any_eq_false]
    intro c _ hole
    cases hole
  rw [templateLine, segments, expand_chars]
  dsimp only
  rw [holes, Bool.false_and, if_neg Bool.false_ne_true, Text.pieces_eq_splitAt,
    Text.splitAt_of_not_mem feed]
  rfl

/-! ### The line of the hole -/

/-- The code that fills the hole does not end in a blank line, and stands in the text like lines
of a block. -/
theorem inset_lines (depth : Nat) {v : Writer φ} (tidy : v.IsTidy)
    (closed : ¬ Text.EndsBlank v.contents.toList) :
    inset depth indentation v.lines = v.lines.map (hung (blanks (depth + 1))) := by
  have last : ∀ l, v.lines.getLast? = some l → Text.isBlankText l = false := by
    intro l hl
    rw [toList_contents, Text.EndsBlank, Text.lines_unlines tidy] at closed
    rw [Bool.eq_false_iff]
    exact fun blank => closed ⟨l, hl, blank⟩
  rcases List.eq_nil_or_concat v.lines with none | ⟨ls, l, some⟩
  · rw [none]
    rfl
  · have atEnd : v.lines.getLast? = Option.some l := by
      rw [some, List.concat_eq_append]
      exact List.getLast?_concat
    have notBlank : ¬ v.lines.all Text.isBlankText = true := by
      intro all
      have blank := List.all_eq_true.mp all l (List.mem_of_getLast? atEnd)
      rw [last l atEnd] at blank
      cases blank
    have solid : Text.solid v.lines = v.lines := by
      refine Text.solid_of_getLast? fun empty => ?_
      have full := last [] empty
      cases full
    rw [inset, if_neg notBlank, Text.flatMap_pieces_of_feedless fun k hk => (tidy k hk).feed, solid]
    refine List.map_congr_left fun k hk => ?_
    rw [indented_eq_hung]
    cases k with
    | nil => rfl
    | cons c k =>
      rw [(tidy _ hk).trimEnd_append (List.cons_ne_nil c k), blanks_add]
      show blanks depth ++ (indentation ++ c :: k) = blanks depth ++ blanks 1 ++ c :: k
      rw [List.append_assoc]
      rfl

/-- On the line of the hole stands what the code leaves behind in a writer that is one level
deeper. -/
theorem templateLine_hole (w : Writer φ) (s : Snippet φ) (flat : s.IsFlat)
    (closed : ¬ Text.EndsBlank (run {} (.splice s)).contents.toList) :
    templateLine (fillings [("x", .code s)]) w Text.holeLine
      = (runAll (w.atDepth (w.depth + 1)) (s.getD [])).atDepth w.depth := by
  let v : Writer φ := runAll {} (s.getD [])
  have alone : Template.StandsAlone Text.holeLine "x" := by decide
  have filling : (fillings [("x", .code s)]).lookup "x" = some v.toFilling := by
    rw [fillings, filling_code]
    rfl
  have ending : ¬ Text.EndsBlank v.contents.toList := by
    have same : run {} (.splice s) = v := runAll_splice {} s
    rw [← same]
    exact closed
  obtain ⟨ls, line, lines⟩ := exists_templateLine_eq alone filling w
  have leading : Text.leadingBlanks Text.holeLine = indentation := rfl
  -- Filling the hole records what the code needs and its error.
  have filled : (expand (fillings [("x", .code s)]) indentation w (Template.parse Text.holeLine)).1
      = { w with
          requirements := w.requirements ++ v.requirements, error := w.error.or v.error } := by
    show (w.fill (fillings [("x", .code s)]) indentation "x").1 = _
    rw [fill, filling]
    dsimp only [toFilling]
    cases v.error with
    | none =>
      rw [Option.or_none]
      rfl
    | some e => rfl
  rw [line, leading, filled, runAll_eq_extend _ flat.allBlind, writeLines_eq]
  have same := lines w.depth
  rw [leading, inset_lines w.depth (isTidy_alone flat) ending] at same
  show { w with lines := _, requirements := _, error := _ } = _
  rw [same]
  rfl

/-! ### Both ways -/

/-- The template of a block: the header, a hole on a line of its own, and the brace. -/
def blockTemplate (header : String) : String :=
  Text.ofLines [String.ofList (Template.literal (Text.trim header.toList)) ++ " \x7b",
    "    #\x7bx\x7d", "\x7d"]

/-- A block and its template leave the same writer behind, if the code between the braces does
not end in a blank line. -/
theorem run_block_eq_template (w : Writer φ) (header : String) (s : Snippet φ)
    (line : '\n' ∉ header.toList) (flat : s.IsFlat)
    (closed : ¬ Text.EndsBlank (run {} (.splice s)).contents.toList) :
    run w (.block header [.splice s])
      = run w (.template (blockTemplate header) [("x", .code s)]) := by
  let h := Text.trim header.toList
  let fs : List (String × Filling φ) := fillings [("x", .code s)]
  have feed : '\n' ∉ h := fun mem => line (Text.mem_of_mem_trim mem)
  have spelled : (blockTemplate header).toList
      = ['\n'].intercalate [Template.literal h ++ [' ', '\x7b'], Text.holeLine, ['\x7d']] := by
    rw [blockTemplate, Text.ofLines, String.toList_intercalate]
    simp only [List.map_cons, List.map_nil, String.toList_append, String.toList_ofList]
    rfl
  have written : run w (.template (blockTemplate header) [("x", .code s)])
      = templateLine fs (templateLine fs (templateLine fs w (Template.literal h ++ [' ', '\x7b']))
          Text.holeLine) ['\x7d'] := by
    rw [run, spelled, Text.dedent_block (Template.feed_not_mem_literal feed)]
    rfl
  have opening : templateLine fs w (Template.literal h ++ [' ', '\x7b'])
      = w.line (h ++ [' ', '\x7b']) :=
    templateLine_literal fs w (by simpa using feed) (by decide)
  have closing (u : Writer φ) : templateLine fs u ['\x7d'] = u.line ['\x7d'] :=
    @templateLine_literal φ fs u [] ['\x7d'] (by decide) (by decide)
  rw [written, opening, closing, templateLine_hole _ s flat closed, run_block]
  show ((run _ (.splice s)).atDepth _).line _ = _
  have splice (u : Writer φ) : run u (.splice s) = runAll u (s.getD []) := runAll_splice u s
  rw [splice]
  rfl

/-- Code that starts with a blank line, holds a block, and records an error. -/
def guardSnippet : Snippet Fragment :=
  some [.blankLine, .block "if ready" [.code "go();\n\nstop();"], .fail (.unknownShape "a#B")]

theorem run_block_eq_template_guard :
    '\n' ∉ "fn run#1".toList ∧ guardSnippet.IsFlat ∧
      ¬ Text.EndsBlank (run {} (.splice guardSnippet)).contents.toList ∧
      run moduleWriter (.block "fn run#1" [.splice guardSnippet])
        = run moduleWriter
          (.template "fn run##1 \x7b\n    #\x7bx\x7d\n\x7d" [("x", .code guardSnippet)]) := by
  have line : '\n' ∉ "fn run#1".toList := by decide
  have flat : guardSnippet.IsFlat := by
    refine ⟨trivial, ⟨?_, trivial, trivial⟩, trivial, trivial⟩
    decide
  have lines : Text.lines (run {} (.splice guardSnippet)).contents.toList
      = [[], "if ready \x7b".toList, "    go();".toList, [], "    stop();".toList, ['\x7d']] := by
    rfl
  have closed : ¬ Text.EndsBlank (run {} (.splice guardSnippet)).contents.toList := by
    rintro ⟨l, last, blank⟩
    rw [lines] at last
    cases last
    exact absurd blank (by decide)
  have spelled : blockTemplate "fn run#1" = "fn run##1 \x7b\n    #\x7bx\x7d\n\x7d" := by rfl
  have both := run_block_eq_template moduleWriter "fn run#1" guardSnippet line flat closed
  rw [spelled] at both
  exact ⟨line, flat, closed, both⟩

/-- Code that is written at the start of a text only. -/
def openingSnippet : Snippet Fragment :=
  some [.look fun v => if v.contents = "" then [.code "x();"] else []]

/-- In a block, the code stands behind the header and is left out; in a hole, it is written. -/
theorem run_block_ne_template :
    '\n' ∉ "h".toList ∧ ¬ Text.EndsBlank (run {} (.splice openingSnippet)).contents.toList ∧
      (run {} (.block "h" [.splice openingSnippet])).contents = "h \x7b\n\x7d\n" ∧
      (run {} (.template (blockTemplate "h") [("x", .code openingSnippet)])).contents
        = "h \x7b\n    x();\n\x7d\n" ∧
      run {} (.block "h" [.splice openingSnippet])
        ≠ run {} (.template (blockTemplate "h") [("x", .code openingSnippet)]) := by
  have line : '\n' ∉ "h".toList := by decide
  have lines : Text.lines (run {} (.splice openingSnippet)).contents.toList
      = ["x();".toList] := by
    rfl
  have closed : ¬ Text.EndsBlank (run {} (.splice openingSnippet)).contents.toList := by
    rintro ⟨l, last, blank⟩
    rw [lines] at last
    cases last
    exact absurd blank (by decide)
  have block : (run {} (.block "h" [.splice openingSnippet])).contents = "h \x7b\n\x7d\n" := by
    rfl
  have template : (run {} (.template (blockTemplate "h") [("x", .code openingSnippet)])).contents
      = "h \x7b\n    x();\n\x7d\n" := by
    rfl
  refine ⟨line, closed, block, template, fun same => ?_⟩
  rw [same, template] at block
  exact absurd block (by decide)

end Writer

end Cratewright
