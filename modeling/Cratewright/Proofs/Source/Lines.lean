/-
Lines that scripts write.

Where the lines of a script stand depends on how deep it is run, but not what is on them. So a
script is said to write lines if running it, whatever has been written before, adds these to
the text, but for blank lines and the blanks at the ends of lines, and records no error:

* `Writer.Writes.append`, `Writer.Writes.flatMap` — scripts one after the other;
* `Writer.Writes.template` — a template writes its lines with their holes filled;
* `Writer.Writes.fills` — a hole for code is filled with the lines that the code writes;
* `Writer.Writes.render` — the text of a script has the lines that the script writes.
-/
import Mathlib.Data.List.TakeWhile
import Cratewright.Proofs.Source.Scripts
import Cratewright.Proofs.Text.Lines

namespace Cratewright

variable {φ : Type}

/-! ### Templates as texts and holes -/

namespace Template

/-- A part of a line of a template: a text without holes, or a hole. -/
inductive Chunk where
  | text (t : String)
  | hole (name : String)

def Chunk.segments : Chunk → List Segment
  | .text t => t.toList.map .char
  | .hole name => [.hole name]

/-- The segments of a line, without the blanks that it starts with. -/
def unindented (line : List Char) : List Segment := parse (Text.trimStart line)

/-- The chunks make up the lines of the template, less the blanks that the lines start with. -/
def HasLines (text : String) (lines : List (List Chunk)) : Prop :=
  (Text.dedent text.toList).map unindented = lines.map fun chunks => chunks.flatMap Chunk.segments

/-- Chunks are put together from texts that are given by their characters. -/
inductive Reads : List Chunk → List Segment → Prop where
  | nil : Reads [] []
  | text {cs : List Char} {chunks : List Chunk} {segments : List Segment} :
      Reads chunks segments → Reads (.text (String.ofList cs) :: chunks) (cs.map .char ++ segments)
  | hole {name : String} {chunks : List Chunk} {segments : List Segment} :
      Reads chunks segments → Reads (.hole name :: chunks) (.hole name :: segments)

theorem Reads.eq {chunks : List Chunk} {segments : List Segment} (h : Reads chunks segments) :
    chunks.flatMap Chunk.segments = segments := by
  induction h with
  | nil => rfl
  | text _ ih => rw [List.flatMap_cons, ih, Chunk.segments, String.toList_ofList]
  | hole _ ih => rw [List.flatMap_cons, ih]; rfl

section HasLines

variable {lines : List (List Chunk)} {segments : List (List Segment)}

theorem hasLines {text : String} {cs : List Char} (h : text.toList = cs)
    (hr : List.Forall₂ Reads lines segments) (hs : (Text.dedent cs).map unindented = segments) :
    HasLines text lines := by
  rw [HasLines, h, hs]
  clear hs
  induction hr with
  | nil => rfl
  | cons first _ ih => rw [List.map_cons, first.eq, ih]

theorem hasLines_of_spelled {text : String} {cs : List Char} (h : Spelled text cs)
    (hr : List.Forall₂ Reads lines segments) (hs : (Text.dedent cs).map unindented = segments) :
    HasLines text lines :=
  hasLines h.toList_eq hr hs

theorem hasLines_ofLines {ls : List String} {css : List (List Char)}
    (h : List.Forall₂ Spelled ls css) (hr : List.Forall₂ Reads lines segments)
    (hs : (Text.dedent (['\n'].intercalate css)).map unindented = segments) :
    HasLines (Text.ofLines ls) lines :=
  hasLines (toList_ofLines h) hr hs

end HasLines

theorem parse_cons_of_isBlank {c : Char} (h : Text.isBlank c = true) (l : List Char) :
    parse (c :: l) = .char c :: parse l := by
  have ne : c ≠ '#' := by
    rintro rfl
    exact absurd h (by decide)
  show parseFrom 0 (c :: l) = .char c :: parseFrom 0 l
  rw [parseFrom.eq_def]
  exact if_neg ne

/-- Blanks are no holes. -/
theorem hole_mem_unindented {name : String} {l : List Char} (h : .hole name ∈ parse l) :
    .hole name ∈ unindented l := by
  induction l with
  | nil => exact h
  | cons c l ih =>
    by_cases blank : Text.isBlank c = true
    · rw [parse_cons_of_isBlank blank, List.mem_cons] at h
      rw [unindented, Text.trimStart, List.dropWhile_cons_of_pos blank, ← Text.trimStart]
      exact ih (h.resolve_left (by nofun))
    · rw [unindented, Text.trimStart, List.dropWhile_cons_of_neg blank]
      exact h

theorem hole_mem_segments {name : String} {chunk : Chunk} (h : .hole name ∈ chunk.segments) :
    chunk = .hole name := by
  cases chunk with
  | text t =>
    obtain ⟨_, _, e⟩ := List.mem_map.mp h
    cases e
  | hole other =>
    cases List.mem_singleton.mp h
    rfl

end Template

namespace Writer

/-! ### Single lines -/

/-- A line at a depth. -/
def indented (depth : Nat) (text : List Char) : List Char :=
  let body := Text.trimEnd text
  if body.isEmpty then [] else (List.replicate depth indentation).flatten ++ body

theorem lines_writeLines (w : Writer φ) (ls : List (List Char)) :
    (w.writeLines ls).lines = w.lines ++ ls.map (indented w.depth) := by
  induction ls generalizing w with
  | nil => exact (List.append_nil _).symm
  | cons l ls ih =>
    have first : (w.line l).lines = w.lines ++ [indented w.depth l] := rfl
    refine (ih (w.line l)).trans ?_
    rw [first, List.append_assoc]
    rfl

theorem indented_zero (text : List Char) : indented 0 text = Text.trimEnd text := by
  rw [indented]
  cases Text.trimEnd text <;> rfl

theorem bareLines_indented (depth : Nat) (text : List Char) :
    Text.bareLines (indented depth text) = Text.bareLines text := by
  rw [← Text.bareLines_trimEnd text, indented]
  split
  · rename_i empty
    rw [List.isEmpty_iff.mp empty]
  · refine Text.bareLines_blanks_append (fun c hc => ?_) _
    obtain ⟨_, hl, hc⟩ := List.mem_flatten.mp hc
    have all : ∀ c ∈ indentation, Text.isBlank c = true := List.all_eq_true.mp rfl
    exact all c (List.eq_of_mem_replicate hl ▸ hc)

/-- The bare lines of what has been written. -/
def bareLines (w : Writer φ) : List (List Char) := w.lines.flatMap Text.bareLines

theorem bareLines_writeLines (w : Writer φ) (ls : List (List Char)) :
    (w.writeLines ls).bareLines = w.bareLines ++ ls.flatMap Text.bareLines := by
  rw [bareLines, lines_writeLines, List.flatMap_append, List.flatMap_map]
  exact congrArg _ (List.flatMap_congr fun l _ => bareLines_indented w.depth l)

theorem bareLines_line (w : Writer φ) (text : List Char) :
    (w.line text).bareLines = w.bareLines ++ Text.bareLines text := by
  have one := bareLines_writeLines w [text]
  rw [List.flatMap_singleton] at one
  exact one

/-! ### Lines of templates -/

section Templates

variable (fillings : List (String × Filling φ)) (leading : List Char)

/-- What a segment is replaced by on a line that is indented. -/
def replaced : Template.Segment → List Char
  | .char c => [c]
  | .hole name =>
    match fillings.lookup name with
    | none => []
    | some f => f.under leading

/-- What a segment is replaced by on a line that is not. -/
def filled : Template.Segment → List Char
  | .char c => [c]
  | .hole name =>
    match fillings.lookup name with
    | none => []
    | some f => f.text

theorem lines_expand (w : Writer φ) (segments : List Template.Segment) :
    (expand fillings leading w segments).1.lines = w.lines ∧
      (expand fillings leading w segments).2 = segments.flatMap (replaced fillings leading) := by
  induction segments generalizing w with
  | nil => exact ⟨rfl, rfl⟩
  | cons s segments ih =>
    cases s with
    | char c =>
      obtain ⟨lines, text⟩ := ih w
      exact ⟨lines, congrArg (c :: ·) text⟩
    | hole name =>
      obtain ⟨lines, text⟩ := ih (w.fill fillings leading name).1
      have first : (w.fill fillings leading name).1.lines = w.lines ∧
          (w.fill fillings leading name).2 = replaced fillings leading (.hole name) := by
        rw [fill, replaced]
        cases fillings.lookup name with
        | none => exact ⟨rfl, rfl⟩
        | some f =>
          refine ⟨?_, rfl⟩
          dsimp only
          cases f.error <;> rfl
      refine ⟨lines.trans first.1, ?_⟩
      rw [List.flatMap_cons, ← text, ← first.2]
      rfl

variable {leading} (blank : ∀ c ∈ leading, Text.isBlank c = true)

include blank

theorem bareLines_hanging (rest : List (List Char)) (before after : List Char) :
    Text.bareLines (before ++
        (rest.flatMap fun p => '\n' :: if p.isEmpty then [] else leading ++ p) ++ after)
      = Text.bareLines (before ++ rest.flatMap ('\n' :: ·) ++ after) := by
  induction rest generalizing before with
  | nil => rfl
  | cons p rest ih =>
    have indent (s : List Char) : Text.bareLines ((if p.isEmpty then [] else leading ++ p) ++ s)
        = Text.bareLines (p ++ s) := by
      split
      · rename_i empty
        rw [List.isEmpty_iff.mp empty]
      · rw [List.append_assoc, Text.bareLines_blanks_append blank]
    rw [List.flatMap_cons, List.flatMap_cons, List.cons_append, List.cons_append,
      List.append_assoc, List.append_assoc, List.cons_append, List.cons_append,
      Text.bareLines_append_feed, Text.bareLines_append_feed, List.append_assoc,
      List.append_assoc, indent, ← List.append_assoc, ih, List.append_assoc]

/-- Text that hangs below a hole has the same bare lines as if it did not. -/
theorem bareLines_under (f : Filling φ) (before after : List Char) :
    Text.bareLines (before ++ f.under leading ++ after)
      = Text.bareLines (before ++ f.text ++ after) := by
  rw [Filling.under]
  split
  · obtain ⟨p, ps, hp⟩ := List.exists_cons_of_ne_nil (Text.pieces_ne_nil f.text)
    have text : f.text = p ++ ps.flatMap ('\n' :: ·) := by
      rw [← Text.intercalate_pieces f.text, hp, Text.intercalate_cons]
    rw [hp, text, ← List.append_assoc, ← List.append_assoc]
    exact bareLines_hanging blank ps (before ++ p) after
  · rfl

theorem bareLines_replaced (segments : List Template.Segment) (before : List Char) :
    Text.bareLines (before ++ segments.flatMap (replaced fillings leading))
      = Text.bareLines (before ++ segments.flatMap (filled fillings)) := by
  induction segments generalizing before with
  | nil => rfl
  | cons s segments ih =>
    have same (after : List Char) :
        Text.bareLines (before ++ replaced fillings leading s ++ after)
          = Text.bareLines (before ++ filled fillings s ++ after) := by
      cases s with
      | char c => rfl
      | hole name =>
        rw [replaced, filled]
        cases fillings.lookup name with
        | none => rfl
        | some f => exact bareLines_under blank f before after
    rw [List.flatMap_cons, List.flatMap_cons, ← List.append_assoc, same, ih,
      List.append_assoc]

end Templates

/-- The blanks that a line of a template starts with do not count. -/
theorem bareLines_unindented (fillings : List (String × Filling φ)) (l : List Char) :
    Text.bareLines ((Template.unindented l).flatMap (filled fillings))
      = Text.bareLines ((Template.parse l).flatMap (filled fillings)) := by
  induction l with
  | nil => rfl
  | cons c l ih =>
    by_cases h : Text.isBlank c = true
    · rw [Template.unindented, Text.trimStart, List.dropWhile_cons_of_pos h, ← Text.trimStart,
        ← Template.unindented, ih,
        Template.parse_cons_of_isBlank h, List.flatMap_cons]
      exact (Text.bareLines_cons_of_isBlank h _).symm
    · rw [Template.unindented, Text.trimStart, List.dropWhile_cons_of_neg h]

theorem bareLines_templateLine (fillings : List (String × Filling φ)) (w : Writer φ)
    (l : List Char) : (templateLine fillings w l).bareLines
      = w.bareLines ++ Text.bareLines ((Template.parse l).flatMap (filled fillings)) := by
  obtain ⟨lines, text⟩ := lines_expand fillings (Text.leadingBlanks l) w (Template.parse l)
  have blank : ∀ c ∈ Text.leadingBlanks l, Text.isBlank c = true :=
    fun c hc => List.mem_takeWhile_imp hc
  have same := bareLines_replaced fillings blank (Template.parse l) []
  rw [List.nil_append, List.nil_append, ← text] at same
  rw [← same, templateLine]
  dsimp only
  split
  · rename_i skipped
    rw [Text.bareLines_of_isBlankText (Bool.and_eq_true_iff.mp skipped).2, List.append_nil,
      bareLines, lines, bareLines]
  · rw [bareLines_writeLines, Text.lineByLine_bareLines.flatMap_pieces, bareLines, lines, bareLines]

theorem bareLines_template (fillings : List (String × Filling φ)) (w : Writer φ)
    (ls : List (List Char)) : (w.template fillings ls).bareLines = w.bareLines ++
      ls.flatMap fun l => Text.bareLines ((Template.parse l).flatMap (filled fillings)) := by
  induction ls generalizing w with
  | nil => exact (List.append_nil _).symm
  | cons l ls ih =>
    refine (ih (templateLine fillings w l)).trans ?_
    rw [bareLines_templateLine, List.append_assoc, List.flatMap_cons]

/-! ### What a script writes -/

/-- The script records no error and writes exactly the given bare lines. -/
structure Writes (script : List (Command φ)) (ls : List (List Char)) : Prop where
  lines (w : Writer φ) : (runAll w script).bareLines = w.bareLines ++ ls
  error (w : Writer φ) : (runAll w script).error = w.error

variable {script rest : List (Command φ)} {ls ks : List (List Char)}

theorem writes_nil : Writes ([] : List (Command φ)) [] where
  lines _ := (List.append_nil _).symm
  error _ := rfl

theorem Writes.append (h : Writes script ls) (hr : Writes rest ks) :
    Writes (script ++ rest) (ls ++ ks) where
  lines w := by rw [runAll_append, hr.lines, h.lines, List.append_assoc]
  error w := by rw [runAll_append, hr.error, h.error]

theorem Writes.cons {c : Command φ} (h : Writes [c] ls) (hr : Writes rest ks) :
    Writes (c :: rest) (ls ++ ks) :=
  h.append hr

theorem Writes.flatMap {α : Type} {f : α → List (Command φ)} {g : α → List (List Char)} :
    ∀ {l : List α}, (∀ a ∈ l, Writes (f a) (g a)) → Writes (l.flatMap f) (l.flatMap g)
  | [], _ => writes_nil
  | a :: l, h => by
    rw [List.flatMap_cons, List.flatMap_cons]
    exact (h a (List.mem_cons_self ..)).append
      (Writes.flatMap fun b hb => h b (List.mem_cons_of_mem _ hb))

theorem writes_writeLines {c : Command φ} (written : List (List Char))
    (h : ∀ w, run w c = w.writeLines written) (hls : written.flatMap Text.bareLines = ls) :
    Writes [c] ls where
  lines w := by rw [runAll, runAll, h, bareLines_writeLines, hls]
  error w := by rw [runAll, runAll, h, error_writeLines]

/-- Code writes the lines that it consists of, which are spelled out to be compared. -/
theorem writes_code {text : String} {cs : List Char} {texts : List String}
    {css : List (List Char)} (h : text.toList = cs)
    (ht : List.Forall₂ Template.Spelled texts css)
    (hs : (Text.dedent cs).flatMap Text.bareLines = css.flatMap Text.bareLines) :
    Writes [(.code text : Command φ)] (Text.linesOf texts) := by
  refine writes_writeLines _ (fun _ => by rw [run]) ?_
  rw [h, hs]
  clear hs
  induction ht with
  | nil => rfl
  | cons first _ ih =>
    rw [List.flatMap_cons, ih, ← first.toList_eq]
    rfl

theorem writes_attribute (text : String) :
    Writes [(.attribute text : Command φ)] (Text.linesOf ["#[" ++ text ++ "]"]) := by
  refine writes_writeLines [['#', '['] ++ text.toList ++ [']']] (fun _ => rfl) ?_
  rw [Text.linesOf, List.flatMap_singleton, List.flatMap_singleton, String.toList_append,
    String.toList_append]
  rfl

theorem writes_blankLine : Writes [(.blankLine : Command φ)] [] :=
  writes_writeLines [[]] (fun _ => rfl) rfl

/-- The lines of a documentation. -/
def docLines (text : String) : List (List Char) :=
  (Text.dedent text.toList).flatMap fun l => Text.bareLines
    (if Text.isBlankText l then ['/', '/', '/'] else ['/', '/', '/', ' '] ++ l)

theorem writes_docs (text : String) : Writes [(.docs text : Command φ)] (docLines text) :=
  writes_writeLines _ (fun _ => by
    rw [run]
    rfl) (List.flatMap_map ..)

/-- Documentation of a single line. -/
theorem writes_docs_line {text : String} {cs : List Char} (h : Template.Spelled text cs)
    (line : Text.dedent cs = [cs]) (ne : Text.isBlankText cs = false) :
    Writes [(.docs text : Command φ)] (Text.linesOf ["/// " ++ text]) := by
  have lines : docLines text = Text.linesOf ["/// " ++ text] := by
    rw [docLines, Text.linesOf, List.flatMap_singleton, String.toList_append, h.toList_eq, line,
      List.flatMap_singleton, ne]
    rfl
  exact lines ▸ writes_docs text

theorem Writes.block {header : String} {cs : List Char} (hc : Template.Spelled header cs)
    (trimmed : Text.trim cs = cs) (h : Writes script ls) :
    Writes [.block header script]
      (Text.linesOf [header ++ " \x7b"] ++ (ls ++ Text.linesOf ["\x7d"])) where
  lines w := by
    let inner : Writer φ :=
      { w.line (Text.trim header.toList ++ [' ', '\x7b']) with depth := w.depth + 1 }
    have entered : inner.bareLines
        = w.bareLines ++ Text.bareLines (Text.trim header.toList ++ [' ', '\x7b']) :=
      bareLines_line w _
    have closed : (runAll w [.block header script]).bareLines
        = (runAll inner script).bareLines ++ Text.bareLines ['\x7d'] := by
      rw [runAll, runAll, run]
      exact bareLines_line { runAll inner script with depth := _ } _
    have opening : Text.linesOf [header ++ " \x7b"]
        = Text.bareLines (Text.trim header.toList ++ [' ', '\x7b']) := by
      rw [Text.linesOf, List.flatMap_singleton, String.toList_append, hc.toList_eq, trimmed]
      rfl
    rw [closed, h.lines, entered, opening, List.append_assoc, List.append_assoc]
    rfl
  error w := h.error { w.line _ with depth := _ }

/-- What a contributor has to say is written where it is spliced in. -/
theorem Writes.splice {snippet : Snippet φ} (h : Writes (snippet.getD []) ls) :
    Writes [.splice snippet] ls := by
  cases snippet with
  | none => exact ⟨h.lines, h.error⟩
  | some script => exact ⟨h.lines, h.error⟩

/-! ### What a template writes -/

/-- Code that fills a hole has the lines that it writes. -/
theorem Writes.fills (snippet : Snippet φ) (h : Writes (snippet.getD []) ls) :
    Text.bareLines (filling (.code snippet)).text = ls ∧
      (filling (.code snippet)).error = none := by
  cases snippet with
  | none => exact ⟨h.lines {}, rfl⟩
  | some script =>
    have written : (runAll {} script).bareLines = ls := h.lines {}
    obtain ⟨dropped, hs, feeds⟩ :=
      Text.dropEndWhile_spec (· == '\n') (Text.unlines (runAll {} script).lines)
    have blanks : ∀ c ∈ dropped, Text.isBlank c = true := by
      intro c hc
      rw [beq_iff_eq.mp (feeds c hc)]
      rfl
    refine ⟨?_, h.error {}⟩
    rw [← written, bareLines, ← Text.lineByLine_bareLines.flatMap_unlines, hs,
      Text.bareLines_append_blanks blanks]
    rfl

/-- The text of a chunk with its hole filled. -/
def chunkText (bindings : List (String × Argument φ)) : Template.Chunk → List Char
  | .text t => t.toList
  | .hole name => filled (fillings bindings) (.hole name)

@[simp] theorem chunkText_text (bindings : List (String × Argument φ)) (t : String) :
    chunkText bindings (.text t) = t.toList :=
  rfl

@[simp] theorem chunkText_hole (n : String) (a : Argument φ)
    (bindings : List (String × Argument φ)) (name : String) :
    chunkText ((n, a) :: bindings) (.hole name) =
      if name = n then (Writer.filling a).text else chunkText bindings (.hole name) := by
  rw [chunkText, filled, fillings, List.lookup_cons]
  by_cases same : name = n
  · rw [if_pos same, same, beq_self_eq_true]
  · rw [if_neg same, beq_eq_false_iff_ne.mpr same]
    rfl

@[simp] theorem text_filling_text (t : String) :
    (Writer.filling (.text t : Argument φ)).text = t.toList :=
  rfl

@[simp] theorem text_filling_item (i : ItemPath φ) :
    (Writer.filling (.item i)).text = i.path.toList :=
  rfl

@[simp] theorem error_filling_text (t : String) :
    (Writer.filling (.text t : Argument φ)).error = none :=
  rfl

@[simp] theorem error_filling_item (i : ItemPath φ) : (Writer.filling (.item i)).error = none :=
  rfl

theorem flatMap_segments (bindings : List (String × Argument φ)) (chunk : Template.Chunk) :
    chunk.segments.flatMap (filled (fillings bindings)) = chunkText bindings chunk := by
  cases chunk with
  | text t =>
    rw [Template.Chunk.segments, List.flatMap_map]
    exact List.flatMap_singleton' _
  | hole name => exact List.flatMap_singleton ..

theorem lookup_fillings {bindings : List (String × Argument φ)}
    (clean : ∀ b ∈ bindings, (filling b.2).error = none) {name : String}
    (bound : name ∈ bindings.map Prod.fst) :
    ∃ f, (fillings bindings).lookup name = some f ∧ f.error = none := by
  induction bindings with
  | nil => cases bound
  | cons b bindings ih =>
    obtain ⟨n, a⟩ := b
    rw [fillings, List.lookup_cons]
    split
    · exact ⟨_, rfl, clean _ (List.mem_cons_self ..)⟩
    · rename_i other
      refine ih (fun b hb => clean b (List.mem_cons_of_mem _ hb)) ?_
      exact (List.mem_cons.mp bound).resolve_left (beq_eq_false_iff_ne.mp other)

/-- Lines that have the segments of chunks have the bare lines of the chunks. -/
theorem flatMap_bareLines_of_unindented {bindings : List (String × Argument φ)}
    {ks : List (List Char)} {lines : List (List Template.Chunk)}
    (same : ks.map Template.unindented
      = lines.map fun chunks => chunks.flatMap Template.Chunk.segments) :
    (ks.flatMap fun l =>
        Text.bareLines ((Template.parse l).flatMap (filled (fillings bindings))))
      = lines.flatMap fun l => Text.bareLines (l.flatMap (chunkText bindings)) := by
  have each := congrArg (List.flatMap fun segments =>
    Text.bareLines (segments.flatMap (filled (fillings bindings)))) same
  rw [List.flatMap_map, List.flatMap_map] at each
  simp only [bareLines_unindented, List.flatMap_assoc, flatMap_segments] at each
  exact each

/-- A template of which every hole is bound writes its lines with their holes filled. -/
theorem Writes.template {text : String} {bindings : List (String × Argument φ)}
    (lines : List (List Template.Chunk)) (h : Template.HasLines text lines)
    (clean : ∀ b ∈ bindings, (filling b.2).error = none)
    (bound : ∀ l ∈ lines, ∀ name, .hole name ∈ l → name ∈ bindings.map Prod.fst)
    (hls : (lines.flatMap fun l => Text.bareLines (l.flatMap (chunkText bindings))) = ls) :
    Writes [.template text bindings] ls where
  lines w := by
    rw [runAll, runAll, run, bareLines_template, flatMap_bareLines_of_unindented h, hls]
  error w := by
    rw [runAll, runAll, run]
    refine error_template w fun name hn => ?_
    obtain ⟨l, hl, hn⟩ := List.mem_flatMap.mp hn
    have parsed := List.mem_map_of_mem (f := Template.unindented) hl
    rw [h] at parsed
    obtain ⟨chunks, hc, same⟩ := List.mem_map.mp parsed
    have mem := Template.hole_mem_unindented hn
    rw [← same] at mem
    obtain ⟨chunk, hchunk, mem⟩ := List.mem_flatMap.mp mem
    exact lookup_fillings clean
      (bound chunks hc name (Template.hole_mem_segments mem ▸ hchunk))

/-- A script that writes lines has a text with these lines. -/
theorem Writes.render (h : Writes script ls) :
    ∃ out, Cratewright.render script = .ok out ∧ Text.bareLines out.contents.toList = ls := by
  have clean : (runAll {} script).error = none := h.error {}
  have written : (runAll {} script).bareLines = ls := h.lines {}
  rw [Cratewright.render, finish, clean]
  refine ⟨_, rfl, ?_⟩
  rw [← written, bareLines, ← Text.lineByLine_bareLines.flatMap_unlines]
  exact congrArg Text.bareLines String.toList_ofList

end Writer

end Cratewright
