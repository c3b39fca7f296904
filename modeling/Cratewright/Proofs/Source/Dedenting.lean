/-
Code and documentation without their margin.

Code is written line by line, and documentation likewise behind three slashes, both from the first
to the last line with text on it and without the margin that their lines share. Up to blanks a line
is written as it was, unless the margin ends inside one of its blanks; then it is lost:

* `Writer.trim_indented`, `Writer.indented_docText` — the blanks of a written line do not count;
* `Writer.run_keeps_lines_iff` — what becomes of each line, and when all of them are kept;
* `Writer.not_forall_keeps_lines` — a text that loses a line.
-/
import Cratewright.Proofs.Source.Placement
import Cratewright.Proofs.Text.Margins

namespace Cratewright

namespace Text

theorem Survives.congr {n : Nat} {l k k' : List Char} (h : Survives n l k)
    (same : trim k' = trim k) : Survives n l k' := by
  rw [Survives, same]
  exact h

/-- Lines survive the cut of their own margin, and whatever changes their blanks afterwards. -/
theorem forall₂_survives {f : List Char → List Char} (same : ∀ k, trim (f k) = trim k)
    (body : List (List Char)) : List.Forall₂ (Survives (margin body)) body
      (body.map fun l => f (dropBytes (margin body) l)) := by
  rw [List.forall₂_map_right_iff, List.forall₂_same]
  intro l hl
  exact (survives_dropBytes hl).congr (same _)

end Text

namespace Writer

variable {φ : Type}

theorem isBlank_of_mem_blanks {c : Char} {depth : Nat} (h : c ∈ blanks depth) :
    Text.isBlank c = true := by
  rw [eq_of_mem_blanks h]
  rfl

theorem trim_indented (depth : Nat) (text : List Char) :
    Text.trim (indented depth text) = Text.trim text := by
  rw [indented_eq_hung, hung, ← Text.trim_trimEnd text]
  split
  · rename_i empty
    rw [List.isEmpty_iff.mp empty]
  · exact Text.trim_blanks_append (fun c => isBlank_of_mem_blanks) _

/-! ### Documentation -/

/-- What documentation is written as. -/
def docText (l : List Char) : List Char :=
  if Text.isBlankText l then ['/', '/', '/'] else ['/', '/', '/', ' '] ++ l

/-- What stands behind the slashes. -/
def afterSlashes (l : List Char) : List Char :=
  if Text.isBlankText l then [] else ' ' :: Text.trimEnd l

/-- A line of documentation at a depth. -/
def docLine (depth : Nat) (rest : List Char) : List Char := blanks depth ++ ['/', '/', '/'] ++ rest

theorem indented_docText (depth : Nat) (l : List Char) :
    indented depth (docText l) = docLine depth (afterSlashes l) := by
  have trimmed : Text.trimEnd (docText l) = ['/', '/', '/'] ++ afterSlashes l := by
    rw [docText, afterSlashes]
    cases blank : Text.isBlankText l with
    | true => rfl
    | false => exact Text.trimEnd_append_of_text blank _
  rw [indented_eq_hung, trimmed, docLine, List.append_assoc]
  rfl

theorem trim_afterSlashes (l : List Char) : Text.trim (afterSlashes l) = Text.trim l := by
  rw [afterSlashes]
  cases blank : Text.isBlankText l with
  | true => exact (Text.trim_eq_nil_iff.mpr blank).symm
  | false =>
    have space : ∀ c ∈ [' '], Text.isBlank c = true := List.all_eq_true.mp rfl
    show Text.trim ([' '] ++ Text.trimEnd l) = _
    rw [Text.trim_blanks_append space, Text.trim_trimEnd]

/-! ### What becomes of the lines -/

/-- Code and documentation have the lines of their text from the first to the last with text on it.
Up to blanks each of them is as it was or, if the margin ends inside one of its blanks, empty. So
the lines are those of the text exactly if the margin spares each that is not blank. -/
theorem run_keeps_lines_iff (w : Writer φ) (t : String) :
    ∃ body ls rs, Text.IsBody t.toList body ∧
      (run w (.code t)).lines = w.lines ++ ls ∧
      (run w (.docs t)).lines = w.lines ++ rs.map (docLine w.depth) ∧
      List.Forall₂ (Text.Survives (Text.margin body)) body ls ∧
      List.Forall₂ (Text.Survives (Text.margin body)) body rs ∧
      (ls.map Text.trim = body.map Text.trim ↔ Text.IsEven body) ∧
      (rs.map Text.trim = body.map Text.trim ↔ Text.IsEven body) := by
  let body := Text.trimLines (Text.lines t.toList)
  let cut := Text.dropBytes (Text.margin body)
  have dedented : Text.dedent t.toList = body.map cut := rfl
  have code := Text.forall₂_survives (trim_indented w.depth) body
  have docs := Text.forall₂_survives trim_afterSlashes body
  refine ⟨body, body.map fun l => indented w.depth (cut l), body.map fun l => afterSlashes (cut l),
    Text.isBody_trimLines _, ?_, ?_, code, docs,
    Text.map_trim_eq_iff code, Text.map_trim_eq_iff docs⟩
  · rw [run, lines_writeLines, dedented, List.map_map]
    rfl
  · have texts : run w (.docs t) = w.writeLines ((Text.dedent t.toList).map docText) := by
      rw [run, writeDocs]
      rfl
    rw [texts, lines_writeLines, dedented]
    simp only [List.map_map, Function.comp_def, indented_docText]

/-- A line that starts with a space, and one that starts with an ideographic space. -/
def unevenText : String := " a\n\u3000b"

/-- The margin is one byte, and the ideographic space takes three, so its line is lost. -/
theorem not_forall_keeps_lines :
    ¬ ∀ (w : Writer Fragment) (t : String) (body ls : List (List Char)),
      Text.IsBody t.toList body → (run w (.code t)).lines = w.lines ++ ls →
        ls.map Text.trim = body.map Text.trim := by
  intro keeps
  have cut : Text.trimLines (Text.lines unevenText.toList) = [[' ', 'a'], ['\u3000', 'b']] := by rfl
  have written : (run ({} : Writer Fragment) (.code unevenText)).lines = [['a'], []] := by
    rw [run]
    rfl
  have body := Text.isBody_trimLines unevenText.toList
  rw [cut] at body
  have same := keeps {} unevenText _ _ body written
  exact absurd same (by decide)

end Writer

end Cratewright
