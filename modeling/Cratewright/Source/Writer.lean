/-
Writing source text.

A writer holds the lines written so far, how deep the next line is indented, what the text
needs, and the first thing that went wrong; an error does not stop it. `Writer.run` carries
out a command.

A template is written line by line. Each hole is replaced by what its name is bound to, and
further lines of a replacement are indented like the line that the hole is on. A line that
has a hole and comes out blank is left out.
-/
import Cratewright.Source.Script
import Cratewright.Source.Template
import Cratewright.Text.Lines

namespace Cratewright

/-- A finished text, with what it needs in the order of use. -/
structure Output (φ : Type) where
  contents : String
  requirements : List (Requirement φ)

/-- What has been written so far. -/
structure Writer (φ : Type) where
  /-- The lines, without the line feeds at their ends. -/
  lines : List (List Char) := []
  /-- The depth that the next line is indented by. -/
  depth : Nat := 0
  /-- What the text needs, in the order of use. -/
  requirements : List (Requirement φ) := []
  /-- The first error. -/
  error : Option Error := none

/-- What a hole is filled with. -/
structure Filling (φ : Type) where
  text : List Char
  /-- Whether lines after the first are indented like the line of the hole. -/
  hangs : Bool := true
  requirements : List (Requirement φ) := []
  error : Option Error := none

/-- The text of a filling on a line that is indented by `leading`. -/
def Filling.under {φ : Type} (f : Filling φ) (leading : List Char) : List Char :=
  if f.hangs then
    match Text.pieces f.text with
    | [] => []
    | first :: rest =>
      first ++ rest.flatMap fun p => '\n' :: if p.isEmpty then [] else leading ++ p
  else f.text

namespace Writer

variable {φ : Type}

/-- The blanks that each level of depth indents by. -/
def indentation : List Char := [' ', ' ', ' ', ' ']

/-- The text written so far. -/
def contents (w : Writer φ) : String := String.ofList (Text.unlines w.lines)

/-- What a script sees of the writer. -/
def view (w : Writer φ) : View where
  contents := w.contents
  requirements := w.requirements.map Requirement.outline

/-- Records an error, if it is the first. -/
def fail (w : Writer φ) (e : Error) : Writer φ := { w with error := w.error.or (some e) }

/-- Records what the text needs. -/
def require (w : Writer φ) (rs : List (Requirement φ)) : Writer φ :=
  { w with requirements := w.requirements ++ rs }

/-- Writes a line at the current depth, without the blanks at its end. -/
def line (w : Writer φ) (text : List Char) : Writer φ :=
  let body := Text.trimEnd text
  let indented :=
    if body.isEmpty then [] else (List.replicate w.depth indentation).flatten ++ body
  { w with lines := w.lines ++ [indented] }

/-- Writes lines one after the other. -/
def writeLines (w : Writer φ) (ls : List (List Char)) : Writer φ := ls.foldl line w

/-- Writes lines as documentation. -/
def writeDocs (w : Writer φ) (ls : List (List Char)) : Writer φ :=
  w.writeLines (ls.map fun l =>
    if Text.isBlankText l then ['/', '/', '/'] else ['/', '/', '/', ' '] ++ l)

/-! ### Templates -/

/-- The text of a hole. A name that nothing is bound to is an error. -/
def fill (w : Writer φ) (fillings : List (String × Filling φ)) (leading : List Char)
    (name : String) : Writer φ × List Char :=
  match fillings.lookup name with
  | none => (w.fail (.unboundPlaceholder name), [])
  | some f =>
    let w := w.require f.requirements
    (match f.error with
      | none => w
      | some e => w.fail e,
    f.under leading)

/-- The text of a line with its holes filled from left to right. -/
def expand (fillings : List (String × Filling φ)) (leading : List Char) :
    Writer φ → List Template.Segment → Writer φ × List Char
  | w, [] => (w, [])
  | w, .char c :: rest =>
    let (w, text) := expand fillings leading w rest
    (w, c :: text)
  | w, .hole name :: rest =>
    let (w, filled) := w.fill fillings leading name
    let (w, text) := expand fillings leading w rest
    (w, filled ++ text)

/-- Writes a line of a template. -/
def templateLine (fillings : List (String × Filling φ)) (w : Writer φ) (line : List Char) :
    Writer φ :=
  let segments := Template.parse line
  let (w, text) := expand fillings (Text.leadingBlanks line) w segments
  if segments.any (·.isHole) && Text.isBlankText text then w
  else w.writeLines (Text.pieces text)

/-- Writes a template. -/
def template (w : Writer φ) (fillings : List (String × Filling φ)) (ls : List (List Char)) :
    Writer φ :=
  ls.foldl (templateLine fillings) w

/-- The written text as a filling, less the line feeds at its end. -/
def toFilling (w : Writer φ) : Filling φ where
  text := Text.dropEndWhile (· == '\n') (Text.unlines w.lines)
  requirements := w.requirements
  error := w.error

/-! ### Commands -/

mutual

/-- Carries out a command. -/
def run (w : Writer φ) : Command φ → Writer φ
  | .code text => w.writeLines (Text.dedent text.toList)
  | .raw text => w.writeLines (Text.lines text.toList)
  | .template text bindings => w.template (fillings bindings) (Text.dedent text.toList)
  | .blankLine => w.line []
  | .block header body =>
    let w := w.line (Text.trim header.toList ++ [' ', '\x7b'])
    let w := runAll { w with depth := w.depth + 1 } body
    { w with depth := w.depth - 1 }.line ['\x7d']
  | .docs text => w.writeDocs (Text.dedent text.toList)
  | .attribute text => w.line (['#', '['] ++ text.toList ++ [']'])
  | .splice none => w
  | .splice (some script) => runAll w script
  | .require r => w.require [r]
  | .fail e => w.fail e
  | .look choose => runAll w (choose w.view)

/-- Carries out commands one after the other. -/
def runAll (w : Writer φ) : List (Command φ) → Writer φ
  | [] => w
  | c :: script => runAll (run w c) script

/-- The filling that an argument gives. Code is written on its own first. -/
def filling : Argument φ → Filling φ
  | .text t => { text := t.toList }
  | .item i => { text := i.path.toList, hangs := false, requirements := i.requirement.toList }
  | .code none => { text := [] }
  | .code (some script) => (runAll {} script).toFilling

/-- The filling of every name that is bound. -/
def fillings : List (String × Argument φ) → List (String × Filling φ)
  | [] => []
  | (name, a) :: rest => (name, filling a) :: fillings rest

end

/-- The finished text, unless something went wrong. -/
def finish (w : Writer φ) : Except Error (Output φ) :=
  match w.error with
  | some e => .error e
  | none => .ok ⟨w.contents, w.requirements⟩

end Writer

/-- What a script writes on its own. -/
def render {φ : Type} (script : List (Command φ)) : Except Error (Output φ) :=
  (Writer.runAll {} script).finish

/-- The text of a snippet on its own. -/
def Snippet.text {φ : Type} (s : Snippet φ) : Except Error String :=
  (render (s.getD [])).map Output.contents

end Cratewright
