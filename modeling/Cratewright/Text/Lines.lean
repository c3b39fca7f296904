/-
Texts as lines.

* `Text.pieces` cuts a text at every line feed, so it has one piece more than feeds;
* `Text.lines` is the list of lines of a text file: a carriage return before a line
  feed belongs to the line's end, and a line feed at the very end starts no line;
* `Text.dedent` drops the blank lines around a text and the margin that all its
  lines share. A margin is counted in the bytes of its UTF-8 form.
-/
import Cratewright.Text.Blank

namespace Cratewright.Text

/-- The pieces between line feeds. -/
def pieces : List Char → List (List Char)
  | [] => [[]]
  | c :: rest =>
    if c = '\n' then [] :: pieces rest
    else
      match pieces rest with
      | [] => [[c]]
      | p :: ps => (c :: p) :: ps

/-- Drops one carriage return at the end. -/
def dropReturn : List Char → List Char
  | [] => []
  | [c] => if c = '\r' then [] else [c]
  | c :: rest => c :: dropReturn rest

/-- The pieces read as lines: all but the last ended in a line feed, and the last is
a line only if something stands on it. -/
def linesOfPieces : List (List Char) → List (List Char)
  | [] => []
  | [p] => if p.isEmpty then [] else [p]
  | p :: rest => dropReturn p :: linesOfPieces rest

def lines (s : List Char) : List (List Char) := linesOfPieces (pieces s)

/-- Each line with a line feed after it. -/
def unlines (ls : List (List Char)) : List Char := ls.flatMap (· ++ ['\n'])

/-! ### The margin -/

/-- The number of bytes of the UTF-8 form. -/
def byteLength (s : List Char) : Nat := s.foldr (fun c n => c.utf8Size + n) 0

/-- What follows the first `n` bytes, if a character starts there or the text ends
there. -/
def dropBytes? : Nat → List Char → Option (List Char)
  | 0, s => some s
  | _ + 1, [] => none
  | n + 1, c :: rest => if c.utf8Size ≤ n + 1 then dropBytes? (n + 1 - c.utf8Size) rest else none

/-- The first `n` bytes, if a character ends there. -/
def takeBytes? : Nat → List Char → Option (List Char)
  | 0, _ => some []
  | _ + 1, [] => none
  | n + 1, c :: rest =>
    if c.utf8Size ≤ n + 1 then (takeBytes? (n + 1 - c.utf8Size) rest).map (c :: ·) else none

/-- What follows the first `n` bytes; a cut inside a character or beyond the end
leaves nothing. -/
def dropBytes (n : Nat) (s : List Char) : List Char := (dropBytes? n s).getD []

/-- The least number of bytes that a line with text on it is indented by. -/
def margin (ls : List (List Char)) : Nat :=
  (((ls.filter (! isBlankText ·)).map fun l => byteLength (leadingBlanks l)).min?).getD 0

/-- Drops the lines without text at both ends. -/
def trimLines (ls : List (List Char)) : List (List Char) :=
  ((ls.dropWhile isBlankText).reverse.dropWhile isBlankText).reverse

/-- The lines of a text from the first to the last with text on it, less the margin
that they share. -/
def dedent (s : List Char) : List (List Char) :=
  let body := trimLines (lines s)
  body.map (dropBytes (margin body))

/-- The text of a list of lines, without a line feed at the end. -/
def ofLines (ls : List String) : String := "\n".intercalate ls

end Cratewright.Text
