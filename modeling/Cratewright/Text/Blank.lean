/-
White space, and texts without it at their ends.

A character is blank when it has the Unicode property `White_Space`. The functions
work on lists of characters; `String` versions stand beside them where a caller
holds strings.
-/
namespace Cratewright.Text

/-- The property `White_Space`: tab to carriage return, the space, the next-line
control, and the separators of any width. A zero-width space is not one. -/
def isBlank (c : Char) : Bool :=
  let n := c.toNat
  (0x9 ≤ n && n ≤ 0xd) || n == 0x20 || n == 0x85 || n == 0xa0 || n == 0x1680 ||
    (0x2000 ≤ n && n ≤ 0x200a) || n == 0x2028 || n == 0x2029 || n == 0x202f ||
    n == 0x205f || n == 0x3000

/-- Drops the longest run of characters with the property `p` at the end. -/
def dropEndWhile (p : Char → Bool) : List Char → List Char
  | [] => []
  | c :: rest =>
    match dropEndWhile p rest with
    | [] => if p c then [] else [c]
    | kept => c :: kept

/-- Drops the blanks at the start. -/
def trimStart (s : List Char) : List Char := s.dropWhile isBlank

/-- Drops the blanks at the end. -/
def trimEnd (s : List Char) : List Char := dropEndWhile isBlank s

/-- Drops the blanks at both ends. -/
def trim (s : List Char) : List Char := trimEnd (trimStart s)

/-- Whether there is nothing besides blanks. -/
def isBlankText (s : List Char) : Bool := s.all isBlank

/-- The blanks at the start. -/
def leadingBlanks (s : List Char) : List Char := s.takeWhile isBlank

/-- The maximal runs of other characters between the blanks. -/
def words : List Char → List (List Char)
  | [] => []
  | c :: rest =>
    if isBlank c then words rest
    else
      match rest with
      | [] => [[c]]
      | d :: _ =>
        if isBlank d then [c] :: words rest
        else
          match words rest with
          | [] => [[c]]
          | w :: ws => (c :: w) :: ws

/-- Each run of blanks becomes one space; those at the ends vanish. -/
def squash (text : String) : String :=
  " ".intercalate ((words text.toList).map String.ofList)

end Cratewright.Text
