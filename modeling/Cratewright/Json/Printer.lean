/-
Compact JSON text.

No space stands between the tokens. Inside a text only the quote, the backslash and the
control characters below the space are escaped.
-/
import Cratewright.Json.Value
import Cratewright.Text.Quoted

namespace Cratewright.Json

/-- A character as it stands inside a text. -/
def escape (c : Char) : List Char :=
  if c = '"' then ['\\', '"']
  else if c = '\\' then ['\\', '\\']
  else if c = '\n' then ['\\', 'n']
  else if c = '\r' then ['\\', 'r']
  else if c = '\t' then ['\\', 't']
  else if c.toNat = 0x8 then ['\\', 'b']
  else if c.toNat = 0xc then ['\\', 'f']
  else if c.toNat < 0x20 then ['\\', 'u'] ++ Text.hexPadded 4 c.toNat
  else [c]

/-- A text between its quotes. -/
def printText (s : String) : List Char := '"' :: (s.toList.flatMap escape ++ ['"'])

/-- A number in its written form. -/
def Number.print : Number → List Char
  | integer (.ofNat n) => Nat.toDigits 10 n
  | integer (.negSucc n) => '-' :: Nat.toDigits 10 (n + 1)
  | binary x => x.text.toList

mutual

/-- The written form of a value. -/
def print : Json → List Char
  | null => ['n', 'u', 'l', 'l']
  | flag true => ['t', 'r', 'u', 'e']
  | flag false => ['f', 'a', 'l', 's', 'e']
  | number n => n.print
  | text s => printText s
  | list items => '[' :: (printItems items ++ [']'])
  | object fields => '\x7b' :: (printFields fields ++ ['\x7d'])

/-- The written forms of the items, with commas between them. -/
def printItems : List Json → List Char
  | [] => []
  | [v] => v.print
  | v :: rest => v.print ++ ',' :: printItems rest

/-- The written forms of the fields, with commas between them. -/
def printFields : List (String × Json) → List Char
  | [] => []
  | [(name, v)] => printText name ++ ':' :: v.print
  | (name, v) :: rest => printText name ++ ':' :: (v.print ++ ',' :: printFields rest)

end

/-- The compact text of a value. -/
def render (v : Json) : String := String.ofList v.print

end Cratewright.Json
