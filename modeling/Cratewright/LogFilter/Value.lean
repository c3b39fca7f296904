/-
Values of the fields that a log filter asks for.

A value is the simplest thing that its text can be read as: a truth value, a number, or else
a regular expression. Values are ordered by what they are, and those of one kind by size.
-/
import Cratewright.Decimal.Positional
import Cratewright.Regex.Support

namespace Cratewright

/-- The value that a field has to have. -/
inductive FieldValue where
  | flag (b : Bool)
  | natural (n : Nat)
  | integer (n : Int)
  /-- A number that is not whole, or too large to be read as one that is. -/
  | binary (x : Decimal.Extended)
  /-- What the text of the field's value has to match. -/
  | pattern (text : String)
deriving DecidableEq

namespace FieldValue

/-! ### Order -/

/-- The place of a kind of values among the kinds. -/
def rank : FieldValue → Nat
  | flag _ => 0
  | binary .undefined => 2
  | binary _ => 1
  | natural _ => 3
  | integer _ => 4
  | pattern _ => 5

/-- The place of a value among those of its kind, if they are ordered by size. -/
def size : FieldValue → Int
  | flag b => if b then 1 else 0
  | natural n => n
  | integer n => n
  | binary x => x.position
  | pattern _ => 0

def patternText : FieldValue → String
  | pattern text => text
  | _ => ""

instance : Ord FieldValue :=
  ⟨compareLex (compareOn rank) (compareLex (compareOn size) (compareOn patternText))⟩

instance : Std.TransOrd FieldValue :=
  inferInstanceAs (Std.TransCmp
    (compareLex (compareOn rank) (compareLex (compareOn size) (compareOn patternText))))

/-! ### Texts -/

/-- The value in a filter's text: numbers in their usual form, anything else as it was. -/
def text : FieldValue → String
  | flag b => if b then "true" else "false"
  | natural n => toString n
  | integer n => toString n
  | binary x => x.text
  | pattern text => text

/-- Reads a number of 64 bits that may be negative. -/
def integer? (s : List Char) : Option Int :=
  match s with
  | '-' :: digits =>
    if digits.head? = some '+' then none
    else (Decimal.natural? digits).bind fun n =>
      if n ≤ Nat.pow 2 63 then some (-(n : Int)) else none
  | _ => none

/-- Reads a value. -/
def parse? (s : List Char) : Option FieldValue :=
  if s = "true".toList then some (.flag true)
  else if s = "false".toList then some (.flag false)
  else
    match (Decimal.natural? s).filter (· < Nat.pow 2 64), integer? s,
      Decimal.Binary64.ofText? s with
    | some n, _, _ => some (.natural n)
    | none, some n, _ => some (.integer n)
    | none, none, some x => some (.binary x)
    | none, none, none =>
      if Regex.isPattern s then some (.pattern (String.ofList s)) else none

end FieldValue

end Cratewright
