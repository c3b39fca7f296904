/-
Decimals without an exponent.

`Binary64.ofText?` reads a decimal with or without an exponent and rounds it to the nearest
number. `Binary64.positional` writes the shortest decimal that reads back, with all its
zeros and no exponent. `Extended` adds the infinities and what is no number at all.
-/
import Cratewright.Decimal.Shortest

namespace Cratewright.Decimal

/-- A number, or what is beyond the numbers. -/
inductive Extended where
  | finite (x : Binary64)
  | infinite (negative : Bool)
  | undefined
deriving DecidableEq

/-- The digits at the start of a text, and the rest. -/
def splitDigits (s : List Char) : List Char × List Char :=
  (s.takeWhile Char.isDigit, s.dropWhile Char.isDigit)

/-- The value of digits. -/
def digitsToNat (ds : List Char) : Nat := ds.foldl (fun n d => n * 10 + (d.toNat - 0x30)) 0

/-- The number that a text of digits stands for. A plus sign may precede it. -/
def natural? (s : List Char) : Option Nat :=
  let digits :=
    match s with
    | '+' :: rest => rest
    | s => s
  if ! digits.isEmpty && digits.all Char.isDigit then some (digitsToNat digits) else none

/-- The sign at the start of a text, and the rest. -/
def splitSign : List Char → Bool × List Char
  | '-' :: rest => (true, rest)
  | '+' :: rest => (false, rest)
  | s => (false, s)

/-- Reads the exponent that may end a decimal. -/
def readExponent? : List Char → Option Int
  | [] => some 0
  | c :: rest =>
    if c = 'e' ∨ c = 'E' then
      let (negative, digits) := splitSign rest
      if ! digits.isEmpty && digits.all Char.isDigit then
        some (if negative then -(digitsToNat digits : Int) else digitsToNat digits)
      else none
    else none

namespace Binary64

/-- The number nearest to `m · 10 ^ e`, if it is finite. -/
def nearest? (m : Nat) (e : Int) : Option Binary64 :=
  let size := (Nat.toDigits 10 m).length + e
  if m = 0 ∨ size < -330 then some ⟨0⟩
  else if 310 < size then none
  else if 0 ≤ e then ofRatio? (m * Nat.pow 10 e.toNat) 1
  else ofRatio? m (Nat.pow 10 (-e).toNat)

/-- Reads a decimal without a sign. -/
def ofDecimalText? (negative : Bool) (s : List Char) : Option Extended := do
  let (whole, rest) := splitDigits s
  let (fraction, rest) :=
    match rest with
    | '.' :: rest => splitDigits rest
    | rest => ([], rest)
  guard (! (whole ++ fraction).isEmpty)
  let exponent ← readExponent? rest
  match nearest? (digitsToNat (whole ++ fraction)) (exponent - fraction.length) with
  | some x => some (.finite (if negative then x.negate else x))
  | none => some (.infinite negative)

/-- Reads a decimal, or the name of what is no number. -/
def ofText? (s : List Char) : Option Extended :=
  let (negative, body) := splitSign s
  let word := String.ofList (body.map Char.toLower)
  if word = "inf" ∨ word = "infinity" then some (.infinite negative)
  else if word = "nan" then some .undefined
  else ofDecimalText? negative body

/-- The number of units of the least size that a finite number can have. -/
def units (x : Binary64) : Int :=
  let (m, q) := x.magnitude
  let size : Nat := m * Nat.pow 2 (q + 1074).toNat
  if x.isNegative then -(size : Int) else size

/-- The text of a positive decimal `digits · 10 ^ exponent` without an exponent. -/
def spread (digits : List Char) (exponent : Int) : List Char :=
  let point := (digits.length : Int) + exponent
  if 0 ≤ exponent then digits ++ List.replicate exponent.toNat '0'
  else if 0 < point then digits.take point.toNat ++ '.' :: digits.drop point.toNat
  else ['0', '.'] ++ List.replicate (-point).toNat '0' ++ digits

/-- The text of a finite number without an exponent, a tie going up. -/
def positional (x : Binary64) : List Char :=
  let sign := if x.isNegative then ['-'] else []
  if x.magnitude.1 = 0 then sign ++ ['0']
  else
    let (k, e) := x.shortest .up
    sign ++ spread (Nat.toDigits 10 k) e

end Binary64

/-- The text of a number, or the name of what is none. -/
def Extended.text : Extended → String
  | finite x => String.ofList x.positional
  | infinite negative => if negative then "-inf" else "inf"
  | undefined => "NaN"

/-- A whole number that is in order as the number is: that of its units, and one beyond all
of these for what is infinite. -/
def Extended.position : Extended → Int
  | finite x => x.units
  | infinite negative => if negative then -(Nat.pow 2 2100 : Int) else Nat.pow 2 2100
  | undefined => 0

end Cratewright.Decimal
