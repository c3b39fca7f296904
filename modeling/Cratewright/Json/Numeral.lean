/-
Reading JSON numbers.

A number without fraction and exponent that fits 64 bits, with or without a sign, is
whole; every other one is a binary floating-point number. The digits of its significand
count as long as they fit 64 bits without sign, and those after them only for their
number; the significand is then scaled by the power of ten.

A number can also be passed over, which asks for its form only.
-/
import Cratewright.Json.Fault

namespace Cratewright.Json

/-- The first whole number that 64 bits without sign do not hold. -/
def wordBound : Nat := Nat.pow 2 64

/-- The value of a digit character. -/
def digitValue (c : Char) : Nat := c.toNat - 0x30

/-- Appends digits to a significand as long as it stays below the bound. The result is the
significand, the number of digits taken and the rest of the text. -/
def takeDigits (significand count : Nat) : List Char → Nat × Nat × List Char
  | [] => (significand, count, [])
  | c :: rest =>
    if c.isDigit then
      let next := significand * 10 + digitValue c
      if next < wordBound then takeDigits next (count + 1) rest
      else (significand, count, c :: rest)
    else (significand, count, c :: rest)

/-- The rest of a text after its leading digits. -/
def dropDigits (s : List Char) : List Char := s.dropWhile Char.isDigit

/-- The leading digits as a number. -/
def digitsValue (s : List Char) : Nat :=
  (s.takeWhile Char.isDigit).foldl (fun n c => n * 10 + digitValue c) 0

/-- The number of a significand and a power of ten. -/
def scaled (negative : Bool) (significand : Nat) (exponent : Int) : Except Fault Number :=
  match Decimal.Binary64.ofDecimal? significand exponent with
  | some x => .ok (.binary (if negative then x.negate else x))
  | none => .error .numberOutOfRange

/-- Reads what follows the letter of an exponent. -/
def readExponent (negative : Bool) (significand : Nat) (exponent : Int) (s : List Char) :
    Except Fault (Number × List Char) :=
  let (down, digits) :=
    match s with
    | '+' :: rest => (false, rest)
    | '-' :: rest => (true, rest)
    | rest => (false, rest)
  match digits with
  | [] => .error .endInValue
  | c :: _ =>
    if c.isDigit then
      let power : Int := digitsValue digits
      (scaled negative significand (if down then exponent - power else exponent + power)).map
        (·, dropDigits digits)
    else .error .invalidNumber

/-- Reads what follows a significand whose digits are all taken, without a fraction. -/
def finishNumber (negative : Bool) (significand : Nat) (exponent : Int) (s : List Char) :
    Except Fault (Number × List Char) :=
  match s with
  | 'e' :: rest => readExponent negative significand exponent rest
  | 'E' :: rest => readExponent negative significand exponent rest
  | rest => (scaled negative significand exponent).map (·, rest)

/-- Reads what follows the decimal point. -/
def readFraction (negative : Bool) (significand : Nat) (exponent : Int) (s : List Char) :
    Except Fault (Number × List Char) :=
  match s with
  | [] => .error .endInValue
  | c :: _ =>
    if c.isDigit then
      let (significand, count, rest) := takeDigits significand 0 s
      finishNumber negative significand (exponent - count) (dropDigits rest)
    else .error .invalidNumber

/-- The number of a significand that fits 64 bits and has neither fraction nor exponent. -/
def wholeNumber (negative : Bool) (significand : Nat) : Except Fault Number :=
  if negative then
    if significand = 0 ∨ Nat.pow 2 63 < significand then scaled true significand 0
    else .ok (.integer (-significand))
  else .ok (.integer significand)

/-- Reads what follows the digits before the decimal point; `dropped` of them did not
fit. -/
def readTail (negative : Bool) (significand dropped : Nat) (s : List Char) :
    Except Fault (Number × List Char) :=
  match s with
  | '.' :: rest => readFraction negative significand dropped rest
  | 'e' :: rest => readExponent negative significand dropped rest
  | 'E' :: rest => readExponent negative significand dropped rest
  | rest =>
    if dropped = 0 then (wholeNumber negative significand).map (·, rest)
    else (scaled negative significand dropped).map (·, rest)

/-- Reads a number after its sign. -/
def readUnsigned (negative : Bool) (s : List Char) : Except Fault (Number × List Char) :=
  match s with
  | [] => .error .endInValue
  | c :: rest =>
    if c = '0' then
      match rest with
      | [] => readTail negative 0 0 []
      | d :: _ => if d.isDigit then .error .invalidNumber else readTail negative 0 0 rest
    else if c.isDigit then
      let (significand, _, tail) := takeDigits 0 0 s
      readTail negative significand (tail.length - (dropDigits tail).length) (dropDigits tail)
    else .error .invalidNumber

/-- Reads a number that starts with a sign or a digit. -/
def readNumber (s : List Char) : Except Fault (Number × List Char) :=
  match s with
  | '-' :: rest => readUnsigned true rest
  | rest => readUnsigned false rest

/-! ### Passing over -/

/-- Passes over an exponent after its letter. -/
def skipExponent (s : List Char) : Except Fault (List Char) :=
  let digits :=
    match s with
    | '+' :: rest => rest
    | '-' :: rest => rest
    | rest => rest
  match digits with
  | [] => .error .invalidNumber
  | c :: _ => if c.isDigit then .ok (dropDigits digits) else .error .invalidNumber

/-- Passes over an exponent, if there is one. -/
def skipScale (s : List Char) : Except Fault (List Char) :=
  match s with
  | 'e' :: rest => skipExponent rest
  | 'E' :: rest => skipExponent rest
  | rest => .ok rest

/-- Passes over a fraction and an exponent, if there are any. -/
def skipTail (s : List Char) : Except Fault (List Char) :=
  match s with
  | '.' :: rest =>
    match rest with
    | [] => .error .invalidNumber
    | c :: _ => if c.isDigit then skipScale (dropDigits rest) else .error .invalidNumber
  | rest => skipScale rest

/-- Passes over a number after its sign. -/
def skipUnsigned (s : List Char) : Except Fault (List Char) :=
  match s with
  | [] => .error .invalidNumber
  | c :: rest =>
    if c = '0' then
      match rest with
      | [] => .ok []
      | d :: _ => if d.isDigit then .error .invalidNumber else skipTail rest
    else if c.isDigit then skipTail (dropDigits s)
    else .error .invalidNumber

/-- Passes over a number. -/
def skipNumber (s : List Char) : Except Fault (List Char) :=
  match s with
  | '-' :: rest => skipUnsigned rest
  | rest => skipUnsigned rest

end Cratewright.Json
