/-
The shortest decimal that reads back.

Among the decimals that round to a given number, `Binary64.shortest` takes one with the
fewest digits, and of those the nearest; a `Tie` says which one when two are equally near.
`Binary64.text` writes it: positionally while the decimal point falls near the digits, and
with a signed exponent elsewhere.
-/
import Cratewright.Decimal.Binary64

namespace Cratewright.Decimal

/-- Where a number in the middle between two decimals goes. -/
inductive Tie where
  /-- To the one whose last digit is even. -/
  | toEven
  /-- To the greater one. -/
  | up
deriving DecidableEq

/-- Whether a tie goes to the lesser decimal, of which `k` are the digits. -/
def Tie.goesDown (tie : Tie) (k : Nat) : Bool :=
  match tie with
  | toEven => k % 2 == 0
  | up => false

namespace Binary64

/-- Four times the significand of a number and of the middles to its two neighbours, with
the exponent lowered to match. -/
def interval (x : Binary64) : Nat × Nat × Nat × Int :=
  let (m, q) := x.magnitude
  let below := if m = Nat.pow 2 52 ∧ q ≠ -1074 then 1 else 2
  (4 * m - below, 4 * m, 4 * m + 2, q - 2)

/-- The least `k` with `num / den < 10 ^ k`. -/
def decimalPoint (num den : Nat) : Int :=
  if den ≤ num then ((Nat.toDigits 10 (num / den)).length : Int)
  else
    match (List.range 400).find? fun j => decide (den ≤ num * Nat.pow 10 j) with
    | some j => 1 - (j : Int)
    | none => 0

/-- The ratio `num / den` divided by a power of ten. -/
def perUnit (num den : Nat) (exponent : Int) : Nat × Nat :=
  if 0 ≤ exponent then (num, den * Nat.pow 10 exponent.toNat)
  else (num * Nat.pow 10 (-exponent).toNat, den)

/-- Of the two multiples of `10 ^ exponent` around the number, the nearer one that rounds
to it. -/
def onGrid? (tie : Tie) (x : Binary64) (exponent : Int) : Option Nat :=
  let (low, mid, high, q) := x.interval
  let den := if 0 ≤ q then 1 else Nat.pow 2 (-q).toNat
  let unit := if 0 ≤ q then Nat.pow 2 q.toNat else 1
  let (n, d) := perUnit (mid * unit) den exponent
  let (nl, _) := perUnit (low * unit) den exponent
  let (nh, _) := perUnit (high * unit) den exponent
  let closed := x.magnitude.1 % 2 = 0
  let fits (k : Nat) : Bool :=
    if closed then nl ≤ k * d && k * d ≤ nh else nl < k * d && k * d < nh
  let down := n / d
  match fits down, fits (down + 1) with
  | true, true =>
    let twice := 2 * (n % d)
    if twice < d || (twice == d && tie.goesDown down) then some down else some (down + 1)
  | true, false => some down
  | false, true => some (down + 1)
  | false, false => none

/-- The digits `k` and the exponent `e` of the shortest decimal `k · 10 ^ e` that rounds to
a positive number. -/
def shortest (tie : Tie) (x : Binary64) : Nat × Int :=
  let (m, q) := x.magnitude
  let point :=
    if 0 ≤ q then decimalPoint (m * Nat.pow 2 q.toNat) 1
    else decimalPoint m (Nat.pow 2 (-q).toNat)
  let grids := (List.range 17).map fun (n : Nat) => point - ((n : Int) + 1)
  match grids.findSome? fun e => (x.onGrid? tie e).map (·, e) with
  | some (10, e) => (1, e + 1)
  | some found => found
  | none => (0, 0)

/-- An exponent with its sign. -/
def exponentText (n : Int) : List Char :=
  (if n < 0 then '-' else '+') :: (toString n.natAbs).toList

/-- The text of a positive decimal `digits · 10 ^ exponent`. -/
def decimalText (digits : List Char) (exponent : Int) : List Char :=
  let point := (digits.length : Int) + exponent
  if 0 ≤ exponent ∧ point ≤ 16 then
    digits ++ List.replicate exponent.toNat '0' ++ ['.', '0']
  else if 0 < point ∧ point ≤ 16 then
    digits.take point.toNat ++ '.' :: digits.drop point.toNat
  else if -5 < point ∧ point ≤ 0 then
    ['0', '.'] ++ List.replicate (-point).toNat '0' ++ digits
  else
    let power := exponentText (point - 1)
    match digits with
    | [d] => [d, 'e'] ++ power
    | d :: rest => [d, '.'] ++ rest ++ 'e' :: power
    | [] => []

/-- The text of a finite number, a tie going to the even digit. -/
def text (x : Binary64) : String :=
  let sign := if x.isNegative then ['-'] else []
  if x.magnitude.1 = 0 then String.ofList (sign ++ ['0', '.', '0'])
  else
    let (k, e) := x.shortest .toEven
    String.ofList (sign ++ decimalText (Nat.toDigits 10 k) e)

end Binary64

end Cratewright.Decimal
