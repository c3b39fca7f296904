/-
Binary floating-point numbers of 64 bits, computed with exactly.

`Binary64.ofRatio?` is the number nearest to a ratio, a tie going to the even
significand. `Binary64.ofDecimal?` reads a decimal as a significand that is rounded first
and then multiplied or divided by a power of ten, each step rounding once.
-/
namespace Cratewright.Decimal

/-- A number by its IEEE 754 encoding. -/
structure Binary64 where
  bits : UInt64
deriving DecidableEq

namespace Binary64

/-- Whether the sign bit is set. -/
def isNegative (x : Binary64) : Bool := x.bits.toNat / Nat.pow 2 63 = 1

/-- The significand `m` and the exponent `q` of a finite number of size `m · 2 ^ q`. -/
def magnitude (x : Binary64) : Nat × Int :=
  let field : Nat := x.bits.toNat / Nat.pow 2 52 % Nat.pow 2 11
  let fraction : Nat := x.bits.toNat % Nat.pow 2 52
  if field = 0 then (fraction, -1074) else (Nat.pow 2 52 + fraction, (field : Int) - 1075)

/-- The same number with the other sign. -/
def negate (x : Binary64) : Binary64 := ⟨x.bits ^^^ 0x8000000000000000⟩

/-- The whole number nearest to `num / den`, a tie going to the even one. -/
def roundRatio (num den : Nat) : Nat :=
  let q := num / den
  let r := num % den
  if 2 * r < den then q else if 2 * r = den then q + q % 2 else q + 1

/-- The ratio `num / (den · 2 ^ q)` as a pair of whole numbers. -/
def scaleRatio (num den : Nat) (q : Int) : Nat × Nat :=
  if 0 ≤ q then (num, den * Nat.pow 2 q.toNat) else (num * Nat.pow 2 (-q).toNat, den)

/-- The number nearest to `num / den`, if it is finite. -/
def ofRatio? (num den : Nat) : Option Binary64 :=
  if num = 0 then some ⟨0⟩
  else
    let low : Int := max ((num.log2 : Int) - den.log2 - 53) (-1074)
    let (n, d) := scaleRatio num den low
    let q := if Nat.pow 2 53 ≤ n / d then low + 1 else low
    let (n, d) := scaleRatio num den q
    let code := (q + 1074).toNat * Nat.pow 2 52 + roundRatio n d
    if code < 0x7ff0000000000000 then some ⟨code.toUInt64⟩ else none

/-- The number nearest to `m · 2 ^ q / d`, if it is finite. -/
def ofScaled? (m : Nat) (q : Int) (d : Nat) : Option Binary64 :=
  if 0 ≤ q then ofRatio? (m * Nat.pow 2 q.toNat) d else ofRatio? m (d * Nat.pow 2 (-q).toNat)

/-- The product of two sizes, if it is finite. -/
def times? (x y : Binary64) : Option Binary64 :=
  let (m, p) := x.magnitude
  let (n, q) := y.magnitude
  ofScaled? (m * n) (p + q) 1

/-- The quotient of two sizes, the second being positive. -/
def dividedBy? (x y : Binary64) : Option Binary64 :=
  let (m, p) := x.magnitude
  let (n, q) := y.magnitude
  ofScaled? m (p - q) n

/-- The number nearest to a power of ten. -/
def powerOfTen? (k : Nat) : Option Binary64 := ofRatio? (Nat.pow 10 k) 1

/-- Divides by powers of ten up to the largest finite one, at most `steps` times; the
quotient by `10 ^ 308` of any number repeatedly taken soon is zero. -/
def shrink? : Nat → Binary64 → Nat → Option Binary64
  | 0, _, _ => some ⟨0⟩
  | steps + 1, x, k =>
    if k ≤ 308 then (powerOfTen? k).bind x.dividedBy?
    else
      ((powerOfTen? 308).bind x.dividedBy?).bind fun y =>
        if y.bits = 0 then some y else shrink? steps y (k - 308)

/-- The value read from `significand · 10 ^ exponent`, if it is finite. -/
def ofDecimal? (significand : Nat) (exponent : Int) : Option Binary64 :=
  (ofRatio? significand 1).bind fun x =>
    if 0 ≤ exponent then
      if significand = 0 then some x
      else if exponent ≤ 308 then (powerOfTen? exponent.toNat).bind x.times?
      else none
    else shrink? 4 x (-exponent).toNat

end Binary64

end Cratewright.Decimal
