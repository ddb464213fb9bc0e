/-!
# The binary64 layout

A double is a sign, an 11-bit biased exponent and a 52-bit fraction. This module reads a
`Float` into that layout and builds one from it, so that rounding and printing can be done in
exact `Nat` arithmetic.

The main definition is `ofRatio?`: the double nearest to a non-negative ratio of naturals, ties
going to the even significand, or `none` when the ratio rounds beyond the largest finite double.
Every conversion of the language into doubles (integers, quotients of integers, decimal literals)
goes through it, so all of them are correctly rounded.
-/
namespace MatrixLang.Binary64

/-- The three fields of a double, read off its bits. -/
structure Fields where
  negative : Bool
  exponent : Nat
  fraction : Nat
  deriving Repr, DecidableEq

/-- Two to the 52nd, the weight of the hidden bit. -/
def hidden : Nat := Nat.pow 2 52

/-- The fields of a double. -/
def fields (x : Float) : Fields :=
  let b := x.toBits.toNat
  { negative := decide (Nat.pow 2 63 ≤ b), exponent := (b / hidden) % 2048, fraction := b % hidden }

/-- The double with the given fields. -/
def ofFields (f : Fields) : Float :=
  Float.ofBits (UInt64.ofNat ((if f.negative then Nat.pow 2 63 else 0) + f.exponent * hidden + f.fraction))

/-- A finite double is `significand * 2 ^ scale`: the hidden bit is present unless the exponent
field is zero. -/
def significand (f : Fields) : Nat :=
  if f.exponent = 0 then f.fraction else f.fraction + hidden

/-- The power of two that scales the significand. -/
def scale (f : Fields) : Int :=
  if f.exponent = 0 then -1074 else (f.exponent : Int) - 1075

/-- `p / (q * 2 ^ e)` as a numerator and a denominator. -/
def scaled (p q : Nat) (e : Int) : Nat × Nat :=
  if 0 ≤ e then (p, q * Nat.pow 2 e.toNat) else (p * Nat.pow 2 (-e).toNat, q)

/-- The integer part of `p / (q * 2 ^ e)` and whether the rest is above, at or below a half. -/
def quotient (p q : Nat) (e : Int) : Nat × Ordering :=
  let (n, d) := scaled p q e
  (n / d, compare (2 * (n % d)) d)

/-- The exponent at which `p / q` has a 53-bit integer part, not going below the subnormal
scale. -/
def alignment (p q : Nat) : Int :=
  let e0 : Int := (p.log2 : Int) - (q.log2 : Int) - 52
  let e1 := if (quotient p q e0).1 < hidden then e0 - 1 else e0
  max e1 (-1074)

/-- The double nearest to `p / q`, ties to an even significand; `none` if it overflows. -/
def ofRatio? (p q : Nat) : Option Float :=
  if p = 0 ∨ q = 0 then some 0.0 else
  let e := alignment p q
  let (m, rest) := quotient p q e
  let up := rest == .gt || (rest == .eq && m % 2 == 1)
  let m := if up then m + 1 else m
  let (m, e) := if m = 2 * hidden then (hidden, e + 1) else (m, e)
  if e > 971 then none
  else if m < hidden then some (ofFields ⟨false, 0, m⟩)
  else some (ofFields ⟨false, (e + 1075).toNat, m - hidden⟩)

/-- Positive infinity. -/
def infinity : Float := ofFields ⟨false, 2047, 0⟩

/-- A quiet NaN. -/
def nan : Float := ofFields ⟨false, 2047, Nat.pow 2 51⟩

/-- The double nearest to `p / q`, infinite when the ratio is too large. -/
def ofRatio (p q : Nat) : Float := (ofRatio? p q).getD infinity

/-- The double nearest to a decimal `mantissa * 10 ^ exponent`. Far outside the range of doubles
the answer is settled by the number of digits alone, which keeps the powers of ten small. -/
def ofDecimal (mantissa : Nat) (exponent : Int) : Float :=
  let digits : Int := (toString mantissa).length
  if mantissa = 0 then 0.0
  else if digits + exponent > 400 then infinity
  else if digits + exponent < -400 then 0.0
  else if 0 ≤ exponent then ofRatio (mantissa * Nat.pow 10 exponent.toNat) 1
  else ofRatio mantissa (Nat.pow 10 (-exponent).toNat)

/-- Negation that also flips the sign of zero. -/
def negate (x : Float) : Float :=
  let f := fields x
  ofFields { f with negative := !f.negative }

/-- The exact value of a finite double as a signed ratio `numerator / denominator`. -/
def toRatio (x : Float) : Int × Nat :=
  let f := fields x
  let m : Int := if f.negative then -(significand f : Int) else significand f
  let e := scale f
  if 0 ≤ e then (m * Int.pow 2 e.toNat, 1) else (m, Nat.pow 2 (-e).toNat)

/-- Whether a double is a NaN. -/
def isNaN (x : Float) : Bool :=
  let f := fields x
  f.exponent == 2047 && f.fraction != 0

/-- Whether a double is infinite. -/
def isInfinite (x : Float) : Bool :=
  let f := fields x
  f.exponent == 2047 && f.fraction == 0

end MatrixLang.Binary64
