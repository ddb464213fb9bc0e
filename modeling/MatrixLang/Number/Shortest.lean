import MatrixLang.Number.Binary64

/-!
# Shortest decimal digits of a double

A finite positive double `v` is the only double in an interval of reals around it: halfway to
its neighbours, the ends included exactly when its significand is even (ties go to even when a
decimal is read back). The shortest text of `v` is the decimal with the fewest significant digits
in that interval; of two such decimals the one nearer to `v` wins, and an exact tie goes to the
even last digit.

For each count of digits `n = 1, 2, …, 17` only the two decimals of `n` digits around `v` can lie
in the interval, so `shortest` tests those two in exact `Nat` arithmetic and stops at the first
count with a hit. Seventeen digits always suffice.

`Decimal.render` then lays the digits out: positional when the decimal point falls within
`-4 < point ≤ 16`, otherwise one digit, a point, the rest and an exponent of at least two digits.
-/
namespace MatrixLang.Binary64

/-- `a * 10 ^ k` compared with `b * 2 ^ f`, exactly. -/
def comparePowers (a : Nat) (k : Int) (b : Nat) (f : Int) : Ordering :=
  compare (a * Nat.pow 10 k.toNat * Nat.pow 2 (-f).toNat) (b * Nat.pow 2 f.toNat * Nat.pow 10 (-k).toNat)

/-- A positive finite double as the interval of reals that read back as it, in units of
`2 ^ unit`: the value is `4 * m`, the ends are `low` and `high`. -/
structure Interval where
  m : Nat
  unit : Int
  low : Nat
  high : Nat
  closed : Bool

/-- The reading-back interval of a positive finite double. The gap below a power of two is half
the gap above it, except at the smallest exponent. -/
def Fields.interval (f : Fields) : Interval :=
  let m := significand f
  let narrowBelow := f.fraction = 0 ∧ f.exponent > 1
  { m := m, unit := scale f - 2,
    low := if narrowBelow then 4 * m - 1 else 4 * m - 2,
    high := 4 * m + 2,
    closed := m % 2 == 0 }

/-- Whether `d * 10 ^ k` lies in the interval. -/
def Interval.contains (i : Interval) (d : Nat) (k : Int) : Bool :=
  let lo := comparePowers d k i.low i.unit
  let hi := comparePowers d k i.high i.unit
  if i.closed then lo != .lt && hi != .gt else lo == .gt && hi == .lt

/-- The largest `k` with `10 ^ k ≤ v`: an estimate from the bit length, corrected by one step. -/
def Interval.decimalExponent (i : Interval) : Int :=
  let bits : Int := ((4 * i.m).log2 : Int) + i.unit
  let guess := (bits * 30103) / 100000
  if comparePowers 1 (guess + 1) (4 * i.m) i.unit != .gt then guess + 1
  else if comparePowers 1 guess (4 * i.m) i.unit != .gt then guess
  else guess - 1

/-- The two decimals `d * 10 ^ k` around `v` with `d` below and above, and the comparison of
their distances to `v` (`.lt` when the lower one is nearer). -/
def Interval.around (i : Interval) (k : Int) : Nat × Ordering :=
  let num := 4 * i.m * Nat.pow 2 i.unit.toNat * Nat.pow 10 (-k).toNat
  let den := Nat.pow 2 (-i.unit).toNat * Nat.pow 10 k.toNat
  let r := num % den
  (num / den, compare r (den - r))

/-- The decimal of `n` significant digits that reads back as `v`, if there is one. -/
def Interval.withDigits (i : Interval) (top : Int) (n : Nat) : Option (Nat × Int) :=
  let k := top + 1 - n
  let (d, nearer) := i.around k
  let lowHit := d > 0 && i.contains d k
  let highHit := i.contains (d + 1) k
  if lowHit && highHit then
    match nearer with
    | .lt => some (d, k)
    | .gt => some (d + 1, k)
    | .eq => some (if d % 2 == 0 then d else d + 1, k)
  else if lowHit then some (d, k)
  else if highHit then some (d + 1, k)
  else none

/-- The shortest decimal `d * 10 ^ k` that reads back as the positive finite double. -/
def shortest (f : Fields) : Nat × Int :=
  let i := f.interval
  let top := i.decimalExponent
  match (List.range 17).findSome? (fun n => i.withDigits top (n + 1)) with
  | some r => r
  | none => (i.around (top - 16)).1 |> fun d => (d, top - 16)

/-- Significant digits without trailing zeros, and the position of the decimal point: the
value is `0.digits * 10 ^ point`. -/
def Fields.digits (f : Fields) : List Char × Int :=
  let (d, k) := shortest f
  let s := (toString d).toList
  let trimmed := (s.reverse.dropWhile (· == '0')).reverse
  (trimmed, (s.length : Int) + k)

end MatrixLang.Binary64

namespace MatrixLang.Decimal

/-- `n` zeros. -/
def zeros (n : Nat) : List Char := List.replicate n '0'

/-- The exponent part: a sign and at least two digits. -/
def exponentText (e : Int) : List Char :=
  let body := (toString e.natAbs).toList
  let body := if body.length < 2 then '0' :: body else body
  'e' :: (if e < 0 then '-' else '+') :: body

/-- Digits and point position laid out as the language writes floats: positional for
`-4 < point ≤ 16`, a trailing `.0` on whole numbers, scientific otherwise. -/
def layout (digits : List Char) (point : Int) : List Char :=
  if point ≤ -4 ∨ point > 16 then
    match digits with
    | [] => ['0']
    | d :: rest => d :: (if rest.isEmpty then [] else '.' :: rest) ++ exponentText (point - 1)
  else if point ≤ 0 then
    '0' :: '.' :: zeros (-point).toNat ++ digits
  else if point.toNat < digits.length then
    digits.take point.toNat ++ '.' :: digits.drop point.toNat
  else
    digits ++ zeros (point.toNat - digits.length) ++ ['.', '0']

/-- The text of a double: shortest digits that read back, `inf`, `-inf`, `nan`, `-0.0`. -/
def render (x : Float) : String :=
  let f := Binary64.fields x
  let sign := if f.negative then "-" else ""
  if f.exponent = 2047 then
    if f.fraction = 0 then sign ++ "inf" else "nan"
  else if f.exponent = 0 ∧ f.fraction = 0 then sign ++ "0.0"
  else
    let (digits, point) := f.digits
    sign ++ String.ofList (layout digits point)

end MatrixLang.Decimal
