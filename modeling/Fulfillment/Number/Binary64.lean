/-!
# Double-precision values

A finite double is a sign, a significand below `2^53` and a binary exponent no lower than
`-1074`; its value is `± significand · 2^exponent`, computed exactly. `Binary64.round` picks the
double nearest to a positive fraction, ties going to the even significand, and reports an
overflow when the nearest value would lie beyond the largest finite double
`(2^53 - 1) · 2^971`. Products, quotients and conversions are rounded this way, so they agree
with hardware arithmetic in the default rounding mode.

`shortest` finds the decimal with the fewest digits that still rounds back to the double,
choosing the one nearest to its value when several have that many digits.
-/

namespace Fulfillment.Number

/-- A finite double: `± significand · 2 ^ exponent`. -/
structure Binary64 where
  negative : Bool
  significand : Nat
  exponent : Int
  deriving DecidableEq, Inhabited, Repr

namespace Binary64

/-- The lowest binary exponent, that of the smallest subnormal value. -/
def minExponent : Int := -1074

/-- The highest binary exponent a significand may carry. -/
def maxExponent : Int := 971

/-- The number of bits of a significand. -/
def precision : Nat := 53

/-- Positive or negative zero. -/
def zero (negative : Bool) : Binary64 := ⟨negative, 0, minExponent⟩

/-- Whether the value is zero. -/
def isZero (x : Binary64) : Bool := x.significand == 0

/-- The value `n · 2 ^ e` as a fraction of natural numbers. -/
def scaled (n : Nat) (e : Int) : Nat × Nat :=
  if 0 ≤ e then (n * Nat.pow 2 e.toNat, 1) else (n, Nat.pow 2 (-e).toNat)

/-- The magnitude as a fraction of natural numbers. -/
def magnitude (x : Binary64) : Nat × Nat := scaled x.significand x.exponent

/-- Whether `num / den ≥ 2 ^ k`. -/
def atLeastPow2 (num den : Nat) (k : Int) : Bool :=
  if 0 ≤ k then den * Nat.pow 2 k.toNat ≤ num else den ≤ num * Nat.pow 2 (-k).toNat

/-- The exponent `k` with `2 ^ k ≤ num / den < 2 ^ (k + 1)`, for positive `num` and `den`. -/
def floorLog2 (num den : Nat) : Int :=
  let k : Int := (num.log2 : Int) - den.log2
  if atLeastPow2 num den k then k else k - 1

/-- The natural number nearest to `a / b`, ties going to the even one. -/
def divNearestEven (a b : Nat) : Nat :=
  let q := a / b
  let r := a % b
  if b < 2 * r then q + 1
  else if 2 * r < b then q
  else if q % 2 = 0 then q else q + 1

/-- The double nearest to `num / den` with the given sign, or `none` when it overflows. -/
def round (negative : Bool) (num den : Nat) : Option Binary64 :=
  if num = 0 ∨ den = 0 then some (zero negative)
  else
    let e := max (floorLog2 num den - (precision - 1 : Nat)) minExponent
    let (a, b) := if 0 ≤ e then (num, den * Nat.pow 2 e.toNat) else (num * Nat.pow 2 (-e).toNat, den)
    let m := divNearestEven a b
    let (m, e) := if m = Nat.pow 2 precision then (Nat.pow 2 (precision - 1), e + 1) else (m, e)
    if maxExponent < e then none else some ⟨negative, m, e⟩

/-- The double nearest to a natural number. -/
def ofNat? (n : Nat) : Option Binary64 := round false n 1

/-- The rounded product of two doubles. -/
def mul? (x y : Binary64) : Option Binary64 :=
  let (a, b) := x.magnitude
  let (c, d) := y.magnitude
  round (x.negative != y.negative) (a * c) (b * d)

/-- The rounded quotient of two doubles, when the divisor is not zero. -/
def div? (x y : Binary64) : Option Binary64 :=
  if y.isZero then none
  else
    let (a, b) := x.magnitude
    let (c, d) := y.magnitude
    round (x.negative != y.negative) (a * d) (b * c)

/-- The magnitude truncated toward zero. -/
def truncate (x : Binary64) : Nat :=
  let (a, b) := x.magnitude
  a / b

/-- `n · 2 ^ e / 10 ^ k` as a fraction of natural numbers. -/
def decimalShift (n : Nat) (e k : Int) : Nat × Nat :=
  let (a, b) := scaled n e
  if 0 ≤ k then (a, b * Nat.pow 10 k.toNat) else (a * Nat.pow 10 (-k).toNat, b)

/-- The number of decimal digits of a natural number (one for zero). -/
def digitCount (n : Nat) : Nat := (toString n).length

/-- The decimal candidates `c · 10 ^ k` between the rounding bounds of a double. -/
structure Window where
  low : Nat
  high : Nat
  nearest : Nat

/-- The candidates at scale `10 ^ k`: the lowest and highest admissible, and the nearest to
the value. Values are given as multiples of `2 ^ e`; `closed` says whether the bounds themselves
round to the double. -/
def window (lower value upper : Nat) (e k : Int) (closed : Bool) : Window :=
  let (la, lb) := decimalShift lower e k
  let (ua, ub) := decimalShift upper e k
  let (va, vb) := decimalShift value e k
  let low := if closed then (la + lb - 1) / lb else la / lb + 1
  let high := if closed then ua / ub else (ua + ub - 1) / ub - 1
  ⟨low, high, divNearestEven va vb⟩

/-- Searches the scales from `k` down for the first with an admissible candidate. -/
def firstWindow (lower value upper : Nat) (e : Int) (closed : Bool) : Nat → Int → Nat × Int
  | 0, k => (value, k)
  | fuel + 1, k =>
    let w := window lower value upper e k closed
    if w.low ≤ w.high then (min (max w.nearest w.low) w.high, k)
    else firstWindow lower value upper e closed fuel (k - 1)

/-- The shortest decimal `digits · 10 ^ k` that rounds to a positive double, as `(digits, k)`. -/
def shortest (x : Binary64) : Nat × Int :=
  let m := x.significand
  let e := x.exponent - 2
  let value := 4 * m
  let upper := 4 * m + 2
  let lower := if m = Nat.pow 2 (precision - 1) ∧ minExponent < x.exponent then 4 * m - 1 else 4 * m - 2
  let (ua, ub) := scaled upper e
  let top : Int := (digitCount (ua / ub) : Int) - 1
  firstWindow lower value upper e (m % 2 = 0) 1200 top

end Binary64

end Fulfillment.Number
