/-!
# Exact decimals

A `Decimal` is `coeff × 10 ^ exp` for an integer coefficient and an integer exponent. Sums and
products are exact: a product multiplies coefficients and adds exponents, and a sum brings both
numbers to the smaller exponent first. Two decimals with different coefficients may stand for
the same number (`10 × 10⁻¹` and `1`); `value` is the rational number a decimal stands for, and
the printed form depends on it alone.
-/

namespace Fulfillment

/-- The number `coeff × 10 ^ exp`. -/
structure Decimal where
  coeff : Int
  exp : Int
  deriving DecidableEq, Inhabited, Repr

namespace Decimal

/-- Zero. -/
def zero : Decimal := ⟨0, 0⟩

/-- A whole number. -/
def ofInt (n : Int) : Decimal := ⟨n, 0⟩

/-- The coefficient scaled to a smaller or equal exponent `e`. -/
def coeffAt (d : Decimal) (e : Int) : Int :=
  d.coeff * Int.pow 10 (d.exp - e).toNat

/-- The exact sum. -/
def add (a b : Decimal) : Decimal :=
  let e := min a.exp b.exp
  ⟨a.coeffAt e + b.coeffAt e, e⟩

/-- The exact product. -/
def mul (a b : Decimal) : Decimal :=
  ⟨a.coeff * b.coeff, a.exp + b.exp⟩

instance : Add Decimal := ⟨add⟩
instance : Mul Decimal := ⟨mul⟩

/-- Whether the number is greater than zero. -/
def isPositive (d : Decimal) : Bool := 0 < d.coeff

/-- The sum of a list of decimals, starting from zero. -/
def sum (ds : List Decimal) : Decimal := ds.foldl add zero

theorem mul_coeff (a b : Decimal) : (a * b).coeff = a.coeff * b.coeff := rfl

theorem mul_exp (a b : Decimal) : (a * b).exp = a.exp + b.exp := rfl

theorem isPositive_iff (d : Decimal) : d.isPositive = true ↔ 0 < d.coeff := by
  simp [isPositive]

end Decimal

end Fulfillment
