import Fulfillment.Decimal.Basic
import Fulfillment.Number.Integer

/-!
# Decimal text

`Decimal.toText` writes a decimal in positional notation, with no exponent and no trailing
zeros after the point: `10.00` is written `10`, `1e3` is `1000`, `-0` is `0`.

`Decimal.ofText` reads a decimal: an optional sign, digits with at most one point, and an
optional exponent after the first `e` or `E` that must be a 32-bit decimal integer. The
complaints name the text as far as it was read: the exponent is cut off before the point and
the digits are checked.
-/

namespace Fulfillment.Decimal

/-- Digits with zeros put in front up to `width` of them. -/
def padDigits (cs : List Char) (width : Nat) : List Char :=
  List.replicate (width - cs.length) '0' ++ cs

/-- The digits of `n` with zeros in front up to `width` of them. A number of more than about
thirty digits is cut at `10 ^ k`, with `k` near half its digit count, and the two parts are
written alike, the lower one to exactly `k` digits; each level costs a division instead of one
per digit. Since `10 ^ k ≤ n` when `k` is at most three twentieths of the bit length, the upper
part is never zero, so no stray zero stands in front. -/
def digitsWithin : Nat → Nat → Nat → List Char
  | 0, n, width => padDigits (toString n).toList width
  | fuel + 1, n, width =>
    let k := n.log2 * 3 / 20
    if k < 16 then padDigits (toString n).toList width
    else
      let p := Nat.pow 10 k
      digitsWithin fuel (n / p) (width - k) ++ digitsWithin fuel (n % p) k

/-- The digits of a natural number. -/
def natDigits (n : Nat) : List Char := digitsWithin (n.log2 + 1) n 0

/-- Drops the zeros at the end of a list of digits. -/
def dropTrailingZeros (cs : List Char) : List Char :=
  (cs.reverse.dropWhile (· = '0')).reverse

/-- Positional notation without trailing zeros after the point. -/
def toText (d : Decimal) : String :=
  if 0 ≤ d.exp then
    if d.coeff = 0 then "0"
    else
      let digits := natDigits d.coeff.natAbs ++ List.replicate d.exp.toNat '0'
      String.ofList (if d.coeff < 0 then '-' :: digits else digits)
  else
    let digits := natDigits d.coeff.natAbs
    let k := d.exp.natAbs
    let (intPart, frac) : List Char × List Char :=
      if k < digits.length then (digits.take (digits.length - k), digits.drop (digits.length - k))
      else (['0'], List.replicate (k - digits.length) '0' ++ digits)
    let frac := dropTrailingZeros frac
    let number := if frac = [] then intPart else intPart ++ '.' :: frac
    String.ofList (if d.coeff < 0 then '-' :: number else number)

/-- The value of a run of decimal digits, read one digit at a time. -/
def digitRunValue (cs : List Char) : Nat :=
  cs.foldl (fun n c => 10 * n + (c.toNat - '0'.toNat)) 0

/-- The value of a run of decimal digits. A run of more than 32 digits is cut in the middle and
both halves are read alike; the upper half then counts `10 ^ k` times, `k` the length of the
lower one. Each level costs a multiplication instead of one per digit. -/
def digitsValue : Nat → List Char → Nat
  | 0, cs => digitRunValue cs
  | fuel + 1, cs =>
    if cs.length ≤ 32 then digitRunValue cs
    else
      let h := cs.length / 2
      digitsValue fuel (cs.take h) * Nat.pow 10 (cs.length - h) + digitsValue fuel (cs.drop h)

/-- Reads a signed run of decimal digits of any length. -/
def readCoefficient (cs : List Char) : Option Int :=
  if cs.length ≤ 18 then Number.readInt64? (String.ofList cs)
  else
    let (neg, body) : Bool × List Char :=
      match cs with
      | '+' :: r => (false, r)
      | '-' :: r => (true, r)
      | r => (false, r)
    if body ≠ [] ∧ body.all Char.isDigit then
      let n : Int := digitsValue body.length body
      some (if neg then -n else n)
    else none

/-- The bounds of a 32-bit exponent. -/
def exponentFits (e : Int) : Bool := -(Int.pow 2 31) ≤ e && e < Int.pow 2 31

/-- Reads a decimal, or says why the text is not one. -/
def ofText (s : String) : Except String Decimal :=
  let cs := s.toList
  let head := cs.takeWhile fun c => c ≠ 'e' ∧ c ≠ 'E'
  let fail (shown : List Char) (why : String) : Except String Decimal :=
    .error ("can't convert " ++ String.ofList shown ++ " to decimal" ++ why)
  let exponent : Except String Int :=
    if head.length = cs.length then .ok 0
    else
      match Number.readInt (String.ofList (cs.drop (head.length + 1))) 10 32 with
      | .value e => .ok e
      | .outOfRange => fail cs ": fractional part too long" |>.map fun _ => 0
      | .malformed => fail cs ": exponent is not numeric" |>.map fun _ => 0
  match exponent with
  | .error e => .error e
  | .ok e =>
    if 1 < head.count '.' then fail head ": too many .s"
    else
      let intPart := head.takeWhile (· ≠ '.')
      let fracPart := (head.dropWhile (· ≠ '.')).drop 1
      match readCoefficient (intPart ++ fracPart) with
      | none => fail head ""
      | some coeff =>
        let exp := e - fracPart.length
        if exponentFits exp then .ok ⟨coeff, exp⟩ else fail cs ": fractional part too long"

end Fulfillment.Decimal
