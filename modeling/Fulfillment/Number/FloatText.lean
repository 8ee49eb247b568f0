import Fulfillment.Number.Binary64
import Fulfillment.Number.Integer

/-!
# Floating-point literals

`readFloat` reads a double from text: an optional sign, then either `inf`, `infinity` or (with
no sign) `nan` in any case, or decimal digits with an optional point and an optional `e`
exponent, or `0x` hexadecimal digits with an optional point and a required `p` exponent.
Underscores may separate digits as in integer literals. The whole text must be the literal.
The value is rounded to the nearest double; a value beyond the finite doubles is out of range.
An exponent stops growing once it passes four digits, which only matters where the value
overflows or vanishes anyway.

`jsonText` writes a double the way JSON writers print numbers: the shortest decimal that reads
back as the same double, positional between `1e-6` and `1e21` and with an exponent outside.
-/

namespace Fulfillment.Number

/-- What a floating-point literal reads as. -/
inductive FloatReading where
  | finite (x : Binary64)
  | infinite (negative : Bool)
  | notANumber
  | malformed
  | outOfRange
  deriving Inhabited

/-- Whether a text starts with a word, ignoring ASCII case. -/
def startsWithWord : List Char → List Char → Bool
  | _, [] => true
  | c :: cs, w :: ws => c.toLower == w && startsWithWord cs ws
  | [], _ :: _ => false

/-- Whether a text is a word, ignoring ASCII case. -/
def isWord (cs word : List Char) : Bool := cs.length == word.length && startsWithWord cs word

/-- The digits of a literal's significand: their value as a whole number, how many follow the
point, and the characters after them. -/
structure Significand where
  whole : Nat
  fractionDigits : Nat
  sawDigit : Bool
  rest : List Char

/-- Reads digits in a base with at most one point, skipping underscores. -/
def readSignificand (base : Nat) : List Char → Significand → Bool → Significand
  | [], acc, _ => { acc with rest := [] }
  | c :: cs, acc, sawPoint =>
    if c = '_' then readSignificand base cs acc sawPoint
    else if c = '.' then
      if sawPoint then { acc with rest := c :: cs } else readSignificand base cs acc true
    else
      let d := digitValue c
      if d < base then
        readSignificand base cs
          { acc with whole := acc.whole * base + d, sawDigit := true,
                     fractionDigits := if sawPoint then acc.fractionDigits + 1 else acc.fractionDigits }
          sawPoint
      else { acc with rest := c :: cs }

/-- Reads exponent digits, skipping underscores; growth stops once the value reaches 10000. -/
def readExponentDigits : List Char → Nat → Nat × List Char
  | [], e => (e, [])
  | c :: cs, e =>
    if c = '_' then readExponentDigits cs e
    else if c.isDigit then
      readExponentDigits cs (if e < 10000 then e * 10 + (c.toNat - 48) else e)
    else (e, c :: cs)

/-- Reads a signed exponent that must have at least one digit. -/
def readSignedExponent (cs : List Char) : Option (Int × List Char) :=
  let (neg, body) : Bool × List Char :=
    match cs with
    | '+' :: r => (false, r)
    | '-' :: r => (true, r)
    | r => (false, r)
  match body with
  | c :: _ =>
    if c.isDigit then
      let (e, rest) := readExponentDigits body 0
      some (if neg then -(e : Int) else e, rest)
    else none
  | [] => none

/-- The value `whole · base ^ scale` as a fraction, for base 2 or 10. -/
def scaledFraction (whole : Nat) (base : Nat) (scale : Int) : Nat × Nat :=
  if 0 ≤ scale then (whole * Nat.pow base scale.toNat, 1) else (whole, Nat.pow base (-scale).toNat)

/-- Reads a number that is not one of the words: its sign, and its value as a fraction. -/
def readNumeral (cs : List Char) : Option (Bool × Nat × Nat) :=
  let (neg, body) : Bool × List Char :=
    match cs with
    | '+' :: r => (false, r)
    | '-' :: r => (true, r)
    | r => (false, r)
  let (hex, digits) : Bool × List Char :=
    match body with
    | '0' :: x :: d :: r => if x.toLower = 'x' then (true, d :: r) else (false, body)
    | _ => (false, body)
  let sig := readSignificand (if hex then 16 else 10) digits ⟨0, 0, false, []⟩ false
  if !sig.sawDigit then none
  else
    let marker := if hex then 'p' else 'e'
    let exponent : Option (Int × List Char) :=
      match sig.rest with
      | c :: r => if c.toLower = marker then readSignedExponent r else none
      | [] => if hex then none else some (0, [])
    match exponent with
    | none => none
    | some (e, rest) =>
      if !rest.isEmpty then none
      else if cs.contains '_' && !separatorsWellPlaced cs then none
      else if hex then
        let (a, b) := scaledFraction sig.whole 2 (e - 4 * (sig.fractionDigits : Int))
        some (neg, a, b)
      else
        let (a, b) := scaledFraction sig.whole 10 (e - (sig.fractionDigits : Int))
        some (neg, a, b)

/-- Reads a double from text. -/
def readFloat (s : String) : FloatReading :=
  let cs := s.toList
  let (neg, body) : Bool × List Char :=
    match cs with
    | '+' :: r => (false, r)
    | '-' :: r => (true, r)
    | r => (false, r)
  if isWord body "inf".toList || isWord body "infinity".toList then .infinite neg
  else if isWord cs "nan".toList then .notANumber
  else
    match readNumeral cs with
    | none => .malformed
    | some (negative, a, b) =>
      match Binary64.round negative a b with
      | some x => .finite x
      | none => .outOfRange

/-- The complaint about a literal that does not read as a double. -/
def FloatReading.complaint (r : FloatReading) (s : String) : String :=
  match r with
  | .outOfRange => "strconv.ParseFloat: parsing " ++ Text.quote s ++ ": value out of range"
  | _ => "strconv.ParseFloat: parsing " ++ Text.quote s ++ ": invalid syntax"

/-- A text of `n` zeros. -/
def zeros (n : Nat) : String := String.ofList (List.replicate n '0')

/-- Writes a double as JSON writers do. -/
def jsonText (x : Binary64) : String :=
  let sign := if x.negative then "-" else ""
  if x.isZero then sign ++ "0"
  else
    let (r, k) := x.shortest
    let digits := toString r
    let nd := digits.length
    let dp : Int := nd + k
    if dp ≤ -6 ∨ 22 ≤ dp then
      let first := String.ofList (digits.toList.take 1)
      let others := String.ofList (digits.toList.drop 1)
      let mantissa := if others.isEmpty then first else first ++ "." ++ others
      let power := dp - 1
      sign ++ mantissa ++ "e" ++ (if power < 0 then "-" else "+") ++ toString power.natAbs
    else if dp ≤ 0 then sign ++ "0." ++ zeros dp.natAbs ++ digits
    else if nd ≤ dp.toNat then sign ++ digits ++ zeros (dp.toNat - nd)
    else
      sign ++ String.ofList (digits.toList.take dp.toNat) ++ "." ++
        String.ofList (digits.toList.drop dp.toNat)

end Fulfillment.Number
