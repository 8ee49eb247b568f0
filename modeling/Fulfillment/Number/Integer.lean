import Fulfillment.Text.Quoted

/-!
# Integer literals

`readInt` reads a signed integer of a given width in bits, in a given base. Base 0 means the
base comes from a prefix (`0b`, `0o`, `0x`, or a bare leading `0` for octal, otherwise decimal)
and then underscores may separate digits. A literal is either a value, malformed, or out of
range; digits are read from the left, and the first digit that takes the magnitude past the
width makes the literal out of range even if a malformed character follows.
-/

namespace Fulfillment.Number

/-- What an integer literal reads as. -/
inductive IntReading where
  | value (n : Int)
  | malformed
  | outOfRange
  deriving DecidableEq, Inhabited

/-- The value of a digit in bases up to 36; other characters get 36. -/
def digitValue (c : Char) : Nat :=
  if '0' ≤ c ∧ c ≤ '9' then c.toNat - 48
  else
    let l := c.toLower
    if 'a' ≤ l ∧ l ≤ 'z' then l.toNat - 87 else 36

/-- Reads digits into a magnitude no larger than `maxVal`, noting whether underscores occurred. -/
def accumulate (base maxVal : Nat) (separators : Bool) :
    List Char → Nat → Bool → Option (Nat × Bool) ⊕ IntReading
  | [], n, seen => .inl (some (n, seen))
  | c :: cs, n, seen =>
    if c = '_' ∧ separators then accumulate base maxVal separators cs n true
    else
      let d := digitValue c
      if base ≤ d then .inr .malformed
      else if maxVal < n * base + d then .inr .outOfRange
      else accumulate base maxVal separators cs (n * base + d) seen

/-- Whether underscores only separate digits (a base prefix counts as a digit). -/
def separatorsWellPlaced (cs : List Char) : Bool :=
  let body := match cs with
    | '+' :: r => r
    | '-' :: r => r
    | r => r
  let (start, rest) : Char × List Char :=
    match body with
    | '0' :: p :: r =>
      if p.toLower = 'b' ∨ p.toLower = 'o' ∨ p.toLower = 'x' then ('0', r) else ('^', body)
    | _ => ('^', body)
  let hex : Bool := match body with
    | '0' :: p :: _ => p.toLower == 'x'
    | _ => false
  let step (saw : Char) (c : Char) : Option Char :=
    if c.isDigit || (hex && 'a' ≤ c.toLower && c.toLower ≤ 'f') then some '0'
    else if c = '_' then (if saw = '0' then some '_' else none)
    else if saw = '_' then none
    else some '!'
  match rest.foldlM step start with
  | some last => last ≠ '_'
  | none => false

/-- Reads an unsigned magnitude of `bits` bits in `base` (0 for a prefixed base). -/
def readNat (cs : List Char) (base bits : Nat) : Option Nat ⊕ IntReading :=
  if cs = [] then .inr .malformed
  else
    let (b, digits, separators) : Nat × List Char × Bool :=
      if base = 0 then
        match cs with
        | '0' :: p :: d :: r =>
          if p.toLower = 'b' then (2, d :: r, true)
          else if p.toLower = 'o' then (8, d :: r, true)
          else if p.toLower = 'x' then (16, d :: r, true)
          else (8, p :: d :: r, true)
        | '0' :: r => (8, r, true)
        | _ => (10, cs, true)
      else (base, cs, false)
    match accumulate b (Nat.pow 2 bits - 1) separators digits 0 false with
    | .inr r => .inr r
    | .inl none => .inr .malformed
    | .inl (some (n, seen)) =>
      if seen ∧ ¬ separatorsWellPlaced cs then .inr .malformed else .inl (some n)

/-- Reads a signed integer of `bits` bits in `base` (0 for a prefixed base). -/
def readInt (s : String) (base bits : Nat) : IntReading :=
  let cs := s.toList
  if cs = [] then .malformed
  else
    let (neg, body) : Bool × List Char :=
      match cs with
      | '+' :: r => (false, r)
      | '-' :: r => (true, r)
      | r => (false, r)
    let limit := Nat.pow 2 (bits - 1)
    match readNat body base bits with
    | .inr .malformed => .malformed
    | .inr _ => .outOfRange
    | .inl none => .malformed
    | .inl (some n) =>
      if neg then (if limit < n then .outOfRange else .value (-(n : Int)))
      else if limit ≤ n then .outOfRange else .value n

/-- A decimal 64-bit integer, if the text is one. -/
def readInt64? (s : String) : Option Int :=
  match readInt s 10 64 with
  | .value n => some n
  | _ => none

/-- The complaint about an integer literal that does not read as a value. -/
def IntReading.complaint (r : IntReading) (s : String) : String :=
  match r with
  | .outOfRange => "strconv.ParseInt: parsing " ++ Text.quote s ++ ": value out of range"
  | _ => "strconv.ParseInt: parsing " ++ Text.quote s ++ ": invalid syntax"

end Fulfillment.Number
