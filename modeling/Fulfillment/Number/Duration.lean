import Fulfillment.Number.Binary64
import Fulfillment.Text.Quoted

/-!
# Duration literals

`readDuration` reads a signed sequence of decimal numbers, each with an optional fraction and a
unit suffix, such as `300ms`, `-1.5h` or `2h45m`, into nanoseconds. The units are `ns`, `us`
(also written with a micro sign or a Greek mu), `ms`, `s`, `m` and `h`; a lone `0` needs no
unit. The whole part of each number is exact; its fraction is turned into nanoseconds in
double precision and truncated, so that fractions of an hour are accurate to the nanosecond.
A total beyond 64-bit nanoseconds is refused as invalid.
-/

namespace Fulfillment.Number

/-- The number of nanoseconds in a unit, if the text names one. -/
def unitNanos : String → Option Nat
  | "ns" => some 1
  | "us" => some 1000
  | "µs" => some 1000
  | "μs" => some 1000
  | "ms" => some 1000000
  | "s" => some 1000000000
  | "m" => some 60000000000
  | "h" => some 3600000000000
  | _ => none

/-- The largest magnitude a duration's parts may reach before it is refused: `2 ^ 63`. -/
def durationLimit : Nat := Nat.pow 2 63

/-- Reads leading digits exactly; `none` when the value passes `2 ^ 63`. -/
def leadingWhole : List Char → Nat → Option (Nat × List Char)
  | [], x => some (x, [])
  | c :: cs, x =>
    if c.isDigit then
      if durationLimit / 10 < x then none
      else
        let y := x * 10 + (c.toNat - 48)
        if durationLimit < y then none else leadingWhole cs y
    else some (x, c :: cs)

/-- Reads the digits of a fraction as a whole number and its count of digits; digits past the
point where the number would pass `2 ^ 63` are read but ignored. -/
def leadingFraction : List Char → Nat → Nat → Bool → Nat × Nat × List Char
  | [], x, n, _ => (x, n, [])
  | c :: cs, x, n, full =>
    if c.isDigit then
      if full then leadingFraction cs x n true
      else if (durationLimit - 1) / 10 < x then leadingFraction cs x n true
      else
        let y := x * 10 + (c.toNat - 48)
        if durationLimit < y then leadingFraction cs x n true
        else leadingFraction cs y (n + 1) false
    else (x, n, c :: cs)

/-- Whether a character may start a number in a duration. -/
def isNumberStart (c : Char) : Bool := c == '.' || c.isDigit

/-- The nanoseconds a fraction `f / 10 ^ digits` of a unit adds, in double precision:
the fraction's digits and the unit's share per digit are each rounded to a double, their
product is rounded, and the result is truncated. -/
def fractionNanos (f digits unit : Nat) : Nat :=
  match Binary64.ofNat? f, Binary64.ofNat? unit, Binary64.ofNat? (Nat.pow 10 digits) with
  | some fx, some ux, some sx =>
    match ux.div? sx with
    | some share =>
      match fx.mul? share with
      | some product => product.truncate
      | none => 0
    | none => 0
  | _, _, _ => 0

/-- Reads the numbers of a duration after its sign, adding their nanoseconds to `total`. -/
def readParts (orig : String) : List Char → Nat → Nat → Except String Nat
  | [], total, _ => .ok total
  | cs@(c :: _), total, fuel + 1 =>
    let invalid := "time: invalid duration " ++ Text.quoteBytes orig
    if !isNumberStart c then .error invalid
    else
      match leadingWhole cs 0 with
      | none => .error invalid
      | some (v, afterWhole) =>
        let pre := afterWhole.length != cs.length
        let (f, digits, afterFraction, post) : Nat × Nat × List Char × Bool :=
          match afterWhole with
          | '.' :: r =>
            let (f, digits, rest) := leadingFraction r 0 0 false
            (f, digits, rest, rest.length != r.length)
          | r => (0, 0, r, false)
        if !pre && !post then .error invalid
        else
          let unitText := afterFraction.takeWhile (fun c => !isNumberStart c)
          let rest := afterFraction.dropWhile (fun c => !isNumberStart c)
          if unitText.isEmpty then .error ("time: missing unit in duration " ++ Text.quoteBytes orig)
          else
            match unitNanos (String.ofList unitText) with
            | none =>
              .error ("time: unknown unit " ++ Text.quoteBytes (String.ofList unitText) ++
                " in duration " ++ Text.quoteBytes orig)
            | some unit =>
              if durationLimit / unit < v then .error invalid
              else
                let v := v * unit
                let v := if 0 < f then v + fractionNanos f digits unit else v
                if durationLimit < v then .error invalid
                else
                  let total := total + v
                  if durationLimit < total then .error invalid
                  else readParts orig rest total fuel
  | _ :: _, total, 0 => .ok total

/-- Reads a duration into signed nanoseconds, or the complaint about it. -/
def readDuration (s : String) : Except String Int :=
  let cs := s.toList
  let (neg, body) : Bool × List Char :=
    match cs with
    | '+' :: r => (false, r)
    | '-' :: r => (true, r)
    | r => (false, r)
  if body = ['0'] then .ok 0
  else if body.isEmpty then .error ("time: invalid duration " ++ Text.quoteBytes s)
  else
    match readParts s body 0 (body.length + 1) with
    | .error e => .error e
    | .ok total =>
      if neg then .ok (-(total : Int))
      else if durationLimit - 1 < total then .error ("time: invalid duration " ++ Text.quoteBytes s)
      else .ok total

end Fulfillment.Number
