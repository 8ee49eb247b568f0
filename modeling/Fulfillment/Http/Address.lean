import Fulfillment.Text.Utf8

/-!
# IP address texts

A host written between square brackets must be an IPv6 address. `readAddress` reads an address
text, given as bytes, the way an IP address reader does: the first `.`, `:` or `%` in it decides
between a dotted IPv4 address, an IPv6 address, and a zone with no address before it. It answers
the kind of address read, or an `AddressFault`: the reason in the reader's words and, for some
faults, the rest of the text where reading stopped.

* An IPv4 address is four decimal fields below 256, separated by dots, with no leading zeros.
* An IPv6 address is up to eight groups of one to four hexadecimal digits separated by colons,
  with at most one `::` standing for at least one group of zeros, possibly ending in an IPv4
  address in place of the last two groups, and possibly followed by `%` and a non-empty zone.
-/

namespace Fulfillment.Http

/-- Why an address text does not read, and the rest of the text where reading stopped when the
reason points at it. -/
structure AddressFault where
  reason : String
  rest : List UInt8 := []
  deriving DecidableEq

/-- The kind of address a text reads as. -/
inductive AddressKind where
  | v4
  | v6
  deriving DecidableEq

/-- Whether a byte is a decimal digit. -/
def isDigitByte (b : UInt8) : Bool := 0x30 ≤ b && b ≤ 0x39

/-- Whether a byte is a hexadecimal digit. -/
def isHexByte (b : UInt8) : Bool :=
  isDigitByte b || (0x41 ≤ b && b ≤ 0x46) || (0x61 ≤ b && b ≤ 0x66)

/-- Reads the fields of a dotted IPv4 address: `value` and `digits` describe the field being
read, and `dots` counts the dots passed. -/
def readV4Fields (value digits dots : Nat) : List UInt8 → Option AddressFault
  | [] => if dots < 3 then some ⟨"IPv4 address too short", []⟩ else none
  | b :: rest =>
    if isDigitByte b then
      if digits == 1 && value == 0 then some ⟨"IPv4 field has octet with leading zero", []⟩
      else
        let v := value * 10 + (b.toNat - 0x30)
        if v > 255 then some ⟨"IPv4 field has value >255", []⟩
        else readV4Fields v (digits + 1) dots rest
    else if b == 0x2E then
      if digits == 0 || rest.isEmpty then
        some ⟨"IPv4 field must have at least one digit", b :: rest⟩
      else if dots == 3 then some ⟨"IPv4 address too long", []⟩
      else readV4Fields 0 0 (dots + 1) rest
    else some ⟨"unexpected character", b :: rest⟩

/-- Reads the groups of an IPv6 address from `s`, with `filled` bytes of the address filled so
far and `gap` the place of a `::` already read. The result is the bytes filled, the place of the
`::`, and the text left when the address is full; each round fills at least two bytes, so nine
rounds are enough. -/
def readV6Groups : Nat → Nat → Option Nat → List UInt8 →
    Except AddressFault (Nat × Option Nat × List UInt8)
  | 0, filled, gap, s => .ok (filled, gap, s)
  | fuel + 1, filled, gap, s =>
    if 16 ≤ filled then .ok (filled, gap, s)
    else
      let digits := (s.takeWhile isHexByte).length
      if 4 < digits then
        .error ⟨"each group must have 4 or less digits", s⟩
      else if digits == 0 then
        .error ⟨"each colon-separated field must have at least one digit", s⟩
      else
        match s.drop digits with
        | 0x2E :: _ =>
          if gap.isNone && filled != 12 then
            .error ⟨"embedded IPv4 address must replace the final 2 fields of the address", s⟩
          else if 16 < filled + 4 then
            .error ⟨"too many hex fields to fit an embedded IPv4 at the end of the address", s⟩
          else
            match readV4Fields 0 0 0 s with
            | some f => .error f
            | none => .ok (filled + 4, gap, [])
        | [] => .ok (filled + 2, gap, [])
        | c :: more =>
          if c != 0x3A then .error ⟨"unexpected character, want colon", c :: more⟩
          else
            match more with
            | [] => .error ⟨"colon must be followed by more characters", [c]⟩
            | 0x3A :: more' =>
              if gap.isSome then .error ⟨"multiple :: in address", more⟩
              else if more'.isEmpty then .ok (filled + 2, some (filled + 2), [])
              else readV6Groups fuel (filled + 2) (some (filled + 2)) more'
            | _ => readV6Groups fuel (filled + 2) gap more

/-- Reads an IPv6 address with its zone, if it has one. -/
def readV6 (text : List UInt8) : Except AddressFault AddressKind :=
  let (s, zone) := (text.takeWhile (· != 0x25), text.dropWhile (· != 0x25))
  if zone == [0x25] then .error ⟨"zone must be a non-empty string", []⟩
  else
    let (gap, s) : Option Nat × List UInt8 :=
      match s with
      | 0x3A :: 0x3A :: rest => (some 0, rest)
      | _ => (none, s)
    if gap.isSome && s.isEmpty then .ok .v6
    else
      match readV6Groups 9 0 gap s with
      | .error f => .error f
      | .ok (filled, gap, rest) =>
        if !rest.isEmpty then .error ⟨"trailing garbage after address", rest⟩
        else if filled < 16 then
          if gap.isNone then .error ⟨"address string too short", []⟩ else .ok .v6
        else if gap.isSome then .error ⟨"the :: must expand to at least one field of zeros", []⟩
        else .ok .v6

/-- Reads an address text: the first `.`, `:` or `%` decides how. -/
def readAddress (text : List UInt8) : Except AddressFault AddressKind :=
  match text.find? fun b => b == 0x2E || b == 0x3A || b == 0x25 with
  | some 0x2E =>
    match readV4Fields 0 0 0 text with
    | some f => .error f
    | none => .ok .v4
  | some 0x3A => readV6 text
  | some _ => .error ⟨"missing IPv6 address", []⟩
  | none => .error ⟨"unable to parse IP", []⟩

/-- Bytes between double quotes, as `Text.quotePieces` writes them. -/
def quoteByteText (bs : List UInt8) : String := Text.quotePieces (Text.readUtf8 bs)

/-- The complaint about an address text that does not read. -/
def AddressFault.describe (f : AddressFault) (text : List UInt8) : String :=
  "ParseAddr(" ++ quoteByteText text ++ "): " ++ f.reason ++
    (if f.rest.isEmpty then "" else " (at " ++ quoteByteText f.rest ++ ")")

end Fulfillment.Http
