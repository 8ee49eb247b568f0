import Fulfillment.Clock.Duration

/-!
# Instants

An `Instant` is a count of nanoseconds since 1970-01-01T00:00:00Z on the proleptic Gregorian
calendar. `Instant.zero` is the start of year 1, the moment nothing has been stamped yet. An
instant moves by a `Duration`; the span between two instants is cut at the ends of the 64-bit
range.

`toText` writes an instant in RFC 3339 form in UTC, with a fraction of a second only when it is
not zero and without its trailing zeros: `2024-01-01T00:00:00Z`,
`2024-01-01T00:00:00.000448384Z`. Only a year from 0 to 9999 has four digits there, so only an
instant in those years is `writable` as a JSON moment. `ofText?` reads that form back, for years
0000 to 9999, with any fraction (cut to whole nanoseconds) and a `Z` or a `±hh:mm` offset.
-/

namespace Fulfillment

/-- Nanoseconds since 1970-01-01T00:00:00Z. -/
structure Instant where
  ns : Int
  deriving DecidableEq, Inhabited, Repr

namespace Instant

/-- Nanoseconds in a second. -/
def nanosPerSecond : Int := 1000000000

/-- Nanoseconds in a day. -/
def nanosPerDay : Int := 86400 * nanosPerSecond

/-- The start of year 1, the value of an instant never set. -/
def zero : Instant := ⟨-62135596800 * nanosPerSecond⟩

/-- 2024-01-01T00:00:00Z, where every scripted clock starts. -/
def start : Instant := ⟨1704067200 * nanosPerSecond⟩

/-- The reading of the wall clock that services stamp their own records with. Answers mask every
such moment, so one fixed reading within the writable years stands for all of them. -/
def wall : Instant := start

/-- The instant a span later. -/
def add (t : Instant) (d : Duration) : Instant := ⟨t.ns + d.ns⟩

/-- The span from `u` to `t`, cut at the ends of the 64-bit range. -/
def since (t u : Instant) : Duration := ⟨clampInt64 (t.ns - u.ns)⟩

instance : LE Instant := ⟨fun a b => a.ns ≤ b.ns⟩
instance : LT Instant := ⟨fun a b => a.ns < b.ns⟩
instance (a b : Instant) : Decidable (a ≤ b) := inferInstanceAs (Decidable (a.ns ≤ b.ns))
instance (a b : Instant) : Decidable (a < b) := inferInstanceAs (Decidable (a.ns < b.ns))

/-- The year, month and day of a count of days since 1970-01-01. -/
def civilOfDays (days : Int) : Int × Nat × Nat :=
  let z := days + 719468
  let era := z / 146097
  let doe := z - era * 146097
  let yoe := (doe - doe / 1460 + doe / 36524 - doe / 146096) / 365
  let doy := doe - (365 * yoe + yoe / 4 - yoe / 100)
  let mp := (5 * doy + 2) / 153
  let d := doy - (153 * mp + 2) / 5 + 1
  let m := if mp < 10 then mp + 3 else mp - 9
  let y := yoe + era * 400 + (if m ≤ 2 then 1 else 0)
  (y, m.toNat, d.toNat)

/-- A number written with at least `width` digits. -/
def padded (width : Nat) (n : Nat) : String :=
  let s := toString n
  String.ofList (List.replicate (width - s.length) '0') ++ s

/-- The calendar year of an instant. -/
def year (t : Instant) : Int := (civilOfDays (t.ns / nanosPerDay)).1

/-- Whether the instant's year has four digits, from 0 to 9999. -/
def writable (t : Instant) : Bool := 0 ≤ t.year && t.year ≤ 9999

/-- RFC 3339 text in UTC with a trimmed fraction of a second. -/
def toText (t : Instant) : String :=
  let days := t.ns / nanosPerDay
  let inDay := (t.ns % nanosPerDay).toNat
  let (y, m, d) := civilOfDays days
  let secs := inDay / 1000000000
  let frac := inDay % 1000000000
  let year := if y < 0 then "-" ++ padded 4 y.natAbs else padded 4 y.toNat
  let fracText :=
    if frac = 0 then ""
    else "." ++ String.ofList ((padded 9 frac).toList.reverse.dropWhile (· = '0')).reverse
  year ++ "-" ++ padded 2 m ++ "-" ++ padded 2 d ++ "T" ++ padded 2 (secs / 3600) ++ ":" ++
    padded 2 (secs / 60 % 60) ++ ":" ++ padded 2 (secs % 60) ++ fracText ++ "Z"

/-- The count of days since 1970-01-01 of a day of the proleptic Gregorian calendar. -/
def daysOfCivil (y : Int) (m d : Nat) : Int :=
  let y := if m ≤ 2 then y - 1 else y
  let era := y / 400
  let yoe := y - era * 400
  let mp : Int := if m > 2 then m - 3 else m + 9
  let doy := (153 * mp + 2) / 5 + d - 1
  let doe := yoe * 365 + yoe / 4 - yoe / 100 + doy
  era * 146097 + doe - 719468

/-- Whether a year of the proleptic Gregorian calendar has a 29th of February. -/
def leapYear (y : Int) : Bool := y % 4 == 0 && (y % 100 != 0 || y % 400 == 0)

/-- The number of days of a month. -/
def monthLength (y : Int) (m : Nat) : Nat :=
  if m == 2 then (if leapYear y then 29 else 28)
  else if m == 4 || m == 6 || m == 9 || m == 11 then 30
  else 31

/-- The value of a run of exactly `n` decimal digits at the start of a text, and the rest. -/
def digitsOf (n : Nat) (cs : List Char) : Option (Nat × List Char) :=
  let ds := cs.take n
  if ds.length == n && ds.all Char.isDigit then
    some (ds.foldl (fun acc c => 10 * acc + (c.toNat - 48)) 0, cs.drop n)
  else none

/-- The nanoseconds of a fraction of a second written after its point, cut to whole
nanoseconds; at least one digit. -/
def fractionNanos (ds : List Char) : Option Nat :=
  if ds.isEmpty || !ds.all Char.isDigit then none
  else (digitsOf 9 ((ds ++ List.replicate 9 '0').take 9)).map (·.1)

/-- Reads RFC 3339 text: date, `T`, time, an optional fraction, and `Z` or an offset. -/
def ofText? (s : String) : Option Instant := do
  let cs := s.toList
  let (y, cs) ← digitsOf 4 cs
  let cs ← if cs.head? == some '-' then some cs.tail else none
  let (mo, cs) ← digitsOf 2 cs
  let cs ← if cs.head? == some '-' then some cs.tail else none
  let (d, cs) ← digitsOf 2 cs
  let cs ← if cs.head? == some 'T' || cs.head? == some 't' then some cs.tail else none
  let (h, cs) ← digitsOf 2 cs
  let cs ← if cs.head? == some ':' then some cs.tail else none
  let (mi, cs) ← digitsOf 2 cs
  let cs ← if cs.head? == some ':' then some cs.tail else none
  let (sec, cs) ← digitsOf 2 cs
  let (frac, cs) ← if cs.head? == some '.' then
      let ds := cs.tail.takeWhile Char.isDigit
      (fractionNanos ds).map fun f => (f, cs.tail.drop ds.length)
    else some (0, cs)
  let offsetMin ← match cs with
    | ['Z'] | ['z'] => some (0 : Int)
    | sign :: rest =>
      if sign != '+' && sign != '-' then none
      else do
        let (oh, rest) ← digitsOf 2 rest
        let rest ← if rest.head? == some ':' then some rest.tail else none
        let (om, rest) ← digitsOf 2 rest
        if !rest.isEmpty || oh > 23 || om > 59 then none
        else some (if sign == '-' then -((oh * 60 + om : Nat) : Int) else ((oh * 60 + om : Nat) : Int))
    | [] => none
  if mo < 1 || mo > 12 || d < 1 || d > monthLength y mo || h > 23 || mi > 59 || sec > 59 then none
  else
    let secs : Int := h * 3600 + mi * 60 + sec
    some ⟨daysOfCivil y mo d * nanosPerDay + (secs - offsetMin * 60) * nanosPerSecond + frac⟩

end Instant

end Fulfillment
