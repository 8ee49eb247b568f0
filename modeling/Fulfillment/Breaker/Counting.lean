import Fulfillment.Clock.Instant
import Fulfillment.Json.Basic

/-!
# Counting breaker

A counting breaker guards calls to a remote service by counting consecutive failures. It opens
when the count reaches its threshold, remembering the moment; further failures keep counting
but do not move that moment. While it is open it refuses calls until more than the cool-down has
passed since it opened; the first call after that closes it and clears the count. A success
closes it too.

A threshold or cool-down that is not positive falls back to 5 failures and 300 seconds. The
threshold and the count are 64-bit integers: the count is never capped, so it wraps around after
2 ^ 63 - 1 failures in a row. The time since the breaker opened is measured with
`Instant.since`, so it never passes the 64-bit range.
-/

namespace Fulfillment

/-- A breaker that opens after a run of failures and closes after a cool-down or a success. -/
structure CountingBreaker where
  name : String
  threshold : Nat
  coolDown : Duration
  failures : Int
  isOpen : Bool
  openedAt : Instant
  deriving DecidableEq, Inhabited, Repr

namespace CountingBreaker

/-- The threshold used when none is given. -/
def defaultThreshold : Nat := 5

/-- The cool-down used when none is given. -/
def defaultCoolDown : Duration := Duration.ofSeconds 300

/-- A closed breaker with no failures, its threshold taken as a 64-bit integer. -/
def make (name : String) (threshold : Int) (coolDown : Duration) : CountingBreaker :=
  ⟨name, if wrapInt64 threshold ≤ 0 then defaultThreshold else (wrapInt64 threshold).toNat,
    coolDown.orDefault defaultCoolDown, 0, false, Instant.zero⟩

/-- The breaker closed with its count cleared. -/
def reset (b : CountingBreaker) : CountingBreaker :=
  { b with failures := 0, isOpen := false, openedAt := Instant.zero }

/-- Whether a call may go ahead at `now`; an open breaker whose cool-down has passed closes. -/
def allow (b : CountingBreaker) (now : Instant) : Bool × CountingBreaker :=
  if !b.isOpen then (true, b)
  else if b.coolDown.ns < (now.since b.openedAt).ns then (true, b.reset)
  else (false, b)

/-- Records a successful call. -/
def recordSuccess (b : CountingBreaker) : CountingBreaker :=
  if b.isOpen || 0 < b.failures then b.reset else b

/-- Records a failed call at `now`, counting it with 64-bit wraparound. -/
def recordFailure (b : CountingBreaker) (now : Instant) : CountingBreaker :=
  let b := { b with failures := wrapInt64 (b.failures + 1) }
  if (b.threshold : Int) ≤ b.failures && !b.isOpen then { b with isOpen := true, openedAt := now } else b

/-- The state of the breaker as JSON; the opening moment is shown only while it is open. -/
def snapshot (b : CountingBreaker) : Json :=
  .obj <|
    [("name", .str b.name), ("open", .bool b.isOpen),
     ("consecutive_failures", Json.int b.failures), ("threshold", Json.int b.threshold)] ++
    (if b.isOpen then [("opened_at", .str b.openedAt.toText)] else [])

theorem recordFailure_failures (b : CountingBreaker) (now : Instant) :
    (b.recordFailure now).failures = wrapInt64 (b.failures + 1) := by
  simp only [recordFailure]
  split <;> rfl

end CountingBreaker

end Fulfillment
