import Fulfillment.Breaker.Counting
import Fulfillment.Breaker.Ratio
import Fulfillment.Script.Answer
import Fulfillment.Script.Entity

/-!
# Breakers on a script

`breakerScript` drives a counting breaker on a scripted clock that starts at
2024-01-01T00:00:00Z: `allow`, `success`, `failure` and `advance` steps each answer with the
breaker's snapshot, and any other step only reads the snapshot. `ratioScript` runs a list of
calls with scripted errors through a new client breaker; a call of a name it does not know
returns no error.
-/

namespace Fulfillment.Script

open Json

/-- One step on a counting breaker and its clock. -/
def breakerStep (s : CountingBreaker × Instant) (step : Step) :
    (CountingBreaker × Instant) × Json :=
  let (b, now) := s
  match step.op with
  | "allow" =>
    let (ok, b') := b.allow now
    ((b', now), .obj [("allowed", .bool ok), ("snapshot", b'.snapshot)])
  | "success" => let b' := b.recordSuccess; ((b', now), .obj [("snapshot", b'.snapshot)])
  | "failure" => let b' := b.recordFailure now; ((b', now), .obj [("snapshot", b'.snapshot)])
  | "advance" =>
    let now' := now.add (Duration.ofMillis step.ms)
    ((b, now'), .obj [("snapshot", b.snapshot)])
  | _ => (s, .obj [("snapshot", b.snapshot)])

/-- A counting breaker and its steps. -/
def breakerScript (i : Input) : Json :=
  let b := CountingBreaker.make "payment" i.threshold (Duration.ofMillis i.coolDownMs)
  stepsAnswer (runSteps breakerStep (b, Instant.start) i.steps)

/-- The error a scripted call returns; a name it does not know returns none. -/
def scriptedCall : String → Option Fault
  | "fail" => some (.note "remote failure")
  | "fail_unavailable" => some (.flagged "remote down" .serviceUnavailable)
  | "permanent" => some (.permanent (.note "remote said no"))
  | "permanent_not_found" => some (.permanent (.within "remote" (.bare .notFound)))
  | _ => none

/-- One call through the client breaker `oracle-client`, kept by gobreaker on the wall clock. -/
def ratioStep (b : Breaker) (name : String) : Breaker × Json :=
  let (r, b') := (ClientBreaker.run gobreaker "oracle-client" (pure Instant.wall) get set
    (pure ((), scriptedCall name)) : StateM Breaker _).run b
  let (ran, fault) := match r with
    | .error f => (false, some f)
    | .ok (_, e) => (true, e)
  let shown := [("ran", Json.bool ran),
    ("status", ClientBreaker.status "oracle-client" (gobreaker.state Instant.wall b'))]
  (b', .obj (shown ++ (match fault with
    | some f => faultFields f
    | none => [])))

/-- A client breaker and its calls. -/
def ratioScript (i : Input) : Json :=
  stepsAnswer (runSteps ratioStep
    (gobreaker.make (ClientBreaker.settings "oracle-client") Instant.wall) i.calls)

end Fulfillment.Script
