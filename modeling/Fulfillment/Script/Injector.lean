import Fulfillment.Model.Fault
import Fulfillment.Script.Input

/-!
# Injected faults

An `Injection` arms a fault for one store operation. It lets `after` calls of that operation
pass, then fires once on the next one. Armed injections are looked at in the order they were
armed: each one for the called operation that still has calls to let pass counts the call, and
the first one that has none left fires and is disarmed. At most one fires per call.

A firing injection either fails the call with its fault, or, as a conflict on an update, first
changes the stored record and writes it back behind the caller's back, so that the caller's
write meets a newer version.
-/

namespace Fulfillment.Script

open Json

/-- One armed fault. -/
structure Injection where
  method : String
  conflict : Bool
  after : Int
  passed : Int
  mutate : String
  paymentId : Int
  reason : String
  sentinel : String
  message : String
  deriving Inhabited

/-- The class a sentinel name stands for. -/
def sentinelClass : String → Option FaultClass
  | "not_found" => some .notFound
  | "concurrent_update" => some .concurrentUpdate
  | "service_unavailable" => some .serviceUnavailable
  | "validation" => some .validation
  | "already_exists" => some .alreadyExists
  | "invalid_transition" => some .invalidTransition
  | _ => none

namespace Injection

/-- An injection as a step arms it. -/
def ofArming (a : Arming) : Injection :=
  ⟨a.method, a.kind == "conflict", a.after, 0, a.mutate, a.paymentId, a.reason, a.sentinel,
    a.message⟩

/-- Whether the injection changes the stored record on an update instead of failing the call. -/
def interferes (i : Injection) : Bool := i.conflict && i.method == "update"

/-- The fault a firing injection fails its call with. -/
def fault (i : Injection) : Fault :=
  let text := if i.message.isEmpty then "injected " ++ i.method ++ " failure" else i.message
  match sentinelClass i.sentinel with
  | some c => .flagged text c
  | none => .note text

end Injection

/-- Armed injections, in the order they were armed. -/
abbrev Injector := List Injection

/-- The injection that fires on a call of `method`, if any, and the armed injections after the
call. -/
def fire (method : String) : Injector → Option Injection × Injector
  | [] => (none, [])
  | i :: rest =>
    if i.method != method then
      let (f, rest') := fire method rest
      (f, i :: rest')
    else if i.passed < i.after then
      let (f, rest') := fire method rest
      (f, { i with passed := i.passed + 1 } :: rest')
    else (some i, rest)

end Fulfillment.Script
