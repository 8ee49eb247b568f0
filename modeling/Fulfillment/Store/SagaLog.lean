import Fulfillment.Clock.Instant
import Fulfillment.Json.Basic

/-!
# The saga log

Each run of the order saga writes entries as it goes: which run, which order (0 before the
order exists), how the step ended, which step, and the error text of a failed step. The log
keeps entries in the order they were written. `history` gathers, for an order, every entry of
every run that wrote that order's id, so the entries a run wrote before the order existed come
along too.
-/

namespace Fulfillment

/-- How a step of the saga ended. -/
inductive SagaStatus where
  | started
  | stepDone
  | completed
  | failed
  deriving DecidableEq, Inhabited, Repr

/-- The text of a saga status. -/
def SagaStatus.text : SagaStatus → String
  | .started => "STARTED"
  | .stepDone => "STEP_DONE"
  | .completed => "COMPLETED"
  | .failed => "FAILED"

/-- The saga steps. -/
inductive SagaStep where
  | validateCustomer
  | persistOrder
  | confirmOrder
  | checkBreaker
  | initiatePayment
  deriving DecidableEq, Inhabited, Repr

/-- The name of a saga step. -/
def SagaStep.name : SagaStep → String
  | .validateCustomer => "validate_customer"
  | .persistOrder => "persist_order"
  | .confirmOrder => "confirm_order"
  | .checkBreaker => "check_payment_breaker"
  | .initiatePayment => "initiate_payment"

/-- One entry of the saga log. -/
structure SagaEntry where
  sagaId : String
  orderId : Int
  status : SagaStatus
  step : SagaStep
  error : String
  updatedAt : Instant
  deriving Inhabited, Repr

/-- The entry as JSON; an order id of 0 and an empty error are left out. -/
def SagaEntry.toJson (e : SagaEntry) : Json :=
  .obj <|
    [("saga_id", .str e.sagaId)] ++
    (if e.orderId == 0 then [] else [("order_id", Json.int e.orderId)]) ++
    [("status", .str e.status.text), ("step", .str e.step.name)] ++
    (if e.error.isEmpty then [] else [("error", .str e.error)]) ++
    [("updated_at", .str e.updatedAt.toText)]

/-- Saga log entries, in the order they were written. -/
structure SagaLog where
  entries : List SagaEntry
  deriving Inhabited

namespace SagaLog

/-- A log with no entries. -/
def empty : SagaLog := ⟨[]⟩

/-- Adds an entry at the end. -/
def record (l : SagaLog) (e : SagaEntry) : SagaLog := ⟨l.entries ++ [e]⟩

/-- Every entry of every run that wrote an order's id, in the order written. -/
def history (l : SagaLog) (orderId : Int) : List SagaEntry :=
  let runs := (l.entries.filter (·.orderId == orderId)).map (·.sagaId)
  l.entries.filter fun e => runs.contains e.sagaId

end SagaLog

end Fulfillment
