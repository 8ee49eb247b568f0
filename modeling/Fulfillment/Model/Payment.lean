import Fulfillment.Clock.Instant
import Fulfillment.Json.Basic
import Fulfillment.Model.Fault
import Fulfillment.Model.Order
import Fulfillment.Model.Status

/-!
# Payments

A payment settles one order: it holds the order's id, the amount, a method, a stage, and once it
is settled a transaction id or a failure reason together with the moment it was processed.

A stage move checks the lifecycle first and changes nothing when the move is not allowed.
Completing records the transaction id and the moment; failing records the reason (or
`payment failed` when it is blank) and the moment.
-/

namespace Fulfillment

/-- The method a payment uses when none is given. -/
def defaultPaymentMethod : String := "CREDIT_CARD"

/-- A payment of an order. -/
structure Payment where
  id : Int
  orderId : Int
  amount : Decimal
  status : PaymentStatus
  method : String
  transactionId : String
  failureReason : String
  processedAt : Option Instant
  version : Int
  createdAt : Instant
  updatedAt : Instant
  deriving DecidableEq, Inhabited, Repr

namespace Payment

/-- A new pending payment; an empty method becomes the default method. -/
def create (orderId : Int) (amount : Decimal) (method : String) : Payment :=
  ⟨0, orderId, amount, .pending, if method.isEmpty then defaultPaymentMethod else method,
    "", "", none, 0, Instant.zero, Instant.zero⟩

/-- A payment with nothing set, as a failed lookup leaves it. -/
def blank : Payment :=
  ⟨0, 0, Decimal.zero, .other "", "", "", "", none, 0, Instant.zero, Instant.zero⟩

/-- Moves the payment to a stage the lifecycle allows. -/
def moveTo (p : Payment) (target : PaymentStatus) : Except Fault Payment :=
  if p.status.canMoveTo target then .ok { p with status := target }
  else .error (.transition .payment p.id p.status.toText target.toText)

/-- Claims a pending payment for settlement. -/
def markProcessing (p : Payment) : Except Fault Payment := p.moveTo .processing

/-- Completes a payment with its transaction id. -/
def markCompleted (p : Payment) (transactionId : String) (at_ : Instant) : Except Fault Payment :=
  (p.moveTo .completed).map fun p =>
    { p with transactionId := transactionId, processedAt := some at_ }

/-- Fails a payment with a reason. -/
def markFailed (p : Payment) (reason : String) (at_ : Instant) : Except Fault Payment :=
  (p.moveTo .failed).map fun p =>
    { p with failureReason := reasonOr reason "payment failed", processedAt := some at_ }

/-- Cancels a pending payment. -/
def cancel (p : Payment) : Except Fault Payment := p.moveTo .cancelled

/-- Whether a payment is in a stage (`none` for any). -/
def fits (p : Payment) (status : Option PaymentStatus) : Bool :=
  match status with
  | none => true
  | some s => p.status == s

/-- The payment as JSON; empty texts and an unset processing moment are left out. -/
def toJson (p : Payment) : Json :=
  .obj <|
    [("id", Json.int p.id), ("order_id", Json.int p.orderId), ("amount", .str p.amount.toText),
     ("status", .str p.status.toText)] ++
    (if p.method.isEmpty then [] else [("payment_method", .str p.method)]) ++
    (if p.transactionId.isEmpty then [] else [("transaction_id", .str p.transactionId)]) ++
    (if p.failureReason.isEmpty then [] else [("failure_reason", .str p.failureReason)]) ++
    (match p.processedAt with
     | some t => [("processed_at", .str t.toText)]
     | none => []) ++
    [("version", Json.int p.version),
     ("created_at", .str p.createdAt.toText),
     ("updated_at", .str p.updatedAt.toText)]

theorem moveTo_of_canMoveTo {p : Payment} {t : PaymentStatus} (h : p.status.canMoveTo t = true) :
    p.moveTo t = .ok { p with status := t } := by
  simp [moveTo, h]

/-- A stage move goes through exactly when the lifecycle allows it, and changes the stage only. -/
theorem moveTo_eq_ok_iff {p x : Payment} {t : PaymentStatus} :
    p.moveTo t = .ok x ↔ p.status.canMoveTo t = true ∧ x = { p with status := t } := by
  cases hc : p.status.canMoveTo t
  · simp [moveTo, hc]
  · simp [moveTo, hc, eq_comm]

end Payment

end Fulfillment
