import Fulfillment.Clock.Instant
import Fulfillment.Model.Item
import Fulfillment.Model.Status

/-!
# Orders

An order belongs to a customer, holds items, a total amount and a stage, and may name the
payment that settles it. Its total amount is always recomputed from the items as the exact sum of
unit price × quantity.

A stage move checks the lifecycle first and changes nothing when the move is not allowed; the
fault then names the order, its current stage and the stage asked for. Failing or cancelling
records a reason, or a fixed default when the reason given is blank.
-/

namespace Fulfillment

/-- An order. -/
structure Order where
  id : Int
  customerId : Int
  paymentId : Option Int
  status : OrderStatus
  total : Decimal
  notes : String
  failureReason : String
  items : List Item
  version : Int
  createdAt : Instant
  updatedAt : Instant
  deriving DecidableEq, Inhabited, Repr

/-- A reason, or the fallback when the reason is blank. -/
def reasonOr (reason fallback : String) : String :=
  if Text.isBlankText reason then fallback else reason

namespace Order

/-- A new pending order with no items. -/
def create (customerId : Int) (notes : String) : Order :=
  ⟨0, customerId, none, .pending, Decimal.zero, notes, "", [], 0, Instant.zero, Instant.zero⟩

/-- The exact sum of unit price × quantity over the items. -/
def itemsTotal (items : List Item) : Decimal :=
  Decimal.sum (items.map fun i => i.unitPrice * Decimal.ofInt i.quantity)

/-- The order with its total amount recomputed from the items. -/
def recalculate (o : Order) : Order := { o with total := itemsTotal o.items }

/-- Appends an item with its total price computed, then recomputes the total amount. -/
def addItem (o : Order) (i : Item) : Order :=
  recalculate { o with items := o.items ++ [i.withTotal] }

/-- Removes the item at a position; a position outside the list changes nothing. -/
def removeItem (o : Order) (pos : Int) : Order :=
  if 0 ≤ pos ∧ pos < o.items.length then
    recalculate { o with items := o.items.eraseIdx pos.toNat }
  else o

/-- Moves the order to a stage the lifecycle allows. -/
def moveTo (o : Order) (target : OrderStatus) : Except Fault Order :=
  if o.status.canMoveTo target then .ok { o with status := target }
  else .error (.transition .order o.id o.status.toText target.toText)

/-- Confirms a pending order. -/
def confirm (o : Order) : Except Fault Order := o.moveTo .confirmed

/-- Marks a confirmed order as waiting for its payment. -/
def markPaymentProcessing (o : Order) : Except Fault Order := o.moveTo .paymentProcessing

/-- Completes an order and records the payment that settled it. -/
def complete (o : Order) (paymentId : Int) : Except Fault Order :=
  (o.moveTo .completed).map fun o => { o with paymentId := some paymentId }

/-- Fails an order with a reason. -/
def fail (o : Order) (reason : String) : Except Fault Order :=
  (o.moveTo .failed).map fun o => { o with failureReason := reasonOr reason "order processing failed" }

/-- Cancels an order with a reason. -/
def cancel (o : Order) (reason : String) : Except Fault Order :=
  (o.moveTo .cancelled).map fun o => { o with failureReason := reasonOr reason "order cancelled" }

/-- Records the payment of an order without moving it. -/
def attachPayment (o : Order) (paymentId : Int) : Order := { o with paymentId := some paymentId }

/-- Whether an order belongs to a customer (0 for any) and is in a stage (`none` for any). -/
def fits (o : Order) (customerId : Int) (status : Option OrderStatus) : Bool :=
  (customerId == 0 || o.customerId == customerId) &&
    (match status with
     | none => true
     | some s => o.status == s)

/-- The order as JSON, with the given value standing for an empty item list. -/
def toJsonWith (emptyItems : Json) (o : Order) : Json :=
  .obj <|
    [("id", Json.int o.id), ("customer_id", Json.int o.customerId)] ++
    (match o.paymentId with
     | some p => [("payment_id", Json.int p)]
     | none => []) ++
    [("status", .str o.status.toText), ("total_amount", .str o.total.toText)] ++
    (if o.notes.isEmpty then [] else [("notes", .str o.notes)]) ++
    (if o.failureReason.isEmpty then [] else [("failure_reason", .str o.failureReason)]) ++
    [("items", if o.items.isEmpty then emptyItems else .arr (o.items.map Item.toJson)),
     ("version", Json.int o.version),
     ("created_at", .str o.createdAt.toText),
     ("updated_at", .str o.updatedAt.toText)]

/-- The order as JSON. -/
def toJson (o : Order) : Json := o.toJsonWith (.arr [])

theorem moveTo_of_canMoveTo {o : Order} {t : OrderStatus} (h : o.status.canMoveTo t = true) :
    o.moveTo t = .ok { o with status := t } := by
  simp [moveTo, h]

/-- A stage move goes through exactly when the lifecycle allows it, and changes the stage only. -/
theorem moveTo_eq_ok_iff {o x : Order} {t : OrderStatus} :
    o.moveTo t = .ok x ↔ o.status.canMoveTo t = true ∧ x = { o with status := t } := by
  cases hc : o.status.canMoveTo t
  · simp [moveTo, hc]
  · simp [moveTo, hc, eq_comm]

theorem moveTo_of_not_canMoveTo {o : Order} {t : OrderStatus} (h : o.status.canMoveTo t = false) :
    o.moveTo t = .error (.transition .order o.id o.status.toText t.toText) := by
  simp [moveTo, h]

end Order

end Fulfillment
