import Fulfillment.Model.Request
import Fulfillment.Script.Answer
import Fulfillment.Script.Stateless

/-!
# One order or one payment

`orderObject` builds a new order and applies a list of steps to it; every step answers with the
order as it stands and whether its stage is final, and a failed step, an unknown one included,
also answers with its fault and leaves the order as it was. `paymentObject` does the same for a
payment.
-/

namespace Fulfillment.Script

open Json

/-- The answer members that show an order after a step. -/
def orderView (o : Order) : List (String × Json) :=
  [("order", o.toJson), ("terminal", .bool o.status.isTerminal)]

/-- Applies a stage move, answering with the fault when it fails. -/
def orderMoveStep (o : Order) (r : Except Fault Order) : Order × Json :=
  match r with
  | .ok o' => (o', .obj (orderView o'))
  | .error f => (o, .obj (orderView o ++ faultFields f))

/-- A copy of an order whose first item is renamed and whose payment id, if any, is set to -1,
as JSON: the copy's empty item list is written `null`. -/
def mutatedCopy (o : Order) : Json :=
  let items := match o.items with
    | [] => []
    | i :: rest => { i with name := "mutated-clone" } :: rest
  Order.toJsonWith .null { o with items := items, paymentId := o.paymentId.map fun _ => -1 }

/-- One step on an order. -/
def orderStep (o : Order) (step : Step) : Order × Json :=
  match step.op with
  | "add_item" =>
    match readDocument Item.decode step.item with
    | .ok i => let o' := o.addItem i; (o', .obj (orderView o'))
    | .error e => (o, .obj (orderView o ++ problemFields "decode" e))
  | "remove_item" => let o' := o.removeItem step.index; (o', .obj (orderView o'))
  | "recalculate" => let o' := o.recalculate; (o', .obj (orderView o'))
  | "confirm" => orderMoveStep o o.confirm
  | "mark_payment_processing" => orderMoveStep o o.markPaymentProcessing
  | "complete" => orderMoveStep o (o.complete step.paymentId)
  | "fail" => orderMoveStep o (o.fail step.reason)
  | "cancel" => orderMoveStep o (o.cancel step.reason)
  | "attach_payment" => let o' := o.attachPayment step.paymentId; (o', .obj (orderView o'))
  | "set_status" =>
    let o' := { o with status := OrderStatus.ofText step.status }
    (o', .obj (orderView o'))
  | "set_id" => let o' := { o with id := step.id }; (o', .obj (orderView o'))
  | "clone" => (o, .obj (("clone_mutated", mutatedCopy o) :: orderView o))
  | "match" =>
    let fits := o.fits step.customerId
      (if step.status.isEmpty then none else some (OrderStatus.ofText step.status))
    (o, .obj (("match", .bool fits) :: orderView o))
  | other => (o, .obj (orderView o ++ problemFields "bad_input" ("unknown step " ++ other)))

/-- Runs steps in order, threading a state and collecting the answers. -/
def runSteps {σ β : Type} (step : σ → β → σ × Json) : σ → List β → List Json
  | _, [] => []
  | s, b :: bs =>
    let (s', a) := step s b
    a :: runSteps step s' bs

/-- A new order and its steps. -/
def orderObject (i : Input) : Json :=
  stepsAnswer (runSteps orderStep (Order.create i.customerId i.notes) i.steps)

/-- The answer members that show a payment after a step. -/
def paymentView (p : Payment) : List (String × Json) :=
  [("payment", p.toJson), ("terminal", .bool p.status.isTerminal)]

/-- Applies a payment stage move, answering with the fault when it fails. -/
def paymentMoveStep (p : Payment) (r : Except Fault Payment) : Payment × Json :=
  match r with
  | .ok p' => (p', .obj (paymentView p'))
  | .error f => (p, .obj (paymentView p ++ faultFields f))

/-- One step on a payment; `at_` is the moment a settlement is recorded at. -/
def paymentStep (at_ : Instant) (p : Payment) (step : Step) : Payment × Json :=
  match step.op with
  | "mark_processing" => paymentMoveStep p p.markProcessing
  | "mark_completed" => paymentMoveStep p (p.markCompleted step.transactionId at_)
  | "mark_failed" => paymentMoveStep p (p.markFailed step.reason at_)
  | "cancel" => paymentMoveStep p p.cancel
  | "set_status" =>
    let p' := { p with status := PaymentStatus.ofText step.status }
    (p', .obj (paymentView p'))
  | "set_id" => let p' := { p with id := step.id }; (p', .obj (paymentView p'))
  | "match" =>
    let fits := p.fits
      (if step.status.isEmpty then none else some (PaymentStatus.ofText step.status))
    (p, .obj (("match", .bool fits) :: paymentView p))
  | other => (p, .obj (paymentView p ++ problemFields "bad_input" ("unknown step " ++ other)))

/-- A new payment and its steps. -/
def paymentObject (i : Input) : Json :=
  match Decimal.ofText i.amount with
  | .error e => decodeProblem e
  | .ok amount =>
    stepsAnswer (runSteps (paymentStep Instant.start) (Payment.create i.orderId amount i.method)
      i.steps)

end Fulfillment.Script
