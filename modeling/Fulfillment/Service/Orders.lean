import Fulfillment.Model.Customer
import Fulfillment.Model.Request
import Fulfillment.Service.Save

/-!
# The order service

`updateStatus` moves a stored order to the stage a request names, through `save`, so a lost
race is retried once. Completing needs a payment id, from the request or already on the order;
moving to payment processing attaches the request's payment id when it has one; failing and
cancelling record the request's reason. Naming `PENDING`, or any stage the order cannot reach,
is a refused stage move.

`details` joins an order with its customer and, once the order has a payment or has left
`PENDING`, its payment. A lookup that fails leaves an empty record in its place.
-/

namespace Fulfillment.OrderService

/-- The complaint about a text, shown quoted, that names no stage. -/
def unknownStatus (shown : String) : Fault := .invalid ("unknown order status " ++ shown)

/-- The stage a text names, or the complaint that it names none. -/
def parseStatus (s : String) : Except Fault OrderStatus :=
  match OrderStatus.parse? s with
  | some st => .ok st
  | none => .error (unknownStatus (Text.quote s))

/-- The change a request makes to an order that is to reach `target`. -/
def change (target : OrderStatus) (req : OrderMove) (o : Order) : Except Fault Order :=
  match target with
  | .confirmed => o.confirm
  | .paymentProcessing =>
    (o.markPaymentProcessing).map fun o' =>
      match req.paymentId with
      | some p => o'.attachPayment p
      | none => o'
  | .completed =>
    match req.paymentId.orElse fun _ => o.paymentId with
    | some p => o.complete p
    | none => .error (.invalid "payment_id is required to complete an order")
  | .failed => o.fail req.reason
  | .cancelled => o.cancel req.reason
  | _ => .error (.transition .order o.id o.status.toText target.toText)

/-- Moves a stored order to the stage a request names. -/
def updateStatus {m : Type → Type} [Monad m] (repo : OrderRepo m) (id : Int) (req : OrderMove) :
    m (Except Fault Order) := do
  match parseStatus req.status with
  | .error f => return .error f
  | .ok target =>
    match ← repo.find id with
    | .error f => return .error f
    | .ok o =>
      let (o', fault) ← save repo o (inPlace (change target req))
      match fault with
      | some f => return .error f
      | none => return .ok o'

/-- Cancels a stored order with a reason. -/
def cancel {m : Type → Type} [Monad m] (repo : OrderRepo m) (id : Int) (reason : String) :
    m (Except Fault Order) :=
  updateStatus repo id ⟨OrderStatus.cancelled.toText, none, reason⟩

/-- An order with its customer and, when it has one, its payment. -/
structure OrderDetails where
  order : Order
  customer : Customer
  payment : Option Payment

/-- The details as JSON; a missing payment is left out. -/
def OrderDetails.toJson (d : OrderDetails) : Json :=
  .obj ([("order", d.order.toJson), ("customer", d.customer.toJson)] ++
    match d.payment with
    | some p => [("payment", p.toJson)]
    | none => [])

/-- Joins a stored order with its customer and payment. -/
def details {m : Type → Type} [Monad m] (repo : OrderRepo m)
    (fetchCustomer : Int → m (Except Fault Customer))
    (fetchPayment : Int → m (Except Fault Payment)) (id : Int) :
    m (Except Fault OrderDetails) := do
  match ← repo.find id with
  | .error f => return .error f
  | .ok o =>
    let c := match ← fetchCustomer o.customerId with
      | .ok c => c
      | .error _ => Customer.blank
    if o.paymentId.isSome || o.status != .pending then
      let p := match ← fetchPayment o.id with
        | .ok p => p
        | .error _ => Payment.blank
      return .ok ⟨o, c, some p⟩
    else return .ok ⟨o, c, none⟩

end Fulfillment.OrderService
