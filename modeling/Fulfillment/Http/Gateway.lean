import Fulfillment.Http.Reply
import Fulfillment.Http.System

/-!
# Gateways

A gateway call goes from one service to another over the link to the target, through the
client breaker that guards the target.

* An open breaker refuses the call without sending it: `circuit breaker <name> is open`, which
  says the service is unavailable.
* A link that is up hands the call to the target service; a link that is down loses it; a fixed
  link answers it with its status and an empty body.
* A call that fails in transport, is answered with a status of 500 or more, or is answered with
  a body that cannot be read as what was asked for, fails. It is sent once more (over a link
  that is up, the service gets it twice), and if it fails again it counts against the breaker.
* An answer between 400 and 499 is the target's word, not its failure: it counts as a success
  and comes back as `<METHOD> <path> returned status <code>: <body>`.
* Any other answer succeeds. The JSON body of a 2xx answer is read as what was asked for; an
  answer without one leaves the zero value.

On top of calls: the customer check (any failure means "not a customer"), customer and payment
lookups (404 means "not found", anything else that fails means the service is unavailable),
payment creation (409 means a payment exists, which is looked up and reused), and the
notifications the payment service sends the order service (true when the call succeeded).
-/

namespace Fulfillment.Http

/-- Hands a request to a service and gives its answer, or none when the request does not get
there. -/
abbrev Deliver := Service → Request → SystemM (Option Response)

/-- How a gateway call ended: answered with a value, refused by the target with a status from
400 to 499, or failed. -/
inductive Outcome (α : Type) where
  | answered (value : α)
  | refused (code : Int) (f : Fault)
  | failed (f : Fault)

/-- The error a call hands its client breaker: none for an answer, the target's refusal marked
permanent, or the failure. -/
def Outcome.error {α : Type} : Outcome α → Option Fault
  | .answered _ => none
  | .refused _ f => some (.permanent f)
  | .failed f => some f

/-- The fault of a call that never reached its target. -/
def transportFault (method path : String) : Fault :=
  .note (method ++ " " ++ path ++ ": no route to the service")

/-- What a caller makes of the answer to one sending of a call (none: it did not get there),
reading a JSON body of a 2xx answer with `decode` and taking `zero` when there is none. -/
def judge {α : Type} (decode : Json → Except String α) (zero : α) (method path : String) :
    Option (Int × Body) → Outcome α
  | none => .failed (transportFault method path)
  | some (code, body) =>
    let call := method ++ " " ++ path
    if 500 ≤ code then .failed (.note (call ++ " returned status " ++ toString code))
    else if 400 ≤ code then
      .refused code (.note (call ++ " returned status " ++ toString code ++ ": " ++ body.content))
    else
      match body with
      | .json j =>
        if 200 ≤ code && code < 300 then
          match decode j with
          | .ok v => .answered v
          | .error e => .failed (.note (call ++ ": " ++ e))
        else .answered zero
      | _ => .answered zero

/-- Sends a request over the link to a service: the status and body of the answer, or none when
the request does not get there. -/
def send (deliver : Deliver) (target : Service) (req : Request) :
    SystemM (Option (Int × Body)) := do
  match (← get).links.get target with
  | .down => return none
  | .fixed code => return some (code, .none)
  | .up => return (← deliver target req).map fun r => ((r.status : Int), r.body)

/-- The request of a call: JSON content, with the compact text of the body when there is one. -/
def callRequest (method path : String) (body : Option Json) : Request :=
  ⟨method, .ofPath path, [("Content-Type", "application/json")],
    .ofText ((body.map Json.compact).getD "")⟩

/-- Whether an outcome is a failure, which a call sends again. -/
def Outcome.isFailure {α : Type} : Outcome α → Bool
  | .failed _ => true
  | _ => false

/-- A retrying HTTP client library, as the gateways use it: it runs an attempt and runs it again
while a retry condition holds of what it got, at most a given number of times more. -/
structure RetryLib where
  execute : {β : Type} → Nat → (β → Bool) → SystemM β → SystemM β

/-- What the library documents of its retries: with none left an attempt runs once; otherwise
what the attempt got is kept unless the condition holds of it, and then the attempt runs again
with one retry fewer. -/
structure RetryLib.Lawful (lib : RetryLib) : Prop where
  zero : ∀ {β : Type} (retry : β → Bool) (attempt : SystemM β), lib.execute 0 retry attempt = attempt
  succ : ∀ {β : Type} (n : Nat) (retry : β → Bool) (attempt : SystemM β),
    lib.execute (n + 1) retry attempt = do
      let b ← attempt
      if retry b then lib.execute n retry attempt else pure b

/-- The retries of go-resty v2; the waits between attempts are not kept. -/
def restyExecute {β : Type} : Nat → (β → Bool) → SystemM β → SystemM β
  | 0, _, attempt => attempt
  | n + 1, retry, attempt => do
    let b ← attempt
    if retry b then restyExecute n retry attempt else pure b

/-- go-resty v2. -/
def resty : RetryLib := ⟨restyExecute⟩

/-- The exchange of one call with its target over the client library `lib`: the request is sent,
and sent once more when the first sending fails. -/
def exchange {α : Type} (lib : RetryLib) (deliver : Deliver) (decode : Json → Except String α)
    (zero : α) (target : Service) (method path : String) (body : Option Json) :
    SystemM (Outcome α) := do
  let answer ← lib.execute 1 (fun a => (judge decode zero method path a).isFailure)
    (send deliver target (callRequest method path body))
  return judge decode zero method path answer

/-- One call to a service, guarded by the service's client breaker on the wall clock: the
breaker sees the target's refusals as permanent, so they count as successes. -/
def call {α : Type} (deliver : Deliver) (decode : Json → Except String α) (zero : α)
    (target : Service) (method path : String) (body : Option Json) : SystemM (Outcome α) := do
  let guarded ← ClientBreaker.run gobreaker target.name wallTime
    (return (← get).clientOf target) (fun b => modify (·.setClient target b)) do
      let outcome ← exchange resty deliver decode zero target method path body
      return (outcome, outcome.error)
  match guarded with
  | .error f => return .failed f
  | .ok (outcome, _) => return outcome

/-- A failure of an operation on another service, said to leave the service unavailable. -/
def unavailable (op : String) (f : Fault) : Fault :=
  if f.isA .serviceUnavailable then .within op f
  else .flagged (op ++ ": " ++ f.message) .serviceUnavailable

namespace Gateway

/-- Whether the customer service confirms a customer; any failure means no. -/
def customerExists (deliver : Deliver) (id : Int) : SystemM Bool := do
  match ← call deliver decodeFlag false .customer "GET"
      ("/api/v1/customers/" ++ toString id ++ "/exists") none with
  | .answered b => return b
  | _ => return false

/-- What a lookup makes of the outcome of its call: 404 means the record is not there, any other
failure that the service is unavailable for the operation `op`. -/
def lookupOf {α : Type} (entity : Entity) (op : String) : Outcome α → Except Fault α
  | .answered v => .ok v
  | .refused 404 _ => .error (.missing entity)
  | .refused _ f | .failed f => .error (unavailable op f)

/-- What a customer lookup makes of the outcome of its call. -/
def customerOf (id : Int) : Outcome Customer → Except Fault Customer :=
  lookupOf .customer ("fetch customer " ++ toString id)

/-- What a payment lookup makes of the outcome of its call: 404 means the order has no payment. -/
def paymentOf (orderId : Int) : Outcome Payment → Except Fault Payment :=
  lookupOf .payment ("fetch payment for order " ++ toString orderId)

/-- A customer record from the customer service. -/
def fetchCustomer (deliver : Deliver) (id : Int) : SystemM (Except Fault Customer) := do
  return customerOf id
    (← call deliver Customer.decode Customer.blank .customer "GET"
      ("/api/v1/customers/" ++ toString id) none)

/-- The payment of an order from the payment service. -/
def fetchPayment (deliver : Deliver) (orderId : Int) : SystemM (Except Fault Payment) := do
  return paymentOf orderId
    (← call deliver Payment.decode Payment.blank .payment "GET"
      ("/api/v1/payments/order/" ++ toString orderId) none)

/-- The body of a request to open a payment. -/
def paymentRequestJson (orderId : Int) (amount : Decimal) (method : String) : Json :=
  .obj ([("order_id", Json.int orderId), ("amount", .str amount.toText)] ++
    if method.isEmpty then [] else [("payment_method", .str method)])

/-- Asks the payment service to open a payment for an order; when it already has one, that
payment is looked up and reused. -/
def createPayment (deliver : Deliver) (orderId : Int) (amount : Decimal) (method : String) :
    SystemM (Except Fault Payment) := do
  let op := "create payment for order " ++ toString orderId
  match ← call deliver Payment.decode Payment.blank .payment "POST" "/api/v1/payments"
      (some (paymentRequestJson orderId amount method)) with
  | .answered p => return .ok p
  | .refused 409 f =>
    match ← fetchPayment deliver orderId with
    | .ok p => return .ok p
    | .error lookup =>
      return .error (unavailable op (.suffixed f (" (lookup: " ++ lookup.message ++ ")")))
  | .refused _ f | .failed f => return .error (unavailable op f)

/-- Whether a notification got through. -/
def delivered : Outcome Unit → Bool
  | .answered _ => true
  | _ => false

/-- Tells the order service to complete an order with its payment. -/
def markCompleted (deliver : Deliver) (orderId paymentId : Int) : SystemM Bool := do
  return delivered (← call deliver (fun _ => .ok ()) () .order "PUT"
    ("/api/v1/orders/" ++ toString orderId ++ "/status")
    (some (.obj [("status", .str "COMPLETED"), ("payment_id", Json.int paymentId)])))

/-- Tells the order service to cancel an order. -/
def cancelOrder (deliver : Deliver) (orderId : Int) (reason : String) : SystemM Bool := do
  return delivered (← call deliver (fun _ => .ok ()) () .order "PUT"
    ("/api/v1/orders/" ++ toString orderId ++ "/cancel") (some (.obj [("reason", .str reason)])))

end Gateway

/-- Whatever went wrong, an operation on another service that failed leaves that service
unavailable, so callers can tell such failures apart. -/
theorem unavailable_isA (op : String) (f : Fault) :
    (unavailable op f).isA .serviceUnavailable = true := by
  unfold unavailable
  split
  · next h => simpa [Fault.isA, Fault.classes] using h
  · simp [Fault.isA, Fault.classes]

end Fulfillment.Http
