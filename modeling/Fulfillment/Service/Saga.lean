import Fulfillment.Model.Request
import Fulfillment.Service.Save
import Fulfillment.Store.Keys
import Fulfillment.Store.SagaLog

/-!
# Placing an order

`placeOrder` runs the order saga: it checks the request, makes sure the customer is valid,
stores a pending order, confirms it, asks the payment breaker whether payments may be tried,
marks the order as waiting for its payment, starts the payment and attaches it. Each step is
written to the saga log. A failure after the order was stored leaves the order in the answer
next to the fault, failed where the saga could record that.

With an idempotency key and a key store, the key is claimed first. A key that already names an
order answers with that order; a key still being worked on is refused. The key is let go again
when the run ends without a stored order.
-/

namespace Fulfillment

/-- What the saga needs from the rest of the system. -/
structure SagaEnv (m : Type → Type) where
  orders : OrderRepo m
  customerValid : Int → m Bool
  createPayment : Int → Decimal → String → m (Except Fault Payment)
  breakerAllows : m Bool
  paymentSucceeded : m Unit
  paymentFailed : m Unit
  keys : Option (KeyOps m)
  newSagaId : m String
  now : m Instant
  record : SagaEntry → m Unit

namespace Saga

/-- The reason an order fails when the payment breaker refuses. -/
def breakerReason : String := "payment service unavailable"

/-- The fault a failed payment start is reported with: the payment fault itself when it already
says the payment service is unavailable, otherwise its text marked as unavailable. -/
def unavailable (f : Fault) : Fault :=
  if f.isA .serviceUnavailable then f else .flagged f.message .serviceUnavailable

variable {m : Type → Type} [Monad m]

/-- Writes one saga log entry stamped with the current time. -/
def log (env : SagaEnv m) (sagaId : String) (orderId : Int) (status : SagaStatus)
    (step : SagaStep) (error : String) : m Unit := do
  env.record ⟨sagaId, orderId, status, step, error, ← env.now⟩

/-- Fails a stored order with a reason. -/
def failOrder (env : SagaEnv m) (o : Order) (reason : String) : m (Order × Option Fault) := do
  let (o, fault) ← save env.orders o (inPlace fun x => x.fail reason)
  match fault with
  | some f => return (o, some (.within ("fail order " ++ toString o.id) f))
  | none => return (o, none)

/-- Starts the payment of a confirmed order and attaches it. -/
def startPayment (env : SagaEnv m) (sagaId : String) (o : Order) :
    m (Option Order × Option Fault) := do
  let (o, fault) ← save env.orders o (inPlace Order.markPaymentProcessing)
  match fault with
  | some f =>
    log env sagaId o.id .failed .initiatePayment f.message
    return (some o, some (.within ("mark order " ++ toString o.id ++ " payment processing") f))
  | none =>
    match ← env.createPayment o.id o.total defaultPaymentMethod with
    | .error perr =>
      env.paymentFailed
      let (o, fault) ← failOrder env o ("payment initiation failed: " ++ perr.message)
      match fault with
      | some f => return (some o, some f)
      | none =>
        log env sagaId o.id .failed .initiatePayment perr.message
        return (some o, some (.within ("order " ++ toString o.id ++ ": payment initiation failed")
          (unavailable perr)))
    | .ok payment =>
      env.paymentSucceeded
      let (o, fault) ← save env.orders o (inPlace fun x => .ok (x.attachPayment payment.id))
      match fault with
      | some f =>
        log env sagaId o.id .failed .initiatePayment f.message
        return (some o, some (.within ("attach payment " ++ toString payment.id ++ " to order " ++
          toString o.id) f))
      | none =>
        log env sagaId o.id .completed .initiatePayment ""
        return (some o, none)

/-- The saga after the request passed its checks and the key, if any, was claimed. -/
def run (env : SagaEnv m) (key : Option (KeyOps m × String)) (req : OrderRequest) :
    m (Option Order × Option Fault) := do
  let sagaId ← env.newSagaId
  log env sagaId 0 .started .validateCustomer ""
  if !(← env.customerValid req.customerId) then
    log env sagaId 0 .failed .validateCustomer (Fault.missing .customer).message
    return (none, some (.within ("customer " ++ toString req.customerId) (.missing .customer)))
  let draft := (req.items.getD []).foldl Order.addItem (Order.create req.customerId req.notes)
  match ← env.orders.create draft with
  | .error f =>
    log env sagaId 0 .failed .persistOrder f.message
    return (none, some (.within "persist order" f))
  | .ok o =>
    log env sagaId o.id .stepDone .persistOrder ""
    match key with
    | some (k, name) => discard <| k.bind name o.id
    | none => pure ()
    let (o, fault) ← save env.orders o (inPlace Order.confirm)
    match fault with
    | some f =>
      log env sagaId o.id .failed .confirmOrder f.message
      return (some o, some (.within ("confirm order " ++ toString o.id) f))
    | none =>
      log env sagaId o.id .stepDone .confirmOrder ""
      if !(← env.breakerAllows) then
        let (o, fault) ← failOrder env o breakerReason
        match fault with
        | some f => return (some o, some f)
        | none =>
          log env sagaId o.id .failed .checkBreaker breakerReason
          return (some o, none)
      else startPayment env sagaId o

/-- Places an order: the saga, guarded by the idempotency key when there is one. -/
def placeOrder (env : SagaEnv m) (req : OrderRequest) (key : String) :
    m (Option Order × Option Fault) := do
  match req.check with
  | some f => return (none, some f)
  | none =>
    match (if key.isEmpty then none else env.keys) with
    | none => run env none req
    | some k =>
      match ← k.claim key with
      | .error f => return (none, some f)
      | .ok existing =>
        if existing != 0 then
          match ← env.orders.find existing with
          | .ok o => return (some o, none)
          | .error f => return (none, some f)
        else
          let (o, fault) ← run env (some (k, key)) req
          let stored := match o with
            | some o => o.id != 0
            | none => false
          if !stored then discard <| k.release key
          return (o, fault)

end Saga

end Fulfillment
