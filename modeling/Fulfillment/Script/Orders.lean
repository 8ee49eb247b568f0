import Fulfillment.Breaker.Counting
import Fulfillment.Service.Orders
import Fulfillment.Service.Saga
import Fulfillment.Store.Keys
import Fulfillment.Store.Orders
import Fulfillment.Script.Entity
import Fulfillment.Script.Injector

/-!
# The order service on a script

`orderScript` wires the order saga and the order service to an order store with injected
faults, a scripted customer directory, a scripted payment service, a counting breaker named
`payment` on a scripted clock, and, when asked for, a saga log and an idempotency key store.
Orders and saga entries are stamped by the wall clock (`Instant.wall`). Each step answers with
what the service returned.

The scripted customer directory accepts the customers it is told are valid, unless it is down;
told a complaint, every check first breaks the key store with it. The scripted payment service
either creates payments with ids counting up in 64 bits, or fails with a message, or fails with a
message that says it is unavailable; it counts its calls and remembers the last amount and
method, and the payment it made for each order.
-/

namespace Fulfillment.Script

open Json

/-- The scripted customer directory. -/
structure CustomerDouble where
  valid : List Int
  down : Bool
  keysFailure : String
  deriving Inhabited

/-- The scripted payment service. -/
structure PaymentDouble where
  mode : String
  message : String
  fetchDown : Bool
  nextId : Int
  calls : Nat
  lastAmount : String
  lastMethod : String
  made : List Payment
  deriving Inhabited

/-- Everything the order service runs against. -/
structure OrderWorld where
  store : OrderStore
  injector : Injector
  customers : CustomerDouble
  payments : PaymentDouble
  breaker : CountingBreaker
  clock : Instant
  log : Option SagaLog
  keys : Option KeyStore
  runs : Nat
  deriving Inhabited

/-- Steps of the order script. -/
abbrev OrderM := StateM OrderWorld

/-- The change a conflicting writer makes to a stored order. -/
def rivalOrderChange (i : Injection) (o : Order) : Except Fault Order :=
  match i.mutate with
  | "confirm" => o.confirm
  | "mark_payment_processing" => o.markPaymentProcessing
  | "complete" => o.complete i.paymentId
  | "fail" => o.fail i.reason
  | "cancel" => o.cancel i.reason
  | "attach_payment" => .ok (o.attachPayment i.paymentId)
  | _ => .ok o

/-- Takes the injection that fires on a call of `method`, if any. -/
def fireInOrders (method : String) : OrderM (Option Injection) := do
  let w ← get
  let (f, rest) := fire method w.injector
  set { w with injector := rest }
  return f

/-- Writes an order to the store itself. -/
def writeOrder (o : Order) : OrderM (Except Fault Order) := do
  let w ← get
  match w.store.update o Instant.wall with
  | .ok (stored, s) =>
    set { w with store := s }
    return .ok stored
  | .error f => return .error f

/-- Has another writer change and write the stored copy of an order. -/
def rivalWritesOrder (i : Injection) (id : Int) : OrderM Unit := do
  match (← get).store.find id with
  | .ok current =>
    let changed := match rivalOrderChange i current with
      | .ok o => o
      | .error _ => current
    discard <| writeOrder changed
  | .error _ => pure ()

/-- The order store behind its injected faults. -/
def scriptedOrders : OrderRepo OrderM where
  create o := do
    match ← fireInOrders "create" with
    | some i => return .error i.fault
    | none =>
      let w ← get
      let (stored, s) := w.store.create o Instant.wall
      set { w with store := s }
      return .ok stored
  update o := do
    match ← fireInOrders "update" with
    | some i =>
      if i.interferes then
        rivalWritesOrder i o.id
        writeOrder o
      else return .error i.fault
    | none => writeOrder o
  find id := do
    match ← fireInOrders "find" with
    | some i => return .error i.fault
    | none => return (← get).store.find id
  list customerId status := do
    match ← fireInOrders "list" with
    | some i => return .error i.fault
    | none => return .ok ((← get).store.list customerId status)

/-- Whether the scripted directory accepts a customer; told a complaint, it breaks the key store
with it first. -/
def scriptedCustomerValid (id : Int) : OrderM Bool := do
  let w ← get
  if !w.customers.keysFailure.isEmpty then
    set { w with keys := w.keys.map fun (k : KeyStore) =>
      { k with failure := w.customers.keysFailure } }
  let w ← get
  return !w.customers.down && w.customers.valid.contains id

/-- The scripted directory's record of a customer. -/
def scriptedCustomer (id : Int) : OrderM (Except Fault Customer) := do
  let w ← get
  if w.customers.down then
    return .error (.flagged ("fetch customer " ++ toString id) .serviceUnavailable)
  else if w.customers.valid.contains id then
    let c : Customer :=
      { Customer.blank with
        id := id
        firstName := .ofText ("First" ++ toString id)
        lastName := .ofText ("Last" ++ toString id)
        email := .ofText ("c" ++ toString id ++ "@example.com") }
    return .ok c
  else return .error (.missing .customer)

/-- Asks the scripted payment service for a payment. -/
def scriptedCreatePayment (orderId : Int) (amount : Decimal) (method : String) :
    OrderM (Except Fault Payment) := do
  let w ← get
  let d := { w.payments with calls := w.payments.calls + 1, lastAmount := amount.toText,
                             lastMethod := method }
  match d.mode with
  | "fail" =>
    set { w with payments := d }
    return .error (.note d.message)
  | "unavailable" =>
    set { w with payments := d }
    return .error (.flagged d.message .serviceUnavailable)
  | _ =>
    let p := { Payment.create orderId amount method with id := d.nextId }
    set { w with payments := { d with nextId := wrapInt64 (d.nextId + 1),
                                      made := (d.made.filter fun (x : Payment) => x.orderId != orderId) ++ [p] } }
    return .ok p

/-- The payment the scripted payment service made for an order. -/
def scriptedPaymentOf (orderId : Int) : OrderM (Except Fault Payment) := do
  let d := (← get).payments
  if d.fetchDown then
    return .error (.flagged ("fetch payment for order " ++ toString orderId) .serviceUnavailable)
  else
    match d.made.find? (·.orderId == orderId) with
    | some p => return .ok p
    | none => return .error (.missing .payment)

/-- Runs a Redis command on the key store; without one, the command fails. -/
def onRedis {α : Type} (cmd : KeyStore → Except String α × KeyStore) :
    OrderM (Except String α) := do
  let w ← get
  match w.keys with
  | some k =>
    let (r, k') := cmd k
    set { w with keys := some k' }
    return r
  | none => return .error "no key store"

/-- The key store's Redis, on the script. -/
def scriptedRedis : RedisOps OrderM := KeyStore.redis.ops onRedis

/-- The idempotency store as the saga sees it, on the script; steps run one at a time. -/
def scriptedKeys : KeyOps OrderM :=
  IdempotencyStore.ops scriptedRedis "order-service" 1

/-- Everything the saga reaches, on the script. -/
def scriptedSaga (keyed : Bool) : SagaEnv OrderM where
  orders := scriptedOrders
  customerValid := scriptedCustomerValid
  createPayment := scriptedCreatePayment
  breakerAllows := do
    let w ← get
    let (ok, b) := w.breaker.allow w.clock
    set { w with breaker := b }
    return ok
  paymentSucceeded := modify fun w => { w with breaker := w.breaker.recordSuccess }
  paymentFailed := modify fun w => { w with breaker := w.breaker.recordFailure w.clock }
  keys := if keyed then some scriptedKeys else none
  newSagaId := do
    let w ← get
    set { w with runs := w.runs + 1 }
    return "saga-" ++ toString (w.runs + 1)
  now := return Instant.wall
  record e := modify fun w => { w with log := w.log.map (·.record e) }

/-- An answer with an order, a fault, or both. -/
def orderAndFault (o : Option Order) (f : Option Fault) : Json :=
  .obj ((match o with
    | some o => [("order", o.toJson)]
    | none => []) ++
    (match f with
     | some f => faultFields f
     | none => []))

/-- An answer with an order or the fault. -/
def orderOrFault (r : Except Fault Order) : Json :=
  match r with
  | .ok o => .obj [("order", o.toJson)]
  | .error f => faultAnswer f

/-- An answer with a key store result. -/
def keyAnswer {α : Type} (r : Except Fault α) (render : α → Json) : Json :=
  match r with
  | .ok v => render v
  | .error f => faultAnswer f

/-- A step on the idempotency keys themselves, which only a script that keeps keys knows. -/
def keyStep (step : Step) : OrderM Json := do
  match step.op with
  | "idem_claim" =>
    let r ← IdempotencyStore.claim scriptedRedis "order-service" step.key 1
    return keyAnswer r fun n => .obj [("order_id", Json.int n)]
  | "idem_bind" =>
    let r ← IdempotencyStore.bind scriptedRedis "order-service" step.key step.orderId
    return keyAnswer r fun _ => okAnswer
  | "idem_release" =>
    let r ← IdempotencyStore.release scriptedRedis "order-service" step.key
    return keyAnswer r fun _ => okAnswer
  | "idem_expire" =>
    modify fun w => { w with keys := w.keys.map fun k => k.expire (Duration.ofMillis step.ms) }
    return okAnswer
  | "idem_error" =>
    modify fun w =>
      { w with keys := w.keys.map fun (k : KeyStore) => { k with failure := step.message } }
    return okAnswer
  | other => return badInput ("unknown step " ++ other)

/-- One step of the order script. -/
def serviceStep (keyed : Bool) (step : Step) : OrderM Json := do
  match step.op with
  | "create_order" =>
    match readDocument OrderRequest.decode step.request with
    | .error e => return decodeProblem e
    | .ok req =>
      let (o, f) ← Saga.placeOrder (scriptedSaga keyed) req step.key
      return orderAndFault o f
  | "get" => return orderOrFault (← scriptedOrders.find step.id)
  | "list" =>
    match ← scriptedOrders.list step.customerId
        (if step.status.isEmpty then none else some (OrderStatus.ofText step.status)) with
    | .ok os => return .obj [("orders", .arr (os.map Order.toJson))]
    | .error f => return faultAnswer f
  | "update_status" =>
    match readDocument OrderMove.decode step.request with
    | .error e => return decodeProblem e
    | .ok req => return orderOrFault (← OrderService.updateStatus scriptedOrders step.id req)
  | "cancel" => return orderOrFault (← OrderService.cancel scriptedOrders step.id step.reason)
  | "details" =>
    match ← OrderService.details scriptedOrders scriptedCustomer scriptedPaymentOf step.id with
    | .ok d => return .obj [("details", d.toJson)]
    | .error f => return faultAnswer f
  | "history" =>
    let entries := match (← get).log with
      | some l => l.history step.id
      | none => []
    return .obj [("entries", if entries.isEmpty then .null else .arr (entries.map SagaEntry.toJson))]
  | "breaker" => return .obj [("snapshot", (← get).breaker.snapshot)]
  | "advance" =>
    modify fun w => { w with clock := w.clock.add (Duration.ofMillis step.ms) }
    return okAnswer
  | "set_customers" =>
    modify fun w => { w with customers := ⟨step.customers, step.down, step.keysFailure⟩ }
    return okAnswer
  | "set_payments" =>
    modify fun w => { w with payments := { w.payments with
      mode := if step.mode.isEmpty then w.payments.mode else step.mode,
      message := step.message,
      fetchDown := step.fetch == "down" } }
    return okAnswer
  | "payment_calls" =>
    let d := (← get).payments
    return .obj [("calls", Json.int d.calls), ("last_amount", .str d.lastAmount),
      ("last_method", .str d.lastMethod)]
  | "inject" =>
    match step.arming with
    | some a =>
      modify fun w => { w with injector := w.injector ++ [Injection.ofArming a] }
      return okAnswer
    | none => return badInput "inject needs an inject object"
  | other => if keyed then keyStep step else return badInput ("unknown step " ++ other)

/-- The world an order script starts in; a first payment id of 0 means 1. -/
def orderWorld (i : Input) : OrderWorld :=
  { store := OrderStore.empty
    injector := []
    customers := ⟨i.customers, false, ""⟩
    payments := ⟨"ok", "", false, if i.firstPaymentId = 0 then 1 else i.firstPaymentId, 0, "", "",
      []⟩
    breaker := CountingBreaker.make "payment" i.threshold (Duration.ofMillis i.coolDownMs)
    clock := Instant.start
    log := if i.sagaLog then some SagaLog.empty else none
    keys := if i.idempotency then some (KeyStore.make (Duration.ofMillis i.keyTtlMs)) else none
    runs := 0 }

/-- An order service and its steps. -/
def orderScript (i : Input) : Json :=
  let (answers, _) := (i.steps.mapM (serviceStep i.idempotency)).run (orderWorld i)
  stepsAnswer answers

end Fulfillment.Script
