import Fulfillment.Breaker.Counting
import Fulfillment.Breaker.Ratio
import Fulfillment.Http.Binding
import Fulfillment.Http.Route
import Fulfillment.Service.Payments
import Fulfillment.Service.Saga
import Fulfillment.Store.Customers
import Fulfillment.Store.Keys
import Fulfillment.Store.Orders
import Fulfillment.Store.Payments

/-!
# The system

A `System` is the order, payment and customer services together with the network paths between
them, on two clocks that the environment moves. The scripted clock (`clock`) drives the counting
breaker, the payment store's stamps and the settlement sweep; the wall clock (`wall`) stamps
orders, customers and saga entries and times the client breakers.

* Each service keeps its own store; the order service also has the `payment` counting breaker,
  and, when they are switched on, a saga log and an idempotency key store.
* The order service reaches the customer and payment services, and the payment service reaches
  the order service, each through a client with its own client breaker, kept by `gobreaker` on the
  wall clock: `customer-service`, `payment-service` and `order-service`.
* A link says what the network path to a service does with a call: a link that is up hands it
  to the service, a link that is down loses it (the call fails in transport), and a fixed link
  answers every call with one status and an empty body.
* The payment and customer services have chaos switches. They are recorded and reported; the
  random failures and delays they govern are not part of the model, so requests pass through.

Everything a request does to the system runs in `SystemM`.
-/

namespace Fulfillment.Http

/-- One of the three services. -/
inductive Service where
  | order
  | payment
  | customer
  deriving DecidableEq, Inhabited, Repr

/-- The name a service reports about itself. -/
def Service.name : Service → String
  | .order => "order-service"
  | .payment => "payment-service"
  | .customer => "customer-service"

/-- The switches that inject failures and delays into a service's API. -/
structure Chaos where
  enabled : Bool
  slow : Bool
  deriving DecidableEq, Inhabited, Repr

/-- What the network path to a service does with a call. -/
inductive Link where
  /-- The call reaches the service, which answers it. -/
  | up
  /-- Nothing answers: the call fails in transport. -/
  | down
  /-- Every call is answered with this status and an empty body. -/
  | fixed (status : Int)
  deriving DecidableEq, Inhabited, Repr

/-- The link to each service. -/
structure Links where
  customer : Link
  payment : Link
  order : Link
  deriving DecidableEq, Inhabited, Repr

/-- The link to a service. -/
def Links.get (l : Links) : Service → Link
  | .customer => l.customer
  | .payment => l.payment
  | .order => l.order

/-- The links with the one to a service changed. -/
def Links.set (l : Links) (s : Service) (link : Link) : Links :=
  match s with
  | .customer => { l with customer := link }
  | .payment => { l with payment := link }
  | .order => { l with order := link }

/-- The three services and the network between them. -/
structure System where
  clock : Instant
  wall : Instant
  orders : OrderStore
  payments : PaymentStore
  customers : CustomerStore
  paymentBreaker : CountingBreaker
  clients : List (Service × Breaker)
  links : Links
  sagaLog : Option SagaLog
  keys : Option KeyStore
  sagaRuns : Nat
  transactions : Nat
  chaos : List (Service × Chaos)
  deriving Inhabited

/-- What a request does to the system. -/
abbrev SystemM := StateM System

/-- What answers a routed request. -/
abbrev Handler := Request → Params → SystemM Response

namespace System

/-- A new client breaker for calls to a service, made at `now`. -/
def newClient (target : Service) (now : Instant) : Breaker :=
  gobreaker.make (ClientBreaker.settings target.name) now

/-- The client breaker guarding calls to a service. -/
def clientOf (s : System) (target : Service) : Breaker :=
  match s.clients.find? (·.1 == target) with
  | some c => c.2
  | none => newClient target s.wall

/-- The state of the client breaker guarding calls to a service, as JSON. -/
def clientStatus (s : System) (target : Service) : Json :=
  ClientBreaker.status target.name (gobreaker.state s.wall (s.clientOf target))

/-- The system with the client breaker guarding calls to a service replaced. -/
def setClient (s : System) (target : Service) (b : Breaker) : System :=
  { s with clients := s.clients.map fun c => if c.1 == target then (c.1, b) else c }

/-- The chaos switches of a service. -/
def chaosOf (s : System) (svc : Service) : Chaos :=
  match s.chaos.find? (·.1 == svc) with
  | some c => c.2
  | none => ⟨false, false⟩

/-- The system with the chaos switches of a service replaced. -/
def setChaos (s : System) (svc : Service) (c : Chaos) : System :=
  { s with chaos := s.chaos.map fun x => if x.1 == svc then (svc, c) else x }

/-- A system with empty stores, closed breakers and links that are up, with both clocks at
`now`. The counting
breaker takes its threshold and cool-down; `sagaLog` and `keys` switch those on. -/
def make (now : Instant) (threshold : Int) (coolDown : Duration) (sagaLog : Bool)
    (keys : Option KeyStore) :
    System :=
  { clock := now
    wall := now
    orders := OrderStore.empty
    payments := PaymentStore.empty
    customers := CustomerStore.empty
    paymentBreaker := CountingBreaker.make "payment" threshold coolDown
    clients := [.customer, .payment, .order].map fun t => (t, newClient t now)
    links := ⟨.up, .up, .up⟩
    sagaLog := if sagaLog then some SagaLog.empty else none
    keys := keys
    sagaRuns := 0
    transactions := 0
    chaos := [(.payment, ⟨false, false⟩), (.customer, ⟨false, false⟩)] }

end System

/-- The current moment. -/
def now : SystemM Instant := return (← get).clock

/-- The time the wall clock reads. -/
def wallTime : SystemM Instant := return (← get).wall

/-- Answers with a rendered value and a status, or with the fault. -/
def answer {α : Type} (status : Nat) (r : Except Fault α) (render : α → Json) :
    SystemM Response := do
  match r with
  | .ok v => return .ofJson status (render v)
  | .error f => return failure f (← now)

/-- The stage a path parameter names, read by `parse` from its text; a parameter with stray
bytes names no stage, and `unknown` makes the complaint from its quoted form. -/
def pathStatus {σ : Type} (parse : String → Except Fault σ) (unknown : String → Fault)
    (raw : PathText) : Except Fault σ :=
  match raw.text? with
  | some s => parse s
  | none => .error (unknown raw.quote)

/-- Goes on with the record id a path parameter names, or answers with the complaint. -/
def withId (ps : Params) (name : String) (k : Int → SystemM Response) : SystemM Response := do
  match pathId name (ps.get name) with
  | .ok id => k id
  | .error f => return failure f (← now)

/-- Goes on with a bound request body, or answers with the complaint. -/
def withBody {α : Type} (b : Binding α) (req : Request) (k : α → SystemM Response) :
    SystemM Response := do
  match b.bind req.body.firstValue with
  | .ok v => k v
  | .error f => return failure f (← now)

/-- A route from a method, a path pattern and a handler. -/
def route (method pattern : String) (h : Handler) : Route Handler :=
  ⟨method, pattern, h⟩

/-- The route of a service's health check. -/
def healthRoute (pattern : String) (svc : Service) : Route Handler :=
  route "GET" pattern fun _ _ => do return health svc.name (← now)

/-- The routes every service starts with: its health check, and its metrics, which are not kept
here and answer with an empty body. -/
def baseRoutes (svc : Service) : List (Route Handler) :=
  [healthRoute "/health" svc, route "GET" "/metrics" fun _ _ => return ⟨200, .none⟩]

/-- Where the order service keeps its orders. -/
def orderRepo : OrderRepo SystemM where
  create o := do
    let s ← get
    let (stored, st) := s.orders.create o s.wall
    set { s with orders := st }
    return .ok stored
  update o := do
    let s ← get
    match s.orders.update o s.wall with
    | .ok (written, st) =>
      set { s with orders := st }
      return .ok written
    | .error f => return .error f
  find id := return (← get).orders.find id
  list customerId status := return .ok ((← get).orders.list customerId status)

/-- Where the payment service keeps its payments. -/
def paymentRepo : PaymentRepo SystemM where
  create p := do
    let s ← get
    match s.payments.create p s.clock with
    | .ok (stored, st) =>
      set { s with payments := st }
      return .ok stored
    | .error f => return .error f
  update p := do
    let s ← get
    match s.payments.update p s.clock with
    | .ok (written, st) =>
      set { s with payments := st }
      return .ok written
    | .error f => return .error f
  find id := return (← get).payments.find id
  findByOrder orderId := return (← get).payments.findByOrder orderId
  list status := return .ok ((← get).payments.list status)
  eligible before limit := return .ok ((← get).payments.eligible before limit)
  countByStatus := return .ok (← get).payments.countByStatus

/-- A fresh transaction id for a payment completed without one. -/
def freshTransaction : SystemM String := do
  let s ← get
  set { s with transactions := s.transactions + 1 }
  return PaymentService.transactionName (s.transactions + 1)

/-- Runs a Redis command on the key store; without one, the command fails. -/
def onRedis {α : Type} (cmd : KeyStore → Except String α × KeyStore) :
    SystemM (Except String α) := do
  let s ← get
  match s.keys with
  | some k =>
    let (r, k') := cmd k
    set { s with keys := some k' }
    return r
  | none => return .error "no key store"

/-- The idempotency keys as the saga sees them. Requests run one at a time, so a key never
vanishes between the two commands of a claim, and one more attempt is never needed. -/
def keyOps : KeyOps SystemM :=
  IdempotencyStore.ops (KeyStore.redis.ops onRedis) Service.order.name 1

end Fulfillment.Http
