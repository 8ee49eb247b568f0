import Fulfillment.Http.Gateway
import Fulfillment.Service.Orders

/-!
# The order service's API

Routes under `/api/v1/orders`:

* `POST` places an order through the saga, with the `Idempotency-Key` header as its key. A
  fault that leaves an order behind and says a service is unavailable is answered with 503, the
  order and the message; any other fault with its usual answer; a placed order with 201.
* `GET` lists orders, all of them, by customer (`/customer/:customerId`) or by stage
  (`/status/:status`); `/:id` gets one, `/:id/complete-details` joins it with its customer and
  payment, `/:id/saga` gives its saga log (a 404 when the log is switched off, before the id is
  read, or when it has no entries).
* `/circuit-status` reports the customer and payment client breakers and the payment breaker.
* `PUT /:id/status` moves an order to a stage; `PUT /:id/cancel` cancels it, with the reason of
  the body unless the request declares an empty body.
-/

namespace Fulfillment.Http.Orders

/-- Everything the saga reaches, inside the system; calls to other services go with
`deliver`. -/
def sagaEnv (deliver : Deliver) (keyed : Bool) : SagaEnv SystemM where
  orders := orderRepo
  customerValid := Gateway.customerExists deliver
  createPayment := Gateway.createPayment deliver
  breakerAllows := do
    let s ← get
    let (ok, b) := s.paymentBreaker.allow s.clock
    set { s with paymentBreaker := b }
    return ok
  paymentSucceeded := modify fun s => { s with paymentBreaker := s.paymentBreaker.recordSuccess }
  paymentFailed := modify fun s =>
    { s with paymentBreaker := s.paymentBreaker.recordFailure s.clock }
  keys := if keyed then some keyOps else none
  newSagaId := do
    let s ← get
    set { s with sagaRuns := s.sagaRuns + 1 }
    return "saga-" ++ toString (s.sagaRuns + 1)
  now := wallTime
  record e := modify fun s => { s with sagaLog := s.sagaLog.map (·.record e) }

/-- Places an order. -/
def place (deliver : Deliver) : Handler := fun req _ =>
  withBody orderBinding req fun r => do
    let keyed := (← get).keys.isSome
    let (o, fault) ← Saga.placeOrder (sagaEnv deliver keyed) r (req.header "Idempotency-Key")
    let t ← now
    match fault, o with
    | some f, some o =>
      if f.isA .serviceUnavailable then
        return .ofJson 503 (.obj [("message", .str f.message), ("order", o.toJson)])
      else return failure f t
    | some f, none => return failure f t
    | none, some o => return .created o.toJson
    | none, none => return .created .null

/-- Lists orders of a customer (0 for all) and a stage (none for all). -/
def listed (customerId : Int) (status : Option OrderStatus) : SystemM Response := do
  answer 200 (← orderRepo.list customerId status) fun os => .arr (os.map Order.toJson)

/-- Lists the orders in the stage a path names. -/
def byStatus : Handler := fun _ ps => do
  match pathStatus OrderService.parseStatus OrderService.unknownStatus (ps.get "status") with
  | .ok st => listed 0 (some st)
  | .error f => return failure f (← now)

/-- The saga log entries of an order. -/
def sagaHistory : Handler := fun _ ps => do
  let s ← get
  match s.sagaLog with
  | none => return failure (.within "saga log disabled" (.bare .notFound)) s.clock
  | some log =>
    withId ps "id" fun id => do
      match log.history id with
      | [] => return failure (.missing .order) (← now)
      | entries => return .ok (.arr (entries.map SagaEntry.toJson))

/-- The state of the breakers the order service uses. -/
def circuitStatus : Handler := fun _ _ => do
  let s ← get
  return .ok (.obj [("clients", .arr [s.clientStatus .customer, s.clientStatus .payment]),
    ("payment_circuit", s.paymentBreaker.snapshot)])

/-- The order service's routes; calls to other services go with `deliver`. -/
def routes (deliver : Deliver) : List (Route Handler) :=
  baseRoutes .order ++
  [route "POST" "/api/v1/orders" (place deliver),
   route "GET" "/api/v1/orders" fun _ _ => listed 0 none,
   healthRoute "/api/v1/orders/health" .order,
   route "GET" "/api/v1/orders/circuit-status" circuitStatus,
   route "GET" "/api/v1/orders/customer/:customerId" fun _ ps =>
     withId ps "customerId" fun id => listed id none,
   route "GET" "/api/v1/orders/status/:status" byStatus,
   route "GET" "/api/v1/orders/:id" fun _ ps =>
     withId ps "id" fun id => do answer 200 (← orderRepo.find id) Order.toJson,
   route "GET" "/api/v1/orders/:id/complete-details" fun _ ps =>
     withId ps "id" fun id => do
       answer 200 (← OrderService.details orderRepo (Gateway.fetchCustomer deliver)
         (Gateway.fetchPayment deliver) id)
         OrderService.OrderDetails.toJson,
   route "GET" "/api/v1/orders/:id/saga" sagaHistory,
   route "PUT" "/api/v1/orders/:id/status" fun req ps =>
     withId ps "id" fun id => withBody orderMoveBinding req fun move => do
       answer 200 (← OrderService.updateStatus orderRepo id move) Order.toJson,
   route "PUT" "/api/v1/orders/:id/cancel" fun req ps =>
     withId ps "id" fun id => do
       let cancelWith (reason : String) : SystemM Response := do
         answer 200 (← OrderService.cancel orderRepo id reason) Order.toJson
       if req.body.declared == 0 then cancelWith ""
       else withBody cancelBinding req cancelWith]

end Fulfillment.Http.Orders
