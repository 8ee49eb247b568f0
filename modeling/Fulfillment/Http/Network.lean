import Fulfillment.Http.Customers
import Fulfillment.Http.Orders
import Fulfillment.Http.Payments
import Fulfillment.Service.Processor

/-!
# Serving requests

`serve` hands a request to one of the three services: the service's router decides which
handler answers, whether the request is redirected for its trailing slash, or whether it is
answered with a 404. Calls the services make to each other over links that are up are served
the same way. `sweepEnv` is the payment service's settlement sweep wired into the system.
-/

namespace Fulfillment.Http

/-- The payment service's router. -/
def Payments.router : Router Handler := Router.ofRoutes Payments.routes

/-- The customer service's router. -/
def Customers.router : Router Handler := Router.ofRoutes Customers.routes

/-- The router of a service; the order service's handlers reach the other services with
`deliver`. -/
def Service.router (deliver : Deliver) : Service → Router Handler
  | .order => Router.ofRoutes (Orders.routes deliver)
  | .payment => Payments.router
  | .customer => Customers.router

/-- A service's answer to a request, where the calls its handlers make to other services are
answered the same way, at most `depth` calls deep. (No call chain here is longer than two: the
order service calls the other two, the payment service calls the order service, and what they
are called for calls no one.) -/
def serveWithin : Nat → Deliver
  | 0, _, _ => return none
  | depth + 1, svc, req =>
    match dispatch (svc.router (serveWithin depth)) req.method req.target
        (req.header "X-Forwarded-Prefix") with
    | .found h ps => some <$> h req ps
    | .redirect status location => return some (redirectTo req.method status location)
    | .missing => return some notFound

/-- How the services' calls to each other are answered. -/
def deliver : Deliver := serveWithin 2

/-- A service's answer to a request. -/
def serve (svc : Service) (req : Request) : SystemM Response := do
  return (← serveWithin 3 svc req).getD notFound

/-- The payment service's settlement sweep inside the system: its own payments, the given
settlement attempts, and the order service told of each settled payment over the link. -/
def sweepEnv (attempt : Payment → SystemM Attempt) (calledOff : SystemM Bool) :
    SweepEnv SystemM where
  payments := paymentRepo
  attempt := attempt
  notifier := some
    ⟨fun orderId paymentId => discard (Gateway.markCompleted deliver orderId paymentId),
     fun orderId reason => discard (Gateway.cancelOrder deliver orderId reason)⟩
  freshTransaction := freshTransaction
  now := now
  calledOff := calledOff

/-- The service a name stands for in a script: `order`, `payment` or `customer`. -/
def Service.ofName? : String → Option Service
  | "order" => some .order
  | "payment" => some .payment
  | "customer" => some .customer
  | _ => none

end Fulfillment.Http
