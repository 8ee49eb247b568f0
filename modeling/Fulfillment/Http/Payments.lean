import Fulfillment.Http.Chaos

/-!
# The payment service's API

The chaos routes, and routes under `/api/v1/payments`: `POST` creates a payment (201); `GET`
lists payments, all of them or by stage (`/status/:status`), counts them by stage
(`/statistics`), gets one by id (`/:id`) or by order (`/order/:orderId`), and says whether an
order has one (`/order/:orderId/exists`, a bare `true` or `false`); `PUT /:id/status` moves a
payment to a stage.
-/

namespace Fulfillment.Http.Payments

/-- Lists payments in a stage (none for all). -/
def listed (status : Option PaymentStatus) : SystemM Response := do
  answer 200 (← paymentRepo.list status) fun ps => .arr (ps.map Payment.toJson)

/-- Lists the payments in the stage a path names. -/
def byStatus : Handler := fun _ ps => do
  match pathStatus PaymentService.parseStatus PaymentService.unknownStatus (ps.get "status") with
  | .ok st => listed (some st)
  | .error f => return failure f (← now)

/-- Moves a payment to the stage a request names. -/
def move : Handler := fun req ps =>
  withId ps "id" fun id => withBody paymentMoveBinding req fun m => do
    answer 200 (← PaymentService.updateStatus paymentRepo freshTransaction (← wallTime) id m)
      Payment.toJson

/-- Creates a payment from a request's body (201). -/
def create : Handler := fun req _ =>
  withBody paymentBinding req fun r => do
    answer 201 (← PaymentService.create paymentRepo r) Payment.toJson

/-- Gets the payment of the order a path names. -/
def byOrder : Handler := fun _ ps =>
  withId ps "orderId" fun id => do answer 200 (← paymentRepo.findByOrder id) Payment.toJson

/-- The payment service's routes. -/
def routes : List (Route Handler) :=
  baseRoutes .payment ++ Chaos.routes .payment ++
  [route "POST" "/api/v1/payments" create,
   route "GET" "/api/v1/payments" fun _ _ => listed none,
   healthRoute "/api/v1/payments/health" .payment,
   route "GET" "/api/v1/payments/statistics" fun _ _ => do
     answer 200 (← paymentRepo.countByStatus) PaymentStore.countsJson,
   route "GET" "/api/v1/payments/status/:status" byStatus,
   route "GET" "/api/v1/payments/order/:orderId" byOrder,
   route "GET" "/api/v1/payments/order/:orderId/exists" fun _ ps =>
     withId ps "orderId" fun id => do
       answer 200 (← PaymentService.existsByOrder paymentRepo id) Json.bool,
   route "GET" "/api/v1/payments/:id" fun _ ps =>
     withId ps "id" fun id => do answer 200 (← paymentRepo.find id) Payment.toJson,
   route "PUT" "/api/v1/payments/:id/status" move]

end Fulfillment.Http.Payments
