import Fulfillment.Http.Chaos
import Fulfillment.Service.Customers

/-!
# The customer service's API

The chaos routes, and routes under `/api/v1/customers`: `POST` adds a customer (201); `GET`
lists customers by id, gets one by id (`/:id`) or by e-mail address (`/email/:email`), and says
whether an id is taken (`/:id/exists`, a bare `true` or `false`); `PUT /:id` replaces a
customer's details; `DELETE /:id` removes a customer and answers 204 with no body.
-/

namespace Fulfillment.Http.Customers

/-- Runs a change of the customer store at the current moment and answers with its result. -/
def changed (status : Nat) (op : CustomerStore → Instant → Except Fault (Customer × CustomerStore)) :
    SystemM Response := do
  let s ← get
  match op s.customers s.wall with
  | .ok (c, st) =>
    set { s with customers := st }
    return .ofJson status c.toJson
  | .error f => return failure f s.clock

/-- Removes a customer. -/
def remove : Handler := fun _ ps =>
  withId ps "id" fun id => do
    let s ← get
    match s.customers.delete id with
    | .ok st =>
      set { s with customers := st }
      return ⟨204, .none⟩
    | .error f => return failure f s.clock

/-- The customer service's routes. -/
def routes : List (Route Handler) :=
  baseRoutes .customer ++ Chaos.routes .customer ++
  [route "POST" "/api/v1/customers" fun req _ =>
     withBody contactBinding req fun c => changed 201 fun s t => Directory.create s c t,
   route "GET" "/api/v1/customers" fun _ _ => do
     return .ok (.arr ((← get).customers.customers.map Customer.toJson)),
   healthRoute "/api/v1/customers/health" .customer,
   route "GET" "/api/v1/customers/email/:email" fun _ ps => do
     answer 200 (Directory.getByEmail (← get).customers ⟨(ps.get "email").bytes⟩) Customer.toJson,
   route "GET" "/api/v1/customers/:id" fun _ ps =>
     withId ps "id" fun id => do answer 200 ((← get).customers.find id) Customer.toJson,
   route "GET" "/api/v1/customers/:id/exists" fun _ ps =>
     withId ps "id" fun id => do return .ok (.bool ((← get).customers.holds id)),
   route "PUT" "/api/v1/customers/:id" fun req ps =>
     withId ps "id" fun id => withBody contactBinding req fun c =>
       changed 200 fun s t => Directory.update s id c t,
   route "DELETE" "/api/v1/customers/:id" remove]

end Fulfillment.Http.Customers
