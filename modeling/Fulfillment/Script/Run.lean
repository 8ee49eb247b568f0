import Fulfillment.Json.Reader
import Fulfillment.Script.Breakers
import Fulfillment.Script.Customers
import Fulfillment.Script.Entity
import Fulfillment.Script.Http
import Fulfillment.Script.Normalize
import Fulfillment.Script.Orders
import Fulfillment.Script.Payments
import Fulfillment.Script.Settings
import Fulfillment.Script.Stateless

/-!
# Running a script line

A script line is a JSON object whose `op` member names an operation. `answer` runs it and
`answerLine` reads a line as an `Input` and writes the stable answer on one line; a line
whose members do not fit their types is answered with the complaint about the first misfit.
-/

namespace Fulfillment.Script

open Json

/-- The answer to one operation. -/
def answer (i : Input) : Json :=
  match i.op with
  | "order_can_transition" => orderCanTransition i
  | "payment_can_transition" => paymentCanTransition i
  | "order_status" => orderStatusAnswer i
  | "payment_status" => paymentStatusAnswer i
  | "category_valid" => categoryAnswer i
  | "validate_item" => validateItem i
  | "validate_order_request" => validateOrderRequest i
  | "validate_payment_request" => validatePaymentRequest i
  | "new_order_item" => newOrderItem i
  | "random_settlement" => randomSettlement i
  | "permanent" => permanentAnswer i
  | "or_default" => orDefault i
  | "order_object" => orderObject i
  | "payment_object" => paymentObject i
  | "breaker" => breakerScript i
  | "client_breaker" => ratioScript i
  | "config_load" => settingsAnswer i
  | "customer_scenario" => customerScript i
  | "order_scenario" => orderScript i
  | "payment_scenario" => paymentScript i
  | "http_scenario" => httpScript i
  | other => badInput ("unknown op " ++ other)

/-- Reads a line, answers it, and writes the stable answer. -/
def answerLine (line : String) : String :=
  match readFirst line with
  | .ok (j, _) =>
    match Input.decode j with
    | .ok i => (stabilize (answer i)).render
    | .error e => (badInput e).render
  | .error f => (badInput f.message).render

end Fulfillment.Script
