import Fulfillment.Service.Customers
import Fulfillment.Script.Entity

/-!
# A customer directory on a script

`customerScript` runs steps against a directory that starts empty: `create`, `update`,
`delete`, `get`, `get_by_email`, `list`, `exists` and `seed`. A contact that does not decode
answers with the decoding complaint and changes nothing.
-/

namespace Fulfillment.Script

open Json

/-- The answer with one customer. -/
def customerAnswer (c : Customer) : Json := .obj [("customer", c.toJson)]

/-- Answers a store change, keeping the old store when it fails. -/
def customerChange (s : CustomerStore) (r : Except Fault (Customer × CustomerStore)) :
    CustomerStore × Json :=
  match r with
  | .ok (c, s') => (s', customerAnswer c)
  | .error f => (s, faultAnswer f)

/-- One step on the directory. -/
def customerStep (s : CustomerStore) (step : Step) : CustomerStore × Json :=
  let now := Instant.start
  match step.op with
  | "create" =>
    match readDocument Contact.decode step.request with
    | .ok req => customerChange s (Directory.create s req now)
    | .error e => (s, decodeProblem e)
  | "update" =>
    match readDocument Contact.decode step.request with
    | .ok req => customerChange s (Directory.update s step.id req now)
    | .error e => (s, decodeProblem e)
  | "delete" =>
    match s.delete step.id with
    | .ok s' => (s', okAnswer)
    | .error f => (s, faultAnswer f)
  | "get" =>
    match s.find step.id with
    | .ok c => (s, customerAnswer c)
    | .error f => (s, faultAnswer f)
  | "get_by_email" =>
    match Directory.getByEmail s (.ofText step.email) with
    | .ok c => (s, customerAnswer c)
    | .error f => (s, faultAnswer f)
  | "list" => (s, .obj [("customers", .arr (s.customers.map Customer.toJson))])
  | "exists" => (s, .obj [("exists", .bool (s.holds step.id))])
  | "seed" =>
    match Directory.seed s now with
    | .ok s' => (s', okAnswer)
    | .error f => (s, faultAnswer f)
  | other => (s, badInput ("unknown step " ++ other))

/-- A directory and its steps. -/
def customerScript (i : Input) : Json :=
  stepsAnswer (runSteps customerStep CustomerStore.empty i.steps)

end Fulfillment.Script
