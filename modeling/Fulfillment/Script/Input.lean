import Fulfillment.Json.Decode

/-!
# Script lines

A script line is read into an `Input`: the operation's name and every setting an operation may
take, each with the JSON type it must have. The steps of a scenario are `Step`s, and a step that
arms an injected fault carries an `Arming`. Reading follows `Fulfillment.Json.Decode`: member
names match fields up to case, members that name no field are skipped, and the first member of
the wrong type makes the whole line unreadable, named by its way from the line's top, such as
`request.steps.0.index`.

A member that holds a document to be read later as a model (`value`, `item`, `request`, `body`)
is kept as it is, and a missing one stays apart from one that is `null`: reading nothing later is
a complaint of its own.
-/

namespace Fulfillment.Script

open Json

/-- A fault to arm on a store operation, as a step describes it. -/
structure Arming where
  /-- The store operation it fires on (`method`). -/
  method : String := ""
  /-- `conflict`, or anything else for a plain failure (`kind`). -/
  kind : String := ""
  /-- How many calls pass before it fires (`after`). -/
  after : Int := 0
  /-- What a conflicting writer does to the stored record (`mutate`). -/
  mutate : String := ""
  /-- The payment id such a writer uses (`payment_id`). -/
  paymentId : Int := 0
  /-- The reason such a writer gives (`reason`). -/
  reason : String := ""
  /-- The name of the class a plain failure belongs to (`sentinel`). -/
  sentinel : String := ""
  /-- The text of a plain failure (`message`). -/
  message : String := ""
  deriving Inhabited

/-- One step of a scenario. -/
structure Step where
  /-- The step's name (`op`). -/
  op : String := ""
  /-- An item to add (`item`). -/
  item : Option Json := none
  /-- A position in the item list (`index`). -/
  index : Int := 0
  /-- A payment id (`payment_id`). -/
  paymentId : Int := 0
  /-- A reason (`reason`). -/
  reason : String := ""
  /-- A stage text (`status`). -/
  status : String := ""
  /-- An order, payment or customer id (`id`). -/
  id : Int := 0
  /-- A customer id (`customer_id`). -/
  customerId : Int := 0
  /-- A request document (`request`). -/
  request : Option Json := none
  /-- An idempotency key (`key`). -/
  key : String := ""
  /-- Milliseconds (`ms`). -/
  ms : Int := 0
  /-- Valid customer ids (`customers`). -/
  customers : List Int := []
  /-- Whether the customer directory is down (`down`). -/
  down : Bool := false
  /-- The complaint checking a customer leaves the key store with, if not empty
  (`idem_error_on_validate`). -/
  keysFailure : String := ""
  /-- How the payment service answers (`mode`). -/
  mode : String := ""
  /-- A message (`message`). -/
  message : String := ""
  /-- Whether payment lookups are down (`fetch`). -/
  fetch : String := ""
  /-- An order id (`order_id`). -/
  orderId : Int := 0
  /-- A transaction id (`transaction_id`). -/
  transactionId : String := ""
  /-- Scripted settlement outcomes (`outcomes`). -/
  outcomes : List String := []
  /-- Whether the sweep is called off before it starts (`cancel_before`). -/
  cancelBefore : Bool := false
  /-- A fault to arm (`inject`). -/
  arming : Option Arming := none
  /-- An e-mail address (`email`). -/
  email : String := ""
  /-- A service name (`service`). -/
  service : String := ""
  /-- An HTTP method (`method`). -/
  method : String := ""
  /-- A request target (`path`). -/
  path : String := ""
  /-- A request body as JSON (`body`). -/
  body : Option Json := none
  /-- A request body as text (`raw_body`). -/
  rawBody : Option String := none
  /-- Request headers (`headers`). -/
  headers : List (String × String) := []
  /-- An HTTP status (`code`). -/
  code : Int := 0
  deriving Inhabited

/-- A whole script line. -/
structure Input where
  /-- The operation's name (`op`). -/
  op : String := ""
  /-- The stage a move starts from (`from`). -/
  source : String := ""
  /-- The stage a move goes to (`to`). -/
  target : String := ""
  /-- A stage text (`status`). -/
  status : String := ""
  /-- A product category (`category`). -/
  category : String := ""
  /-- A document to check (`value`). -/
  value : Option Json := none
  /-- A product name (`name`). -/
  name : String := ""
  /-- A quantity (`quantity`). -/
  quantity : Int := 0
  /-- A unit price text (`unit_price`). -/
  unitPrice : String := ""
  /-- A success rate (`rate`). -/
  rate : Number.Binary64 := Number.Binary64.zero false
  /-- Whether the attempt is called off first (`cancelled`). -/
  cancelled : Bool := false
  /-- A message (`message`). -/
  message : String := ""
  /-- A span in milliseconds (`d_ms`). -/
  spanMs : Int := 0
  /-- The span used when it is not positive (`fallback_ms`). -/
  fallbackMs : Int := 0
  /-- A service name (`service`). -/
  service : String := ""
  /-- Environment variables (`env`). -/
  env : List (String × String) := []
  /-- A customer id (`customer_id`). -/
  customerId : Int := 0
  /-- Order notes (`notes`). -/
  notes : String := ""
  /-- The scenario's steps (`steps`). -/
  steps : List Step := []
  /-- An order id (`order_id`). -/
  orderId : Int := 0
  /-- An amount text (`amount`). -/
  amount : String := ""
  /-- A payment method (`method`). -/
  method : String := ""
  /-- The counting breaker's threshold (`threshold`). -/
  threshold : Int := 0
  /-- The counting breaker's cool-down in milliseconds (`cool_down_ms`). -/
  coolDownMs : Int := 0
  /-- Scripted breaker calls (`calls`). -/
  calls : List String := []
  /-- Valid customer ids (`customers`). -/
  customers : List Int := []
  /-- The id of the first payment the payment service makes (`first_payment_id`). -/
  firstPaymentId : Int := 0
  /-- Whether idempotency keys are kept (`idempotency`). -/
  idempotency : Bool := false
  /-- How long an idempotency key lives, in milliseconds (`idempotency_ttl_ms`). -/
  keyTtlMs : Int := 0
  /-- Whether sagas are logged (`saga_log`). -/
  sagaLog : Bool := false
  /-- How many payments a sweep takes (`batch_size`). -/
  batchSize : Int := 0
  /-- How old a payment must be before a sweep takes it, in milliseconds (`cutoff_ms`). -/
  cutoffMs : Option Int := none
  /-- How long one settlement may take, in milliseconds (`item_timeout_ms`). -/
  itemTimeoutMs : Int := 0
  /-- Whether sweeps tell anyone about settled payments (`notifier`). -/
  notifier : Option Bool := none
  /-- What the told service answers (`notify_ok`). -/
  notifyOk : Option Bool := none
  /-- Whether the customer directory is seeded (`seed`). -/
  seed : Bool := false
  deriving Inhabited

/-- The members of an armed fault. -/
def Arming.fields : List (FieldReader Arming) :=
  [⟨"method", fun p j a => do return { a with method := ← readTextField "string" p j a.method }⟩,
   ⟨"kind", fun p j a => do return { a with kind := ← readTextField "string" p j a.kind }⟩,
   ⟨"after", fun p j a => do return { a with after := ← readIntField "int" p j a.after }⟩,
   ⟨"mutate", fun p j a => do return { a with mutate := ← readTextField "string" p j a.mutate }⟩,
   ⟨"payment_id", fun p j a => do
      return { a with paymentId := ← readIntField "int64" p j a.paymentId }⟩,
   ⟨"reason", fun p j a => do return { a with reason := ← readTextField "string" p j a.reason }⟩,
   ⟨"sentinel", fun p j a => do
      return { a with sentinel := ← readTextField "string" p j a.sentinel }⟩,
   ⟨"message", fun p j a => do
      return { a with message := ← readTextField "string" p j a.message }⟩]

/-- A whole number read as a list element. -/
def readIntElement (p : Place) (j : Json) (cur : Int) : Decoding Int := readIntField "int64" p j cur

/-- A text read as a list element. -/
def readTextElement (p : Place) (j : Json) (cur : String) : Decoding String :=
  readTextField "string" p j cur

/-- Reads a list member that keeps no spare elements of its own: the spare elements are those
of the list already there, past its end. -/
def readPlainList {α : Type} (typeName : String) (blank : α)
    (element : Place → Json → α → Decoding α) (p : Place) (j : Json) (cur : List α) :
    Decoding (List α) := do
  let (xs, _) ← readList typeName blank element p j (some cur, [])
  return xs.getD []

/-- The members of a step. -/
def Step.fields : List (FieldReader Step) :=
  [⟨"op", fun p j s => do return { s with op := ← readTextField "string" p j s.op }⟩,
   ⟨"item", fun p j s => do return { s with item := ← readRawField p j s.item }⟩,
   ⟨"index", fun p j s => do return { s with index := ← readIntField "int" p j s.index }⟩,
   ⟨"payment_id", fun p j s => do
      return { s with paymentId := ← readIntField "int64" p j s.paymentId }⟩,
   ⟨"reason", fun p j s => do return { s with reason := ← readTextField "string" p j s.reason }⟩,
   ⟨"status", fun p j s => do return { s with status := ← readTextField "string" p j s.status }⟩,
   ⟨"id", fun p j s => do return { s with id := ← readIntField "int64" p j s.id }⟩,
   ⟨"customer_id", fun p j s => do
      return { s with customerId := ← readIntField "int64" p j s.customerId }⟩,
   ⟨"request", fun p j s => do return { s with request := ← readRawField p j s.request }⟩,
   ⟨"key", fun p j s => do return { s with key := ← readTextField "string" p j s.key }⟩,
   ⟨"ms", fun p j s => do return { s with ms := ← readIntField "int64" p j s.ms }⟩,
   ⟨"customers", fun p j s => do
      return { s with customers := ← readPlainList "[]int64" 0 readIntElement p j s.customers }⟩,
   ⟨"down", fun p j s => do return { s with down := ← readBoolField p j s.down }⟩,
   ⟨"idem_error_on_validate", fun p j s => do
      return { s with keysFailure := ← readTextField "string" p j s.keysFailure }⟩,
   ⟨"mode", fun p j s => do return { s with mode := ← readTextField "string" p j s.mode }⟩,
   ⟨"message", fun p j s => do
      return { s with message := ← readTextField "string" p j s.message }⟩,
   ⟨"fetch", fun p j s => do return { s with fetch := ← readTextField "string" p j s.fetch }⟩,
   ⟨"order_id", fun p j s => do return { s with orderId := ← readIntField "int64" p j s.orderId }⟩,
   ⟨"transaction_id", fun p j s => do
      return { s with transactionId := ← readTextField "string" p j s.transactionId }⟩,
   ⟨"outcomes", fun p j s => do
      return { s with outcomes := ← readPlainList "[]string" "" readTextElement p j s.outcomes }⟩,
   ⟨"cancel_before", fun p j s => do
      return { s with cancelBefore := ← readBoolField p j s.cancelBefore }⟩,
   ⟨"inject", fun p j s => do
      match j with
      | .null => return { s with arming := none }
      | _ =>
        let a ← readRecord "main.injection" Arming.fields p j (s.arming.getD {})
        return { s with arming := some a }⟩,
   ⟨"email", fun p j s => do return { s with email := ← readTextField "string" p j s.email }⟩,
   ⟨"service", fun p j s => do
      return { s with service := ← readTextField "string" p j s.service }⟩,
   ⟨"method", fun p j s => do return { s with method := ← readTextField "string" p j s.method }⟩,
   ⟨"path", fun p j s => do return { s with path := ← readTextField "string" p j s.path }⟩,
   ⟨"body", fun p j s => do return { s with body := ← readRawField p j s.body }⟩,
   ⟨"raw_body", fun p j s => do return { s with rawBody := ← readOptTextField p j s.rawBody }⟩,
   ⟨"headers", fun p j s => do return { s with headers := ← readTextMap p j s.headers }⟩,
   ⟨"code", fun p j s => do return { s with code := ← readIntField "int" p j s.code }⟩]

/-- An input with the spare steps of a repeated `steps` member (see `readList`). -/
abbrev InputDraft := Input × List Step

/-- Reads a member of an input that is not its steps. -/
def Input.member (f : FieldReader Input) : FieldReader InputDraft :=
  ⟨f.name, fun p j (i, spare) => do return (← f.read p j i, spare)⟩

/-- The members of an input other than its steps. -/
def Input.plainFields : List (FieldReader Input) :=
  [⟨"op", fun p j i => do return { i with op := ← readTextField "string" p j i.op }⟩,
   ⟨"from", fun p j i => do return { i with source := ← readTextField "string" p j i.source }⟩,
   ⟨"to", fun p j i => do return { i with target := ← readTextField "string" p j i.target }⟩,
   ⟨"status", fun p j i => do return { i with status := ← readTextField "string" p j i.status }⟩,
   ⟨"category", fun p j i => do
      return { i with category := ← readTextField "string" p j i.category }⟩,
   ⟨"value", fun p j i => do return { i with value := ← readRawField p j i.value }⟩,
   ⟨"name", fun p j i => do return { i with name := ← readTextField "string" p j i.name }⟩,
   ⟨"quantity", fun p j i => do return { i with quantity := ← readIntField "int" p j i.quantity }⟩,
   ⟨"unit_price", fun p j i => do
      return { i with unitPrice := ← readTextField "string" p j i.unitPrice }⟩,
   ⟨"rate", fun p j i => do return { i with rate := ← readDoubleField p j i.rate }⟩,
   ⟨"cancelled", fun p j i => do return { i with cancelled := ← readBoolField p j i.cancelled }⟩,
   ⟨"message", fun p j i => do
      return { i with message := ← readTextField "string" p j i.message }⟩,
   ⟨"d_ms", fun p j i => do return { i with spanMs := ← readIntField "int64" p j i.spanMs }⟩,
   ⟨"fallback_ms", fun p j i => do
      return { i with fallbackMs := ← readIntField "int64" p j i.fallbackMs }⟩,
   ⟨"service", fun p j i => do
      return { i with service := ← readTextField "string" p j i.service }⟩,
   ⟨"env", fun p j i => do return { i with env := ← readTextMap p j i.env }⟩,
   ⟨"customer_id", fun p j i => do
      return { i with customerId := ← readIntField "int64" p j i.customerId }⟩,
   ⟨"notes", fun p j i => do return { i with notes := ← readTextField "string" p j i.notes }⟩,
   ⟨"order_id", fun p j i => do return { i with orderId := ← readIntField "int64" p j i.orderId }⟩,
   ⟨"amount", fun p j i => do return { i with amount := ← readTextField "string" p j i.amount }⟩,
   ⟨"method", fun p j i => do return { i with method := ← readTextField "string" p j i.method }⟩,
   ⟨"threshold", fun p j i => do
      return { i with threshold := ← readIntField "int" p j i.threshold }⟩,
   ⟨"cool_down_ms", fun p j i => do
      return { i with coolDownMs := ← readIntField "int64" p j i.coolDownMs }⟩,
   ⟨"calls", fun p j i => do
      return { i with calls := ← readPlainList "[]string" "" readTextElement p j i.calls }⟩,
   ⟨"customers", fun p j i => do
      return { i with customers := ← readPlainList "[]int64" 0 readIntElement p j i.customers }⟩,
   ⟨"first_payment_id", fun p j i => do
      return { i with firstPaymentId := ← readIntField "int64" p j i.firstPaymentId }⟩,
   ⟨"idempotency", fun p j i => do
      return { i with idempotency := ← readBoolField p j i.idempotency }⟩,
   ⟨"idempotency_ttl_ms", fun p j i => do
      return { i with keyTtlMs := ← readIntField "int64" p j i.keyTtlMs }⟩,
   ⟨"saga_log", fun p j i => do return { i with sagaLog := ← readBoolField p j i.sagaLog }⟩,
   ⟨"batch_size", fun p j i => do
      return { i with batchSize := ← readIntField "int" p j i.batchSize }⟩,
   ⟨"cutoff_ms", fun p j i => do return { i with cutoffMs := ← readOptIntField p j i.cutoffMs }⟩,
   ⟨"item_timeout_ms", fun p j i => do
      return { i with itemTimeoutMs := ← readIntField "int64" p j i.itemTimeoutMs }⟩,
   ⟨"notifier", fun p j i => do return { i with notifier := ← readOptBoolField p j i.notifier }⟩,
   ⟨"notify_ok", fun p j i => do return { i with notifyOk := ← readOptBoolField p j i.notifyOk }⟩,
   ⟨"seed", fun p j i => do return { i with seed := ← readBoolField p j i.seed }⟩]

/-- The members of an input. -/
def Input.fields : List (FieldReader InputDraft) :=
  ⟨"steps", fun p j (i, spare) => do
    let (steps, spare) ← readList "[]main.step" {} (readRecord "main.step" Step.fields) p j
      (some i.steps, spare)
    return ({ i with steps := steps.getD [] }, spare)⟩ :: Input.plainFields.map Input.member

/-- The complaint about a document that was never given. -/
def missingDocument : String := "unexpected end of JSON input"

/-- Reads a kept document as a model; a document that was never given reads as nothing at all,
which is a complaint of its own. -/
def readDocument {α : Type} (decode : Json → Except String α) : Option Json → Except String α
  | some j => decode j
  | none => .error missingDocument

/-- Reads a script line's document, or gives the complaint about its first misfit member. -/
def Input.decode (j : Json) : Except String Input :=
  (decodeRecord "request" "main.request" Input.fields ({}, []) j).map (·.1)

end Fulfillment.Script
