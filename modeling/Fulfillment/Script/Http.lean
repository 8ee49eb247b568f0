import Fulfillment.Http.Network
import Fulfillment.Http.Body
import Fulfillment.Script.Normalize
import Fulfillment.Script.Payments

/-!
# The three services on a script

`httpScript` builds the system of three services and runs steps against it: requests to one
service's routes, link steps, moves of the clock, and settlement sweeps of the payment service.
A sweep's attempts follow scripted outcomes as in `paymentScript`; its notifications go to the
order service over the link, and each is recorded with whether the call succeeded. An attempt that waits out its payment's time leaves
none for the notification, which fails without being sent.

The services of a script cannot reach one another: every link is down, so a call between
services fails in transport, as if nothing listened at the other end, and a link step, whatever
status it names, leaves it down. Only a link step that names no service is refused.

A request step's method and target form a request head (see `readRequestHead`), whose header
fields the step's own headers are set over, and whose body (see `RequestHead.payload`) is sent
when the step gives none. A response is answered with its status and, unless
it is empty, its body: a JSON body as it is, a text body as the first JSON value it starts with,
or as the text itself when it starts with none. A request step whose method and target form no
request head makes the whole script fail.
-/

namespace Fulfillment.Script

open Json Http

/-- The system and the sweep's script: the outcomes left, whether the sweep is called off,
whether the last attempt waited out its payment's time, and the notifications so far. -/
structure HttpWorld where
  system : System
  outcomes : List String
  calledOff : Bool
  lapsed : Bool
  notices : List Json
  deriving Inhabited

/-- Steps of the system script. -/
abbrev HttpM := StateM HttpWorld

/-- Runs a system step inside the script. -/
def inSystem {α : Type} (act : SystemM α) : HttpM α :=
  modifyGet fun w =>
    let (a, s) := Id.run (act.run w.system)
    (a, { w with system := s })

/-- Records a notification and whether it reached the order service. -/
def notice (members : List (String × Json)) (ok : Bool) : HttpM Unit :=
  modify fun w => { w with notices := w.notices ++ [.obj (members ++ [("ok", .bool ok)])] }

/-- A notification sent over the link, unless the payment's time has run out, in which case it
fails without being sent. -/
def notify (send : SystemM Bool) : HttpM Bool := do
  if (← get).lapsed then return false else inSystem send

/-- The order service as the sweep tells it about settled payments, over the link. -/
def gatewayNotifier : Notifier HttpM where
  markCompleted orderId paymentId := do
    let ok ← notify (Gateway.markCompleted deliver orderId paymentId)
    notice [("call", .str "mark_completed"), ("order_id", Json.int orderId),
      ("payment_id", Json.int paymentId)] ok
  cancel orderId reason := do
    let ok ← notify (Gateway.cancelOrder deliver orderId reason)
    notice [("call", .str "cancel"), ("order_id", Json.int orderId), ("reason", .str reason)] ok

/-- The next scripted settlement outcome; past the end of the list every attempt settles. -/
def nextAttempt (_ : Payment) : HttpM Attempt := do
  let w ← get
  match w.outcomes with
  | [] =>
    set { w with lapsed := false }
    return .settled
  | o :: rest =>
    let (attempt, callsOff) := scriptedOutcome o
    set { w with outcomes := rest, calledOff := w.calledOff || callsOff, lapsed := o == "wait" }
    return attempt

/-- Everything a sweep of the payment service reaches. -/
def systemSweep : SweepEnv HttpM where
  payments := paymentRepo.lift inSystem
  attempt := nextAttempt
  notifier := some gatewayNotifier
  freshTransaction := inSystem Http.freshTransaction
  now := inSystem Http.now
  calledOff := return (← get).calledOff

/-- The request a step sends with the head its method and target form: the step's headers set
over the head's, and for a body `raw_body` as it is, or else `body` as it was written, or else
the body the head frames in the text after it. -/
def requestOf (step : Step) (head : RequestHead) : Request :=
  let body : Payload := match step.rawBody, step.body with
    | some s, _ => .ofText s
    | none, some j => .ofText j.written
    | none, none => head.payload
  ⟨head.method, head.uri, step.headers.foldl (fun hs h => setHeader hs h.1 h.2) head.headers,
    body⟩

/-- The answer to a method and a target that form no request. -/
def unformed (why : String) : Json := problem "panic" ("invalid NewRequest arguments; " ++ why)

/-- The answer to a response. A JSON body holding a moment that cannot be written is never
written, so the response goes out with its status and no body. -/
def responseJson (r : Response) : Json :=
  let body : Option Json := match r.body with
    | .none => none
    | .json j => if unwritable j then none else some j
    | .text s =>
      if s.isEmpty then none
      else some (match readLeading s with
        | .ok j => j
        | .error _ => .str s)
  .obj ([("status", Json.int r.status)] ++
    match body with
    | some j => [("body", j)]
    | none => [])

/-- One step of the system script. -/
def httpStep (cfg : SweepSettings) (step : Step) : HttpM Json := do
  match step.op with
  | "request" =>
    match Service.ofName? step.service, readRequestHead step.method step.path with
    | some svc, .ok head => return responseJson (← inSystem (serve svc (requestOf step head)))
    | some _, .error why => return unformed why
    | none, _ => return badInput ("unknown service " ++ step.service)
  | "link" =>
    match Service.ofName? step.service with
    | some _ => return okAnswer
    | none => return badInput ("unknown service " ++ step.service)
  | "advance" =>
    let d := Duration.ofMillis step.ms
    inSystem (modify fun s => { s with clock := s.clock.add d, keys := s.keys.map (·.expire d) })
    return okAnswer
  | "sweep" =>
    modify fun w => { w with outcomes := step.outcomes, notices := [], lapsed := false,
                             calledOff := step.cancelBefore }
    let (r, fault) ← Sweep.run systemSweep cfg.batch cfg.cutoff
    let w ← get
    let notes := if w.notices.isEmpty then Json.null else .arr w.notices
    modify fun w => { w with outcomes := [], calledOff := false, lapsed := false }
    return .obj ([("result", sweepJson r), ("notifications", notes)] ++
      match fault with
      | some f => faultFields f
      | none => [])
  | other => return badInput ("unknown step " ++ other)

/-- The system a script starts with: customers seeded when asked, the counting breaker, saga
log and idempotency keys as configured, and every link down. -/
def httpSystem (i : Input) : System :=
  let keys := if i.idempotency then some (KeyStore.make (Duration.ofMillis i.keyTtlMs)) else none
  let s := { System.make Instant.start i.threshold (Duration.ofMillis i.coolDownMs) i.sagaLog keys
    with links := ⟨.down, .down, .down⟩ }
  if i.seed then
    match Directory.seed s.customers s.clock with
    | .ok c => { s with customers := c }
    | .error _ => s
  else s

/-- The first request step to a known service whose method and target form no request head,
with why. -/
def unformedRequest? (steps : List Step) : Option String :=
  steps.findSome? fun step =>
    if step.op == "request" && (Service.ofName? step.service).isSome then
      match readRequestHead step.method step.path with
      | .error why => some why
      | .ok _ => none
    else none

/-- The three services and the steps run against them; a request that cannot be formed fails
the whole script. -/
def httpScript (i : Input) : Json :=
  match unformedRequest? i.steps with
  | some why => unformed why
  | none =>
    let world : HttpWorld := ⟨httpSystem i, [], false, false, []⟩
    let (answers, _) := (i.steps.mapM (httpStep (sweepSettings i))).run world
    stepsAnswer answers

end Fulfillment.Script
