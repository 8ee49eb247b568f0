import Fulfillment.Service.Payments
import Fulfillment.Service.Processor
import Fulfillment.Store.Payments
import Fulfillment.Script.Entity
import Fulfillment.Script.Injector

/-!
# The payment service on a script

`paymentScript` wires the payment service and the settlement sweep to a payment store with
injected faults, on a scripted clock. A sweep's settlement attempts follow a list of scripted
outcomes, one per attempt, and every attempt past the end of the list settles. The order
service that a sweep notifies is a recorder that answers with a fixed result; a script can also
run sweeps that notify nobody.
-/

namespace Fulfillment.Script

open Json

/-- Everything the payment service runs against. -/
structure PaymentWorld where
  store : PaymentStore
  injector : Injector
  clock : Instant
  transactions : Nat
  outcomes : List String
  calledOff : Bool
  notifications : List Json
  notifyOk : Bool
  deriving Inhabited

/-- Steps of the payment script. -/
abbrev PaymentM := StateM PaymentWorld

/-- The transaction id a conflicting writer completes a payment with. -/
def externalTransaction : String := "EXTERNAL"

/-- The change a conflicting writer makes to a stored payment at `now`. -/
def rivalPaymentChange (i : Injection) (now : Instant) (p : Payment) : Except Fault Payment :=
  match i.mutate with
  | "processing" => p.markProcessing
  | "complete" => p.markCompleted externalTransaction now
  | "fail" => p.markFailed i.reason now
  | "cancel" => p.cancel
  | _ => .ok p

/-- Takes the injection that fires on a call of `method`, if any. -/
def fireInPayments (method : String) : PaymentM (Option Injection) := do
  let w ← get
  let (f, rest) := fire method w.injector
  set { w with injector := rest }
  return f

/-- Writes a payment to the store itself. -/
def writePayment (p : Payment) : PaymentM (Except Fault Payment) := do
  let w ← get
  match w.store.update p w.clock with
  | .ok (stored, s) =>
    set { w with store := s }
    return .ok stored
  | .error f => return .error f

/-- Has another writer change and write the stored copy of a payment. -/
def rivalWritesPayment (i : Injection) (id : Int) : PaymentM Unit := do
  let w ← get
  match w.store.find id with
  | .ok current =>
    let changed := match rivalPaymentChange i w.clock current with
      | .ok p => p
      | .error _ => current
    discard <| writePayment changed
  | .error _ => pure ()

/-- Runs a store read behind its injected faults. -/
def guardedRead {α : Type} (method : String) (read : PaymentStore → Except Fault α) :
    PaymentM (Except Fault α) := do
  match ← fireInPayments method with
  | some i => return .error i.fault
  | none => return read (← get).store

/-- The payment store behind its injected faults. -/
def scriptedPayments : PaymentRepo PaymentM where
  create p := do
    match ← fireInPayments "create" with
    | some i => return .error i.fault
    | none =>
      let w ← get
      match w.store.create p w.clock with
      | .ok (stored, s) =>
        set { w with store := s }
        return .ok stored
      | .error f => return .error f
  update p := do
    match ← fireInPayments "update" with
    | some i =>
      if i.interferes then
        rivalWritesPayment i p.id
        writePayment p
      else return .error i.fault
    | none => writePayment p
  find id := guardedRead "find" fun s => s.find id
  findByOrder orderId := guardedRead "find_by_order" fun s => s.findByOrder orderId
  list status := guardedRead "list" fun s => .ok (s.list status)
  eligible before limit := guardedRead "list_eligible" fun s => .ok (s.eligible before limit)
  countByStatus := guardedRead "count" fun s => .ok s.countByStatus

/-- A fresh transaction id: `TXN-` and eight uppercase hexadecimal digits. -/
def freshTransaction : PaymentM String := do
  let w ← get
  set { w with transactions := w.transactions + 1 }
  return PaymentService.transactionName (w.transactions + 1)

/-- What a scripted settlement outcome stands for: the attempt's result, and whether the sweep
is called off as the attempt runs. `ok` settles, `decline`, `wait` and `error:<text>` are
refused attempts, `panic:<text>` one that breaks down, and `cancel_sweep` settles and calls the
sweep off; any other text is an attempt refused with that text. -/
def scriptedOutcome (o : String) : Attempt × Bool :=
  if o == "ok" then (.settled, false)
  else if o == "decline" then (.refused "payment declined by gateway", false)
  else if o == "wait" then (.refused "context deadline exceeded", false)
  else if o == "cancel_sweep" then (.settled, true)
  else if o.startsWith "error:" then (.refused (o.drop 6).copy, false)
  else if o.startsWith "panic:" then (.brokeDown (o.drop 6).copy, false)
  else (.refused o, false)

/-- The next scripted settlement outcome; past the end of the list every attempt settles. -/
def scriptedAttempt (_ : Payment) : PaymentM Attempt := do
  let w ← get
  match w.outcomes with
  | [] => return .settled
  | o :: rest =>
    let (attempt, callsOff) := scriptedOutcome o
    set { w with outcomes := rest, calledOff := w.calledOff || callsOff }
    return attempt

/-- Records a notification with the scripted answer. -/
def recordNotification (members : List (String × Json)) : PaymentM Unit :=
  modify fun w => { w with notifications :=
    w.notifications ++ [.obj (members ++ [("ok", .bool w.notifyOk)])] }

/-- The recorder that stands for the order service. -/
def recordingNotifier : Notifier PaymentM where
  markCompleted orderId paymentId := recordNotification
    [("call", .str "mark_completed"), ("order_id", Json.int orderId),
     ("payment_id", Json.int paymentId)]
  cancel orderId reason := recordNotification
    [("call", .str "cancel"), ("order_id", Json.int orderId), ("reason", .str reason)]

/-- Everything a sweep reaches, on the script. -/
def scriptedSweep (notifying : Bool) : SweepEnv PaymentM where
  payments := scriptedPayments
  attempt := scriptedAttempt
  notifier := if notifying then some recordingNotifier else none
  freshTransaction := freshTransaction
  now := return (← get).clock
  calledOff := return (← get).calledOff

/-- The sweep counts as JSON. -/
def sweepJson (r : SweepResult) : Json :=
  .obj [("selected", Json.int r.selected), ("completed", Json.int r.completed),
    ("failed", Json.int r.failed), ("errored", Json.int r.errored), ("skipped", Json.int r.skipped)]

/-- An answer with a payment or the fault. -/
def paymentOrFault (r : Except Fault Payment) : Json :=
  match r with
  | .ok p => .obj [("payment", p.toJson)]
  | .error f => faultAnswer f

/-- The sweep settings of a script: batch size and cutoff, each falling back to its default
when it is out of range, and whether anyone is told of settled payments. -/
structure SweepSettings where
  batch : Nat
  cutoff : Duration
  notifying : Bool

/-- Runs one sweep over scripted outcomes. -/
def sweepStep (cfg : SweepSettings) (step : Step) (showUnused : Bool) : PaymentM Json := do
  modify fun w => { w with outcomes := step.outcomes, notifications := [],
                           calledOff := step.cancelBefore }
  let (r, fault) ← Sweep.run (scriptedSweep cfg.notifying) cfg.batch cfg.cutoff
  let w ← get
  let notes := if w.notifications.isEmpty then Json.null else .arr w.notifications
  let unused := if showUnused then [("unused_outcomes", Json.int w.outcomes.length)] else []
  modify fun w => { w with outcomes := [], calledOff := false }
  return .obj ([("result", sweepJson r), ("notifications", notes)] ++ unused ++
    match fault with
    | some f => faultFields f
    | none => [])

/-- One step of the payment script. -/
def paymentServiceStep (cfg : SweepSettings) (step : Step) : PaymentM Json := do
  match step.op with
  | "create" =>
    match readDocument PaymentRequest.decode step.request with
    | .error e => return decodeProblem e
    | .ok req => return paymentOrFault (← PaymentService.create scriptedPayments req)
  | "get" => return paymentOrFault (← scriptedPayments.find step.id)
  | "get_by_order" => return paymentOrFault (← scriptedPayments.findByOrder step.orderId)
  | "exists_by_order" =>
    match ← PaymentService.existsByOrder scriptedPayments step.orderId with
    | .ok b => return .obj [("exists", .bool b)]
    | .error f => return faultAnswer f
  | "list" =>
    let st := step.status
    match ← scriptedPayments.list (if st.isEmpty then none else some (PaymentStatus.ofText st)) with
    | .ok ps => return .obj [("payments", .arr (ps.map Payment.toJson))]
    | .error f => return faultAnswer f
  | "statistics" | "report" =>
    match ← scriptedPayments.countByStatus with
    | .ok counts => return .obj [("statistics", PaymentStore.countsJson counts)]
    | .error f => return faultAnswer f
  | "update_status" =>
    match readDocument PaymentMove.decode step.request with
    | .error e => return decodeProblem e
    | .ok req =>
      return paymentOrFault
        (← PaymentService.updateStatus scriptedPayments freshTransaction Instant.wall step.id req)
  | "advance" =>
    modify fun w => { w with clock := w.clock.add (Duration.ofMillis step.ms) }
    return okAnswer
  | "sweep" => sweepStep cfg step true
  | "inject" =>
    match step.arming with
    | some a =>
      modify fun w => { w with injector := w.injector ++ [Injection.ofArming a] }
      return okAnswer
    | none => return badInput "inject needs an inject object"
  | other => return badInput ("unknown step " ++ other)

/-- The batch size a sweep takes when none is given. -/
def defaultBatch : Nat := 10

/-- The cutoff a sweep uses when none is given: a minute. -/
def defaultCutoff : Duration := Duration.ofSeconds 60

/-- The sweep settings a line asks for: a batch size that is not positive and a cutoff that is
negative are ignored. -/
def sweepSettings (i : Input) : SweepSettings :=
  let cutoff := match i.cutoffMs with
    | some ms => let d := Duration.ofMillis ms; if 0 ≤ d.ns then d else defaultCutoff
    | none => defaultCutoff
  ⟨if 0 < i.batchSize then i.batchSize.toNat else defaultBatch, cutoff, i.notifier.getD true⟩

/-- A payment service and its steps. -/
def paymentScript (i : Input) : Json :=
  let world : PaymentWorld :=
    ⟨PaymentStore.empty, [], Instant.start, 0, [], false, [], i.notifyOk.getD true⟩
  let (answers, _) := (i.steps.mapM (paymentServiceStep (sweepSettings i))).run world
  stepsAnswer answers

end Fulfillment.Script
