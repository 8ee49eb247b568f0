import Fulfillment.Model.Request
import Fulfillment.Service.Repo

/-!
# The payment service

`create` checks a payment request and stores a new pending payment; an order that already has a
payment is refused. `updateStatus` moves a stored payment to the stage a request names:
completing records the request's trimmed transaction id, or a fresh one when it is blank, and
the moment; failing records the reason and the moment. Naming `PENDING`, or any stage the
payment cannot reach, is a refused stage move. Nothing is retried.
-/

namespace Fulfillment.PaymentService

variable {m : Type → Type} [Monad m]

/-- Stores a new pending payment for a request that passes its checks. -/
def create (repo : PaymentRepo m) (req : PaymentRequest) : m (Except Fault Payment) := do
  match req.check with
  | some f => return .error f
  | none =>
    match ← repo.create (Payment.create req.orderId req.amount req.method) with
    | .ok p => return .ok p
    | .error f => return .error (.within "create payment" f)

/-- Whether an order has a payment; only a missing payment means no. -/
def existsByOrder (repo : PaymentRepo m) (orderId : Int) : m (Except Fault Bool) := do
  match ← repo.findByOrder orderId with
  | .ok _ => return .ok true
  | .error f => return if f.isA .notFound then .ok false else .error f

/-- The complaint about a text, shown quoted, that names no stage. -/
def unknownStatus (shown : String) : Fault := .invalid ("unknown payment status " ++ shown)

/-- The stage a text names, or the complaint that it names none. -/
def parseStatus (s : String) : Except Fault PaymentStatus :=
  match PaymentStatus.parse? s with
  | some st => .ok st
  | none => .error (unknownStatus (Text.quote s))

/-- The `n`-th transaction id made up for a payment that completes without one: `TXN-` and
`n` as eight uppercase hexadecimal digits. -/
def transactionName (n : Nat) : String :=
  "TXN-" ++ String.ofList ((Text.hexDigits 8 n).map Char.toUpper)

/-- Moves a stored payment to the stage a request names, at `now`; `freshTransaction` makes a
transaction id when the request has none. -/
def updateStatus (repo : PaymentRepo m) (freshTransaction : m String) (now : Instant) (id : Int)
    (req : PaymentMove) : m (Except Fault Payment) := do
  match parseStatus req.status with
  | .error f => return .error f
  | .ok target =>
    match ← repo.find id with
    | .error f => return .error f
    | .ok p =>
      let moved ← match target with
        | .processing => pure p.markProcessing
        | .completed => do
          let given := Text.trim req.transactionId
          let txn ← if given.isEmpty then freshTransaction else pure given
          pure (p.markCompleted txn now)
        | .failed => pure (p.markFailed req.reason now)
        | .cancelled => pure p.cancel
        | _ => pure (.error (.transition .payment p.id p.status.toText target.toText))
      match moved with
      | .error f => return .error f
      | .ok p' => repo.update p'

end Fulfillment.PaymentService
