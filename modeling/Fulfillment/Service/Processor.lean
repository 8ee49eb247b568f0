import Fulfillment.Service.Repo

/-!
# The settlement sweep

A sweep settles pending payments in batches. It lists the payments that have been pending
since before the cutoff, oldest first and at most a batch of them, then handles them in turn
until the sweep is called off:

1. it claims the payment by moving it to `PROCESSING` and writing it; a payment another writer
   got to first (a version conflict or a refused stage move) is skipped, and any other failure
   leaves it pending and counts as an error;
2. it attempts the settlement and writes the payment as `COMPLETED` with a fresh transaction id,
   or as `FAILED` with the attempt's complaint;
3. if that write fails or the attempt breaks down, it reloads the payment and, when nobody else
   changed it since the claim, fails it as an internal processing error;
4. it tells the order service about every payment it completed or failed.

Any call the sweep makes may panic, when its monad can (`MonadRecover`). A panic while a payment
is claimed counts as an error; a panic after the claim, a settlement that broke down included,
is recovered by failing the payment as above. That recovery itself runs unguarded, so a panic in
it, from the store or from the notice of the failure, leaves the sweep.
-/

namespace Fulfillment

/-- Monads whose calls may panic with a text: `recover x h` runs `x` and, if it panics with `v`,
goes on with `h v` from where the panic left the state. -/
class MonadRecover (m : Type → Type) where
  recover {α : Type} : m α → (String → m α) → m α

/-- A panic is an exception carrying its text. -/
instance {m : Type → Type} [Monad m] : MonadRecover (ExceptT String m) where
  recover x h := tryCatch x h

/-- Nothing panics in a state monad. -/
instance {σ : Type} : MonadRecover (StateM σ) where
  recover x _ := x

@[simp] theorem StateM.recover_eq {σ α : Type} (x : StateM σ α) (h : String → StateM σ α) :
    MonadRecover.recover x h = x := rfl

/-- How a settlement attempt ended. -/
inductive Attempt where
  | settled
  | refused (complaint : String)
  | brokeDown (cause : String)
  deriving Inhabited, Repr

/-- What became of one payment in a sweep. -/
inductive SweepOutcome where
  | completed
  | failed
  | errored
  | skipped
  deriving DecidableEq, Inhabited, Repr

/-- The counts of a sweep. -/
structure SweepResult where
  selected : Nat
  completed : Nat
  failed : Nat
  errored : Nat
  skipped : Nat
  deriving DecidableEq, Inhabited, Repr

/-- The counts of a sweep that handled nothing. -/
def SweepResult.none (selected : Nat) : SweepResult := ⟨selected, 0, 0, 0, 0⟩

/-- The counts with one more outcome. -/
def SweepResult.tally (r : SweepResult) : SweepOutcome → SweepResult
  | .completed => { r with completed := r.completed + 1 }
  | .failed => { r with failed := r.failed + 1 }
  | .errored => { r with errored := r.errored + 1 }
  | .skipped => { r with skipped := r.skipped + 1 }

/-- Who is told about settled payments: completions with the payment id, failures with the
reason. -/
structure Notifier (m : Type → Type) where
  markCompleted : Int → Int → m Unit
  cancel : Int → String → m Unit

/-- What a sweep needs from the rest of the system. -/
structure SweepEnv (m : Type → Type) where
  payments : PaymentRepo m
  attempt : Payment → m Attempt
  notifier : Option (Notifier m)
  freshTransaction : m String
  now : m Instant
  calledOff : m Bool

namespace Sweep

variable {m : Type → Type} [Monad m] [MonadRecover m]

/-- Tells the order service about a completed or failed payment. -/
def notify (env : SweepEnv m) (p : Payment) : m Unit :=
  match env.notifier with
  | none => pure ()
  | some n =>
    match p.status with
    | .completed => n.markCompleted p.orderId p.id
    | .failed => n.cancel p.orderId p.failureReason
    | _ => pure ()

/-- Fails a claimed payment as an internal processing error, unless someone changed it since
the claim left it at version `owned`. -/
def forceFail (env : SweepEnv m) (id owned : Int) (cause : String) : m SweepOutcome := do
  match ← env.payments.find id with
  | .error _ => return .errored
  | .ok stored =>
    if stored.version != owned then return .errored
    else
      match stored.markFailed ((Fault.bare .internalProcessing).message ++ ": " ++ cause)
          (← env.now) with
      | .error _ => return .errored
      | .ok failed =>
        match ← env.payments.update failed with
        | .error _ => return .errored
        | .ok written =>
          notify env written
          return .errored

/-- Settles a claimed payment, or hands back the cause of a settlement that broke down. -/
def settle (env : SweepEnv m) (claimed : Payment) : m (Except String SweepOutcome) := do
  let owned := claimed.version
  match ← env.attempt claimed with
  | .brokeDown cause => return .error cause
  | result =>
    let now ← env.now
    let moved ← match result with
      | .refused complaint => pure (claimed.markFailed complaint now)
      | _ => do pure (claimed.markCompleted (← env.freshTransaction) now)
    match moved with
    | .error f => return .ok (← forceFail env claimed.id owned f.message)
    | .ok p =>
      match ← env.payments.update p with
      | .error f =>
        return .ok (← forceFail env claimed.id owned
          ("persist " ++ p.status.toText ++ ": " ++ f.message))
      | .ok written =>
        notify env written
        return .ok (if written.status == .completed then .completed else .failed)

/-- Moves a payment to `PROCESSING` and writes it: the claimed copy as stored, or the outcome of
a payment that could not be claimed. -/
def claim (env : SweepEnv m) (p : Payment) : m (Except SweepOutcome Payment) := do
  let lost (f : Fault) : SweepOutcome :=
    if f.isA .concurrentUpdate || f.isA .invalidTransition then .skipped else .errored
  match p.markProcessing with
  | .error f => return .error (lost f)
  | .ok claimed =>
    match ← env.payments.update claimed with
    | .error f => return .error (lost (.within "persist processing" f))
    | .ok claimed => return .ok claimed

/-- Settles a claimed payment under a recover: a panic, or a settlement that broke down, fails
the payment by `forceFail`, which runs outside the recover. -/
def settleOrFail (env : SweepEnv m) (claimed : Payment) : m SweepOutcome := do
  match ← MonadRecover.recover (settle env claimed) fun v => pure (.error v) with
  | .ok o => return o
  | .error cause => forceFail env claimed.id claimed.version ("panic: " ++ cause)

/-- Claims and settles one payment; a panic during the claim counts as an error. -/
def processOne (env : SweepEnv m) (p : Payment) : m SweepOutcome := do
  match ← MonadRecover.recover (claim env p) fun _ => pure (.error .errored) with
  | .error o => return o
  | .ok claimed => settleOrFail env claimed

/-- Handles payments in turn until the sweep is called off. -/
def processAll (env : SweepEnv m) : List Payment → SweepResult → m SweepResult
  | [], r => return r
  | p :: rest, r => do
    if ← env.calledOff then return r
    else
      let outcome ← processOne env p
      processAll env rest (r.tally outcome)

/-- One sweep over the payments pending since `cutoff` before now, at most `batch` of them. -/
def run (env : SweepEnv m) (batch : Nat) (cutoff : Duration) :
    m (SweepResult × Option Fault) := do
  let now ← env.now
  match ← env.payments.eligible (now.add ⟨-cutoff.ns⟩) batch with
  | .error f => return (SweepResult.none 0, some (.within "list eligible payments" f))
  | .ok found =>
    let chosen := found.take batch
    let r ← processAll env chosen (SweepResult.none chosen.length)
    return (r, none)

end Sweep

end Fulfillment
