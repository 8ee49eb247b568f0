import Fulfillment.Clock.Instant
import Fulfillment.Json.Basic
import Fulfillment.Model.Fault

/-!
# Client breakers

A client breaker guards the calls of one client to another service by the share of failed
calls. It rests on a breaker library (`BreakerLib`), gobreaker's interface as the client uses it:
a breaker is made from settings at a moment; before a request runs, the library admits it and
counts it in the current generation of counts, or refuses it; after the request it records the
request's success or failure in that generation. The library's states are left open.
`BreakerLib.Lawful` states the behaviour the library documents for a closed and an open breaker,
through a view of its states as `Breaker` records; `gobreaker` is the library the system runs.

`ClientBreaker.run` is a call through the client breaker. It asks the library first and runs the
call only if admitted. In the error the call returns it looks for a permanent mark, as Go's
`errors.As` does, along the faults the error wraps. The call counts as a success when it returned
no error or a marked one. The caller gets the marked answer, the call's own error, or for a
refused call a fault saying the service is unavailable.

The client's breaker opens on a failure once there have been at least 3 requests and at least
60 % of them failed (`3 × requests ≤ 5 × failures`), with the counts as the library keeps them:
32-bit counters that wrap. A generation of counts lasts 15 s; an open breaker refuses calls for
30 s and then lets 3 through on trial (half-open).
-/

namespace Fulfillment

/-- Whether a breaker lets calls through. -/
inductive GateState where
  | closed
  | opened
  | halfOpen
  deriving DecidableEq, Inhabited, Repr

namespace GateState

/-- The name of a state. -/
def name : GateState → String
  | closed => "closed"
  | opened => "open"
  | halfOpen => "half-open"

/-- The number of a state. -/
def value : GateState → Int
  | closed => 0
  | opened => 1
  | halfOpen => 2

end GateState

/-- The counts of one generation of a breaker, 32-bit counters that wrap: the requests admitted,
the failures among them, and the successes since the last failure. -/
structure Counts where
  requests : UInt32
  totalFailures : UInt32
  consecutiveSuccesses : UInt32
  deriving DecidableEq, Inhabited, Repr

namespace Counts

/-- No requests yet. -/
def zero : Counts := ⟨0, 0, 0⟩

def onRequest (c : Counts) : Counts := { c with requests := c.requests + 1 }

def onSuccess (c : Counts) : Counts := { c with consecutiveSuccesses := c.consecutiveSuccesses + 1 }

def onFailure (c : Counts) : Counts :=
  { c with totalFailures := c.totalFailures + 1, consecutiveSuccesses := 0 }

end Counts

/-- Why a breaker refuses a request. -/
inductive Refusal where
  | openState
  | tooManyRequests
  deriving DecidableEq, Inhabited, Repr

/-- What a breaker is made with: its name, the requests a half-open breaker lets through, how
long a generation of counts lasts while closed (not positive: for ever), how long it stays open,
and the rule that opens it after a failure. -/
structure Settings where
  name : String
  maxRequests : UInt32
  interval : Duration
  timeout : Duration
  readyToTrip : Counts → Bool

/-- A breaker as the library keeps it: its settings, its state, the number of its generation of
counts, the counts, and the moment the generation ends (none: never). -/
structure Breaker where
  settings : Settings
  state : GateState
  generation : Nat
  counts : Counts
  expiry : Option Instant

/-- A breaker library over breaker states `S`, each call at a moment. -/
structure BreakerLib (S : Type) where
  /-- A new breaker. -/
  make : Settings → Instant → S
  /-- Admits a request, giving the generation it is counted in, or refuses it. -/
  before : Instant → S → Except Refusal Nat × S
  /-- Records whether a request of a generation succeeded. -/
  after : Instant → Nat → Bool → S → S
  /-- The state the breaker reports. -/
  state : Instant → S → GateState

namespace Breaker

/-- Whether the generation is still current at `now`. -/
def current (b : Breaker) (now : Instant) : Bool :=
  match b.expiry with
  | none => true
  | some e => now.ns ≤ e.ns

/-- Starts a new generation at `now`, with fresh counts and the end its state gives it. -/
def toNewGeneration (b : Breaker) (now : Instant) : Breaker :=
  { b with
    generation := b.generation + 1
    counts := Counts.zero
    expiry := match b.state with
      | .closed => if 0 < b.settings.interval.ns then some (now.add b.settings.interval) else none
      | .opened => some (now.add b.settings.timeout)
      | .halfOpen => none }

/-- Moves to a state, starting a new generation when it changes. -/
def setState (b : Breaker) (st : GateState) (now : Instant) : Breaker :=
  if b.state = st then b else { b with state := st }.toNewGeneration now

/-- The breaker as it stands at `now`: a closed generation that has ended gives way to a new one,
and an open breaker whose time is up turns half-open. -/
def atNow (b : Breaker) (now : Instant) : Breaker :=
  match b.state with
  | .closed => if b.expiry.isSome && !b.current now then b.toNewGeneration now else b
  | .opened =>
    match b.expiry with
    | some e => if now.ns ≤ e.ns then b else b.setState .halfOpen now
    | none => b.setState .halfOpen now
  | .halfOpen => b

end Breaker

/-- gobreaker v0.5.0. -/
def gobreaker : BreakerLib Breaker where
  make st now :=
    let st := { st with
      maxRequests := if st.maxRequests = 0 then 1 else st.maxRequests
      interval := if st.interval.ns ≤ 0 then ⟨0⟩ else st.interval
      timeout := if st.timeout.ns ≤ 0 then Duration.ofSeconds 60 else st.timeout }
    Breaker.toNewGeneration ⟨st, .closed, 0, Counts.zero, none⟩ now
  before now b :=
    let b := b.atNow now
    match b.state with
    | .opened => (.error .openState, b)
    | .halfOpen =>
      if b.settings.maxRequests ≤ b.counts.requests then (.error .tooManyRequests, b)
      else (.ok b.generation, { b with counts := b.counts.onRequest })
    | .closed => (.ok b.generation, { b with counts := b.counts.onRequest })
  after now g success b :=
    let b := b.atNow now
    if b.generation ≠ g then b
    else if success then
      match b.state with
      | .closed => { b with counts := b.counts.onSuccess }
      | .halfOpen =>
        let b := { b with counts := b.counts.onSuccess }
        if b.settings.maxRequests ≤ b.counts.consecutiveSuccesses then b.setState .closed now else b
      | .opened => b
    else
      match b.state with
      | .closed =>
        let b := { b with counts := b.counts.onFailure }
        if b.settings.readyToTrip b.counts then b.setState .opened now else b
      | .halfOpen => b.setState .opened now
      | .opened => b
  state now b := (b.atNow now).state

instance : Inhabited Breaker := ⟨gobreaker.make ⟨"", 0, ⟨0⟩, ⟨0⟩, fun _ => false⟩ Instant.zero⟩

/-- What a breaker library documents of a closed and an open breaker, through a view `view` of
its states: a new breaker with a positive interval and timeout is closed with no counts, and its
generation ends after the interval; while its generation is current, a closed breaker admits a
request in that generation and counts it, counts a success, and counts a failure, opening with
fresh counts until the timeout when the rule says so; an open breaker refuses until its time is
up. -/
structure BreakerLib.Lawful {S : Type} (lib : BreakerLib S) (view : S → Breaker) : Prop where
  make : ∀ st now, 0 < st.interval.ns → 0 < st.timeout.ns →
    (view (lib.make st now)).settings.readyToTrip = st.readyToTrip ∧
    (view (lib.make st now)).settings.timeout = st.timeout ∧
    (view (lib.make st now)).state = .closed ∧ (view (lib.make st now)).counts = Counts.zero ∧
    (view (lib.make st now)).expiry = some (now.add st.interval)
  before_closed : ∀ now s, (view s).state = .closed → (view s).current now = true →
    (lib.before now s).1 = .ok (view s).generation ∧
    view (lib.before now s).2 = { view s with counts := (view s).counts.onRequest }
  before_opened : ∀ now s e, (view s).state = .opened → (view s).expiry = some e →
    now.ns ≤ e.ns → (lib.before now s).1 = .error .openState ∧ view (lib.before now s).2 = view s
  after_success : ∀ now s, (view s).state = .closed → (view s).current now = true →
    view (lib.after now (view s).generation true s) =
      { view s with counts := (view s).counts.onSuccess }
  after_failure : ∀ now s, (view s).state = .closed → (view s).current now = true →
    view (lib.after now (view s).generation false s) =
      if (view s).settings.readyToTrip (view s).counts.onFailure then
        { view s with
          state := .opened
          generation := (view s).generation + 1
          counts := Counts.zero
          expiry := some (now.add (view s).settings.timeout) }
      else { view s with counts := (view s).counts.onFailure }

namespace ClientBreaker

/-- The client's rule for opening: at least 3 requests, at least 60 % of them failed. -/
def readyToTrip (c : Counts) : Bool :=
  3 ≤ c.requests.toNat && 3 * c.requests.toNat ≤ 5 * c.totalFailures.toNat

/-- The settings of a client's breaker. -/
def settings (name : String) : Settings :=
  ⟨name, 3, Duration.ofSeconds 15, Duration.ofSeconds 30, readyToTrip⟩

/-- The fault a refused call gets. -/
def refusal (name : String) : Refusal → Fault
  | .openState => .flagged ("circuit breaker " ++ name ++ " is open") .serviceUnavailable
  | .tooManyRequests =>
    .flagged ("circuit breaker " ++ name ++ ": too many requests in half-open state")
      .serviceUnavailable

variable {m : Type → Type} [Monad m] {S β : Type}

/-- Whether a call that returned `e` counts as a success: it returned no error, or one with a
permanent mark. -/
def succeeded (e : Option Fault) : Bool := e.isNone || (e.bind Fault.asPermanent).isSome

/-- What the caller gets of the error `e` a call returned: the answer inside its permanent mark,
or `e` itself. -/
def handed (e : Option Fault) : Option Fault :=
  match e.bind Fault.asPermanent with
  | some answer => some answer
  | none => e

/-- A call `fn` through the client breaker `name` kept by `lib`, reading the clock with `now` and
the breaker's state with `load` and `store`: the fault of a refused call, or the value of the call
that ran with the error the caller gets. -/
def run (lib : BreakerLib S) (name : String) (now : m Instant) (load : m S) (store : S → m Unit)
    (fn : m (β × Option Fault)) : m (Except Fault (β × Option Fault)) := do
  let (admitted, s) := lib.before (← now) (← load)
  store s
  match admitted with
  | .error r => return .error (refusal name r)
  | .ok g =>
    let (v, e) ← fn
    store (lib.after (← now) g (succeeded e) (← load))
    return .ok (v, handed e)

/-- The state of a client's breaker as JSON. -/
def status (name : String) (st : GateState) : Json :=
  .obj [("name", .str name), ("state", .str st.name), ("value", Json.int st.value)]

end ClientBreaker

end Fulfillment
