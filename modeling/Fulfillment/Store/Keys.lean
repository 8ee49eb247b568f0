import Fulfillment.Clock.Duration
import Fulfillment.Model.Fault
import Fulfillment.Number.Integer

/-!
# Idempotency keys

The order saga keeps its idempotency keys in Redis through an idempotency store. Redis itself is a
parameter: `RedisLib` gives the four commands the store sends (SETNX, GET, SET and DEL), each one
atomic on a Redis state, and `RedisLib.Lawful` states what Redis documents of them, through what
it holds under each key while it works. The store is written over those commands in any monad
(`RedisOps`), so that each command is one step of whatever runs it:

* a claim sets the key to the pending marker when it is absent. When it was present the claim
  reads it: the marker means that another request is in progress, a number is the order that a
  finished request created, and a key that vanished in between is claimed again, as many times
  as the store is told to try;
* binding sets the key to the order's id, and releasing deletes it.

Every key is stored as `<service>:create_order:<key>`.

`KeyStore` is the Redis the program runs on. Every write gives its entry the store's
time-to-live, kept in whole milliseconds and at least one; the store's time only moves when it
is told to, and each move takes its span off every entry's remaining life with 64-bit
arithmetic, forgetting the entries left with none. While the store is broken, every command
fails with the store's complaint.
-/

namespace Fulfillment

/-- The commands of a Redis over states `R`: each answers, or fails with the client's
complaint. -/
structure RedisLib (R : Type) where
  /-- Sets a key to a value unless it holds one, answering whether it did. -/
  setNX : String → String → R → Except String Bool × R
  get : String → R → Except String (Option String) × R
  set : String → String → R → Except String Unit × R
  del : String → R → Except String Unit × R

/-- What Redis documents of the commands while it works, through `value`, what it holds under
each key: SETNX sets an absent key and answers true, and answers false and changes nothing when
the key holds a value; GET reads the key; SET writes it; DEL deletes it. No command touches
another key. -/
structure RedisLib.Lawful {R : Type} (lib : RedisLib R) (value : R → String → Option String)
    (works : R → Prop) : Prop where
  setNX_absent : ∀ r k v, works r → value r k = none →
    (lib.setNX k v r).1 = .ok true ∧ works (lib.setNX k v r).2 ∧
      ∀ k', value (lib.setNX k v r).2 k' = if k' = k then some v else value r k'
  setNX_present : ∀ r k v w, works r → value r k = some w → lib.setNX k v r = (.ok false, r)
  get : ∀ r k, works r → lib.get k r = (.ok (value r k), r)
  set : ∀ r k v, works r → (lib.set k v r).1 = .ok () ∧ works (lib.set k v r).2 ∧
    ∀ k', value (lib.set k v r).2 k' = if k' = k then some v else value r k'
  del : ∀ r k, works r → (lib.del k r).1 = .ok () ∧ works (lib.del k r).2 ∧
    ∀ k', value (lib.del k r).2 k' = if k' = k then none else value r k'

/-- The Redis commands as a connection in a monad `m`. -/
structure RedisOps (m : Type → Type) where
  setNX : String → String → m (Except String Bool)
  get : String → m (Except String (Option String))
  set : String → String → m (Except String Unit)
  del : String → m (Except String Unit)

/-- The commands of `lib` in a monad that runs a command on its Redis state with `on`. -/
def RedisLib.ops {R : Type} {m : Type → Type} (lib : RedisLib R)
    (on : {α : Type} → (R → Except String α × R) → m (Except String α)) : RedisOps m :=
  ⟨fun k v => on (lib.setNX k v), fun k => on (lib.get k), fun k v => on (lib.set k v),
    fun k => on (lib.del k)⟩

/-- What idempotency keys give the saga: claiming a key (the order it names, or 0 when it names
none), binding it to an order, and letting it go. -/
structure KeyOps (m : Type → Type) where
  claim : String → m (Except Fault Int)
  bind : String → Int → m (Except Fault Unit)
  release : String → m (Except Fault Unit)

namespace IdempotencyStore

/-- The marker of a key that is being worked on. -/
def pendingMarker : String := "pending"

/-- The Redis key of a client's key. -/
def redisKey (service key : String) : String := service ++ ":create_order:" ++ key

/-- The fault a claim of a key in progress fails with. -/
def inProgress (key : String) : Fault :=
  .within ("request with idempotency key " ++ Text.quote key ++ " is in progress")
    (.bare .alreadyExists)

/-- What a claim makes of the value it found under the key: a request in progress, or the order
a finished one created. -/
def readClaimed (key v : String) : Except Fault Int :=
  if v == pendingMarker then .error (inProgress key)
  else
    match Number.readInt v 10 64 with
    | .value n => .ok n
    | r => .error (.note ("corrupt idempotency key " ++ Text.quote key ++ ": " ++ r.complaint v))

variable {m : Type → Type} [Monad m] (redis : RedisOps m) (service : String)

/-- Claims a key: 0 when the caller now holds it, the order a finished request created, or a
fault while another request holds it. A key that vanished between the two commands is claimed
again, at most `attempts` more times. -/
def claim (key : String) (attempts : Nat) : m (Except Fault Int) := do
  let name := redisKey service key
  match ← redis.setNX name pendingMarker with
  | .error e => return .error (.note ("claim idempotency key: " ++ e))
  | .ok true => return .ok 0
  | .ok false =>
    match ← redis.get name with
    | .error e => return .error (.note ("read idempotency key: " ++ e))
    | .ok (some v) => return readClaimed key v
    | .ok none =>
      match attempts with
      | 0 => return .error (.note ("claim idempotency key: " ++ name ++ " keeps vanishing"))
      | n + 1 => claim key n

/-- Binds a key to the order created under it. -/
def bind (key : String) (orderId : Int) : m (Except Fault Unit) := do
  match ← redis.set (redisKey service key) (toString orderId) with
  | .error e => return .error (.note ("bind idempotency key: " ++ e))
  | .ok () => return .ok ()

/-- Lets a key go, so that a request with it can be tried again. -/
def release (key : String) : m (Except Fault Unit) := do
  match ← redis.del (redisKey service key) with
  | .error e => return .error (.note e)
  | .ok () => return .ok ()

/-- The store as the saga sees it, claiming with `attempts` more tries. -/
def ops (attempts : Nat) : KeyOps m :=
  ⟨fun key => claim redis service key attempts, bind redis service, release redis service⟩

end IdempotencyStore

/-- One remembered key: its value and the nanoseconds it has left to live. -/
structure KeyEntry where
  key : String
  value : String
  remaining : Int
  deriving Inhabited

/-- Remembered keys, the time-to-live of a write, and the complaint every command fails with
while the store is broken (empty when it works). -/
structure KeyStore where
  entries : List KeyEntry
  ttl : Duration
  failure : String
  deriving Inhabited

namespace KeyStore

/-- The time-to-live used when none is given: a day. -/
def defaultTtl : Duration := Duration.ofSeconds 86400

/-- An empty store with a time-to-live; a non-positive one means a day. -/
def make (ttl : Duration) : KeyStore := ⟨[], ttl.orDefault defaultTtl, ""⟩

/-- The life a write gives its entry: the time-to-live cut to whole milliseconds, and at least
one millisecond. -/
def life (s : KeyStore) : Int :=
  if s.ttl.ns < 1000000 then 1000000 else s.ttl.ns / 1000000 * 1000000

/-- The value of a remembered key. -/
def lookup (s : KeyStore) (key : String) : Option String :=
  (s.entries.find? (·.key == key)).map (·.value)

/-- The store with a key written afresh. -/
def write (s : KeyStore) (key value : String) : KeyStore :=
  { s with entries := (s.entries.filter (·.key != key)) ++ [⟨key, value, s.life⟩] }

/-- The store with a key forgotten. -/
def forget (s : KeyStore) (key : String) : KeyStore :=
  { s with entries := s.entries.filter (·.key != key) }

/-- A command on the store: its answer while the store works, its complaint while it is
broken. -/
def command {α : Type} (s : KeyStore) (answer : α × KeyStore) : Except String α × KeyStore :=
  if s.failure.isEmpty then (.ok answer.1, answer.2) else (.error s.failure, s)

/-- The Redis commands on the store. -/
def redis : RedisLib KeyStore where
  setNX key value s := s.command <|
    match s.lookup key with
    | none => (true, s.write key value)
    | some _ => (false, s)
  get key s := s.command (s.lookup key, s)
  set key value s := s.command ((), s.write key value)
  del key s := s.command ((), s.forget key)

/-- Lets a span pass, forgetting the keys whose life runs out. -/
def expire (s : KeyStore) (d : Duration) : KeyStore :=
  { s with entries := s.entries.filterMap fun e =>
      let left := wrapInt64 (e.remaining - d.ns)
      if 0 < left then some { e with remaining := left } else none }

end KeyStore

end Fulfillment
