import Fulfillment.Proofs.Keys.Protocol
import Fulfillment.Proofs.Orders.Laws
import Fulfillment.Service.Saga

/-!
# Sagas that share an idempotency key

Sagas that carry the same idempotency key run side by side on one order store and one Redis,
each call to a store and each Redis command one atomic step (`KeyWorld`). Redis is any library
that keeps the documented laws of its commands (`LawfulRedis`). What the saga gets from outside
the stores (whether the customer is valid, whether the payment breaker lets payments through,
what the payment client answers) is a fixed answer of any value per call (`KeyedCall`); every
call to the payment client is logged with the key's other events.

A claim is two commands, SETNX and then GET, and it starts again when the key vanished between
them. It takes effect at one of its commands: at a SETNX that set the key, or at a GET that found
it. Those two log the claim; a SETNX that found the key taken and a GET that found it gone log
nothing. A claim only starts again after the key was let go in between, each saga lets it go at
most once, and a claim may start again as often as there are sagas, so no claim runs out of
attempts (`sat_keyClaim`).

Each saga is shown to satisfy a rely-guarantee judgment whose guarantee names the changes it may
make (`KeyWorld.Allowed`): it claims the key before anything else, stores an order only while
it holds the key, binds the key only to what it stored, lets go only of a key under which it
stored nothing, and pays only for the order the key is bound to. Every allowed change keeps the
laws of the keyed world (`KeyLaws`): Redis holds what the phase of the log says, the log is
lawful, each saga's events are those of one call, and the order store holds exactly the orders
the log stored.

The main statement, `keyed_sagas_create_once`, says of every reachable state that at most one
order was created and at most one payment started, what every claim saw, that no saga that
stored an order let the key go, and how every saga that finished answered.
-/

namespace Fulfillment

open Prog

/-- A Redis library, with what it holds under each key while it works, that keeps the laws of
its commands. -/
structure LawfulRedis (R : Type) where
  lib : RedisLib R
  value : R → String → Option String
  works : R → Prop
  lawful : lib.Lawful value works

/-- The key store the program runs on, a Redis that keeps the laws while it works. -/
def KeyStore.lawfulRedis : LawfulRedis KeyStore :=
  ⟨KeyStore.redis, KeyStore.lookup, (·.failure = ""), KeyStore.redis_lawful⟩

/-- The shared world of sagas with one Redis: the stores and logs of `World`, the Redis state,
the log of what happened to the key, and how many sagas share the key. -/
structure KeyWorld (R : Type) where
  world : World
  redis : R
  log : List (Nat × KeyEvent)
  sagas : Nat

/-- One change a saga makes to the keyed world: an order written, a Redis command, a payment
started. -/
inductive KeyAct where
  | createOrder (o : Order)
  | updateOrder (o : Order)
  | setNX (name value : String)
  | get (name : String)
  | set (name value : String)
  | del (name : String)
  | pay (orderId : Int)

namespace KeyWorld

variable {R : Type} (D : LawfulRedis R)

/-- Empty stores at `now` with Redis at `r`, nothing logged, and `sagas` sagas. -/
def start (r : R) (now : Instant) (sagas : Nat) : KeyWorld R := ⟨World.start now, r, [], sagas⟩

/-- The key events of thread `i`, in order. -/
def eventsBy (s : KeyWorld R) (i : Nat) : List KeyEvent := eventsOf s.log i

/-- The key event a change of thread `i` logs, if any: a SETNX that set the key and a GET that
found it claim the key, SET binds it and DEL lets it go. -/
def eventOf (s : KeyWorld R) (i : Nat) : KeyAct → Option KeyEvent
  | .createOrder o => some (.stored (s.world.createOrder i o).1.id)
  | .updateOrder _ => none
  | .setNX name v =>
    match (D.lib.setNX name v s.redis).1 with
    | .ok true => some (.claimed none)
    | _ => none
  | .get name =>
    match (D.lib.get name s.redis).1 with
    | .ok (some v) => some (.claimed (some v))
    | _ => none
  | .set _ v => some (.bound v)
  | .del _ => some .released
  | .pay n => some (.paid n)

/-- The world after thread `i` makes a change. -/
def apply (s : KeyWorld R) (i : Nat) (act : KeyAct) : KeyWorld R :=
  let s' := match act with
    | .createOrder o => { s with world := s.world.apply i (.createOrder o) }
    | .updateOrder o => { s with world := s.world.apply i (.updateOrder o) }
    | .setNX name v => { s with redis := (D.lib.setNX name v s.redis).2 }
    | .get name => { s with redis := (D.lib.get name s.redis).2 }
    | .set name v => { s with redis := (D.lib.set name v s.redis).2 }
    | .del name => { s with redis := (D.lib.del name s.redis).2 }
    | .pay _ => s
  { s' with log := s.log ++ ((s.eventOf D i act).map (i, ·)).toList }

/-- The changes thread `j` may make on the key `key` of `service`: claim the key, with the
pending marker, before anything else; store an order while it holds the key; bind the key to the
order it stored; let go of a key under which it stored nothing; pay for the order the key is
bound to; write orders at any time. Only the sagas of the pool claim. -/
def Allowed (service key : String) (s : KeyWorld R) (j : Nat) : KeyAct → Prop
  | .createOrder _ => phaseOf s.log = .held j ∧ s.eventsBy j = [.claimed none]
  | .updateOrder _ => True
  | .setNX k v => k = IdempotencyStore.redisKey service key ∧
      v = IdempotencyStore.pendingMarker ∧ s.eventsBy j = [] ∧ j < s.sagas
  | .get k => k = IdempotencyStore.redisKey service key ∧ s.eventsBy j = [] ∧ j < s.sagas
  | .set k v => k = IdempotencyStore.redisKey service key ∧ ∃ n, v = toString n ∧
      phaseOf s.log = .stored j n ∧ s.eventsBy j = [.claimed none, .stored n]
  | .del k => k = IdempotencyStore.redisKey service key ∧ phaseOf s.log = .held j ∧
      s.eventsBy j = [.claimed none]
  | .pay n => phaseOf s.log = .bound j n ∧
      s.eventsBy j = [.claimed none, .stored n, .bound (toString n)]

end KeyWorld

section Threads

variable {R : Type} (D : LawfulRedis R)

/-- The order store as thread `i` reaches it: every call is one atomic step. -/
def keyedOrders (i : Nat) : OrderRepo (Prog (KeyWorld R)) where
  create o := .atomic fun s => (.ok (s.world.createOrder i o).1, s.apply D i (.createOrder o))
  update o := .atomic fun s => ((s.world.updateOrder i o).1, s.apply D i (.updateOrder o))
  find id := .atomic fun s => (s.world.orders.find id, s)
  list customerId status := .atomic fun s => (.ok (s.world.orders.list customerId status), s)

/-- Redis as thread `i` reaches it: every command is one atomic step. -/
def sharedRedis (i : Nat) : RedisOps (Prog (KeyWorld R)) where
  setNX name v := .atomic fun s => ((D.lib.setNX name v s.redis).1, s.apply D i (.setNX name v))
  get name := .atomic fun s => ((D.lib.get name s.redis).1, s.apply D i (.get name))
  set name v := .atomic fun s => ((D.lib.set name v s.redis).1, s.apply D i (.set name v))
  del name := .atomic fun s => ((D.lib.del name s.redis).1, s.apply D i (.del name))

/-- A saga call: its request, and what it gets from outside the stores (whether the customer is
valid, whether the payment breaker lets payments through, what the payment client answers, and
its saga id). -/
structure KeyedCall where
  req : OrderRequest
  customerValid : Bool
  breakerAllows : Bool
  payment : Except Fault Payment
  sagaId : String

/-- The saga of thread `i` on the keyed world: the shared stores, the idempotency store of
`service` over the shared Redis with `attempts` more tries per claim, the shared clock, and the
answers of call `c`; a call to the payment client is logged. The saga log is written nowhere. -/
def keyedEnv (service : String) (attempts i : Nat) (c : KeyedCall) :
    SagaEnv (Prog (KeyWorld R)) where
  orders := keyedOrders D i
  customerValid _ := pure c.customerValid
  createPayment orderId _ _ := .atomic fun s => (c.payment, s.apply D i (.pay orderId))
  breakerAllows := pure c.breakerAllows
  paymentSucceeded := pure ()
  paymentFailed := pure ()
  keys := some (IdempotencyStore.ops (sharedRedis D i) service attempts)
  newSagaId := pure c.sagaId
  now := .atomic fun s => (s.world.clock, s)
  record _ := pure ()

/-- A pool of sagas of `service` that all carry `key`, thread `i` placing the order of the
`i`-th call, on empty stores at `now` and Redis at `r`; a claim may start again as often as there
are sagas. -/
def keyedPool (service : String) (r : R) (now : Instant) (key : String) (calls : List KeyedCall) :
    KeyWorld R × List (Prog (KeyWorld R) (Option Order × Option Fault)) :=
  (KeyWorld.start r now calls.length,
    calls.mapIdx fun i c => Saga.placeOrder (keyedEnv D service calls.length i c) c.req key)

/-- The environment moves the clock and the halt signals, and nothing else. -/
def KeyEnv (s s' : KeyWorld R) : Prop :=
  Env s.world s'.world ∧ s'.redis = s.redis ∧ s'.log = s.log ∧ s'.sagas = s.sagas

/-- A step of thread `j`: nothing, or one allowed change. -/
def KeyDoes (service key : String) (j : Nat) (s s' : KeyWorld R) : Prop :=
  s' = s ∨ ∃ act, s.Allowed service key j act ∧ s' = s.apply D j act

/-- What thread `i` puts up with: the environment and the steps of every other thread. -/
def KeyOthers (service key : String) (i : Nat) (s s' : KeyWorld R) : Prop :=
  KeyEnv s s' ∨ ∃ j, j ≠ i ∧ KeyDoes D service key j s s'

end Threads

/-- The order store agrees with its log and holds exactly the orders with ids `ns`, numbered
from one. -/
structure OrdersAgree (w : World) (ns : List Int) : Prop where
  kept : OrdersKept w
  ids : w.orders.orders.map (·.id) = ns
  count : w.orders.lastId = ns.length
  positive : ∀ n ∈ ns, 0 < n ∧ n ≤ w.orders.lastId

namespace OrdersAgree

variable {w w' : World} {ns : List Int}

theorem start (now : Instant) : OrdersAgree (World.start now) [] :=
  ⟨ordersKept_start now, rfl, rfl, by simp⟩

theorem env (h : OrdersAgree w ns) (he : Env w w') : OrdersAgree w' ns := by
  obtain ⟨ho, -, hl, -⟩ := Env.stores he
  refine ⟨?_, ?_, ?_, ?_⟩
  · unfold OrdersKept
    rw [ho, hl]
    exact h.kept
  · rw [ho]; exact h.ids
  · rw [ho]; exact h.count
  · rw [ho]; exact h.positive

/-- A new order takes the next id. -/
theorem create (h : OrdersAgree w ns) (i : Nat) (o : Order) :
    OrdersAgree (w.apply i (.createOrder o)) (ns ++ [(w.createOrder i o).1.id]) := by
  refine ⟨ordersKept_apply h.kept _, ?_, ?_, fun n hn => ?_⟩
  · simp [World.apply, World.createOrder, OrderStore.create, h.ids]
  · simp [World.apply, World.createOrder, OrderStore.create, h.count]
  · have hpos := h.positive
    have hcount := h.count
    simp only [World.apply, World.createOrder, OrderStore.create, List.mem_append,
      List.mem_singleton] at hn ⊢
    rcases hn with hn | rfl
    · have := hpos n hn
      omega
    · omega

/-- A write of an order keeps every id and the count. -/
theorem update (h : OrdersAgree w ns) (i : Nat) (o : Order) :
    OrdersAgree (w.apply i (.updateOrder o)) ns := by
  rcases World.updateOrder_cases w i o with ⟨f, hf⟩ | ⟨cur, stored, hcur, hv, rfl, hu⟩
  · simpa [World.apply, hf] using h
  · have hkept := ordersKept_apply h.kept (j := i) (.updateOrder o)
    simp only [World.apply, hu] at hkept ⊢
    -- the written order replaces the one with its id
    have hmap : (w.orders.orders.map fun x => if x.id == o.id then
        { o with version := o.version + 1, updatedAt := w.clock, createdAt := cur.createdAt }
        else x).map (·.id) = w.orders.orders.map (·.id) := by
      simp only [List.map_map]
      refine List.map_congr_left fun x _ => ?_
      by_cases hx : x.id = o.id <;> simp [hx]
    exact ⟨hkept, hmap.trans h.ids, h.count, h.positive⟩

end OrdersAgree

/-- The laws of a keyed world: Redis works and holds under the key what the phase of the log
says; the log follows the protocol, each thread's events are those of one call, and only the
sagas of the pool log; and the order store holds exactly the orders the log stored. -/
structure KeyLaws {R : Type} (D : LawfulRedis R) (service key : String) (s : KeyWorld R) :
    Prop where
  works : D.works s.redis
  value : D.value s.redis (IdempotencyStore.redisKey service key) = (phaseOf s.log).value
  follows : Follows s.log
  calls : ∀ j, CallLog (eventsOf s.log j)
  sagas : ∀ x ∈ s.log, x.1 < s.sagas
  orders : OrdersAgree s.world (storedIds s.log)

namespace KeyWorld

variable {R : Type} {D : LawfulRedis R} {s : KeyWorld R} {i j : Nat} {act : KeyAct}

@[simp] theorem apply_log (s : KeyWorld R) (i : Nat) (act : KeyAct) :
    (s.apply D i act).log = s.log ++ ((s.eventOf D i act).map (i, ·)).toList := by
  cases act <;> rfl

@[simp] theorem apply_sagas (s : KeyWorld R) (i : Nat) (act : KeyAct) :
    (s.apply D i act).sagas = s.sagas := by
  cases act <;> rfl

/-- A change of thread `i` that logs `e` moves the phase by `e` and adds `e` to the thread's
events. -/
theorem apply_self (s : KeyWorld R) (i : Nat) (act : KeyAct) {e : KeyEvent}
    (he : s.eventOf D i act = some e) :
    phaseOf (s.apply D i act).log = (phaseOf s.log).next (i, e) ∧
      (s.apply D i act).eventsBy i = s.eventsBy i ++ [e] := by
  simp [eventsBy, he]

/-- Another thread's change leaves the events of thread `j` as they were. -/
theorem eventsBy_apply_of_ne (h : i ≠ j) (act : KeyAct) :
    (s.apply D i act).eventsBy j = s.eventsBy j := by
  cases he : s.eventOf D i act <;> simp [eventsBy, he, h]

/-- A SETNX that finds the key holding a value changes nothing. -/
theorem apply_setNX_of_some {name v w : String} (hw : D.works s.redis)
    (hv : D.value s.redis name = some w) : s.apply D i (.setNX name v) = s := by
  have h := D.lawful.setNX_present s.redis name v w hw hv
  simp [apply, eventOf, h]

/-- A GET that finds the key gone changes nothing. -/
theorem apply_get_of_none {name : String} (hw : D.works s.redis) (hv : D.value s.redis name = none) :
    s.apply D i (.get name) = s := by
  have h := D.lawful.get s.redis name hw
  simp [apply, eventOf, h, hv]

/-- A GET that finds a value logs a claim that saw it, and changes nothing else. -/
theorem apply_get_of_some {name v : String} (hw : D.works s.redis)
    (hv : D.value s.redis name = some v) :
    s.apply D i (.get name) = { s with log := s.log ++ [(i, .claimed (some v))] } := by
  have h := D.lawful.get s.redis name hw
  simp [apply, eventOf, h, hv]

end KeyWorld

namespace KeyPhase

theorem eq_free_of_value {p : KeyPhase} (h : p.value = none) : p = .free := by
  cases p <;> simp_all [value]

/-- A claim moves only a free key. -/
theorem next_claimed {p : KeyPhase} (hp : p ≠ .free) (j : Nat) (seen : Option String) :
    p.next (j, .claimed seen) = p := by
  cases p <;> simp_all [next]

end KeyPhase

namespace KeyLaws

variable {R : Type} {D : LawfulRedis R} {service key : String} {s : KeyWorld R} {i : Nat}

/-- A thread with events in the log is one of the pool's. -/
theorem lt_sagas (hl : KeyLaws D service key s) {e : KeyEvent} {es : List KeyEvent}
    (hev : s.eventsBy i = e :: es) : i < s.sagas := by
  have he : e ∈ s.eventsBy i := by
    rw [hev]
    exact List.mem_cons_self ..
  exact hl.sagas _ (mem_eventsOf.mp he)

theorem phase_of_value (hl : KeyLaws D service key s) {v : String}
    (hv : D.value s.redis (IdempotencyStore.redisKey service key) = some v) :
    phaseOf s.log ≠ .free := by
  intro hp
  rw [hl.value, hp] at hv
  cases hv

/-- Every event an allowed change logs is admitted by the log before it. -/
theorem admits (hl : KeyLaws D service key s) {act : KeyAct} (ha : s.Allowed service key i act)
    {e : KeyEvent} (he : s.eventOf D i act = some e) : Admits s.log (i, e) := by
  cases act with
  | createOrder o => cases he; exact ⟨ha.1, fun _ h => by cases h⟩
  | updateOrder o => cases he
  | setNX k v =>
    obtain ⟨rfl, rfl, hev, -⟩ := ha
    -- only a SETNX that set the key logs, and it found the key free
    cases hv : D.value s.redis (IdempotencyStore.redisKey service key) with
    | none =>
      have hans := (D.lawful.setNX_absent _ _ IdempotencyStore.pendingMarker hl.works hv).1
      simp only [KeyWorld.eventOf, hans, Option.some.injEq] at he
      subst he
      exact ⟨hv ▸ hl.value, fun _ _ => eventsOf_eq_nil.mp hev⟩
    | some w =>
      have h := D.lawful.setNX_present _ _ IdempotencyStore.pendingMarker w hl.works hv
      simp [KeyWorld.eventOf, h] at he
  | get k =>
    obtain ⟨rfl, hev, -⟩ := ha
    have h := D.lawful.get s.redis (IdempotencyStore.redisKey service key) hl.works
    cases hv : D.value s.redis (IdempotencyStore.redisKey service key) with
    | none => simp [KeyWorld.eventOf, h, hv] at he
    | some v =>
      simp only [KeyWorld.eventOf, h, hv, Option.some.injEq] at he
      subst he
      exact ⟨hv ▸ hl.value, fun _ _ => eventsOf_eq_nil.mp hev⟩
  | set k v =>
    obtain ⟨-, n, rfl, hp, -⟩ := ha
    cases he
    exact ⟨⟨n, hp, rfl⟩, fun _ h => by cases h⟩
  | del k => cases he; exact ⟨ha.2.1, fun _ h => by cases h⟩
  | pay n => cases he; exact ⟨ha.1, fun _ h => by cases h⟩

/-- A change that logs event `e` of thread `i` and writes no order keeps the laws, when Redis
works and holds what the new phase says and the thread's events stay those of a call. -/
theorem keyStep (hl : KeyLaws D service key s) {s' : KeyWorld R} {e : KeyEvent}
    (hadm : Admits s.log (i, e)) (hcall : CallLog (s.eventsBy i ++ [e]))
    (hlog : s'.log = s.log ++ [(i, e)]) (hw : s'.world = s.world) (hst : e.storedId? = none)
    (hworks : D.works s'.redis)
    (hval : D.value s'.redis (IdempotencyStore.redisKey service key) =
      ((phaseOf s.log).next (i, e)).value)
    (hsagas : s'.sagas = s.sagas) (hi : i < s.sagas) : KeyLaws D service key s' := by
  refine ⟨hworks, by rw [hlog, phaseOf_snoc]; exact hval,
    by rw [hlog]; exact hl.follows.snoc hadm, fun j => ?_, fun x hx => ?_, ?_⟩
  · rw [hlog, eventsOf_snoc]
    split
    · next h => subst h; exact hcall
    · exact hl.calls j
  · rw [hlog] at hx
    rw [hsagas]
    rcases List.mem_append.mp hx with hx | hx
    · exact hl.sagas x hx
    · rw [List.mem_singleton.mp hx]
      exact hi
  · rw [hw, hlog, storedIds_snoc, hst]
    simpa using hl.orders

theorem createOrder (hl : KeyLaws D service key s) {o : Order}
    (ha : s.Allowed service key i (.createOrder o)) :
    KeyLaws D service key (s.apply D i (.createOrder o)) := by
  obtain ⟨hp, hev⟩ := ha
  have hcall : CallLog (s.eventsBy i ++ [.stored (s.world.createOrder i o).1.id]) := by
    rw [hev]; exact .stored _
  have hi := hl.lt_sagas hev
  have hlog : (s.apply D i (.createOrder o)).log =
      s.log ++ [(i, .stored (s.world.createOrder i o).1.id)] := by
    simp [KeyWorld.eventOf]
  refine ⟨hl.works, ?_, hlog ▸ hl.follows.snoc ⟨hp, fun _ h => by cases h⟩, fun j => ?_,
    fun x hx => ?_, ?_⟩
  · have hkeys : (s.apply D i (.createOrder o)).redis = s.redis := rfl
    rw [hkeys, hlog, phaseOf_snoc, hp]
    exact hl.value.trans (by rw [hp]; rfl)
  · rw [hlog, eventsOf_snoc]
    split
    · next h => subst h; exact hcall
    · exact hl.calls j
  · rw [hlog] at hx
    rcases List.mem_append.mp hx with hx | hx
    · exact hl.sagas x hx
    · rw [List.mem_singleton.mp hx]
      exact hi
  · have hw : (s.apply D i (.createOrder o)).world = s.world.apply i (.createOrder o) := rfl
    rw [hlog, storedIds_snoc, hw]
    simpa [KeyEvent.storedId?] using hl.orders.create i o

theorem updateOrder (hl : KeyLaws D service key s) (o : Order) :
    KeyLaws D service key (s.apply D i (.updateOrder o)) := by
  have hlog : (s.apply D i (.updateOrder o)).log = s.log := by simp [KeyWorld.eventOf]
  refine ⟨hl.works, ?_, ?_, ?_, ?_, ?_⟩
  · rw [hlog]; exact hl.value
  · rw [hlog]; exact hl.follows
  · rw [hlog]; exact hl.calls
  · rw [hlog]; exact hl.sagas
  · rw [hlog]; exact hl.orders.update i o

/-- A SETNX of the pending marker on a free key takes it. -/
theorem setNX (hl : KeyLaws D service key s) (hev : s.eventsBy i = []) (hi : i < s.sagas)
    (hp : phaseOf s.log = .free) :
    (D.lib.setNX (IdempotencyStore.redisKey service key) IdempotencyStore.pendingMarker
        s.redis).1 = .ok true ∧
      s.eventOf D i (.setNX (IdempotencyStore.redisKey service key)
        IdempotencyStore.pendingMarker) = some (.claimed none) ∧
      KeyLaws D service key (s.apply D i (.setNX (IdempotencyStore.redisKey service key)
        IdempotencyStore.pendingMarker)) := by
  have hnone : D.value s.redis (IdempotencyStore.redisKey service key) = none :=
    hl.value.trans (by rw [hp]; rfl)
  obtain ⟨hans, hworks, hval⟩ := D.lawful.setNX_absent s.redis
    (IdempotencyStore.redisKey service key) IdempotencyStore.pendingMarker hl.works hnone
  have he : s.eventOf D i (.setNX (IdempotencyStore.redisKey service key)
      IdempotencyStore.pendingMarker) = some (.claimed none) := by
    simp [KeyWorld.eventOf, hans]
  have ha : s.Allowed service key i (.setNX (IdempotencyStore.redisKey service key)
      IdempotencyStore.pendingMarker) := ⟨rfl, rfl, hev, hi⟩
  refine ⟨hans, he, hl.keyStep (hl.admits ha he) (by rw [hev]; exact .took)
    (by simp [he]) rfl rfl hworks ?_ rfl hi⟩
  simp only [KeyWorld.apply, hval, if_pos, hp]
  rfl

/-- A GET that finds a value logs a claim that saw it. -/
theorem get (hl : KeyLaws D service key s) (hev : s.eventsBy i = []) (hi : i < s.sagas)
    {v : String} (hv : D.value s.redis (IdempotencyStore.redisKey service key) = some v) :
    KeyLaws D service key (s.apply D i (.get (IdempotencyStore.redisKey service key))) := by
  rw [KeyWorld.apply_get_of_some hl.works hv]
  refine hl.keyStep ⟨hv ▸ hl.value, fun _ _ => eventsOf_eq_nil.mp hev⟩
    (by rw [hev]; exact .saw v) rfl rfl rfl hl.works ?_ rfl hi
  rw [KeyPhase.next_claimed (hl.phase_of_value hv)]
  exact hl.value

/-- SET binds a key under which the thread stored an order to that order. -/
theorem set (hl : KeyLaws D service key s) {n : Int} (hp : phaseOf s.log = .stored i n)
    (hev : s.eventsBy i = [.claimed none, .stored n]) :
    KeyLaws D service key
      (s.apply D i (.set (IdempotencyStore.redisKey service key) (toString n))) := by
  obtain ⟨-, hworks, hval⟩ :=
    D.lawful.set s.redis (IdempotencyStore.redisKey service key) (toString n) hl.works
  refine hl.keyStep (hl.admits (show s.Allowed service key i
      (.set (IdempotencyStore.redisKey service key) (toString n)) from ⟨rfl, n, rfl, hp, hev⟩) rfl) (by rw [hev]; exact .bound n)
    (by simp [KeyWorld.eventOf]) rfl rfl hworks ?_ rfl (hl.lt_sagas hev)
  simp only [KeyWorld.apply, hval, hp]
  rfl

/-- DEL lets go of a key under which the thread stored nothing. -/
theorem del (hl : KeyLaws D service key s) (hp : phaseOf s.log = .held i)
    (hev : s.eventsBy i = [.claimed none]) :
    KeyLaws D service key (s.apply D i (.del (IdempotencyStore.redisKey service key))) := by
  obtain ⟨-, hworks, hval⟩ := D.lawful.del s.redis (IdempotencyStore.redisKey service key) hl.works
  refine hl.keyStep (hl.admits (show s.Allowed service key i
      (.del (IdempotencyStore.redisKey service key)) from ⟨rfl, hp, hev⟩) rfl) (by rw [hev]; exact .released)
    (by simp [KeyWorld.eventOf]) rfl rfl hworks ?_ rfl (hl.lt_sagas hev)
  simp only [KeyWorld.apply, hval, hp]
  rfl

theorem pay (hl : KeyLaws D service key s) {n : Int} (hp : phaseOf s.log = .bound i n)
    (hev : s.eventsBy i = [.claimed none, .stored n, .bound (toString n)]) :
    KeyLaws D service key (s.apply D i (.pay n)) := by
  refine hl.keyStep (hl.admits (show s.Allowed service key i (.pay n) from ⟨hp, hev⟩) rfl) (by rw [hev]; exact .paid n)
    (by simp [KeyWorld.eventOf]) rfl rfl hl.works ?_ rfl (hl.lt_sagas hev)
  rw [hp]
  exact hl.value.trans (by rw [hp]; rfl)

/-- **Every allowed change keeps the laws.** -/
theorem apply (hl : KeyLaws D service key s) {act : KeyAct} (ha : s.Allowed service key i act) :
    KeyLaws D service key (s.apply D i act) := by
  cases act with
  | createOrder o => exact hl.createOrder ha
  | updateOrder o => exact hl.updateOrder o
  | setNX k v =>
    obtain ⟨rfl, rfl, hev, hi⟩ := ha
    cases hv : D.value s.redis (IdempotencyStore.redisKey service key) with
    | none =>
      exact (hl.setNX hev hi (KeyPhase.eq_free_of_value (hl.value.symm.trans hv))).2.2
    | some w => rw [KeyWorld.apply_setNX_of_some hl.works hv]; exact hl
  | get k =>
    obtain ⟨rfl, hev, hi⟩ := ha
    cases hv : D.value s.redis (IdempotencyStore.redisKey service key) with
    | none => rw [KeyWorld.apply_get_of_none hl.works hv]; exact hl
    | some v => exact hl.get hev hi hv
  | set k v => obtain ⟨rfl, n, rfl, hp, hev⟩ := ha; exact hl.set hp hev
  | del k => obtain ⟨rfl, hp, hev⟩ := ha; exact hl.del hp hev
  | pay n => exact hl.pay ha.1 ha.2

theorem start (service key : String) {r : R} (hr : D.works r)
    (hfree : D.value r (IdempotencyStore.redisKey service key) = none) (now : Instant)
    (sagas : Nat) : KeyLaws D service key (KeyWorld.start r now sagas) :=
  ⟨hr, hfree, follows_nil, fun _ => .idle, nofun, OrdersAgree.start now⟩

theorem env (hl : KeyLaws D service key s) {s' : KeyWorld R} (he : KeyEnv s s') :
    KeyLaws D service key s' := by
  obtain ⟨hw, hr, hlog, hsagas⟩ := he
  refine ⟨?_, ?_, ?_, ?_, ?_, ?_⟩
  · rw [hr]; exact hl.works
  · rw [hr, hlog]; exact hl.value
  · rw [hlog]; exact hl.follows
  · rw [hlog]; exact hl.calls
  · rw [hlog, hsagas]; exact hl.sagas
  · rw [hlog]; exact hl.orders.env hw

/-- A log of the pool's sagas lets the key go at most once per saga. -/
theorem releases_le (hl : KeyLaws D service key s) : releases s.log ≤ s.sagas :=
  Fulfillment.releases_le hl.calls hl.sagas

end KeyLaws

/-! ## What a thread knows -/

section Knowledge

variable {R : Type} {D : LawfulRedis R} {service key : String} {s : KeyWorld R} {i j : Nat}
  {act : KeyAct}

theorem stable_keyLaws (j : Nat) :
    Stable (KeyDoes D service key j) (KeyLaws D service key) := by
  rintro s s' (rfl | ⟨act, ha, rfl⟩) h
  · exact h
  · exact h.apply ha

/-- What others do keeps the laws. -/
theorem KeyOthers.laws {s s' : KeyWorld R} (h : KeyOthers D service key i s s')
    (hl : KeyLaws D service key s) : KeyLaws D service key s' := by
  rcases h with he | ⟨j, -, hd⟩
  · exact hl.env he
  · exact stable_keyLaws j hd hl

/-- No change of another thread moves a key that thread `i` holds. -/
theorem KeyWorld.phaseOf_apply_of_ne (hl : KeyLaws D service key s)
    (ha : s.Allowed service key j act) (hh : (phaseOf s.log).holder = some i) (hj : j ≠ i) :
    phaseOf (s.apply D j act).log = phaseOf s.log := by
  cases he : s.eventOf D j act with
  | none => simp [he]
  | some e =>
    rw [(KeyWorld.apply_self s j act he).1]
    exact KeyPhase.next_of_ne hh hj (hl.admits ha he).1

/-- What others do leaves a key that thread `i` holds where it is. -/
theorem KeyOthers.phaseOf {s s' : KeyWorld R} (h : KeyOthers D service key i s s')
    (hl : KeyLaws D service key s) (hh : (phaseOf s.log).holder = some i) :
    phaseOf s'.log = phaseOf s.log := by
  rcases h with he | ⟨j, hj, rfl | ⟨act, ha, rfl⟩⟩
  · rw [he.2.2.1]
  · rfl
  · exact KeyWorld.phaseOf_apply_of_ne hl ha hh hj

/-- No one else writes the events of thread `i`. -/
theorem KeyOthers.eventsBy {s s' : KeyWorld R} (h : KeyOthers D service key i s s') :
    s'.eventsBy i = s.eventsBy i := by
  rcases h with he | ⟨j, hj, rfl | ⟨act, -, rfl⟩⟩
  · unfold KeyWorld.eventsBy
    rw [he.2.2.1]
  · rfl
  · exact KeyWorld.eventsBy_apply_of_ne hj act

/-- The number of sagas never changes. -/
theorem KeyOthers.sagas {s s' : KeyWorld R} (h : KeyOthers D service key i s s') :
    s'.sagas = s.sagas := by
  rcases h with he | ⟨j, -, rfl | ⟨act, -, rfl⟩⟩
  · exact he.2.2.2
  · rfl
  · exact KeyWorld.apply_sagas s j act

/-- The key log only grows. -/
theorem KeyOthers.log {s s' : KeyWorld R} (h : KeyOthers D service key i s s') :
    ∃ L, s'.log = s.log ++ L := by
  rcases h with he | ⟨j, -, rfl | ⟨act, -, rfl⟩⟩
  · exact ⟨[], by rw [he.2.2.1, List.append_nil]⟩
  · exact ⟨[], (List.append_nil _).symm⟩
  · exact ⟨_, KeyWorld.apply_log s j act⟩

/-- The order log only grows. -/
theorem KeyOthers.orderLog {s s' : KeyWorld R} (h : KeyOthers D service key i s s') :
    ∃ L, s'.world.orderLog = s.world.orderLog ++ L := by
  rcases h with he | ⟨j, -, rfl | ⟨act, -, rfl⟩⟩
  · exact ⟨[], by rw [(Env.stores he.1).2.2.1, List.append_nil]⟩
  · exact ⟨[], (List.append_nil _).symm⟩
  · cases act with
    | createOrder o => exact (World.apply_logs s.world j (.createOrder o)).1.imp fun _ h => h.1
    | updateOrder o => exact (World.apply_logs s.world j (.updateOrder o)).1.imp fun _ h => h.1
    | _ => exact ⟨[], (List.append_nil _).symm⟩

theorem KeyOthers.releases_mono {s s' : KeyWorld R} (h : KeyOthers D service key i s s') :
    releases s.log ≤ releases s'.log := by
  obtain ⟨L, hL⟩ := h.log
  rw [hL, releases_append]
  exact Nat.le_add_right _ _

/-- Only letting the key go frees a key that is taken. -/
theorem KeyOthers.freed {s s' : KeyWorld R} (h : KeyOthers D service key i s s')
    (hp : Fulfillment.phaseOf s.log ≠ .free) (hp' : Fulfillment.phaseOf s'.log = .free) :
    releases s.log + 1 ≤ releases s'.log := by
  rcases h with he | ⟨j, -, rfl | ⟨act, -, rfl⟩⟩
  · rw [he.2.2.1] at hp'
    exact absurd hp' hp
  · exact absurd hp' hp
  · cases he : s.eventOf D j act with
    | none =>
      simp only [KeyWorld.apply_log, he, Option.map_none, Option.toList_none,
        List.append_nil] at hp'
      exact absurd hp' hp
    | some e =>
      rw [(KeyWorld.apply_self s j act he).1] at hp'
      have hr : e = .released := KeyPhase.released_of_next_free hp hp'
      simp [Fulfillment.releases, he, hr]

/-- Thread `i` has logged `evs`, and the laws hold. -/
def Logged (D : LawfulRedis R) (service key : String) (i : Nat) (evs : List KeyEvent)
    (s : KeyWorld R) : Prop :=
  KeyLaws D service key s ∧ s.eventsBy i = evs

/-- Thread `i` holds the key in phase `p` and has logged `evs`, and the laws hold. -/
def Holding (D : LawfulRedis R) (service key : String) (i : Nat) (p : KeyPhase)
    (evs : List KeyEvent) (s : KeyWorld R) : Prop :=
  KeyLaws D service key s ∧ phaseOf s.log = p ∧ s.eventsBy i = evs

theorem stable_logged (evs : List KeyEvent) :
    Stable (KeyOthers D service key i) (Logged D service key i evs) := by
  rintro s s' h ⟨hl, hev⟩
  exact ⟨h.laws hl, h.eventsBy.trans hev⟩

theorem stable_holding {p : KeyPhase} (hp : p.holder = some i) (evs : List KeyEvent) :
    Stable (KeyOthers D service key i) (Holding D service key i p evs) := by
  rintro s s' h ⟨hl, hph, hev⟩
  exact ⟨h.laws hl, (h.phaseOf hl (hph ▸ hp)).trans hph, h.eventsBy.trans hev⟩

theorem stable_storedId (n : Int) :
    Stable (KeyOthers D service key i) fun s => n ∈ storedIds s.log := by
  intro s s' h hn
  obtain ⟨L, hL⟩ := h.log
  rw [hL, storedIds, List.filterMap_append]
  exact List.mem_append_left _ hn

theorem stable_orderStored' (o : Order) :
    Stable (KeyOthers D service key i) fun s => s.world.OrderStored o := by
  rintro s s' h ⟨e, he, rfl⟩
  obtain ⟨L, hL⟩ := h.orderLog
  exact ⟨e, hL ▸ List.mem_append_left _ he, rfl⟩

end Knowledge

/-! ## The steps of a saga -/

section Steps

variable {R : Type} {D : LawfulRedis R} {service key : String} {attempts i : Nat}
  {P : KeyWorld R → Prop}

/-- A step that only reads. -/
theorem sat_keyRead {α : Type} (hP : Stable (KeyOthers D service key i) P) (f : KeyWorld R → α) :
    Sat (KeyOthers D service key i) (KeyDoes D service key i) P (.atomic fun s => (f s, s)) fun _ => P :=
  Sat.atomic hP (fun _ => hP) fun _ h => ⟨.inl rfl, h⟩

theorem sat_keyLog (c : KeyedCall) (hP : Stable (KeyOthers D service key i) P) (sagaId : String) (k : Int)
    (status : SagaStatus) (step : SagaStep) (error : String) :
    Sat (KeyOthers D service key i) (KeyDoes D service key i) P (Saga.log (keyedEnv D service attempts i c) sagaId k status step error)
      fun _ => P :=
  Sat.bind (sat_keyRead hP _) fun _ => Sat.ret' hP fun _ h => h

/-- A write of an order, by a thread whose knowledge survives its own order writes: what it
wrote has the id it gave. -/
theorem sat_keyUpdate (hP : Stable (KeyOthers D service key i) P)
    (hu : ∀ s o, P s → P (s.apply D i (.updateOrder o))) (o : Order) :
    Sat (KeyOthers D service key i) (KeyDoes D service key i) P ((keyedOrders D i).update o)
      fun r s => P s ∧ ∀ w, r = .ok w → w.id = o.id := by
  refine Sat.atomic hP (fun _ => hP.and (stable_const _)) fun s h =>
    ⟨.inr ⟨.updateOrder o, trivial, rfl⟩, hu s o h, fun w hw => ?_⟩
  rcases World.updateOrder_cases s.world i o with ⟨f, hf⟩ | ⟨cur, stored, -, -, rfl, hu'⟩
  · rw [hf] at hw
    cases hw
  · rw [hu'] at hw
    cases hw
    rfl

theorem sat_keyFind (hP : Stable (KeyOthers D service key i) P) (n : Int) :
    Sat (KeyOthers D service key i) (KeyDoes D service key i) P ((keyedOrders D i).find n)
      fun r s => P s ∧ ∀ w, r = .ok w → w.id = n :=
  Sat.atomic hP (fun _ => hP.and (stable_const _)) fun _ h =>
    ⟨.inl rfl, h, fun _ hw => OrderStore.id_of_find hw⟩

/-- A save of a change that keeps the key: the order the thread holds afterwards has the id of
the one it saved. -/
theorem sat_keySave {change : Order → Except Fault Order} (hkey : KeepsKey change)
    (hP : Stable (KeyOthers D service key i) P) (hu : ∀ s o, P s → P (s.apply D i (.updateOrder o)))
    (o : Order) :
    Sat (KeyOthers D service key i) (KeyDoes D service key i) P (save (keyedOrders D i) o (inPlace change))
      fun r s => P s ∧ r.1.id = o.id := by
  have hdone : ∀ x : Order, ∀ f : Option Fault, x.id = o.id →
      Sat (KeyOthers D service key i) (KeyDoes D service key i) P (pure (x, f)) fun r s => P s ∧ r.1.id = o.id :=
    fun x _ hx => Sat.ret' hP fun _ h => ⟨h, hx⟩
  rw [save_inPlace]
  unfold saveChange
  cases hc : change o with
  | error e => exact hdone o _ rfl
  | ok changed =>
    refine Sat.bind (sat_keyUpdate hP hu changed) fun r => ?_
    cases r with
    | ok written =>
      exact Sat.ret' (hP.and (stable_const _)) fun _ h =>
        ⟨h.1, (h.2 written rfl).trans (hkey o changed hc).1⟩
    | error e =>
      refine Sat.pre (Sat.ite (hdone o _ rfl) ?_) (hP.and (stable_const _)) fun _ h => h.1
      -- the write lost a race: the order is read again and the change applied once more
      refine Sat.bind (sat_keyFind hP o.id) fun r => ?_
      cases r with
      | error e' => exact Sat.pre (hdone o _ rfl) (hP.and (stable_const _)) fun _ h => h.1
      | ok fresh =>
        refine Sat.pre (Sat.of_pure (p := fresh.id = o.id) (fun hfresh => ?_) hP)
          (hP.and (stable_const _)) fun _ h => ⟨h.1, h.2 fresh rfl⟩
        dsimp only
        cases hc' : change fresh with
        | error e' => exact hdone fresh _ hfresh
        | ok changedFresh =>
          refine Sat.bind (sat_keyUpdate hP hu changedFresh) fun r => ?_
          cases r with
          | error e' => exact Sat.pre (hdone o _ rfl) (hP.and (stable_const _)) fun _ h => h.1
          | ok written =>
            exact Sat.ret' (hP.and (stable_const _)) fun _ h =>
              ⟨h.1, (h.2 written rfl).trans ((hkey fresh changedFresh hc').1.trans hfresh)⟩

/-- What a claim leaves thread `i` with: the key taken; the key in progress at another thread,
refused; or the key bound to an order stored under it, whose id it read. -/
def ClaimAnswer (D : LawfulRedis R) (service key : String) (i : Nat) (r : Except Fault Int)
    (s : KeyWorld R) : Prop :=
  (r = .ok 0 ∧ Holding D service key i (.held i) [.claimed none] s) ∨
  (∃ f, r = .error f ∧ f.isA .alreadyExists ∧
    Logged D service key i [.claimed (some IdempotencyStore.pendingMarker)] s) ∨
  (∃ n, r = .ok n ∧ n ≠ 0 ∧ n ∈ storedIds s.log ∧
    Logged D service key i [.claimed (some (toString n))] s)

theorem stable_claimAnswer (r : Except Fault Int) :
    Stable (KeyOthers D service key i) (ClaimAnswer D service key i r) := by
  rintro s s' h (⟨hr, hh⟩ | ⟨f, hr, hf, hl⟩ | ⟨n, hr, hn, hs, hl⟩)
  · exact .inl ⟨hr, stable_holding rfl _ h hh⟩
  · exact .inr (.inl ⟨f, hr, hf, stable_logged _ h hl⟩)
  · exact .inr (.inr ⟨n, hr, hn, stable_storedId n h hs, stable_logged _ h hl⟩)

/-- A bound key names an order stored under it, by a positive id that fits in 64 bits. -/
theorem KeyLaws.bound_id {s : KeyWorld R} (hl : KeyLaws D service key s) {h : Nat} {n : Int}
    (hp : phaseOf s.log = .bound h n) : n ∈ storedIds s.log ∧ 0 < n ∧ n < Int.pow 2 63 := by
  have hs := follows_shows hl.follows
  rw [hp] at hs
  have hn : n ∈ storedIds s.log := mem_storedIds ((hs.2 h n).mpr ⟨rfl, rfl⟩)
  -- at most one order is stored, so the last id is at most one
  have hle := hl.follows.stored_le_one
  obtain ⟨hpos, hlast⟩ := hl.orders.positive n hn
  have hcount := hl.orders.count
  refine ⟨hn, hpos, ?_⟩
  rw [int_pow_two_63]
  omega

/-- A GET of thread `i` that finds the key holding a value answers as the key stands: in
progress, or bound to the order stored under it. -/
theorem KeyLaws.get_answer {s : KeyWorld R} (hl : KeyLaws D service key s)
    (hev : s.eventsBy i = []) (hi : i < s.sagas) {v : String}
    (hv : D.value s.redis (IdempotencyStore.redisKey service key) = some v) :
    ClaimAnswer D service key i (IdempotencyStore.readClaimed key v)
      (s.apply D i (.get (IdempotencyStore.redisKey service key))) := by
  have he : s.eventOf D i (.get (IdempotencyStore.redisKey service key)) =
      some (.claimed (some v)) := by
    simp [KeyWorld.eventOf, D.lawful.get _ _ hl.works, hv]
  have hlog : Logged D service key i [.claimed (some v)]
      (s.apply D i (.get (IdempotencyStore.redisKey service key))) := by
    refine ⟨hl.get hev hi hv, ?_⟩
    rw [(KeyWorld.apply_self s i _ he).2, hev]
    rfl
  have hval := hl.value
  rw [hv] at hval
  cases hp : phaseOf s.log with
  | free => rw [hp] at hval; cases hval
  | held h =>
    rw [hp] at hval
    cases hval
    exact .inr (.inl ⟨_, IdempotencyStore.readClaimed_pending key,
      IdempotencyStore.inProgress_isA key, hlog⟩)
  | stored h n =>
    rw [hp] at hval
    cases hval
    exact .inr (.inl ⟨_, IdempotencyStore.readClaimed_pending key,
      IdempotencyStore.inProgress_isA key, hlog⟩)
  | bound h n =>
    rw [hp] at hval
    cases hval
    obtain ⟨hn, hpos, h63⟩ := hl.bound_id hp
    refine .inr (.inr ⟨n, IdempotencyStore.readClaimed_toString key (Int.le_of_lt hpos) h63, by omega, ?_,
      hlog⟩)
    simpa [he, KeyEvent.storedId?] using hn

/-- Thread `i` is about to claim the key with `a` attempts left, at least as many as the sagas
that have not let the key go. -/
def Trying (D : LawfulRedis R) (service key : String) (i a : Nat) (s : KeyWorld R) : Prop :=
  Logged D service key i [] s ∧ i < s.sagas ∧ s.sagas ≤ releases s.log + a

/-- The key was let go since thread `i` last found it taken, which pays for one more attempt. -/
def Vanished (D : LawfulRedis R) (service key : String) (i a : Nat) (s : KeyWorld R) : Prop :=
  Logged D service key i [] s ∧ i < s.sagas ∧ s.sagas + 1 ≤ releases s.log + a

/-- A SETNX of thread `i` found the key taken: it is still taken, or it vanished since. -/
def Refused (D : LawfulRedis R) (service key : String) (i a : Nat) (s : KeyWorld R) : Prop :=
  (Trying D service key i a s ∧ phaseOf s.log ≠ .free) ∨ Vanished D service key i a s

/-- What the SETNX of a claim leaves thread `i` with. -/
def SetAnswer (D : LawfulRedis R) (service key : String) (i a : Nat) :
    Except String Bool → KeyWorld R → Prop
  | .ok true => Holding D service key i (.held i) [.claimed none]
  | .ok false => Refused D service key i a
  | .error _ => fun _ => False

/-- What the GET of a claim leaves thread `i` with. -/
def ReadAnswer (D : LawfulRedis R) (service key : String) (i a : Nat) :
    Except String (Option String) → KeyWorld R → Prop
  | .ok none => Vanished D service key i a
  | .ok (some v) => ClaimAnswer D service key i (IdempotencyStore.readClaimed key v)
  | .error _ => fun _ => False

theorem stable_trying (a : Nat) : Stable (KeyOthers D service key i) (Trying D service key i a) := by
  rintro s s' h ⟨hl, hi, hr⟩
  exact ⟨stable_logged _ h hl, h.sagas ▸ hi, h.sagas ▸ Nat.le_trans hr (Nat.add_le_add_right h.releases_mono a)⟩

theorem stable_vanished (a : Nat) :
    Stable (KeyOthers D service key i) (Vanished D service key i a) := by
  rintro s s' h ⟨hl, hi, hr⟩
  exact ⟨stable_logged _ h hl, h.sagas ▸ hi, h.sagas ▸ Nat.le_trans hr (Nat.add_le_add_right h.releases_mono a)⟩

theorem stable_refused (a : Nat) :
    Stable (KeyOthers D service key i) (Refused D service key i a) := by
  rintro s s' h (⟨⟨hl, hi, hr⟩, hp⟩ | hv)
  · by_cases hp' : phaseOf s'.log = .free
    · -- a key taken then free was let go in between
      have hfreed := h.freed hp hp'
      exact .inr ⟨stable_logged _ h hl, h.sagas ▸ hi, by rw [h.sagas]; omega⟩
    · exact .inl ⟨stable_trying a h ⟨hl, hi, hr⟩, hp'⟩
  · exact .inr (stable_vanished a h hv)

theorem stable_setAnswer (a : Nat) (r : Except String Bool) :
    Stable (KeyOthers D service key i) (SetAnswer D service key i a r) := by
  rcases r with e | _ | _
  · exact fun _ _ _ h => h
  · exact stable_refused a
  · exact stable_holding rfl _

theorem stable_readAnswer (a : Nat) (r : Except String (Option String)) :
    Stable (KeyOthers D service key i) (ReadAnswer D service key i a r) := by
  rcases r with e | _ | v
  · exact fun _ _ _ h => h
  · exact stable_vanished a
  · exact stable_claimAnswer _

theorem Vanished.retry {a : Nat} {s : KeyWorld R} (h : Vanished D service key i (a + 1) s) :
    Trying D service key i a s :=
  ⟨h.1, h.2.1, by have := h.2.2; omega⟩

/-- A key cannot vanish more often than the sagas let it go. -/
theorem Vanished.attempt {a : Nat} {s : KeyWorld R} (h : Vanished D service key i a s) : 0 < a := by
  have hle := h.1.1.releases_le
  have := h.2.2
  omega

/-- SETNX of the pending marker: it takes a free key, and leaves a taken one as it is. -/
theorem sat_keySetNX (a : Nat) :
    Sat (KeyOthers D service key i) (KeyDoes D service key i) (Trying D service key i a)
      ((sharedRedis D i).setNX (IdempotencyStore.redisKey service key)
        IdempotencyStore.pendingMarker) (SetAnswer D service key i a) := by
  refine Sat.atomic (stable_trying a) (stable_setAnswer a) fun s h => ?_
  obtain ⟨⟨hl, hev⟩, hi, hr⟩ := h
  have ha : s.Allowed service key i (.setNX (IdempotencyStore.redisKey service key)
      IdempotencyStore.pendingMarker) := ⟨rfl, rfl, hev, hi⟩
  refine ⟨.inr ⟨_, ha, rfl⟩, ?_⟩
  dsimp only
  cases hv : D.value s.redis (IdempotencyStore.redisKey service key) with
  | none =>
    have hp := KeyPhase.eq_free_of_value (hl.value.symm.trans hv)
    obtain ⟨hans, he, hl'⟩ := hl.setNX hev hi hp
    obtain ⟨hph, hev'⟩ := KeyWorld.apply_self s i _ he
    rw [hans]
    exact ⟨hl', by rw [hph, hp]; rfl, by rw [hev', hev]; rfl⟩
  | some w =>
    rw [D.lawful.setNX_present s.redis _ _ w hl.works hv, KeyWorld.apply_setNX_of_some hl.works hv]
    exact .inl ⟨⟨⟨hl, hev⟩, hi, hr⟩, hl.phase_of_value hv⟩

/-- GET after a refused SETNX: the key as it stands, or gone, since it was let go. -/
theorem sat_keyGet (a : Nat) :
    Sat (KeyOthers D service key i) (KeyDoes D service key i) (Refused D service key i a)
      ((sharedRedis D i).get (IdempotencyStore.redisKey service key))
      (ReadAnswer D service key i a) := by
  refine Sat.atomic (stable_refused a) (stable_readAnswer a) fun s h => ?_
  obtain ⟨⟨hl, hev⟩, hi⟩ : Logged D service key i [] s ∧ i < s.sagas := by
    rcases h with ⟨⟨hl, hi, -⟩, -⟩ | ⟨hl, hi, -⟩ <;> exact ⟨hl, hi⟩
  have ha : s.Allowed service key i (.get (IdempotencyStore.redisKey service key)) :=
    ⟨rfl, hev, hi⟩
  refine ⟨.inr ⟨_, ha, rfl⟩, ?_⟩
  dsimp only
  rw [D.lawful.get s.redis _ hl.works]
  cases hv : D.value s.redis (IdempotencyStore.redisKey service key) with
  | none =>
    rw [KeyWorld.apply_get_of_none hl.works hv]
    rcases h with ⟨-, hp⟩ | hvan
    · exact absurd (KeyPhase.eq_free_of_value (hl.value.symm.trans hv)) hp
    · exact hvan
  | some v => exact hl.get_answer hev hi hv

/-- **A claim never runs out of attempts.** Each time the key vanishes between the two commands
of a claim, a saga let it go in between; the attempts cover every saga that may still do so. -/
theorem sat_keyClaim (a : Nat) :
    Sat (KeyOthers D service key i) (KeyDoes D service key i) (Trying D service key i a)
      (IdempotencyStore.claim (sharedRedis D i) service key a) (ClaimAnswer D service key i) := by
  rw [IdempotencyStore.claim.eq_def]
  refine Sat.bind (sat_keySetNX a) fun r => ?_
  rcases r with e | _ | _
  · exact Sat.of_false fun _ h => h
  · refine Sat.bind (sat_keyGet a) fun r => ?_
    rcases r with e | _ | v
    · exact Sat.of_false fun _ h => h
    · cases a with
      | zero => exact Sat.of_false fun _ h => absurd h.attempt (Nat.lt_irrefl 0)
      | succ n => exact (sat_keyClaim n).pre (stable_vanished _) fun _ h => h.retry
    · exact Sat.ret' (stable_claimAnswer _) fun _ h => h
  · exact Sat.ret' (stable_holding rfl _) fun _ h => .inl ⟨rfl, h⟩

/-- What storing an order leaves thread `i` with: the stored order, under the key it holds. -/
def StoredAnswer (D : LawfulRedis R) (service key : String) (i : Nat) (r : Except Fault Order) (s : KeyWorld R) : Prop :=
  ∃ o, r = .ok o ∧ Holding D service key i (.stored i o.id) [.claimed none, .stored o.id] s

theorem stable_storedAnswer (r : Except Fault Order) :
    Stable (KeyOthers D service key i) (StoredAnswer D service key i r) := by
  rintro s s' h ⟨o, hr, hh⟩
  exact ⟨o, hr, stable_holding rfl _ h hh⟩

/-- An allowed change of thread `i` that logs `e` moves the key it holds by `e` and adds `e` to
its events. -/
theorem Holding.apply {p : KeyPhase} {evs : List KeyEvent} {s : KeyWorld R} {act : KeyAct}
    {e : KeyEvent} (h : Holding D service key i p evs s) (ha : s.Allowed service key i act)
    (he : s.eventOf D i act = some e) :
    Holding D service key i (p.next (i, e)) (evs ++ [e]) (s.apply D i act) := by
  obtain ⟨hl, hp, hev⟩ := h
  obtain ⟨hph, hev'⟩ := KeyWorld.apply_self s i act he
  rw [hp] at hph
  rw [hev] at hev'
  exact ⟨hl.apply ha, hph, hev'⟩

theorem sat_keyCreate (o : Order) :
    Sat (KeyOthers D service key i) (KeyDoes D service key i) (Holding D service key i (.held i) [.claimed none])
      ((keyedOrders D i).create o)
      (StoredAnswer D service key i) := by
  refine Sat.atomic (stable_holding rfl _) stable_storedAnswer fun s h => ?_
  have ha : s.Allowed service key i (.createOrder o) := ⟨h.2.1, h.2.2⟩
  exact ⟨.inr ⟨_, ha, rfl⟩, _, rfl, h.apply ha rfl⟩

/-- SET binds the key to the order the thread stored under it. -/
theorem sat_keyBind (n : Int) :
    Sat (KeyOthers D service key i) (KeyDoes D service key i)
      (Holding D service key i (.stored i n) [.claimed none, .stored n])
      (IdempotencyStore.bind (sharedRedis D i) service key n)
      fun _ => Holding D service key i (.bound i n) [.claimed none, .stored n, .bound (toString n)] := by
  have hB : Stable (KeyOthers D service key i)
      (Holding D service key i (.bound i n) [.claimed none, .stored n, .bound (toString n)]) :=
    stable_holding rfl _
  unfold IdempotencyStore.bind
  refine Sat.bind (Q := fun r s => r = .ok () ∧ Holding D service key i (.bound i n)
      [.claimed none, .stored n, .bound (toString n)] s)
    (Sat.atomic (stable_holding rfl _) (fun _ => (stable_const _).and hB) fun s h => ?_)
    fun r => ?_
  · have ha : s.Allowed service key i (.set (IdempotencyStore.redisKey service key) (toString n)) :=
      ⟨rfl, n, rfl, h.2.1, h.2.2⟩
    exact ⟨.inr ⟨_, ha, rfl⟩, (D.lawful.set _ _ _ h.1.works).1, h.apply ha rfl⟩
  · rcases r with e | ⟨⟩
    · exact Sat.of_false fun _ h => nomatch h.1
    · exact Sat.ret' ((stable_const _).and hB) fun _ h => h.2

/-- DEL lets go of a key under which the thread stored nothing. -/
theorem sat_keyRelease :
    Sat (KeyOthers D service key i) (KeyDoes D service key i)
      (Holding D service key i (.held i) [.claimed none])
      (IdempotencyStore.release (sharedRedis D i) service key)
      fun _ => Logged D service key i [.claimed none, .released] := by
  unfold IdempotencyStore.release
  refine Sat.bind (Q := fun r s => r = .ok () ∧ Logged D service key i [.claimed none, .released] s)
    (Sat.atomic (stable_holding rfl _) (fun _ => (stable_const _).and (stable_logged _))
      fun s h => ?_) fun r => ?_
  · have ha : s.Allowed service key i (.del (IdempotencyStore.redisKey service key)) :=
      ⟨rfl, h.2.1, h.2.2⟩
    have hh := h.apply ha rfl
    exact ⟨.inr ⟨_, ha, rfl⟩, (D.lawful.del _ _ h.1.works).1, hh.1, hh.2.2⟩
  · rcases r with e | ⟨⟩
    · exact Sat.of_false fun _ h => nomatch h.1
    · exact Sat.ret' ((stable_const _).and (stable_logged _)) fun _ h => h.2

theorem sat_keyPay (c : KeyedCall) (n : Int) (amount : Decimal) (method : String) :
    Sat (KeyOthers D service key i) (KeyDoes D service key i)
      (Holding D service key i (.bound i n) [.claimed none, .stored n, .bound (toString n)])
      ((keyedEnv D service attempts i c).createPayment n amount method)
      fun _ => Holding D service key i (.bound i n) [.claimed none, .stored n, .bound (toString n), .paid n] := by
  refine Sat.atomic (stable_holding rfl _) (fun _ => stable_holding rfl _) fun s h => ?_
  have ha : s.Allowed service key i (.pay n) := ⟨h.2.1, h.2.2⟩
  exact ⟨.inr ⟨_, ha, rfl⟩, h.apply ha rfl⟩

/-- The order store finds every order whose id it holds. -/
theorem OrderStore.find_of_mem {s : OrderStore} {n : Int} (h : n ∈ s.orders.map (·.id)) :
    ∃ o, s.find n = .ok o := by
  obtain ⟨o, ho, rfl⟩ := List.mem_map.mp h
  unfold OrderStore.find
  cases hf : s.orders.find? (·.id == o.id) with
  | some o' => exact ⟨o', rfl⟩
  | none =>
    rw [List.find?_eq_none] at hf
    exact absurd (beq_self_eq_true o.id) (hf o ho)

/-- Thread `i` has logged `evs`, the laws hold, and order `o` was stored, under an id the log
stored. -/
def Replayed (D : LawfulRedis R) (service key : String) (i : Nat) (evs : List KeyEvent) (o : Order) (s : KeyWorld R) : Prop :=
  Logged D service key i evs s ∧ o.id ∈ storedIds s.log ∧ s.world.OrderStored o

theorem stable_replayed (evs : List KeyEvent) (o : Order) :
    Stable (KeyOthers D service key i) (Replayed D service key i evs o) := by
  rintro s s' h ⟨hl, hn, ho⟩
  exact ⟨stable_logged _ h hl, stable_storedId _ h hn, stable_orderStored' o h ho⟩

/-- Reading back an order the log stored: it is found, under its id, as it was stored. -/
theorem sat_keyReplay (evs : List KeyEvent) (n : Int) :
    Sat (KeyOthers D service key i) (KeyDoes D service key i) (fun s => Logged D service key i evs s ∧ n ∈ storedIds s.log)
      ((keyedOrders D i).find n)
      fun r s => ∃ o, r = .ok o ∧ o.id = n ∧ Replayed D service key i evs o s := by
  have hQ : ∀ r : Except Fault Order, Stable (KeyOthers D service key i) fun s =>
      ∃ o, r = .ok o ∧ o.id = n ∧ Replayed D service key i evs o s := by
    rintro r s s' h ⟨o, hr, hid, hrep⟩
    exact ⟨o, hr, hid, stable_replayed evs o h hrep⟩
  refine Sat.atomic ((stable_logged _).and (stable_storedId n)) hQ fun s h => ?_
  obtain ⟨hlog, hn⟩ := h
  -- the order store holds exactly the ids the log stored
  have hn' := hn
  rw [← hlog.1.orders.ids] at hn'
  obtain ⟨o, hf⟩ := OrderStore.find_of_mem hn'
  have hid := OrderStore.id_of_find hf
  refine ⟨.inl rfl, o, hf, hid, hlog, ?_, hlog.1.orders.kept.stored_of_find hf⟩
  rw [hid]
  exact hn

theorem Holding.update {p : KeyPhase} {evs : List KeyEvent} {s : KeyWorld R}
    (h : Holding D service key i p evs s) (o : Order) : Holding D service key i p evs (s.apply D i (.updateOrder o)) := by
  obtain ⟨hl, hp, hev⟩ := h
  have hlog : (s.apply D i (.updateOrder o)).log = s.log := by simp [KeyWorld.eventOf]
  exact ⟨hl.updateOrder o, by rw [hlog]; exact hp,
    by unfold KeyWorld.eventsBy; rw [hlog]; exact hev⟩

end Steps


/-! ## The saga -/

section Saga

variable {R : Type} {D : LawfulRedis R} {service key : String} {attempts i : Nat} (c : KeyedCall)

/-- Thread `i` stored order `n` under the key and bound the key to it, and may have paid. -/
def Created (D : LawfulRedis R) (service key : String) (i : Nat) (n : Int) (s : KeyWorld R) : Prop :=
  Holding D service key i (.bound i n) [.claimed none, .stored n, .bound (toString n)] s ∨
    Holding D service key i (.bound i n) [.claimed none, .stored n, .bound (toString n), .paid n] s

/-- What the saga leaves thread `i` with once it took the key: nothing stored and the key still
held, or the order it stored under the key and bound it to. -/
def RunAnswer (D : LawfulRedis R) (service key : String) (i : Nat) (r : Option Order × Option Fault) (s : KeyWorld R) : Prop :=
  (r.1 = none ∧ Holding D service key i (.held i) [.claimed none] s) ∨
    ∃ o, r.1 = some o ∧ Created D service key i o.id s

theorem stable_created (n : Int) : Stable (KeyOthers D service key i) (Created D service key i n) :=
  fun _ _ h hc => hc.imp (stable_holding rfl _ h) (stable_holding rfl _ h)

theorem stable_runAnswer (r : Option Order × Option Fault) :
    Stable (KeyOthers D service key i) (RunAnswer D service key i r) := by
  rintro s s' h (⟨hr, hh⟩ | ⟨o, hr, hc⟩)
  · exact .inl ⟨hr, stable_holding rfl _ h hh⟩
  · exact .inr ⟨o, hr, stable_created _ h hc⟩

theorem sat_keyFailOrder {P : KeyWorld R → Prop} (hP : Stable (KeyOthers D service key i) P)
    (hu : ∀ s o, P s → P (s.apply D i (.updateOrder o))) (o : Order) (reason : String) :
    Sat (KeyOthers D service key i) (KeyDoes D service key i) P (Saga.failOrder (keyedEnv D service attempts i c) o reason)
      fun r s => P s ∧ r.1.id = o.id := by
  unfold Saga.failOrder
  refine Sat.bind (sat_keySave (lawful_fail reason).keepsKey hP hu o) fun r => ?_
  rcases r with ⟨o', _ | f⟩ <;> exact Sat.ret' (hP.and (stable_const _)) fun _ h => h

/-- An order of thread `i` that ends with id `n`, while the thread keeps what `Created` says. -/
theorem created_answer {o : Order} {n : Int} {s : KeyWorld R} (f : Option Fault) (hid : o.id = n)
    (h : Created D service key i n s) : RunAnswer D service key i (some o, f) s :=
  .inr ⟨o, rfl, hid ▸ h⟩

/-- Starting the payment of the order bound to the key: marking it, calling the payment client
once, and failing the order or attaching the payment. -/
theorem sat_keyStartPayment (sagaId : String) {n : Int} (o : Order) (ho : o.id = n) :
    Sat (KeyOthers D service key i) (KeyDoes D service key i)
      (Holding D service key i (.bound i n) [.claimed none, .stored n, .bound (toString n)])
      (Saga.startPayment (keyedEnv D service attempts i c) sagaId o) (RunAnswer D service key i) := by
  have hB : Stable (KeyOthers D service key i)
      (Holding D service key i (.bound i n) [.claimed none, .stored n, .bound (toString n)]) := stable_holding rfl _
  have hP : Stable (KeyOthers D service key i)
      (Holding D service key i (.bound i n) [.claimed none, .stored n, .bound (toString n), .paid n]) :=
    stable_holding rfl _
  unfold Saga.startPayment
  refine Sat.bind (sat_keySave lawful_markPaymentProcessing.keepsKey hB (fun _ _ h => h.update _) o)
    fun r => ?_
  rcases r with ⟨o', _ | f⟩
  · refine Sat.of_pure (fun hid => ?_) hB
    have hid' : o'.id = n := hid.trans ho
    -- the order is marked: the payment client is called for it, once
    dsimp only
    rw [hid']
    refine Sat.bind (sat_keyPay c n o'.total defaultPaymentMethod) fun r => ?_
    cases r with
    | error perr =>
      refine Sat.pure_bind (Sat.bind (sat_keyFailOrder c hP (fun _ _ h => h.update _) o' _)
        fun r => ?_)
      rcases r with ⟨o'', _ | f⟩
      · refine Sat.of_pure (fun hid'' => ?_) hP
        exact Sat.bind (sat_keyLog c hP _ _ _ _ _) fun _ =>
          Sat.ret' hP fun _ h => created_answer _ (hid''.trans hid') (.inr h)
      · exact Sat.ret' (hP.and (stable_const _)) fun _ h =>
          created_answer _ (h.2.trans hid') (.inr h.1)
    | ok payment =>
      refine Sat.pure_bind (Sat.bind (sat_keySave (lawful_attach payment.id).keepsKey hP
        (fun _ _ h => h.update _) o') fun r => ?_)
      rcases r with ⟨o'', _ | f⟩ <;>
        exact Sat.bind (sat_keyLog c (hP.and (stable_const _)) _ _ _ _ _) fun _ =>
          Sat.ret' (hP.and (stable_const _)) fun _ h => created_answer _ (h.2.trans hid') (.inr h.1)
  · exact Sat.bind (sat_keyLog c (hB.and (stable_const _)) _ _ _ _ _) fun _ =>
      Sat.ret' (hB.and (stable_const _)) fun _ h => created_answer _ (h.2.trans ho) (.inl h.1)

/-- The saga once the thread took the key: it either stores nothing and still holds the key,
or stores one order, binds the key to it, and perhaps pays for it. -/
theorem sat_keyRun :
    Sat (KeyOthers D service key i) (KeyDoes D service key i) (Holding D service key i (.held i) [.claimed none])
      (Saga.run (keyedEnv D service attempts i c) (some (IdempotencyStore.ops (sharedRedis D i) service attempts, key)) c.req) (RunAnswer D service key i) := by
  have hH : Stable (KeyOthers D service key i) (Holding D service key i (.held i) [.claimed none]) :=
    stable_holding rfl _
  unfold Saga.run
  refine Sat.pure_bind (Sat.bind (sat_keyLog c hH _ _ _ _ _) fun _ => Sat.pure_bind ?_)
  split
  · -- an invalid customer: nothing is stored and the key is still held
    exact Sat.bind (sat_keyLog c hH _ _ _ _ _) fun _ => Sat.ret' hH fun _ h => .inl ⟨rfl, h⟩
  refine Sat.bind (sat_keyCreate _) fun r => ?_
  cases r with
  | error f =>
    refine Sat.of_false fun s h => ?_
    obtain ⟨o', h, -⟩ := h
    cases h
  | ok o =>
    have hS : Stable (KeyOthers D service key i)
        (Holding D service key i (.stored i o.id) [.claimed none, .stored o.id]) := stable_holding rfl _
    have hB : Stable (KeyOthers D service key i)
        (Holding D service key i (.bound i o.id) [.claimed none, .stored o.id, .bound (toString o.id)]) :=
      stable_holding rfl _
    have hpre : ∀ s, StoredAnswer D service key i (.ok o) s →
        Holding D service key i (.stored i o.id) [.claimed none, .stored o.id] s := by
      rintro s ⟨o', h, hh⟩
      cases h
      exact hh
    refine Sat.pre ?_ (stable_storedAnswer _) hpre
    refine Sat.bind (sat_keyLog c hS _ _ _ _ _) fun _ => ?_
    -- the key is bound to the stored order before anything else is written
    refine Sat.bind (Sat.bind (sat_keyBind o.id) fun _ =>
      Sat.ret' (Q := fun _ => Holding D service key i (.bound i o.id) _) hB fun _ h => h) fun _ => ?_
    refine Sat.bind (sat_keySave lawful_confirm.keepsKey hB (fun _ _ h => h.update _) o)
      fun r => ?_
    rcases r with ⟨o', _ | f⟩
    · refine Sat.of_pure (fun hid => ?_) hB
      refine Sat.bind (sat_keyLog c hB _ _ _ _ _) fun _ => Sat.pure_bind ?_
      split
      · refine Sat.bind (sat_keyFailOrder c hB (fun _ _ h => h.update _) o' _) fun r => ?_
        rcases r with ⟨o'', _ | f⟩
        · refine Sat.of_pure (fun hid' => ?_) hB
          exact Sat.bind (sat_keyLog c hB _ _ _ _ _) fun _ =>
            Sat.ret' hB fun _ h => created_answer _ (hid'.trans hid) (.inl h)
        · exact Sat.ret' (hB.and (stable_const _)) fun _ h =>
            created_answer _ (h.2.trans hid) (.inl h.1)
      · exact sat_keyStartPayment c _ o' hid
    · exact Sat.bind (sat_keyLog c (hB.and (stable_const _)) _ _ _ _ _) fun _ =>
        Sat.ret' (hB.and (stable_const _)) fun _ h => created_answer _ h.2 (.inl h.1)

/-- How a finished saga of thread `j` answered call `c`, and what it logged of the key. -/
inductive KeyAnswer (c : KeyedCall) (j : Nat) (s : KeyWorld R) :
    Option Order × Option Fault → Prop
  /-- A request that fails its checks is rejected before the key is touched. -/
  | rejected {f : Fault} (hf : c.req.check = some f) (hev : s.eventsBy j = []) :
      KeyAnswer c j s (none, some f)
  /-- The key was in progress at another saga: the call is refused. -/
  | refused {f : Fault} (hf : f.isA .alreadyExists = true)
      (hev : s.eventsBy j = [.claimed (some IdempotencyStore.pendingMarker)]) :
      KeyAnswer c j s (none, some f)
  /-- The key was bound: the call answers the order bound to it, as it was stored. -/
  | replayed {o : Order} (hev : s.eventsBy j = [.claimed (some (toString o.id))])
      (hn : o.id ∈ storedIds s.log) (ho : s.world.OrderStored o) :
      KeyAnswer c j s (some o, none)
  /-- The saga took the key, stored nothing, and let the key go. -/
  | released {f : Option Fault} (hev : s.eventsBy j = [.claimed none, .released]) :
      KeyAnswer c j s (none, f)
  /-- The saga took the key, stored an order, bound the key to it, and may have paid for it. -/
  | created {o : Order} {f : Option Fault}
      (hev : s.eventsBy j = [.claimed none, .stored o.id, .bound (toString o.id)] ∨
        s.eventsBy j = [.claimed none, .stored o.id, .bound (toString o.id), .paid o.id]) :
      KeyAnswer c j s (some o, f)

/-- The end of `Saga.placeOrder` once the saga ran under the key it took: it lets the key go
when it stored nothing. -/
theorem sat_keyFinish (r : Option Order × Option Fault) :
    Sat (KeyOthers D service key i) (KeyDoes D service key i) (RunAnswer D service key i r)
      (do
        let stored := match r.1 with
          | some o => o.id != 0
          | none => false
        if !stored then discard <| (IdempotencyStore.ops (sharedRedis D i) service attempts).release key
        return r)
      fun r s => KeyAnswer c i s r := by
  obtain ⟨o, f⟩ := r
  cases o with
  | none =>
    have hpre : ∀ s, RunAnswer D service key i (none, f) s →
        Holding D service key i (.held i) [.claimed none] s := by
      rintro s (⟨-, hh⟩ | ⟨o, ho, -⟩)
      · exact hh
      · cases ho
    refine Sat.pre ?_ (stable_runAnswer _) hpre
    refine Sat.bind (Sat.bind sat_keyRelease fun _ =>
      Sat.ret' (Q := fun _ => Logged D service key i [.claimed none, .released]) (stable_logged _)
        fun _ h => h) fun _ => ?_
    exact Sat.ret' (stable_logged _) fun _ h => .released h.2
  | some o =>
    have hpre : ∀ s, RunAnswer D service key i (some o, f) s → Created D service key i o.id s ∧ o.id ≠ 0 := by
      rintro s (⟨ho, -⟩ | ⟨o', ho, hc⟩)
      · cases ho
      · cases ho
        -- a bound id is positive
        have hpos : 0 < o.id := by
          rcases hc with ⟨hl, hp, -⟩ | ⟨hl, hp, -⟩ <;> exact (hl.bound_id hp).2.1
        exact ⟨hc, by omega⟩
    refine Sat.pre (Sat.of_pure (fun hne => ?_) (stable_created _)) (stable_runAnswer _) hpre
    have hstored : (!(o.id != 0)) = false := by simp [hne]
    simp only [hstored, Bool.false_eq_true, ↓reduceIte]
    refine Sat.pure_bind (Sat.ret' (stable_created _) fun _ h => .created ?_)
    rcases h with ⟨-, -, hev⟩ | ⟨-, -, hev⟩
    · exact .inl hev
    · exact .inr hev

/-- A key found bound to order `n`: the saga answers the order stored under `n`, which the
other sagas may have moved on since but never removed. -/
theorem sat_keyAnswerBound {n : Int} (hn : n ≠ 0) :
    Sat (KeyOthers D service key i) (KeyDoes D service key i) (ClaimAnswer D service key i (.ok n))
      (do
        match ← (keyedOrders D i).find n with
        | .ok o => return (some o, none)
        | .error f => return (none, some f))
      fun r s => KeyAnswer c i s r := by
  have hpre : ∀ s, ClaimAnswer D service key i (.ok n) s →
      Logged D service key i [.claimed (some (toString n))] s ∧ n ∈ storedIds s.log := by
    rintro s (⟨hr, -⟩ | ⟨f, hr, -⟩ | ⟨n', hr, -, hs, hl⟩)
    · cases hr
      exact absurd rfl hn
    · cases hr
    · cases hr
      exact ⟨hl, hs⟩
  refine Sat.pre ?_ (stable_claimAnswer _) hpre
  refine Sat.bind (sat_keyReplay _ n) fun r => ?_
  cases r with
  | ok o =>
    have hpre : ∀ s, (∃ o', (Except.ok o : Except Fault Order) = .ok o' ∧ o'.id = n ∧
        Replayed D service key i [.claimed (some (toString n))] o' s) →
        Replayed D service key i [.claimed (some (toString n))] o s ∧ o.id = n := by
      rintro s ⟨o', hr, hid, hrep⟩
      cases hr
      exact ⟨hrep, hid⟩
    refine Sat.pre (Sat.of_pure (fun hid => ?_) (stable_replayed _ o)) ?_ hpre
    · subst hid
      exact Sat.ret' (stable_replayed _ o) fun _ h => .replayed h.1.2 h.2.1 h.2.2
    · rintro s s' h ⟨o', hr, hid, hrep⟩
      exact ⟨o', hr, hid, stable_replayed _ o' h hrep⟩
  | error f =>
    refine Sat.of_false fun s h => ?_
    obtain ⟨o, hr, -⟩ := h
    cases hr

/-- **Placing an order under the key.** A saga started with nothing logged ends as `KeyAnswer`
says, whatever the other sagas do in between. -/
theorem sat_keyPlaceOrder (hkey : key.isEmpty = false) :
    Sat (KeyOthers D service key i) (KeyDoes D service key i) (Trying D service key i attempts)
      (Saga.placeOrder (keyedEnv D service attempts i c) c.req key) fun r s => KeyAnswer c i s r := by
  unfold Saga.placeOrder
  split
  · next f hf =>
    exact Sat.ret' (stable_trying _) fun _ h => .rejected hf h.1.2
  simp only [hkey, Bool.false_eq_true, ↓reduceIte, keyedEnv]
  refine Sat.bind (sat_keyClaim attempts) fun r => ?_
  cases r with
  | error f =>
    -- only a key in progress refuses the claim
    refine Sat.ret' (stable_claimAnswer _) fun s h => ?_
    rcases h with ⟨hr, -⟩ | ⟨f', hr, hf, -, hev⟩ | ⟨n, hr, -⟩
    · cases hr
    · cases hr
      exact .refused hf hev
    · cases hr
  | ok n =>
    by_cases hn : n = 0
    · subst hn
      have hpre : ∀ s, ClaimAnswer D service key i (.ok 0) s →
          Holding D service key i (.held i) [.claimed none] s := by
        rintro s (⟨-, hh⟩ | ⟨f, hr, -⟩ | ⟨n, hr, hn, -⟩)
        · exact hh
        · cases hr
        · cases hr
          exact absurd rfl hn
      refine Sat.pre ?_ (stable_claimAnswer _) hpre
      simp only [bne_self_eq_false, Bool.false_eq_true, ↓reduceIte]
      -- the key was free: this saga took it and runs
      exact Sat.bind (sat_keyRun c) fun r => sat_keyFinish c r
    · have hne : (n != 0) = true := by simp [hn]
      simp only [hne, ↓reduceIte]
      -- the key was bound: the saga answers the order it names
      exact sat_keyAnswerBound c hn

end Saga


/-! ## Sagas side by side -/

section Pool

variable {R : Type} (D : LawfulRedis R) (service : String) {r : R} {key : String}

/-- Every saga of a pool that shares a key satisfies its judgment from the start. -/
theorem keyedPool_safe (hr : D.works r)
    (hfree : D.value r (IdempotencyStore.redisKey service key) = none) (now : Instant)
    (calls : List KeyedCall) (hkey : key.isEmpty = false) :
    Pool.Safe KeyEnv (KeyDoes D service key)
      (fun i a s => ∀ c, calls[i]? = some c → KeyAnswer c i s a)
      (keyedPool D service r now key calls) :=
  Pool.safe_calls (fun _ _ hc => ⟨⟨KeyLaws.start service key hr hfree now _, rfl⟩,
      (List.getElem?_eq_some_iff.mp hc).1, Nat.le_add_left _ _⟩)
    fun _ c _ => sat_keyPlaceOrder c hkey

/-- The laws of the keyed world hold in every state the pool reaches. -/
theorem keyLaws_reach (hr : D.works r)
    (hfree : D.value r (IdempotencyStore.redisKey service key) = none) (now : Instant)
    (calls : List KeyedCall) (hkey : key.isEmpty = false)
    {c : KeyWorld R × List (Prog (KeyWorld R) (Option Order × Option Fault))}
    (hreach : Relation.ReflTransGen (Pool.Step KeyEnv) (keyedPool D service r now key calls) c) :
    KeyLaws D service key c.1 :=
  (keyedPool_safe D service hr hfree now calls hkey).invariant stable_keyLaws
    (fun _ _ he h => h.env he) (KeyLaws.start service key hr hfree now _) hreach

end Pool

/-- What a state of a pool of sagas sharing one key shows. -/
structure CreatedOnce {R : Type} (calls : List KeyedCall)
    (c : KeyWorld R × List (Prog (KeyWorld R) (Option Order × Option Fault))) : Prop where
  /-- At most one order was created. -/
  orders : c.1.world.orders.orders.length ≤ 1
  /-- The payment client was called at most once. -/
  payments : (c.1.log.filter (·.2.isPaid)).length ≤ 1
  /-- Every claim saw what the sagas before it left. -/
  claims : ∀ L j seen L', c.1.log = L ++ (j, .claimed seen) :: L' → ClaimSaw L j seen
  /-- A saga that stored an order never let the key go. -/
  kept : ∀ j n, (j, .stored n) ∈ c.1.log → (j, .released) ∉ c.1.log
  /-- Every saga that finished answered as `KeyAnswer` says. -/
  answers : ∀ j call r, calls[j]? = some call → c.2[j]? = some (.ret r) →
    KeyAnswer call j c.1 r

/-- **Sagas that share an idempotency key create at most one order.** Whatever Redis runs the
key, as long as it keeps the documented laws of SETNX, GET, SET and DEL and the key starts
absent, and however the commands of the sagas of a pool interleave: at most one order is
created and at most one payment started; a claim that finds the key in progress at another saga
is refused, one that finds it bound answers the order bound to it, and one that takes it comes
after every earlier taker let it go with nothing stored; a saga that stored an order never lets
the key go; and every saga that finishes answers as `KeyAnswer` says, none of them for want of
attempts. -/
theorem keyed_sagas_create_once {R : Type} (D : LawfulRedis R) (service : String) {r : R}
    (hr : D.works r) {key : String}
    (hfree : D.value r (IdempotencyStore.redisKey service key) = none)
    (hkey : key.isEmpty = false) (now : Instant) (calls : List KeyedCall)
    {c : KeyWorld R × List (Prog (KeyWorld R) (Option Order × Option Fault))}
    (hreach : Relation.ReflTransGen (Pool.Step KeyEnv) (keyedPool D service r now key calls) c) :
    CreatedOnce calls c := by
  have hsafe := (keyedPool_safe D service hr hfree now calls hkey).reach hreach
  have hl := keyLaws_reach D service hr hfree now calls hkey hreach
  refine ⟨?_, hl.follows.paid_le_one hl.calls, fun L j seen L' h => ?_, fun j n hs hrel => ?_,
    fun j call r hc hj => hsafe.finished hj call hc⟩
  · -- the store holds one order for each id the log stored, and the log stored at most one
    calc c.1.world.orders.orders.length = (storedIds c.1.log).length := by
          rw [← hl.orders.ids, List.length_map]
      _ ≤ 1 := hl.follows.stored_le_one
  · have hf := hl.follows
    rw [h] at hf
    exact hf.claimSaw
  · exact (hl.calls j).not_stored_of_released (mem_eventsOf.mpr hrel) n (mem_eventsOf.mpr hs)

/-- Two sagas placing one order under key `k` on the key store: the first takes the key, the
second finds it taken, the first lets it go on an invalid customer, the second finds the key gone
and claims it again, and takes it. -/
theorem keyed_sagas_create_once_retried :
    ∃ calls c, calls.length = 2 ∧
      Relation.ReflTransGen (Pool.Step KeyEnv) (keyedPool KeyStore.lawfulRedis "order-service"
        (KeyStore.make KeyStore.defaultTtl) Instant.zero "k" calls) c ∧
      c.1.log = [(0, .claimed none), (0, .released), (1, .claimed none)] ∧ CreatedOnce calls c := by
  let call (valid : Bool) : KeyedCall :=
    ⟨⟨1, some [⟨0, "book", "", "", 1, ⟨100, 0⟩, ⟨100, 0⟩⟩], ""⟩, valid, true,
      .error (.missing .payment), "saga"⟩
  have hreach := Pool.reach_schedule (E := KeyEnv) (keyedPool KeyStore.lawfulRedis "order-service"
    (KeyStore.make KeyStore.defaultTtl) Instant.zero "k" [call false, call true]) [0, 1, 0, 0, 0, 1, 1]
  exact ⟨_, _, rfl, hreach, by decide +kernel,
    keyed_sagas_create_once KeyStore.lawfulRedis "order-service"
      (r := KeyStore.make KeyStore.defaultTtl) rfl rfl rfl Instant.zero _ hreach⟩

end Fulfillment
