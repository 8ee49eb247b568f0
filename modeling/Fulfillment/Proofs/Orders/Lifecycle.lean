import Fulfillment.Proofs.Orders.Clients

/-!
# The lifecycle of stored orders

Any number of sagas, status moves and cancellations run side by side on one order store, their
store calls interleaved in every possible way (`orderPool`). Each call satisfies its judgment
(`Clients`), so the pool is safe, and every step of it is the environment or one of the writes a
call may make (`OrderCall.Writes`). Every such write is a `LawfulWrite`: a pending draft, or a
`Lawful` change of the order it replaces. The laws of the store (`OrderLaws`) hold of the empty
store and survive every lawful write, so they hold in every state the pool reaches.

The same pool shows that no save loses a change: every write in the log is the change of one of
the writing call's saves applied to the order stored just before (`WritesApplied`).
-/

namespace Fulfillment

open Prog

/-- A call to the order services: placing an order, with the answers the saga gets and the
answer of the payment service, moving an order to the stage a request names, or cancelling it. -/
inductive OrderCall where
  | place (req : OrderRequest) (key : String) (answers : SagaAnswers)
      (payment : Except Fault Payment)
  | move (id : Int) (req : OrderMove)
  | cancel (id : Int) (reason : String)

namespace OrderCall

/-- The call as thread `i` runs it. -/
def run (i : Nat) : OrderCall → Prog World Unit
  | place req key a payment => do
    let _ ← Saga.placeOrder (sagaEnv i (fun _ _ _ => pure payment) a) req key
    pure ()
  | move id req => do
    let _ ← OrderService.updateStatus (sharedOrders i) id req
    pure ()
  | cancel id reason => do
    let _ ← OrderService.cancel (sharedOrders i) id reason
    pure ()

/-- What the call may write in one step. -/
def Writes : OrderCall → World → Op → Prop
  | place .., w, op => SagaWrites (fun _ _ _ => True) w op
  | move id req, w, op => MoveWrites id req w op
  | cancel id reason, w, op => MoveWrites id ⟨OrderStatus.cancelled.toText, none, reason⟩ w op

/-- The changes the call's saves apply. -/
def Saves : OrderCall → (Order → Except Fault Order) → Prop
  | place .., c => c = Order.confirm ∨ c = Order.markPaymentProcessing ∨
      (∃ r, c = fun o => o.fail r) ∨ ∃ p, c = fun o => .ok (o.attachPayment p)
  | move _ req, c => ∃ target, OrderService.parseStatus req.status = .ok target ∧
      c = OrderService.change target req
  | cancel _ reason, c =>
      c = OrderService.change .cancelled ⟨OrderStatus.cancelled.toText, none, reason⟩

/-- Every write a call may make is a write of one of its saves, of one order. -/
theorem Writes.saves {call : OrderCall} {w : World} {op : Op} (h : call.Writes w op) :
    (∃ o, op = .createOrder o ∧ Draft o) ∨ ∃ c k, call.Saves c ∧ ChangeWrites c k w op := by
  cases call with
  | place req key a payment =>
    rcases h with h | ⟨k, h | h | ⟨r, h⟩ | ⟨p, -, h⟩⟩
    · exact .inl h
    · exact .inr ⟨_, k, .inl rfl, h⟩
    · exact .inr ⟨_, k, .inr (.inl rfl), h⟩
    · exact .inr ⟨_, k, .inr (.inr (.inl ⟨r, rfl⟩)), h⟩
    · exact .inr ⟨_, k, .inr (.inr (.inr ⟨p, rfl⟩)), h⟩
  | move id req =>
    obtain ⟨t, ht, h⟩ := h
    exact .inr ⟨_, id, ⟨t, ht, rfl⟩, h⟩
  | cancel id reason =>
    obtain ⟨t, ht, h⟩ := h
    have : t = .cancelled := by
      simpa [OrderService.parseStatus, OrderStatus.parse?, OrderStatus.all,
        OrderStatus.toText] using ht.symm
    subst this
    exact .inr ⟨_, id, rfl, h⟩

/-- Every change a call's saves apply is lawful. -/
theorem Saves.lawful {call : OrderCall} {c : Order → Except Fault Order} (h : call.Saves c) :
    Lawful c := by
  cases call with
  | place =>
    rcases h with rfl | rfl | ⟨r, rfl⟩ | ⟨p, rfl⟩
    · exact lawful_confirm
    · exact lawful_markPaymentProcessing
    · exact lawful_fail r
    · exact lawful_attach p
  | move id req =>
    obtain ⟨t, -, rfl⟩ := h
    exact lawful_change t req
  | cancel id reason =>
    subst h
    exact lawful_change _ _

end OrderCall

/-- A pool of calls on empty stores at `now`, thread `i` running the `i`-th call. -/
def orderPool (now : Instant) (calls : List OrderCall) : World × List (Prog World Unit) :=
  (World.start now, calls.mapIdx fun i c => c.run i)

/-- The guarantee of thread `i` of a pool of `calls`: the writes its call may make. -/
def callGuarantee (calls : List OrderCall) (i : Nat) : World → World → Prop :=
  Does i fun w op => ∃ c, calls[i]? = some c ∧ c.Writes w op

/-! ## Every call keeps to its writes -/

section Pool

variable {calls : List OrderCall}

/-- Every call of the pool satisfies its judgment: it makes only the writes it may. -/
theorem OrderCall.sat_run {i : Nat} {call : OrderCall} (hc : calls[i]? = some call) :
    Sat (Pool.Rely Env (callGuarantee calls) i) (callGuarantee calls i) OrdersKept (call.run i)
      fun _ w => OrdersKept w := by
  have hR : ∀ w w', Pool.Rely Env (callGuarantee calls) i w w' → Others i w w' :=
    fun _ _ h => rely_does h
  have hk : Stable (Pool.Rely Env (callGuarantee calls) i) OrdersKept :=
    stable_ordersKept.mono hR
  cases call with
  | place req key a payment =>
    -- the payment service answers at once and vouches for nothing
    have hs : SagaRules i (Pool.Rely Env (callGuarantee calls) i)
        (fun w op => ∃ c, calls[i]? = some c ∧ c.Writes w op) (fun _ _ _ => True) fun _ => True :=
      ⟨hR, fun _ _ h => ⟨_, hc, h⟩, fun _ _ => stable_const True, fun _ _ _ _ h => h,
        stable_const True, fun _ _ h => h⟩
    exact Sat.bind ((sat_placeOrder a hs (fun o _ _ => Sat.ret' (hs.held_ready o)
      fun _ h => ⟨h.1, fun _ _ => trivial⟩) req key).pre hk fun _ h => ⟨h, trivial⟩) fun _ =>
      Sat.ret' hk fun _ h => h
  | move id req =>
    exact Sat.bind (sat_updateStatus hR id req fun _ _ h => ⟨_, hc, h⟩) fun _ =>
      Sat.ret' hk fun _ h => h
  | cancel id reason =>
    exact Sat.bind (sat_cancel hR id reason fun _ _ h => ⟨_, hc, h⟩) fun _ =>
      Sat.ret' hk fun _ h => h

/-- A pool of order calls starts safe. -/
theorem orderPool_safe (now : Instant) (calls : List OrderCall) :
    Pool.Safe Env (callGuarantee calls) (fun _ _ w => OrdersKept w) (orderPool now calls) := by
  refine Pool.safe_start (fun _ => OrdersKept) (fun _ _ => ordersKept_start now) fun i t ht => ?_
  simp only [List.getElem?_mapIdx, Option.map_eq_some_iff] at ht
  obtain ⟨call, hc, rfl⟩ := ht
  exact OrderCall.sat_run hc

end Pool

/-! ## The laws in every reachable state -/

/-- Every write a call may make is lawful. -/
theorem OrderCall.Writes.lawful {call : OrderCall} {w : World} {op : Op} (h : call.Writes w op) :
    LawfulWrite w op := by
  rcases h.saves with ⟨o, rfl, hd⟩ | ⟨c, k, hs, hw⟩
  · exact hd
  · obtain ⟨o, rfl⟩ := hw.update
    exact ⟨c, k, hs.lawful, hw⟩

theorem stable_orderLaws (calls : List OrderCall) (i : Nat) :
    Stable (callGuarantee calls i) OrderLaws := by
  rintro w w' (rfl | ⟨op, ⟨call, -, hw⟩, rfl⟩) h
  · exact h
  · exact h.apply hw.lawful i

/-- The laws of the order store hold in every state a pool of order calls reaches. -/
theorem orderLaws_reach (now : Instant) (calls : List OrderCall)
    {c : World × List (Prog World Unit)}
    (hr : Relation.ReflTransGen (Pool.Step Env) (orderPool now calls) c) : OrderLaws c.1 :=
  (orderPool_safe now calls).invariant (stable_orderLaws calls) (fun _ _ he h => h.env he)
    (OrderLaws.start now) hr

/-- **The lifecycle of every order.** Whatever sagas, status moves and cancellations run side by
side on one order store, in every interleaving of their store calls, every reachable state has:
every stored order keeps its laws (a failure reason that is not blank exactly when failed or
cancelled, a payment id when completed, the total the sum of its items) and has the customer,
items and total its creation stored; every write replaced the last order stored under its id;
every creation stored a pending order; and every other write kept the stage or moved it along
one edge of the lifecycle, so that a completed, failed or cancelled order never moves again. -/
theorem order_lifecycle_lawful (now : Instant) (calls : List OrderCall)
    {c : World × List (Prog World Unit)}
    (hr : Relation.ReflTransGen (Pool.Step Env) (orderPool now calls) c) :
    (∀ o ∈ c.1.orders.orders, OrderLawful o ∧ ∃ e ∈ c.1.orderLog, e.before = none ∧
      e.after.id = o.id ∧ e.after.customerId = o.customerId ∧ e.after.items = o.items ∧
      e.after.total = o.total) ∧
    Chained Order.id c.1.orderLog ∧
    (∀ e ∈ c.1.orderLog, e.before = none → e.after.status = .pending) ∧
    (∀ e ∈ c.1.orderLog, ∀ b, e.before = some b →
      (e.after.status = b.status ∨ b.status.canMoveTo e.after.status = true) ∧
      (b.status.isTerminal = true → e.after.status = b.status)) := by
  have h := orderLaws_reach now calls hr
  refine ⟨fun o ho => ⟨h.lawful o ho, h.created o ho⟩, h.kept.chained, h.starts,
    fun e he b hb => ⟨h.moves e he b hb, fun ht => ?_⟩⟩
  rcases h.moves e he b hb with hs | hs
  · exact hs
  · rw [OrderStatus.not_canMoveTo_of_isTerminal ht] at hs
    cases hs

/-- A saga places an order for one book whose payment is declined (thread 0) while a cancellation
(thread 1) reads the confirmed order; it writes only after the saga marked the order as waiting
for its payment, so it reloads and cancels that copy, and the saga's failure of the order is
refused. -/
theorem order_lifecycle_lawful_raced :
    let calls : List OrderCall :=
      [.place ⟨1, some [⟨0, "book", "", "", 1, ⟨100, 0⟩, ⟨100, 0⟩⟩], ""⟩ "" ⟨true, true, .ok 0, "saga-1"⟩
        (.error (.note "declined")), .cancel 1 "changed mind"]
    let c := Pool.schedule (orderPool Instant.zero calls) [0, 0, 0, 0, 1, 0, 0, 1, 1, 1, 0, 0]
    Relation.ReflTransGen (Pool.Step Env) (orderPool Instant.zero calls) c ∧
    (c.1.orderLog.map fun e => (e.who, e.after.status)) =
      [(0, .pending), (0, .confirmed), (0, .paymentProcessing), (1, .cancelled)] ∧
    (∀ o ∈ c.1.orders.orders, OrderLawful o ∧ ∃ e ∈ c.1.orderLog, e.before = none ∧
      e.after.id = o.id ∧ e.after.customerId = o.customerId ∧ e.after.items = o.items ∧
      e.after.total = o.total) ∧
    Chained Order.id c.1.orderLog ∧
    (∀ e ∈ c.1.orderLog, e.before = none → e.after.status = .pending) ∧
    (∀ e ∈ c.1.orderLog, ∀ b, e.before = some b →
      (e.after.status = b.status ∨ b.status.canMoveTo e.after.status = true) ∧
      (b.status.isTerminal = true → e.after.status = b.status)) := by
  intro calls c
  have hr : Relation.ReflTransGen (Pool.Step Env) (orderPool Instant.zero calls) c :=
    Pool.reach_schedule _ _
  exact ⟨hr, by decide +kernel, order_lifecycle_lawful Instant.zero calls hr⟩

/-! ## No lost update -/

/-- Every write in the log that replaced an order applied the change of one of the writing
call's saves to the order it replaced, one version up. -/
def WritesApplied (calls : List OrderCall) (w : World) : Prop :=
  ∀ e ∈ w.orderLog, e.before ≠ none →
    ∃ call c, calls[e.who]? = some call ∧ call.Saves c ∧ Applied c e

theorem stable_writesApplied (calls : List OrderCall) (i : Nat) :
    Stable (callGuarantee calls i) (WritesApplied calls) := by
  rintro w w' (rfl | ⟨op, ⟨call, hc, hw⟩, rfl⟩) h
  · exact h
  rcases hw.saves with ⟨o, rfl, -⟩ | ⟨c, k, hs, hcw⟩
  · -- a creation logs an entry with nothing before it
    intro e he hb
    simp only [World.apply, World.createOrder, List.mem_append, List.mem_singleton] at he
    rcases he with he | rfl
    · exact h e he hb
    · exact absurd rfl hb
  obtain ⟨o, rfl⟩ := hcw.update
  rcases hcw.cases i with heq | ⟨cur, -, hv, hco, heq⟩
  · rw [heq]; exact h
  rw [heq]
  intro e he hb
  rcases List.mem_append.mp he with he | he
  · exact h e he hb
  · rw [List.mem_singleton.mp he]
    exact ⟨call, c, hc, hs, cur, o, w.clock, rfl, hco, by simp [hv]⟩

/-- **No save loses a change.** A save by thread `i` from a copy that was stored, with any other
threads doing anything in between, wrote exactly once if it succeeded, `change` of the order
stored just before its write, one version up, and wrote nothing if it failed. And in every
interleaving of sagas, status moves and cancellations on one order store, the log of every order
is its creation followed by writes each of which replaced the order last stored under its id by
the change of one of the writing call's saves, one version up. -/
theorem saves_apply_changes_in_turn :
    (∀ (i : Nat) (o : Order) (change : Order → Except Fault Order), KeepsKey change →
      ∀ mine, Sat (Others i) (Does i (ChangeWrites change o.id)) (SaveStart i o mine)
        (save (sharedOrders i) o (inPlace change)) (Saved i change mine)) ∧
    ∀ (now : Instant) (calls : List OrderCall) (c : World × List (Prog World Unit)),
      Relation.ReflTransGen (Pool.Step Env) (orderPool now calls) c →
      Chained Order.id c.1.orderLog ∧ ∀ e ∈ c.1.orderLog, e.before ≠ none →
        ∃ call change, calls[e.who]? = some call ∧ call.Saves change ∧ Applied change e :=
  ⟨save_applies_change_to_stored, fun now calls _ hr =>
    ⟨(orderLaws_reach now calls hr).kept.chained,
      (orderPool_safe now calls).invariant (stable_writesApplied calls)
        (fun _ _ he h e hl => h e ((Env.stores he).2.2.1 ▸ hl))
        (by simp [WritesApplied, orderPool, World.start]) hr⟩⟩

/-- A saga and a cancellation race on one order as above: the cancellation's save starts from the
confirmed copy it read, and in the end each of the three replacements in the log applied the
change of one of its writer's saves. -/
theorem cancel_saves_in_turn :
    let calls : List OrderCall :=
      [.place ⟨1, some [⟨0, "book", "", "", 1, ⟨100, 0⟩, ⟨100, 0⟩⟩], ""⟩ "" ⟨true, true, .ok 0, "saga-1"⟩
        (.error (.note "declined")), .cancel 1 "changed mind"]
    let w := (Pool.schedule (orderPool Instant.zero calls) [0, 0, 0, 0, 1]).1
    let c := Pool.schedule (orderPool Instant.zero calls) [0, 0, 0, 0, 1, 0, 0, 1, 1, 1, 0, 0]
    let cancel := OrderService.change .cancelled ⟨OrderStatus.cancelled.toText, none, "changed mind"⟩
    KeepsKey cancel ∧
    (∃ o ∈ w.orders.orders, o.status = .confirmed ∧ SaveStart 1 o [] w ∧
      Sat (Others 1) (Does 1 (ChangeWrites cancel o.id)) (SaveStart 1 o [])
        (save (sharedOrders 1) o (inPlace cancel)) (Saved 1 cancel [])) ∧
    Relation.ReflTransGen (Pool.Step Env) (orderPool Instant.zero calls) c ∧
    (c.1.orderLog.filter (·.before.isSome)).length = 3 ∧
    Chained Order.id c.1.orderLog ∧ ∀ e ∈ c.1.orderLog, e.before ≠ none →
      ∃ call change, calls[e.who]? = some call ∧ call.Saves change ∧ Applied change e := by
  intro calls w c cancel
  have hkey : KeepsKey cancel := (lawful_change _ _).keepsKey
  have hw : OrdersKept w :=
    (orderLaws_reach Instant.zero calls (Pool.reach_schedule (E := Env) _ [0, 0, 0, 0, 1])).kept
  obtain ⟨o, ho, hs⟩ : ∃ o ∈ w.orders.orders, o.status = .confirmed := by decide +kernel
  have hstart : SaveStart 1 o [] w :=
    ⟨hw, hw.logged o ho, List.length_eq_zero_iff.mp (by decide +kernel)⟩
  have hr : Relation.ReflTransGen (Pool.Step Env) (orderPool Instant.zero calls) c :=
    Pool.reach_schedule _ _
  exact ⟨hkey, ⟨o, ho, hs, hstart, saves_apply_changes_in_turn.1 1 o cancel hkey []⟩, hr,
    by decide +kernel, saves_apply_changes_in_turn.2 Instant.zero calls c hr⟩

end Fulfillment
