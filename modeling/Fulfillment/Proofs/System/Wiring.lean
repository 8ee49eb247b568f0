import Fulfillment.Proofs.Orders.Clients
import Fulfillment.Proofs.Payments.Settlement
import Fulfillment.Http.Gateway

/-!
# The services wired together

The order service with its saga and the payment service with its sweeps, wired together in one
world (`systemPool`): the saga opens its payments through the payment service (`payInProcess`),
and each sweep tells the order service of every payment it settles through `gateway`, which
sends the status move the order service's endpoints make of it: completed with the payment's
id, or cancelled with the reason. As the gateway does, a call answered with a failure of 500 or
more is sent once more (`resend`). Placing orders and sweeping are the only calls; no one else
moves an order or a payment.

Every call satisfies a judgment whose guarantee names its writes (`SystemCall.Writes`): the saga
attaches only a payment on record for its order (`PaidFor`), and a sweep completes an order only
with a payment on record as completed for it (`SettledFor`), since what it owes is what it
stored.
-/

namespace Fulfillment

open Prog

/-! ## The wiring -/

/-- A call to another service as the gateway sends it: sent once more when the first answer is a
failure of 500 or more. -/
def resend {α : Type} (call : Prog World (Except Fault α)) : Prog World (Except Fault α) := do
  match ← call with
  | .error f => if 500 ≤ (Http.classify f).1 then call else pure (.error f)
  | .ok a => pure (.ok a)

/-- The saga's payment client of thread `i`, wired to the payment service in the same world: it
opens a payment for the order, and when the order already has one, a refusal read as 409, it
looks that payment up and reuses it. A failure is reported with the service's own fault. -/
def payInProcess (i : Nat) (orderId : Int) (amount : Decimal) (method : String) :
    Prog World (Except Fault Payment) := do
  let op := "create payment for order " ++ toString orderId
  match ← resend (PaymentService.create (sharedPayments i) ⟨orderId, amount, method⟩) with
  | .ok p => pure (.ok p)
  | .error f =>
    if (Http.classify f).1 == 409 then
      match ← resend ((sharedPayments i).findByOrder orderId) with
      | .ok p => pure (.ok p)
      | .error lookup =>
        pure (.error (Http.unavailable op (.suffixed f (" (lookup: " ++ lookup.message ++ ")"))))
    else pure (.error (Http.unavailable op f))

/-- The notifier of a sweep in thread `i`, wired to the order service in the same world: each
call is recorded under `i`, then sent as the status move the order service's endpoints make of
it, a completion with the payment's id or a cancellation with the reason. -/
def gateway (i : Nat) : Notifier (Prog World) where
  markCompleted orderId paymentId := do
    (recorder i).markCompleted orderId paymentId
    let _ ← resend (OrderService.updateStatus (sharedOrders i) orderId
      ⟨"COMPLETED", some paymentId, ""⟩)
    pure ()
  cancel orderId reason := do
    (recorder i).cancel orderId reason
    let _ ← resend (OrderService.cancel (sharedOrders i) orderId reason)
    pure ()

/-- A call in the wired system: placing an order through the saga, with its request, its key and
what the saga hears from outside the two stores, or a sweep, with its batch size, its cutoff,
the outcome of each settlement attempt and its transaction id. -/
inductive SystemCall where
  | place (req : OrderRequest) (key : String) (a : SagaAnswers)
  | sweep (batch : Nat) (cutoff : Duration) (attempt : Payment → Attempt) (txn : String)

namespace World

/-- Some write on record stored a payment with `P`. -/
def PaymentLogged (w : World) (P : Payment → Prop) : Prop := ∃ e ∈ w.paymentLog, P e.after

end World

/-- A payment `p` of order `k` is on record. -/
def PaidFor (k p : Int) (w : World) : Prop := w.PaymentLogged fun q => q.id = p ∧ q.orderId = k

/-- A payment `p` of order `k` is on record as completed. -/
def SettledFor (k p : Int) (w : World) : Prop :=
  w.PaymentLogged fun q => q.id = p ∧ q.orderId = k ∧ q.status = .completed

/-- The payment store agrees with its log, and the index by order names only payments on record
for their orders: only a create writes the index, and it logs the payment it indexes. -/
def PaymentsOnRecord (w : World) : Prop :=
  PaymentsKept w ∧ ∀ k id, w.payments.byOrder.lookup k = some id → PaidFor k id w

/-- What a sweep's notifier may write: the completion of an order `k` with a payment on record as
completed for it, or the cancellation of any order. -/
def CallbackWrites (w : World) (op : Op) : Prop :=
  (∃ k p, SettledFor k p w ∧ MoveWrites k ⟨"COMPLETED", some p, ""⟩ w op) ∨
  ∃ k reason, MoveWrites k ⟨OrderStatus.cancelled.toText, none, reason⟩ w op

namespace SystemCall

/-- The call as thread `i` runs it. -/
def run (i : Nat) : SystemCall → Prog World Unit
  | place req key a => do
    let _ ← Saga.placeOrder (sagaEnv i (payInProcess i) a) req key
    pure ()
  | sweep batch cutoff attempt txn => do
    let _ ← Sweep.run (sweepEnvWith i (gateway i) attempt txn) batch cutoff
    pure ()

/-- What the call of thread `i` may write in one step: a saga writes orders and opens pending
payments; a sweep writes payments, records its notices and moves orders through its notifier. -/
def Writes (i : Nat) : SystemCall → World → Op → Prop
  | place .., w, op => SagaWrites PaidFor w op ∨ ∃ p, op = .createPayment p ∧ p.status = .pending
  | sweep .., w, op => SweepWrites i w op ∨ CallbackWrites w op

/-- Where the call of thread `i` starts: both stores agree with their logs, and a sweep has
told nothing and completed nothing. -/
def Start (i : Nat) : SystemCall → World → Prop
  | place .., w => OrdersKept w ∧ PaymentsOnRecord w
  | sweep .., w => Swept i 0 w ∧ OrdersKept w

end SystemCall

/-- A wired system on empty stores at `now`, thread `i` running the `i`-th call. -/
def systemPool (now : Instant) (calls : List SystemCall) : World × List (Prog World Unit) :=
  (World.start now, calls.mapIdx fun i c => c.run i)

/-- The guarantee of thread `i` of a wired system of `calls`: the writes its call may make. -/
def systemGuarantee (calls : List SystemCall) (i : Nat) : World → World → Prop :=
  Does i fun w op => ∃ c, calls[i]? = some c ∧ c.Writes i w op

/-! ## What is on record of the payments -/

section Record

variable {w w' : World} {i : Nat} {k p p' : Int} {P : Payment → Prop}

theorem World.PaymentLogged.apply (h : w.PaymentLogged P) (j : Nat) (op : Op) :
    (w.apply j op).PaymentLogged P := by
  obtain ⟨e, he, hp⟩ := h
  obtain ⟨L, hL, -⟩ := (World.apply_logs w j op).2.1
  exact ⟨e, hL ▸ List.mem_append_left _ he, hp⟩

theorem stable_paymentLogged (P : Payment → Prop) :
    Stable (Others i) fun w => w.PaymentLogged P := by
  rintro w w' h ⟨e, he, hp⟩
  obtain ⟨L, hL, -⟩ := (World.others_logs h).2.1
  exact ⟨e, hL ▸ List.mem_append_left _ he, hp⟩

theorem does_paymentLogged {ok : World → Op → Prop} (P : Payment → Prop) :
    Stable (Does i ok) fun w => w.PaymentLogged P := by
  rintro w w' (rfl | ⟨op, -, rfl⟩) h
  · exact h
  · exact h.apply i op

theorem SettledFor.paidFor (h : SettledFor k p w) : PaidFor k p w :=
  let ⟨e, he, hid, hk, _⟩ := h
  ⟨e, he, hid, hk⟩

/-- One order has one payment on record. -/
theorem PaymentHistory.eq_of_paidFor (hh : PaymentHistory w) (h : PaidFor k p w)
    (h' : PaidFor k p' w) : p = p' := by
  obtain ⟨e, he, rfl, hk⟩ := h
  obtain ⟨e', he', rfl, hk'⟩ := h'
  exact hh.orders e he e' he' (hk.trans hk'.symm)

/-- A payment on record as completed is the stored payment of its id, completed: the stored
one ranks no lower, the final stages share one rank, and the writes of one payment never repeat
a rank. -/
theorem PaymentHistory.stored_of_settled (hh : PaymentHistory w) (h : SettledFor k p w) :
    ∃ q ∈ w.payments.payments, q.id = p ∧ q.status = .completed ∧ q.orderId = k := by
  obtain ⟨e, he, hid, hk, hs⟩ := h
  obtain ⟨r, hr, hrid, hrk⟩ := hh.backed e he
  obtain ⟨e', he', rfl⟩ := hh.kept.logged r hr
  have hle : e.after.status.rank ≤ e'.after.status.rank := hh.below e he e'.after hr hrid.symm
  have hrank : e'.after.status.rank = 2 := by
    rw [hs] at hle
    have : e'.after.status.rank ≤ 2 := by cases e'.after.status <;> simp [PaymentStatus.rank]
    exact Nat.le_antisymm this hle
  have hmem : ∀ x ∈ w.paymentLog, x.after.status.rank = 2 → x.after.id = p →
      x ∈ w.paymentLog.filter fun x => x.after.status.rank == 2 && x.after.id == p :=
    fun x hx h2 hx' => List.mem_filter.mpr ⟨hx, by simp [h2, hx']⟩
  have heq : e' = e := eq_of_mem_of_length_le_one (hh.rank_once p 2)
    (hmem e' he' hrank (hrid.trans hid)) (hmem e he (by rw [hs]; rfl) hid)
  subst heq
  exact ⟨e'.after, hr, hid, hs, hk⟩

end Record

/-! ## Every call keeps to its writes -/

section Steps

variable {i : Nat} {R : World → World → Prop} {Ok : World → Op → Prop}

/-- Sending a call twice is as good as once when a failed answer leaves what it started from. -/
theorem sat_resend {α : Type} {call : Prog World (Except Fault α)} {P : World → Prop}
    {Q : Except Fault α → World → Prop} (h : Sat R (Does i Ok) P call Q)
    (hQ : ∀ r, Stable R (Q r)) (hback : ∀ f w, Q (.error f) w → P w) :
    Sat R (Does i Ok) P (resend call) Q := by
  unfold resend
  refine Sat.bind h fun r => ?_
  cases r with
  | error f => exact Sat.ite (h.pre (hQ _) (hback f)) (Sat.ret' (hQ _) fun _ h => h)
  | ok a => exact Sat.ret' (hQ _) fun _ h => h

theorem paymentsOnRecord_start (now : Instant) : PaymentsOnRecord (World.start now) :=
  ⟨paymentsKept_start now, fun _ _ h => by simp [World.start, PaymentStore.empty] at h⟩

/-- A create indexes the payment it logs; every other operation leaves the index as it was. -/
theorem PaymentsOnRecord.apply {w : World} (h : PaymentsOnRecord w) (j : Nat) (op : Op) :
    PaymentsOnRecord (w.apply j op) := by
  refine ⟨paymentsKept_apply h.1 op, ?_⟩
  have hkeep : (w.apply j op).payments.byOrder = w.payments.byOrder →
      ∀ k id, (w.apply j op).payments.byOrder.lookup k = some id → PaidFor k id (w.apply j op) :=
    fun hb k id hk => World.PaymentLogged.apply (h.2 k id (hb ▸ hk)) j op
  cases op with
  | createPayment p =>
    rcases World.createPayment_cases w j p with ⟨f, hf⟩ | ⟨stored, -, rfl, hc⟩
    · exact hkeep (by simp [World.apply, hf])
    intro k id hk
    simp only [World.apply, hc] at hk ⊢
    rw [List.lookup_eq_findSome?, List.findSome?_append, ← List.lookup_eq_findSome?,
      ← List.lookup_eq_findSome?] at hk
    cases hl : w.payments.byOrder.lookup k with
    | some id' =>
      rw [hl, Option.some_or] at hk
      obtain ⟨e, he, hp⟩ := h.2 k id (hl.trans hk)
      exact ⟨e, List.mem_append_left _ he, hp⟩
    | none =>
      -- the order is the new payment's, under the new id
      rw [hl, Option.none_or] at hk
      by_cases hka : k = p.orderId
      · subst hka
        simp only [List.lookup_singleton, beq_self_eq_true, if_true, Option.some.injEq] at hk
        exact ⟨_, List.mem_append_right _ (List.mem_singleton_self _), hk, rfl⟩
      · have hne : (k == p.orderId) = false := beq_false_of_ne hka
        simp [hne] at hk
  | updatePayment p =>
    rcases World.updatePayment_cases w j p with ⟨f, hf⟩ | ⟨cur, stored, -, -, -, hu⟩
    · exact hkeep (by simp [World.apply, hf])
    · exact hkeep (by simp [World.apply, hu])
  | updateOrder o =>
    have hp : (w.apply j (.updateOrder o)).payments = w.payments := by
      simp only [World.apply, World.updateOrder]
      split <;> rfl
    exact hkeep (by rw [hp])
  | createOrder o => exact hkeep rfl
  | notify n => exact hkeep rfl

theorem stable_paymentsOnRecord : Stable (Others i) PaymentsOnRecord := by
  rintro w w' (he | ⟨j, -, rfl | ⟨op, -, rfl⟩⟩) h
  · obtain ⟨-, h2, -, h4, -⟩ := Env.stores he
    refine ⟨stable_paymentsKept (i := i) (.inl he) h.1, fun k id hk => ?_⟩
    obtain ⟨e, he', hp⟩ := h.2 k id (h2 ▸ hk)
    exact ⟨e, h4 ▸ he', hp⟩
  · exact h
  · exact h.apply j op

/-- That an answer of the payment client is a payment of `k` on record survives the others. -/
theorem stable_paidAnswer (hR : ∀ w w', R w w' → Others i w w') (k : Int)
    (r : Except Fault Payment) :
    Stable R fun w => PaymentsOnRecord w ∧ ∀ p, r = .ok p → PaidFor k p.id w :=
  (stable_paymentsOnRecord.mono hR).and fun w w' h hp p hr =>
    stable_paymentLogged _ (hR w w' h) (hp p hr)

/-- Opening a payment for order `k` stores, if anything, a pending payment, and answers with a
payment of `k` on record. -/
theorem sat_openPayment (hR : ∀ w w', R w w' → Others i w w')
    (hok : ∀ w p, p.status = .pending → Ok w (.createPayment p)) (k : Int) (amount : Decimal)
    (method : String) :
    Sat R (Does i Ok) PaymentsOnRecord
      (PaymentService.create (sharedPayments i) ⟨k, amount, method⟩)
      fun r w => PaymentsOnRecord w ∧ ∀ p, r = .ok p → PaidFor k p.id w := by
  have hk : Stable R PaymentsOnRecord := stable_paymentsOnRecord.mono hR
  have hq := stable_paidAnswer hR k
  unfold PaymentService.create
  split
  · exact Sat.ret' hk fun _ h => ⟨h, fun _ hr => by cases hr⟩
  refine Sat.bind (Sat.atomic hk hq fun w h => ⟨.inr ⟨_, hok w _ rfl, rfl⟩,
    h.apply i (.createPayment _), fun p hr => ?_⟩) fun r => ?_
  · -- the payment is stored under the order it was opened for
    rcases World.createPayment_cases w i (Payment.create k amount method) with
      ⟨f, hf⟩ | ⟨stored, -, rfl, hc⟩
    · rw [hf] at hr; cases hr
    · rw [hc] at hr ⊢
      cases hr
      exact ⟨_, List.mem_append_right _ (List.mem_singleton_self _), rfl, rfl⟩
  cases r with
  | ok p => exact Sat.ret' (hq _) fun _ h => h
  | error f => exact Sat.ret' (hq _) fun _ h => ⟨h.1, fun _ hr => by cases hr⟩

/-- The saga's payment client answers only with a payment of the order on record. -/
theorem sat_payInProcess (hR : ∀ w w', R w w' → Others i w w')
    (hok : ∀ w p, p.status = .pending → Ok w (.createPayment p)) (k : Int) (amount : Decimal)
    (method : String) :
    Sat R (Does i Ok) PaymentsOnRecord (payInProcess i k amount method)
      fun r w => PaymentsOnRecord w ∧ ∀ p, r = .ok p → PaidFor k p.id w := by
  have hk : Stable R PaymentsOnRecord := stable_paymentsOnRecord.mono hR
  have hq := stable_paidAnswer hR k
  unfold payInProcess
  dsimp only
  refine Sat.bind (sat_resend (sat_openPayment hR hok k amount method) hq fun _ _ h => h.1)
    fun r => ?_
  cases r with
  | ok p => exact Sat.ret' (hq _) fun _ h => h
  | error f =>
    refine Sat.ite ?_ (Sat.ret' (hq _) fun _ h => ⟨h.1, fun _ hr => by cases hr⟩)
    refine Sat.pre ?_ (hq _) fun _ h => h.1
    -- the payment the store finds for the order is on record for it
    refine Sat.bind (sat_resend (sat_read (A := fun (r : Except Fault Payment) w =>
        ∀ p, r = .ok p → PaidFor k p.id w) hk
        (fun _ w w' h hp p hr => stable_paymentLogged _ (hR w w' h) (hp p hr))
        fun w h p hr => ?_) hq fun _ _ h => h.1) fun r => ?_
    · obtain ⟨id, hid, -, rfl⟩ := PaymentStore.findByOrder_eq_ok hr
      exact h.2 k p.id hid
    cases r with
    | ok p => exact Sat.ret' (hq _) fun _ h => h
    | error f => exact Sat.ret' (hq _) fun _ h => ⟨h.1, fun _ hr => by cases hr⟩

/-- An order write leaves the payment side and the notices as they were. -/
theorem World.updateOrder_payments (w : World) (j : Nat) (o : Order) :
    (w.apply j (.updateOrder o)).payments = w.payments ∧
      (w.apply j (.updateOrder o)).paymentLog = w.paymentLog ∧
      (w.apply j (.updateOrder o)).notices = w.notices := by
  simp only [World.apply, World.updateOrder]
  split <;> exact ⟨rfl, rfl, rfl⟩

/-- Where a sweep stands is a fact of the payment side and the notices alone, so an order write
keeps it. -/
theorem Swept.updateOrder {i k : Nat} {w : World} (h : Swept i k w) (j : Nat) (o : Order) :
    Swept i k (w.apply j (.updateOrder o)) := by
  obtain ⟨hp, hl, hn⟩ := World.updateOrder_payments w j o
  obtain ⟨hk, ht, hc⟩ := h
  refine ⟨?_, ?_, ?_⟩
  · unfold PaymentsKept; rw [hp, hl]; exact hk
  · simp only [World.noticesBy, World.paymentsBy, hn, hl] at ht ⊢; exact ht
  · simp only [World.completedBy, World.paymentsBy, hl] at hc ⊢; exact hc

/-- A completion a sweep owes is of a payment it stored completed. -/
theorem Owing.settledFor {i k : Nat} {p : Payment} {w : World} (h : Owing i p k w)
    (hst : p.status = .completed) : SettledFor p.orderId p.id w := by
  have hmem : Notice.completed p.orderId p.id ∈ Told (w.paymentsBy i) := by
    rw [← h.2.1]; simp [told, hst]
  obtain ⟨e, he, hn⟩ := List.mem_flatMap.mp hmem
  refine ⟨e, (List.mem_filter.mp he).1, ?_⟩
  unfold told at hn
  split at hn
  · next hs =>
    simp only [List.mem_singleton, Notice.completed.injEq] at hn
    exact ⟨hn.2.symm, hn.1.symm, hs⟩
  · simp at hn
  · simp at hn

/-- A status move sent to the order service, by a thread that may write it whenever `F` holds,
`F` being a fact that neither the others nor the thread's own order writes break. -/
theorem sat_sendMove (hR : ∀ w w', R w w' → Others i w w') {F : World → Prop} (hF : Stable R F)
    (hFw : ∀ w o, F w → F (w.apply i (.updateOrder o))) (k : Int) (req : OrderMove)
    (hok : ∀ w op, MoveWrites k req w op → F w → Ok w op) :
    Sat R (Does i Ok) (fun w => OrdersKept w ∧ F w)
      (resend (OrderService.updateStatus (sharedOrders i) k req))
      fun _ w => OrdersKept w ∧ F w := by
  have hown : Stable (Does i (MoveWrites k req)) F := by
    rintro w w' (rfl | ⟨op, ⟨_, _, hw⟩, rfl⟩) hf
    · exact hf
    · obtain ⟨o, rfl⟩ := hw.update
      exact hFw w o hf
  have hupdate : Sat R (Does i (MoveWrites k req)) OrdersKept
      (OrderService.updateStatus (sharedOrders i) k req) fun _ w => OrdersKept w :=
    sat_updateStatus hR k req fun _ _ h => h
  have hmove : Sat R (Does i Ok) (fun w => OrdersKept w ∧ F w)
      (OrderService.updateStatus (sharedOrders i) k req) fun _ w => OrdersKept w ∧ F w :=
    (hupdate.frame hF hown).mono (fun _ _ h => h) fun w w' ⟨hd, hf⟩ => by
      rcases hd with rfl | ⟨op, hop, rfl⟩
      · exact .inl rfl
      · exact .inr ⟨op, hok w op hop hf, rfl⟩
  exact sat_resend hmove (fun _ => (stable_ordersKept.mono hR).and hF) fun _ _ h => h

/-- The gateway tells what a sweep owes: it records the notice, then sends the status move, which
the thread may write, since a completion it owes is of a payment on record as completed. -/
theorem gateway_tells (hs : SweepRules i R Ok OrdersKept)
    (hcb : ∀ w op, CallbackWrites w op → Ok w op) : Tells i R Ok OrdersKept (gateway i) where
  completed p k hst := by
    have hset : Stable R (SettledFor p.orderId p.id) := (stable_paymentLogged _).mono hs.rely
    dsimp only [gateway]
    refine Sat.pre ?_ ((hs.owing p k).and hs.ready_stable) fun w h =>
      (⟨h, h.1.settledFor hst⟩ : (Owing i p k w ∧ OrdersKept w) ∧ SettledFor p.orderId p.id w)
    refine Sat.bind (((recorder_tells hs).completed p k hst).keep hset (does_paymentLogged _))
      fun _ => ?_
    refine Sat.bind ((sat_sendMove (F := fun w => Swept i k w ∧ SettledFor p.orderId p.id w)
      hs.rely ((hs.swept k).and hset)
      (fun w o h => ⟨h.1.updateOrder i o, World.PaymentLogged.apply h.2 i _⟩) _ _
      fun w op hm hf => hcb w op (.inl ⟨_, _, hf.2, hm⟩)).pre
      (((hs.swept k).and hs.ready_stable).and hset) fun w h => ⟨h.1.2, h.1.1, h.2⟩) fun _ => ?_
    exact Sat.ret' (hs.ready_stable.and ((hs.swept k).and hset)) fun w h => ⟨h.2.1, h.1⟩
  cancelled p k hst := by
    dsimp only [gateway]
    refine Sat.bind ((recorder_tells hs).cancelled p k hst) fun _ => ?_
    refine Sat.bind ((sat_sendMove (F := Swept i k) hs.rely (hs.swept k)
      (fun w o h => h.updateOrder i o) _ _ fun w op hm _ => hcb w op (.inr ⟨_, _, hm⟩)).pre
      ((hs.swept k).and hs.ready_stable) fun w h => ⟨h.2, h.1⟩) fun _ => ?_
    exact Sat.ret' (hs.ready_stable.and (hs.swept k)) fun w h => ⟨h.2, h.1⟩

end Steps

/-- Every call of the wired system satisfies its judgment: it makes only the writes it may. -/
theorem SystemCall.sat_run {calls : List SystemCall} {i : Nat} {call : SystemCall}
    (hc : calls[i]? = some call) :
    Sat (Pool.Rely Env (systemGuarantee calls) i) (systemGuarantee calls i) (call.Start i)
      (call.run i) fun _ w => OrdersKept w := by
  have hR : ∀ w w', Pool.Rely Env (systemGuarantee calls) i w w' → Others i w w' :=
    fun _ _ h => rely_does h
  cases call with
  | place req key a =>
    have hs : SagaRules i (Pool.Rely Env (systemGuarantee calls) i)
        (fun w op => ∃ c, calls[i]? = some c ∧ c.Writes i w op) PaidFor PaymentsOnRecord :=
      ⟨hR, fun _ _ h => ⟨_, hc, .inl h⟩, fun _ _ => (stable_paymentLogged _).mono hR,
        fun _ _ w _ h => World.PaymentLogged.apply h i _, stable_paymentsOnRecord.mono hR,
        fun _ op h => h.apply i op⟩
    -- the payment client leaves the saga's order held
    have hpay : ∀ o amount method, Sat (Pool.Rely Env (systemGuarantee calls) i)
        (systemGuarantee calls i) (fun w => Held o w ∧ PaymentsOnRecord w)
        (payInProcess i o.id amount method)
        fun r w => Held o w ∧ ∀ p, r = .ok p → PaidFor o.id p.id w := fun o amount method =>
      (((sat_payInProcess hR (fun _ p hp => ⟨_, hc, .inr ⟨p, rfl, hp⟩⟩) o.id amount
        method).keep (hs.held o) (does_held o)).pre (hs.held_ready o)
        fun _ h => ⟨h.2, h.1⟩).post fun _ _ h => ⟨h.2, h.1.2⟩
    exact Sat.bind (sat_placeOrder a hs hpay req key) fun _ =>
      Sat.ret' (stable_ordersKept.mono hR) fun _ h => h
  | sweep batch cutoff attempt txn =>
    have hs : SweepRules i (Pool.Rely Env (systemGuarantee calls) i)
        (fun w op => ∃ c, calls[i]? = some c ∧ c.Writes i w op) OrdersKept :=
      ⟨hR, fun _ _ h => ⟨_, hc, .inl h⟩, stable_ordersKept.mono hR,
        fun _ op h => ordersKept_apply h op⟩
    exact Sat.bind (sat_sweep attempt txn hs (gateway_tells hs fun _ _ h => ⟨_, hc, .inr h⟩)
      batch cutoff) fun _ => Sat.ret' ((hs.swept _).and hs.ready_stable) fun _ h => h.2

/-- A wired system starts safe, and every call that finishes leaves the order store agreeing
with its log. -/
theorem systemPool_safe (now : Instant) (calls : List SystemCall) :
    Pool.Safe Env (systemGuarantee calls) (fun i _ w => ∀ c, calls[i]? = some c → OrdersKept w)
      (systemPool now calls) := by
  refine Pool.safe_calls (fun i c _ => ?_) fun _ _ hc => SystemCall.sat_run hc
  -- every call starts on the empty stores
  cases c with
  | place => exact ⟨ordersKept_start now, paymentsOnRecord_start now⟩
  | sweep => exact ⟨⟨paymentsKept_start now, rfl, rfl⟩, ordersKept_start now⟩

end Fulfillment
