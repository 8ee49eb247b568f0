import Fulfillment.Proofs.Orders.Laws
import Fulfillment.Proofs.Payments.Settlement

/-!
# The lifecycle of every payment

Payments are created through the payment service, moved by operators and settled by any number
of sweeps, all interleaved on one store (`paymentPool`). Every write of a payment is one of its
named transitions applied to the record it replaces (`PayMove`), and a completion carries a
transaction id, given or made up by the call (`PaymentCall.MakesUpIds`). So the writes of each
payment form its lifeline (`Lifeline`): written pending, each record one edge of the lifecycle
further, each keeping the laws of its fields (`PaymentFields`), the last one's version one more
than the number of writes that replaced a record. No edge leaves a final stage, so a payment that
reached one is never written again (`payment_lifecycle`).
-/

namespace Fulfillment

open Prog
open Text (isBlankText)

/-! ## The fields of a payment -/

/-- What a payment's stage says of its other fields: a transaction id exactly when it is
completed, a reason that is not blank exactly when it failed, a processing moment exactly when it
is completed or failed; and its amount is positive. -/
structure PaymentFields (p : Payment) : Prop where
  transaction : p.transactionId ≠ "" ↔ p.status = .completed
  reason : isBlankText p.failureReason = false ↔ p.status = .failed
  processed : p.processedAt.isSome = true ↔ (p.status = .completed ∨ p.status = .failed)
  amount : p.amount.isPositive = true

section Fields

variable {b x : Payment}

namespace PaymentFields

/-- A new payment of a request that passes its checks keeps the laws. -/
theorem create {req : PaymentRequest} (h : req.check = none) :
    PaymentFields (Payment.create req.orderId req.amount req.method) where
  transaction := by simp [Payment.create]
  reason := by simp [Payment.create, isBlankText]
  processed := by simp [Payment.create]
  amount := by
    unfold PaymentRequest.check at h
    split at h
    · cases h
    · split at h
      · cases h
      · next hp => simpa [Payment.create] using hp

/-- A named move that completes a payment only with a transaction id keeps the laws: each
transition sets the fields its target stage asks for, and the stage it leaves had the others
empty. -/
theorem move (h : PaymentFields b) (hm : PayMove b x)
    (ht : x.status = .completed → x.transactionId ≠ "") : PaymentFields x := by
  cases hm with
  | markProcessing hx =>
    obtain ⟨hc, rfl⟩ := Payment.moveTo_eq_ok_iff.mp hx
    have hb := PaymentStatus.eq_pending_of_canMoveTo hc
    exact ⟨by simpa [hb] using h.transaction, by simpa [hb] using h.reason,
      by simpa [hb] using h.processed, h.amount⟩
  | markCompleted t at_ hx =>
    obtain ⟨hc, rfl⟩ := Payment.markCompleted_eq_ok hx
    have hb : b.status = .processing := by
      cases hs : b.status <;> simp_all [PaymentStatus.canMoveTo]
    exact ⟨by simpa using ht rfl, by simpa [hb] using h.reason, by simp, h.amount⟩
  | markFailed reason at_ hx =>
    obtain ⟨hc, rfl⟩ := Payment.markFailed_eq_ok hx
    have hb : b.status ≠ .completed := fun hb => by
      simp [hb, PaymentStatus.canMoveTo] at hc
    exact ⟨by simpa [hb] using h.transaction,
      by simpa using isBlankText_reasonOr reason (by decide), by simp, h.amount⟩
  | cancel hx =>
    obtain ⟨hc, rfl⟩ := Payment.moveTo_eq_ok_iff.mp hx
    have hb : b.status = .pending := by
      cases hs : b.status <;> simp_all [PaymentStatus.canMoveTo]
    exact ⟨by simpa [hb] using h.transaction, by simpa [hb] using h.reason,
      by simpa [hb] using h.processed, h.amount⟩

end PaymentFields

end Fields

/-! ## The writes of one payment -/

/-- The writes of one payment, oldest first: it was written pending, each write moved it one
edge of the lifecycle, every record keeps the laws of its fields, and the version of the last is
one more than the number of writes that replaced a record. -/
structure Lifeline (es : List (Entry Payment)) : Prop where
  start : ∀ e ∈ es.head?, e.after.status = .pending
  moves : es.IsChain fun e e' => e.after.status.canMoveTo e'.after.status = true
  fields : ∀ e ∈ es, PaymentFields e.after
  count : ∀ e ∈ es.getLast?, e.after.version = 1 + ((es.filter (·.before.isSome)).length : Int)

namespace Lifeline

theorem nil : Lifeline [] := ⟨by simp, .nil, by simp, by simp⟩

/-- A new payment: pending, keeping the laws, at version 1. -/
theorem new {e : Entry Payment} (hb : e.before = none) (hs : e.after.status = .pending)
    (hf : PaymentFields e.after) (hv : e.after.version = 1) : Lifeline [e] :=
  ⟨by simpa using hs, .singleton _, by simpa using hf, by simp [hb, hv]⟩

/-- A write that replaced the last record by one an edge further, keeping the laws, one version
up. -/
theorem snoc {es : List (Entry Payment)} (h : Lifeline es) {e e' : Entry Payment}
    (hl : es.getLast? = some e) (hb : e'.before.isSome = true)
    (hs : e.after.status.canMoveTo e'.after.status = true) (hf : PaymentFields e'.after)
    (hv : e'.after.version = e.after.version + 1) : Lifeline (es ++ [e']) where
  start := by
    have hne : es ≠ [] := fun h' => by simp [h'] at hl
    rw [List.head?_append_of_ne_nil _ hne]
    exact h.start
  moves := List.isChain_append.mpr ⟨h.moves, .singleton _, fun a ha c hc => by
    rw [hl] at ha
    simp at ha hc
    rw [← ha, ← hc]
    exact hs⟩
  fields := fun a ha => by
    rcases List.mem_append.mp ha with ha | ha
    · exact h.fields a ha
    · rw [List.mem_singleton.mp ha]; exact hf
  count := fun a ha => by
    simp only [List.getLast?_append, List.getLast?_singleton, Option.some_or,
      Option.mem_def, Option.some.injEq] at ha
    subst ha
    have := h.count e hl
    simp only [List.filter_append, List.filter_singleton, hb, cond_true, List.length_append,
      List.length_singleton]
    push_cast
    omega

end Lifeline

/-! ## The writes of every payment -/

/-- The writes of payment `k` in the log, oldest first. -/
def World.paymentWrites (w : World) (k : Int) : List (Entry Payment) :=
  w.paymentLog.filter (·.after.id == k)

/-- The writes of every payment form its lifeline. -/
def Lifelines (w : World) : Prop := ∀ k, Lifeline (w.paymentWrites k)

/-- A write that keeps every payment's lifeline: a new pending payment keeping the laws of its
fields, or a write that, if it goes through, is a named move of the payment it replaces,
completing it only with a transaction id. -/
def LifeWrite (w : World) : Op → Prop
  | .createPayment p => p.status = .pending ∧ PaymentFields p
  | .updatePayment q => ∀ cur, w.payments.payments.find? (·.id == q.id) = some cur →
      cur.version = q.version → PayMove cur q ∧ (q.status = .completed → q.transactionId ≠ "")
  | _ => True

variable {w w' : World}

theorem LifeWrite.lawful {op : Op} (h : LifeWrite w op) : LawfulPayWrite w op := by
  cases op with
  | createPayment p => exact h.1
  | updatePayment q => exact fun cur hcur hv => (h cur hcur hv).1.step
  | _ => trivial

namespace Lifelines

theorem start (now : Instant) : Lifelines (World.start now) := fun _ => Lifeline.nil

/-- The lifelines speak only of the payment log. -/
theorem congr (h : Lifelines w) (hl : w'.paymentLog = w.paymentLog) : Lifelines w' := fun k => by
  unfold World.paymentWrites
  rw [hl]
  exact h k

/-- A new payment starts the lifeline of its fresh id, and leaves the others as they were. -/
theorem create (h : Lifelines w) (hk : PaymentsKept w) {p : Payment} (hp : p.status = .pending)
    (hf : PaymentFields p) (j : Nat) : Lifelines (w.apply j (.createPayment p)) := by
  rcases World.createPayment_cases w j p with ⟨f, hc⟩ | ⟨n, -, rfl, hc⟩
  · exact h.congr (by simp [World.apply, hc])
  intro k
  simp only [World.paymentWrites, World.apply, hc, List.filter_append]
  by_cases hkn : w.payments.lastId + 1 = k
  · -- no earlier write has the fresh id
    have hnone : w.paymentLog.filter (·.after.id == k) = [] :=
      List.filter_eq_nil_iff.mpr fun e he => by have := hk.ids_le e he; simp; omega
    rw [hnone, List.nil_append, List.filter_singleton]
    simp only [hkn, beq_self_eq_true, cond_true]
    -- the stored payment is `p` with an id, a version and time stamps, which the laws ignore
    exact Lifeline.new rfl hp ⟨hf.transaction, hf.reason, hf.processed, hf.amount⟩ rfl
  · have hne : (w.payments.lastId + 1 == k) = false := by simpa using hkn
    simpa [World.paymentWrites, List.filter_singleton, hne] using h k

/-- A write that is a named move of the payment it replaces extends that payment's lifeline,
and leaves the others as they were. -/
theorem update (h : Lifelines w) (hk : PaymentsKept w) {q : Payment}
    (hq : ∀ cur, w.payments.payments.find? (·.id == q.id) = some cur → cur.version = q.version →
      PayMove cur q ∧ (q.status = .completed → q.transactionId ≠ "")) (j : Nat) :
    Lifelines (w.apply j (.updatePayment q)) := by
  rcases World.updatePayment_cases w j q with ⟨f, hu⟩ | ⟨cur, n, hcur, hv, rfl, hu⟩
  · exact h.congr (by simp [World.apply, hu])
  obtain ⟨hm, ht⟩ := hq cur hcur hv
  have hmem : cur ∈ w.payments.payments := List.mem_of_find?_eq_some hcur
  have hid : cur.id = q.id := by simpa using List.find?_some hcur
  intro k
  simp only [World.paymentWrites, World.apply, hu, List.filter_append]
  by_cases hkq : q.id = k
  · subst hkq
    -- the record replaced is the last one written under its id
    obtain ⟨e, hl, he⟩ : ∃ e, (w.paymentLog.filter (·.after.id == q.id)).getLast? = some e ∧
        e.after = cur := by
      have := hk.last cur hmem
      rw [hid] at this
      simpa [lastOf] using this
    rw [List.filter_singleton]
    simp only [beq_self_eq_true, cond_true]
    have hfq : PaymentFields q := (he ▸ (h q.id).fields e (List.mem_of_getLast? hl)).move hm ht
    refine (h q.id).snoc hl rfl ?_ ⟨hfq.transaction, hfq.reason, hfq.processed, hfq.amount⟩ ?_
    · rw [he]; exact hm.step.status
    · rw [he]; show q.version + 1 = cur.version + 1; rw [hv]
  · have hne : (q.id == k) = false := by simpa using hkq
    simpa [World.paymentWrites, List.filter_singleton, hne] using h k

/-- **Every write that keeps the lifelines keeps them.** -/
theorem apply (h : Lifelines w) (hk : PaymentsKept w) {op : Op} (hop : LifeWrite w op)
    (j : Nat) : Lifelines (w.apply j op) := by
  cases op with
  | createPayment p => exact h.create hk hop.1 hop.2 j
  | updatePayment q => exact h.update hk hop j
  | createOrder o => exact h.congr rfl
  | updateOrder o =>
    simp only [World.apply, World.updateOrder]
    split <;> exact h.congr rfl
  | notify n => exact h.congr rfl

end Lifelines

/-! ## A sweep completes payments only with its transaction id -/

/-- A step whose new payment records complete a payment only with the transaction id `txn`. -/
def CompletesOnly (txn : String) (w w' : World) : Prop :=
  ∀ L, w'.paymentLog = w.paymentLog ++ L →
    ∀ e ∈ L, e.after.status = .completed → e.after.transactionId = txn

theorem completesOnly_of_log {txn : String} (h : w'.paymentLog = w.paymentLog) :
    CompletesOnly txn w w' := fun L hL e he => by
  rw [h] at hL
  obtain rfl : L = [] := by simpa using hL
  cases he

/-- A write of a payment that completes it only with `txn`. -/
theorem completesOnly_update {txn : String} {q : Payment}
    (hq : q.status = .completed → q.transactionId = txn) (w : World) (i : Nat) :
    CompletesOnly txn w (w.updatePayment i q).2 := by
  rcases World.updatePayment_cases w i q with ⟨f, hu⟩ | ⟨cur, n, -, -, rfl, hu⟩
  · rw [hu]; exact completesOnly_of_log rfl
  intro L hL e he hs
  rw [hu] at hL
  simp at hL
  subst hL
  obtain rfl := List.mem_singleton.mp he
  exact hq hs

section Sweeps

variable {R : World → World → Prop} {i : Nat} (attempt : Payment → Attempt) (txn : String)

/-- `c`, among any other steps, completes payments only with `txn`. -/
abbrev OnlyWith {α : Type} (R : World → World → Prop) (txn : String) (c : Prog World α) : Prop :=
  Sat R (CompletesOnly txn) (fun _ => True) c fun _ _ => True

theorem only_ret {α : Type} (a : α) : OnlyWith R txn (pure a : Prog World α) :=
  Sat.ret' (stable_const _) fun _ _ => trivial

theorem only_look {α : Type} {f : World → α} : OnlyWith R txn (Prog.atomic fun w => (f w, w)) :=
  Sat.atomic (stable_const _) (fun _ => stable_const _) fun _ _ =>
    ⟨completesOnly_of_log rfl, trivial⟩

theorem only_update {q : Payment} (hq : q.status = .completed → q.transactionId = txn) :
    OnlyWith R txn ((sharedPayments i).update q) :=
  Sat.atomic (stable_const _) (fun _ => stable_const _) fun w _ =>
    ⟨completesOnly_update hq w i, trivial⟩

/-- Telling the order service writes no payment. -/
theorem only_notify (p : Payment) : OnlyWith R txn (Sweep.notify (sweepEnv i attempt txn) p) := by
  unfold Sweep.notify
  dsimp only [sweepEnv]
  split <;> first
    | exact only_ret txn ()
    | exact Sat.atomic (stable_const _) (fun _ => stable_const _) fun _ _ =>
        ⟨completesOnly_of_log rfl, trivial⟩

/-- Failing a claimed payment writes it failed, never completed. -/
theorem only_forceFail (id owned : Int) (cause : String) :
    OnlyWith R txn (Sweep.forceFail (sweepEnv i attempt txn) id owned cause) := by
  unfold Sweep.forceFail
  refine Sat.bind (only_look txn) fun r => ?_
  cases r with
  | error f => exact only_ret txn _
  | ok stored =>
    dsimp only
    refine Sat.ite (only_ret txn _) (Sat.bind (only_look txn) fun now => ?_)
    split
    · exact only_ret txn _
    · next failed hm =>
      refine Sat.bind (only_update txn fun hs => ?_) fun r => ?_
      · simp [Payment.status_of_markFailed hm] at hs
      cases r with
      | error f => exact only_ret txn _
      | ok written =>
        exact Sat.bind (only_notify attempt txn written) fun _ => only_ret txn _

/-- Settling a claimed payment completes it with `txn`, or fails it. -/
theorem only_settle (p : Payment) :
    OnlyWith R txn (Sweep.settle (sweepEnv i attempt txn) p) := by
  -- a failed write goes to `forceFail`, whose outcome is handed on
  have hfail : ∀ cause, OnlyWith R txn
      (Sweep.forceFail (sweepEnv i attempt txn) p.id p.version cause >>=
        fun o => pure (Except.ok o : Except String SweepOutcome)) := fun cause =>
    Sat.bind (only_forceFail attempt txn _ _ _) fun _ => only_ret txn _
  unfold Sweep.settle
  refine Sat.pure_bind ?_
  split
  · exact only_ret txn _
  refine Sat.bind (only_look txn) fun now => ?_
  lift_lets
  intro settled
  -- what follows the move, shared by a refused and a settled attempt
  have hsettled : ∀ m : Except Fault Payment,
      (∀ q, m = .ok q → q.status = .completed → q.transactionId = txn) →
      OnlyWith R txn (settled m) := by
    intro m hm
    cases m with
    | error f => exact hfail _
    | ok q =>
      refine Sat.bind (only_update txn (hm q rfl)) fun r => ?_
      cases r with
      | error f => exact hfail _
      | ok written =>
        exact Sat.bind (only_notify attempt txn written) fun _ => only_ret txn _
  split
  · exact Sat.pure_bind (hsettled _ fun q hq hs => by
      simp [Payment.status_of_markFailed hq] at hs)
  · exact Sat.pure_bind (Sat.pure_bind (hsettled _ fun q hq _ =>
      Payment.transactionId_of_markCompleted hq))

theorem only_claim (p : Payment) : OnlyWith R txn (Sweep.claim (sweepEnv i attempt txn) p) := by
  unfold Sweep.claim
  cases hc : p.markProcessing with
  | error f => exact only_ret txn _
  | ok claimed =>
    refine Sat.bind (only_update txn fun hs => ?_) fun r => ?_
    · simp [(Payment.moveTo_eq_ok_iff.mp hc).2] at hs
    cases r with
    | error f => exact only_ret txn _
    | ok claimed' => exact only_ret txn _

theorem only_settleOrFail (p : Payment) :
    OnlyWith R txn (Sweep.settleOrFail (sweepEnv i attempt txn) p) := by
  unfold Sweep.settleOrFail
  simp only [Prog.recover_eq]
  refine Sat.bind (only_settle attempt txn p) fun r => ?_
  cases r with
  | ok o => exact only_ret txn _
  | error cause => exact only_forceFail attempt txn _ _ _

theorem only_processOne (p : Payment) :
    OnlyWith R txn (Sweep.processOne (sweepEnv i attempt txn) p) := by
  unfold Sweep.processOne
  simp only [Prog.recover_eq]
  refine Sat.bind (only_claim attempt txn p) fun r => ?_
  cases r with
  | error o => exact only_ret txn _
  | ok claimed => exact only_settleOrFail attempt txn claimed

theorem only_processAll (ps : List Payment) (r : SweepResult) :
    OnlyWith R txn (Sweep.processAll (sweepEnv i attempt txn) ps r) := by
  induction ps generalizing r with
  | nil => exact only_ret txn _
  | cons p ps ih =>
    unfold Sweep.processAll
    refine Sat.bind (only_look txn) fun b => Sat.ite (only_ret txn _) ?_
    exact Sat.bind (only_processOne attempt txn p) fun o => ih _

/-- **A sweep completes payments only with its transaction id.** -/
theorem only_sweep (batch : Nat) (cutoff : Duration) :
    OnlyWith R txn (Sweep.run (sweepEnv i attempt txn) batch cutoff) := by
  unfold Sweep.run
  refine Sat.bind (only_look txn) fun now => Sat.bind (only_look txn) fun r => ?_
  cases r with
  | error f => exact only_ret txn _
  | ok found =>
    exact Sat.bind (only_processAll attempt txn _ _) fun _ => only_ret txn _

end Sweeps

/-! ## The pool keeps every lifeline -/

/-- A write of a payment whose version the store holds goes through and is logged. -/
theorem World.paymentLog_update {q cur : Payment}
    (hcur : w.payments.payments.find? (·.id == q.id) = some cur) (hv : cur.version = q.version)
    (j : Nat) : (w.apply j (.updatePayment q)).paymentLog = w.paymentLog ++
      [⟨j, some cur,
        { q with version := q.version + 1, updatedAt := w.clock, createdAt := cur.createdAt }⟩] := by
  simp [World.apply, World.updatePayment, PaymentStore.update, PaymentStore.find, hcur, hv,
    Except.toOption]

/-- A write of a sweep that goes through is a named move of the payment it replaces: a claim,
or a settlement of what its own claim wrote. -/
theorem SweepWrites.move {i : Nat} {q : Payment} (hk : PaymentsKept w)
    (h : SweepWrites i w (.updatePayment q)) (cur : Payment)
    (hcur : w.payments.payments.find? (·.id == q.id) = some cur) (hv : cur.version = q.version) :
    PayMove cur q := by
  rcases h with ⟨k, hid, hclaim⟩ | ⟨c, hc, -, -, q', hq', hset⟩ | ⟨n, hn, -⟩
  · rw [hid] at hcur
    exact .markProcessing (hclaim cur hcur hv)
  · cases hq'
    have hstep := hset.step
    rw [hstep.id] at hcur
    obtain rfl := hk.eq_of_version ⟨c, hc, rfl⟩ hcur (hv.trans hstep.version)
    rcases hset with ⟨t, at_, hq⟩ | ⟨reason, at_, hq⟩
    · exact .markCompleted t at_ hq
    · exact .markFailed reason at_ hq
  · cases hn

namespace PaymentCall

/-- What the call of thread `i` may write in one step, told finely: the new payment of its
request, a move of a payment, or what a sweep writes. -/
def LifeWrites (i : Nat) : PaymentCall → World → Op → Prop
  | create req, _, op => req.check = none ∧
      op = .createPayment (Payment.create req.orderId req.amount req.method)
  | move _ _ txn _, w, op => ∃ q, op = .updatePayment q ∧ MoveWrite txn w q
  | sweep .., w, op => SweepWrites i w op

/-- What a step of the call may add to the payment log besides: a sweep completes payments
only with its transaction id. -/
def Completes : PaymentCall → World → World → Prop
  | sweep _ _ _ txn, w, w' => CompletesOnly txn w w'
  | _, _, _ => True

/-- The transaction ids the call makes up are not empty. -/
def MakesUpIds : PaymentCall → Prop
  | create _ => True
  | move _ _ txn _ => txn ≠ ""
  | sweep _ _ _ txn => txn ≠ ""

/-- What a call writes keeps the lifelines, when the transaction ids it makes up are not
empty. -/
theorem lifeWrite {call : PaymentCall} {j : Nat} {op : Op} (hid : call.MakesUpIds)
    (hk : PaymentsKept w) (hw : call.LifeWrites j w op) (hc : call.Completes w (w.apply j op)) :
    LifeWrite w op := by
  cases call with
  | create req =>
    obtain ⟨hreq, rfl⟩ := hw
    exact ⟨rfl, PaymentFields.create hreq⟩
  | move id req txn now =>
    obtain ⟨q, rfl, hm, ht⟩ := hw
    refine fun cur hcur hv => ⟨hm cur hcur hv, fun hs => ?_⟩
    rcases ht hs with h | h
    · rw [h]; exact hid
    · exact h
  | sweep batch cutoff attempt txn =>
    cases op with
    | updatePayment q =>
      refine fun cur hcur hv => ⟨SweepWrites.move hk hw cur hcur hv, fun hs => ?_⟩
      -- the write went through, and the record it logged completes with the sweep's id
      have htxn : q.transactionId = txn :=
        hc _ (World.paymentLog_update hcur hv j) _ (List.mem_singleton_self _) hs
      rw [htxn]
      exact hid
    | createPayment p =>
      rcases hw with ⟨k, h⟩ | ⟨c, -, -, -, q, h, -⟩ | ⟨n, h, -⟩ <;> cases h
    | _ => trivial

end PaymentCall

/-- The guarantee of thread `i` of a pool of `calls`, told finely: the writes its call makes,
and what a sweep adds to the payment log. -/
def lifeGuarantee (calls : List PaymentCall) (i : Nat) (w w' : World) : Prop :=
  Does i (fun w op => ∃ c, calls[i]? = some c ∧ c.LifeWrites i w op) w w' ∧
    ∀ c, calls[i]? = some c → c.Completes w w'

section Pool

variable {calls : List PaymentCall}

/-- A step of a call keeps its fine guarantee when its writes do and it adds what the call
may add to the log. -/
theorem lifeGuarantee_of_does {i : Nat} {call : PaymentCall} {w w' : World}
    (hc : calls[i]? = some call) (hcomp : call.Completes w w')
    (h : Does i (fun w op => ∃ c, calls[i]? = some c ∧ c.LifeWrites i w op) w w') :
    lifeGuarantee calls i w w' := by
  refine ⟨h, fun c hc' => ?_⟩
  obtain rfl := Option.some.inj (hc.symm.trans hc')
  exact hcomp

/-- Every call of the pool keeps to its fine guarantee. -/
theorem PaymentCall.sat_life {i : Nat} {call : PaymentCall} (hc : calls[i]? = some call) :
    Sat (Pool.Rely Env (lifeGuarantee calls) i) (lifeGuarantee calls i) (call.Start i)
      (call.run i) fun _ _ => True := by
  have hR : ∀ w w', Pool.Rely Env (lifeGuarantee calls) i w w' → Others i w w' :=
    fun _ _ h => rely_others (fun _ _ _ h => h.1.mono fun _ _ _ => trivial) h
  have hk : Stable (Pool.Rely Env (lifeGuarantee calls) i) PaymentsKept :=
    stable_paymentsKept.mono hR
  cases call with
  | create req =>
    refine Sat.bind ((sat_createPayment hR req fun w hreq => ⟨_, hc, hreq, rfl⟩).mono
      (fun _ _ h => h) fun _ _ => lifeGuarantee_of_does hc trivial) fun _ => ?_
    exact Sat.ret' hk fun _ _ => trivial
  | move id req txn now =>
    refine Sat.bind ((sat_movePayment hR id req txn now fun w q hq => ⟨_, hc, q, rfl, hq⟩).mono
      (fun _ _ h => h) fun _ _ => lifeGuarantee_of_does hc trivial) fun _ => ?_
    exact Sat.ret' hk fun _ _ => trivial
  | sweep batch cutoff attempt txn =>
    have hs : SweepRules i (Pool.Rely Env (lifeGuarantee calls) i)
        (fun w op => ∃ c, calls[i]? = some c ∧ c.LifeWrites i w op) fun _ => True :=
      ⟨hR, fun _ _ h => ⟨_, hc, h⟩, stable_const True, fun _ _ h => h⟩
    -- the sweep's own judgment, together with what it completes
    have hboth := (sat_sweep attempt txn hs (recorder_tells hs) batch cutoff).and
      (only_sweep (R := Pool.Rely Env (lifeGuarantee calls) i) (i := i) attempt txn batch cutoff)
    have hlife := hboth.mono (fun _ _ h => h) fun w w' h =>
      (lifeGuarantee_of_does hc h.2 h.1 : lifeGuarantee calls i w w')
    refine Sat.bind (hlife.pre (hs.swept 0) fun w h => ⟨⟨h, trivial⟩, trivial⟩) fun r => ?_
    exact Sat.ret' (((hs.swept _).and (stable_const _)).and (stable_const _)) fun _ _ => trivial

/-- A pool of payment calls starts safe for the fine guarantees. -/
theorem paymentPool_lifeSafe (now : Instant) (calls : List PaymentCall) :
    Pool.Safe Env (lifeGuarantee calls) (fun i _ _ => ∀ c, calls[i]? = some c → True)
      (paymentPool now calls) := by
  refine Pool.safe_calls (fun i c _ => ?_) fun _ _ hc => PaymentCall.sat_life hc
  cases c with
  | sweep => exact ⟨paymentsKept_start now, rfl, rfl⟩
  | _ => exact paymentsKept_start now

end Pool

/-- The laws every state of a pool of payment calls keeps about each payment. -/
structure LifeLaws (w : World) : Prop where
  history : PaymentHistory w
  lines : Lifelines w

theorem stable_lifeLaws {calls : List PaymentCall} (hids : ∀ c ∈ calls, c.MakesUpIds) (j : Nat) :
    Stable (lifeGuarantee calls j) LifeLaws := by
  rintro w w' ⟨rfl | ⟨op, ⟨call, hc, hw⟩, rfl⟩, hcomp⟩ h
  · exact h
  · have hop := PaymentCall.lifeWrite (hids call (List.mem_of_getElem? hc)) h.history.kept hw
      (hcomp call hc)
    exact ⟨h.history.apply hop.lawful j, h.lines.apply h.history.kept hop j⟩

/-- The laws hold in every state a pool of payment calls reaches, when the calls make up only
non-empty transaction ids. -/
theorem lifeLaws_reach (now : Instant) (calls : List PaymentCall)
    (hids : ∀ c ∈ calls, c.MakesUpIds) {c : World × List (Prog World (Option SweepResult))}
    (hr : Relation.ReflTransGen (Pool.Step Env) (paymentPool now calls) c) : LifeLaws c.1 :=
  (paymentPool_lifeSafe now calls).invariant (stable_lifeLaws hids)
    (fun _ _ he h => ⟨h.history.env he, h.lines.congr (Env.stores he).2.2.2.1⟩)
    ⟨PaymentHistory.start now, Lifelines.start now⟩ hr

/-! ## The lifecycle of a stored payment -/

/-- In a chain, an element with no successor under the relation is the last one. -/
theorem getLast?_of_isChain {α : Type} {R : α → α → Prop} {x : α} {l : List α}
    (h : l.IsChain R) (hx : x ∈ l) (hs : ∀ y, ¬ R x y) : l.getLast? = some x := by
  induction l with
  | nil => cases hx
  | cons a l ih =>
    cases l with
    | nil => simp_all
    | cons b l =>
      rw [List.isChain_cons_cons] at h
      rcases List.mem_cons.mp hx with rfl | hx
      · exact absurd h.1 (hs b)
      · rw [List.getLast?_cons_cons]
        exact ih h.2 hx

/-- What the writes `es` of a payment, oldest first, tell of the payment `r` stored now. -/
structure PaymentLife (es : List (Entry Payment)) (r : Payment) : Prop where
  /-- The stages written run from pending along the edges of the lifecycle. -/
  path : (es.map (·.after.status)).head? = some .pending ∧
    (es.map (·.after.status)).IsChain fun s t => s.canMoveTo t = true
  /-- The last write stored the payment as it is. -/
  last : es.getLast?.map (·.after) = some r
  /-- A payment written completed, failed or cancelled is never written again. -/
  final : ∀ e ∈ es, e.after.status.isTerminal = true → e.after = r
  fields : PaymentFields r
  /-- The version counts the updates. -/
  version : r.version = 1 + ((es.filter (·.before.isSome)).length : Int)

theorem Lifeline.life {es : List (Entry Payment)} {r : Payment} (hl : Lifeline es)
    (hlast : es.getLast?.map (·.after) = some r) : PaymentLife es r := by
  obtain ⟨e, hle, rfl⟩ := Option.map_eq_some_iff.mp hlast
  refine ⟨⟨?_, (List.isChain_map _).mpr hl.moves⟩, hlast, fun e' he' ht => ?_,
    hl.fields e (List.mem_of_getLast? hle), hl.count e hle⟩
  · cases es with
    | nil => cases hle
    | cons a as => simpa using hl.start a rfl
  · -- nothing follows a final stage, so a write of one is the last write
    have hend := getLast?_of_isChain hl.moves he' fun y hy => by
      rw [PaymentStatus.not_canMoveTo_of_isTerminal ht] at hy
      cases hy
    obtain rfl := Option.some.inj (hend.symm.trans hle)
    rfl

/-- **The lifecycle of every payment.** Whatever creations, status moves and sweeps run side by
side on one payment store, in every interleaving of their store calls, when the transaction ids
they make up are not empty: the writes of every stored payment run from pending along the
edges of the lifecycle and end in the payment as stored; one that stored it completed, failed
or cancelled is the last; its transaction id is set exactly when it is completed, its failure
reason is not blank exactly when it failed, its processing time is set exactly when it
completed or failed; its amount is positive; and its version is one more than the number of
its updates. -/
theorem payment_lifecycle (now : Instant) (calls : List PaymentCall)
    (hids : ∀ c ∈ calls, c.MakesUpIds) {c : World × List (Prog World (Option SweepResult))}
    (hr : Relation.ReflTransGen (Pool.Step Env) (paymentPool now calls) c) :
    ∀ r ∈ c.1.payments.payments, PaymentLife (c.1.paymentWrites r.id) r := by
  have h := lifeLaws_reach now calls hids hr
  intro r hr'
  exact (h.lines r.id).life (h.history.kept.last r hr')

/-- One creation, run to its write, stores a payment, and the lifecycle holds of it. -/
theorem payment_lifecycle_created :
    ∃ c, Relation.ReflTransGen (Pool.Step Env)
      (paymentPool Instant.zero [.create ⟨1, ⟨100, 0⟩, "card"⟩]) c ∧
      c.1.payments.payments ≠ [] ∧
      ∀ r ∈ c.1.payments.payments, PaymentLife (c.1.paymentWrites r.id) r := by
  have hr : Relation.ReflTransGen (Pool.Step Env)
      (paymentPool Instant.zero [.create ⟨1, ⟨100, 0⟩, "card"⟩]) _ := .single (.run (i := 0) rfl)
  refine ⟨_, hr, ?_, payment_lifecycle _ _ (fun c hc => ?_) hr⟩
  · simp [World.createPayment, PaymentStore.create, PaymentStore.empty, World.start]
  · obtain rfl := List.mem_singleton.mp hc
    trivial

end Fulfillment
