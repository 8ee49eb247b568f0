import Mathlib
import Fulfillment.Proofs.Payments.Sweep
import Fulfillment.Service.Payments

/-!
# Concurrent sweeps settle each payment once

Any number of sweeps run side by side on one payment store, interleaved with payments being
created and moved through the payment service, their store calls interleaved in every possible
way (`paymentPool`). Each call satisfies its judgment, so the pool is safe, and every step of it
is the environment or a write its call may make (`PaymentCall.Writes`). From that:

* every write is lawful, so the laws of the payment store hold throughout (`PaymentHistory`):
  the writes to one payment never repeat a stage's rank, so it is claimed at most once;
* a sweep writes a payment completed or failed only over what its own claim wrote
  (`SweepSettled`);
* what each thread told the notifier is a prefix of what its writes call for, so a notice about
  an order follows the one write that settled its payment, and there is at most one;
* when all calls have finished, the completions the sweeps report add up to the payments they
  stored completed.
-/

namespace Fulfillment

open Prog

/-- A call to the payment side: creating a payment, moving a payment to the stage a request
names (with the transaction id made up if the request has none, and the moment), or a sweep with
its batch size, its cutoff, the outcome of each settlement attempt and its transaction id. -/
inductive PaymentCall where
  | create (req : PaymentRequest)
  | move (id : Int) (req : PaymentMove) (txn : String) (now : Instant)
  | sweep (batch : Nat) (cutoff : Duration) (attempt : Payment → Attempt) (txn : String)

namespace PaymentCall

/-- The call as thread `i` runs it; a sweep answers with its counts. -/
def run (i : Nat) : PaymentCall → Prog World (Option SweepResult)
  | create req => do
    let _ ← PaymentService.create (sharedPayments i) req
    pure none
  | move id req txn now => do
    let _ ← PaymentService.updateStatus (sharedPayments i) (pure txn) now id req
    pure none
  | sweep batch cutoff attempt txn => do
    let r ← Sweep.run (sweepEnv i attempt txn) batch cutoff
    pure (some r.1)

def isSweep : PaymentCall → Bool
  | sweep .. => true
  | _ => false

/-- What the call of thread `i` may write in one step. -/
def Writes (i : Nat) : PaymentCall → World → Op → Prop
  | create _, _, op => ∃ p, op = .createPayment p ∧ p.status = .pending
  | move .., w, op => ∃ q, op = .updatePayment q ∧ LawfulPayWrite w op
  | sweep .., w, op => SweepWrites i w op

/-- Where the call of thread `i` starts. -/
def Start (i : Nat) : PaymentCall → World → Prop
  | sweep .., w => Swept i 0 w
  | _, w => PaymentsKept w

/-- What the call of thread `i` answers when it finishes: a sweep reports as completed the
payments its thread stored completed; the other calls report nothing. -/
def Reports (i : Nat) : PaymentCall → Option SweepResult → World → Prop
  | sweep .., a, w => ∃ r, a = some r ∧ r.completed = w.completedBy i
  | _, a, _ => a = none

end PaymentCall

/-- A pool of payment calls on empty stores at `now`, thread `i` running the `i`-th call. -/
def paymentPool (now : Instant) (calls : List PaymentCall) :
    World × List (Prog World (Option SweepResult)) :=
  (World.start now, calls.mapIdx fun i c => c.run i)

/-- Whether thread `j` of a pool of `calls` runs a sweep. -/
def sweeper (calls : List PaymentCall) (j : Nat) : Bool :=
  (calls[j]?.map PaymentCall.isSweep).getD false

/-- The guarantee of thread `i` of a pool of `calls`: the writes its call may make. -/
def payGuarantee (calls : List PaymentCall) (i : Nat) : World → World → Prop :=
  Does i fun w op => ∃ c, calls[i]? = some c ∧ c.Writes i w op

/-! ## Every call keeps to its writes -/

/-- `q` completes a payment, if it does, with the transaction id `txn` or a non-empty one. -/
def CompletesWith (txn : String) (q : Payment) : Prop :=
  q.status = .completed → q.transactionId = txn ∨ q.transactionId ≠ ""

/-- A write of `q` by a move that makes up the transaction id `txn` when it is given none: if it
goes through, a named move of the payment it replaces, completing it with `txn` or a non-empty
transaction id. -/
def MoveWrite (txn : String) (w : World) (q : Payment) : Prop :=
  (∀ cur, w.payments.payments.find? (·.id == q.id) = some cur → cur.version = q.version →
    PayMove cur q) ∧ CompletesWith txn q

theorem MoveWrite.lawful {txn : String} {w : World} {q : Payment} (h : MoveWrite txn w q) :
    LawfulPayWrite w (.updatePayment q) :=
  fun cur hcur hv => (h.1 cur hcur hv).step

section Completions

variable {b x : Payment} {txn : String}

theorem Payment.transactionId_of_markCompleted {t : String} {at_ : Instant}
    (h : b.markCompleted t at_ = .ok x) : x.transactionId = t := by
  unfold Payment.markCompleted at h
  cases hm : b.moveTo .completed with
  | error f => rw [hm] at h; cases h
  | ok y => rw [hm] at h; cases h; rfl

theorem completesWith_of_markProcessing (h : b.markProcessing = .ok x) : CompletesWith txn x :=
  fun hx => by simp [(Payment.moveTo_eq_ok_iff.mp h).2] at hx

theorem completesWith_of_cancel (h : b.cancel = .ok x) : CompletesWith txn x :=
  fun hx => by simp [(Payment.moveTo_eq_ok_iff.mp h).2] at hx

theorem completesWith_of_markFailed {reason : String} {at_ : Instant}
    (h : b.markFailed reason at_ = .ok x) : CompletesWith txn x :=
  fun hx => by simp [Payment.status_of_markFailed h] at hx

end Completions

section Steps

variable {i : Nat} {R : World → World → Prop} {Ok : World → Op → Prop}

/-- Writing a named move `q` of a payment `p` that was stored, which completes it with `txn` or a
non-empty transaction id, is a `MoveWrite`, whatever happened since `p` was read: the write goes
through only over `p` itself. -/
theorem sat_updateStep (hR : ∀ w w', R w w' → Others i w w') {p q : Payment} {txn : String}
    (hq : PayMove p q) (ht : CompletesWith txn q)
    (hok : ∀ w, MoveWrite txn w q → Ok w (.updatePayment q)) :
    Sat R (Does i Ok) (fun w => PaymentsKept w ∧ w.PaymentStored p)
      ((sharedPayments i).update q) fun _ => PaymentsKept := by
  have hk : Stable R PaymentsKept := stable_paymentsKept.mono hR
  show Sat _ _ _ (Prog.atomic fun w : World => w.updatePayment i q) _
  refine Sat.atomic (hk.and ((stable_paymentStored p).mono hR)) (fun _ => hk)
    fun w ⟨hkw, hp⟩ => ⟨.inr ⟨.updatePayment q, hok w ⟨fun cur hcur hv => ?_, ht⟩, rfl⟩,
      paymentsKept_apply (j := i) hkw (.updatePayment q)⟩
  rw [hq.step.id] at hcur
  obtain rfl := hkw.eq_of_version hp hcur (hv.trans hq.step.version)
  exact hq

/-- Creating a payment stores, if anything, the new payment of a request that passes its
checks. -/
theorem sat_createPayment (hR : ∀ w w', R w w' → Others i w w') (req : PaymentRequest)
    (hok : ∀ w, req.check = none →
      Ok w (.createPayment (Payment.create req.orderId req.amount req.method))) :
    Sat R (Does i Ok) PaymentsKept (PaymentService.create (sharedPayments i) req)
      fun _ => PaymentsKept := by
  have hk : Stable R PaymentsKept := stable_paymentsKept.mono hR
  unfold PaymentService.create
  cases hc : req.check with
  | some f => exact Sat.ret' hk fun _ h => h
  | none =>
    refine Sat.bind (Sat.atomic hk (fun _ => hk) fun w h =>
      ⟨.inr ⟨_, hok w hc, rfl⟩, paymentsKept_apply (j := i) h (.createPayment _)⟩) fun r => ?_
    cases r <;> exact Sat.ret' hk fun _ h => h

/-- Moving a payment through the payment service writes, if anything, a named move of the
payment it read, completing it with the request's trimmed transaction id when that is not
empty and with `txn` otherwise. -/
theorem sat_movePayment (hR : ∀ w w', R w w' → Others i w w') (id : Int) (req : PaymentMove)
    (txn : String) (now : Instant) (hok : ∀ w q, MoveWrite txn w q → Ok w (.updatePayment q)) :
    Sat R (Does i Ok) PaymentsKept
      (PaymentService.updateStatus (sharedPayments i) (pure txn) now id req)
      fun _ => PaymentsKept := by
  have hk : Stable R PaymentsKept := stable_paymentsKept.mono hR
  have hread : ∀ r : Except Fault Payment,
      Stable R fun w => ∀ p, r = .ok p → w.PaymentStored p :=
    fun _ w w' h hp p hr => stable_paymentStored p (hR w w' h) (hp p hr)
  unfold PaymentService.updateStatus
  cases PaymentService.parseStatus req.status with
  | error f => exact Sat.ret' hk fun _ h => h
  | ok target =>
    refine Sat.bind (sat_read (A := fun (r : Except Fault Payment) w =>
      ∀ p, r = .ok p → w.PaymentStored p) hk hread fun w h p hr => h.stored_of_find hr)
      fun r => ?_
    cases r with
    | error f => exact Sat.ret' (hk.and (hread _)) fun _ h => h.1
    | ok p =>
      have hpre : Stable R fun w => PaymentsKept w ∧ w.PaymentStored p :=
        hk.and ((stable_paymentStored p).mono hR)
      refine Sat.pre ?_ (hk.and (hread _)) fun w h =>
        (⟨h.1, h.2 p rfl⟩ : PaymentsKept w ∧ w.PaymentStored p)
      lift_lets
      intro written given
      -- after the move: a refused move answers at once, a named move of `p` is written
      have hwritten : ∀ m, Sat R (Does i Ok)
          (fun w => (PaymentsKept w ∧ w.PaymentStored p) ∧
            ∀ q, m = .ok q → PayMove p q ∧ CompletesWith txn q)
          (written m) fun _ => PaymentsKept := by
        intro m
        cases m with
        | error f => exact Sat.ret' (hpre.and (stable_const _)) fun _ h => h.1.1
        | ok q =>
          exact Sat.pre (Sat.of_pure (fun hq => sat_updateStep hR (hq q rfl).1 (hq q rfl).2
            (hok · q)) hpre) (hpre.and (stable_const _)) fun _ h => h
      have hmove : ∀ m, (∀ q, m = .ok q → PayMove p q ∧ CompletesWith txn q) →
          Sat R (Does i Ok) (fun w => PaymentsKept w ∧ w.PaymentStored p) (pure m >>= written)
            fun _ => PaymentsKept :=
        fun m hm => Sat.pure_bind ((hwritten m).pre hpre fun _ h => ⟨h, hm⟩)
      -- every stage move the request can name is a named move of the payment read, or refused
      dsimp only
      split
      · exact hmove _ fun q hq => ⟨.markProcessing hq, completesWith_of_markProcessing hq⟩
      · split
        · exact Sat.pure_bind (hmove _ fun q hq =>
            ⟨.markCompleted _ _ hq, fun _ => .inl (Payment.transactionId_of_markCompleted hq)⟩)
        · next hg =>
          exact Sat.pure_bind (hmove _ fun q hq => ⟨.markCompleted _ _ hq, fun _ => .inr
            (by rw [Payment.transactionId_of_markCompleted hq]; simpa using hg)⟩)
      · exact hmove _ fun q hq => ⟨.markFailed _ _ hq, completesWith_of_markFailed hq⟩
      · exact hmove _ fun q hq => ⟨.cancel hq, completesWith_of_cancel hq⟩
      · exact hmove _ fun q hq => by cases hq

end Steps

section Pool

variable {calls : List PaymentCall}

theorem sweeper_eq_true {j : Nat} {call : PaymentCall} (hc : calls[j]? = some call)
    (hs : sweeper calls j = true) : ∃ b cut a t, call = .sweep b cut a t := by
  unfold sweeper at hs
  rw [hc] at hs
  cases call with
  | sweep b cut a t => exact ⟨b, cut, a, t, rfl⟩
  | _ => simp [PaymentCall.isSweep] at hs

theorem lt_of_sweeper {j : Nat} (hs : sweeper calls j = true) : j < calls.length := by
  unfold sweeper at hs
  cases hc : calls[j]? with
  | none => simp [hc] at hs
  | some call => exact (List.getElem?_eq_some_iff.mp hc).1

/-- Every call of the pool satisfies its judgment: it makes only the writes it may, and a sweep
reports the completions its thread stored. -/
theorem PaymentCall.sat_run {i : Nat} {call : PaymentCall} (hc : calls[i]? = some call) :
    Sat (Pool.Rely Env (payGuarantee calls) i) (payGuarantee calls i) (call.Start i)
      (call.run i) fun a w => call.Reports i a w := by
  have hR : ∀ w w', Pool.Rely Env (payGuarantee calls) i w w' → Others i w w' :=
    fun _ _ h => rely_does h
  have hk : Stable (Pool.Rely Env (payGuarantee calls) i) PaymentsKept :=
    stable_paymentsKept.mono hR
  cases call with
  | create req =>
    exact Sat.bind (sat_createPayment hR req fun w _ => ⟨_, hc, _, rfl, rfl⟩) fun _ =>
      Sat.ret' hk fun _ _ => rfl
  | move id req txn now =>
    exact Sat.bind (sat_movePayment hR id req txn now fun w q hq => ⟨_, hc, q, rfl, hq.lawful⟩)
      fun _ => Sat.ret' hk fun _ _ => rfl
  | sweep batch cutoff attempt txn =>
    have hs : SweepRules i (Pool.Rely Env (payGuarantee calls) i)
        (fun w op => ∃ c, calls[i]? = some c ∧ c.Writes i w op) fun _ => True :=
      ⟨hR, fun _ _ h => ⟨_, hc, h⟩, stable_const True, fun _ _ h => h⟩
    exact Sat.bind ((sat_sweep attempt txn hs (recorder_tells hs) batch cutoff).pre (hs.swept 0)
      fun _ h => ⟨h, trivial⟩) fun r =>
      Sat.ret' ((hs.swept _).and hs.ready_stable) fun _ h => ⟨r.1, rfl, h.1.2.2.symm⟩

/-- A pool of payment calls starts safe. -/
theorem paymentPool_safe (now : Instant) (calls : List PaymentCall) :
    Pool.Safe Env (payGuarantee calls) (fun i a w => ∀ c, calls[i]? = some c → c.Reports i a w)
      (paymentPool now calls) := by
  refine Pool.safe_calls (fun i c _ => ?_) fun _ _ hc => PaymentCall.sat_run hc
  -- every call starts on the empty stores
  cases c with
  | sweep => exact ⟨paymentsKept_start now, rfl, rfl⟩
  | _ => exact paymentsKept_start now

end Pool

/-! ## The laws of settlement in every reachable state -/

/-- What each thread told the notifier is a prefix of what its writes call for. -/
def ToldInTurn (w : World) : Prop := ∀ j, w.noticesBy j <+: Told (w.paymentsBy j)

/-- Every write of a sweep that completed or failed a payment replaced what a claim of the same
thread wrote. -/
def SweepSettled (calls : List PaymentCall) (w : World) : Prop :=
  ∀ e ∈ w.paymentLog, sweeper calls e.who = true →
    (e.after.status = .completed ∨ e.after.status = .failed) →
    ∃ c ∈ w.paymentLog, c.who = e.who ∧ Claim c ∧ e.before = some c.after

/-- The laws every state of a pool of payment calls keeps. -/
structure SettleLaws (calls : List PaymentCall) (w : World) : Prop where
  history : PaymentHistory w
  told : ToldInTurn w
  settled : SweepSettled calls w

namespace World

theorem noticesBy_notify_ne (w : World) {i j : Nat} (n : Notice) (h : j ≠ i) :
    (w.notify j n).noticesBy i = w.noticesBy i := by
  simp [noticesBy, notify, h]

theorem noticesBy_of_notices {w w' : World} (h : w'.notices = w.notices) (i : Nat) :
    w'.noticesBy i = w.noticesBy i := by
  simp [noticesBy, h]

theorem notices_createPayment (w : World) (j : Nat) (p : Payment) :
    (w.apply j (.createPayment p)).notices = w.notices := by
  simp only [apply, createPayment]
  split <;> rfl

theorem notices_updatePayment (w : World) (j : Nat) (q : Payment) :
    (w.apply j (.updatePayment q)).notices = w.notices := by
  simp only [apply, updatePayment]
  split <;> rfl

end World

variable {calls : List PaymentCall} {w : World}

namespace PaymentCall

/-- A call writes a new pending payment, writes a payment, or tells what its thread's writes
call for next. -/
theorem Writes.cases {call : PaymentCall} {j : Nat} {op : Op} (h : call.Writes j w op) :
    (∃ p, op = .createPayment p ∧ p.status = .pending) ∨ (∃ q, op = .updatePayment q) ∨
      ∃ n, op = .notify n ∧ w.noticesBy j ++ [n] = Told (w.paymentsBy j) := by
  cases call with
  | create => exact .inl h
  | move =>
    obtain ⟨q, rfl, -⟩ := h
    exact .inr (.inl ⟨q, rfl⟩)
  | sweep =>
    rcases h with ⟨k, h⟩ | ⟨c, -, -, -, q, rfl, -⟩ | h
    · cases op with
      | updatePayment q => exact .inr (.inl ⟨q, rfl⟩)
      | _ => exact absurd h id
    · exact .inr (.inl ⟨q, rfl⟩)
    · exact .inr (.inr h)

theorem Writes.lawful {call : PaymentCall} {j : Nat} {op : Op} (hk : PaymentsKept w)
    (h : call.Writes j w op) : LawfulPayWrite w op := by
  cases call with
  | create =>
    obtain ⟨p, rfl, hp⟩ := h
    exact hp
  | move =>
    obtain ⟨q, rfl, hq⟩ := h
    exact hq
  | sweep => exact SweepWrites.lawful hk h

end PaymentCall

/-- A write to the payments tells nothing and only adds to what is owed; a notice is what its
thread owed next. -/
theorem ToldInTurn.apply (h : ToldInTurn w) {j : Nat} {op : Op}
    (hop : (∃ p, op = .createPayment p ∧ p.status = .pending) ∨ (∃ q, op = .updatePayment q) ∨
      ∃ n, op = .notify n ∧ w.noticesBy j ++ [n] = Told (w.paymentsBy j)) :
    ToldInTurn (w.apply j op) := by
  intro k
  obtain ⟨L, hL, -⟩ := (World.apply_logs w j op).2.1
  have hby : (w.apply j op).paymentsBy k = w.paymentsBy k ++ L.filter (·.who == k) := by
    simp [World.paymentsBy, hL]
  rcases hop with ⟨p, rfl, -⟩ | ⟨q, rfl⟩ | ⟨n, rfl, hn⟩
  · rw [hby, Told_append, World.noticesBy_of_notices (World.notices_createPayment w j p)]
    exact (h k).trans (List.prefix_append _ _)
  · rw [hby, Told_append, World.noticesBy_of_notices (World.notices_updatePayment w j q)]
    exact (h k).trans (List.prefix_append _ _)
  · show (w.notify j n).noticesBy k <+: Told ((w.notify j n).paymentsBy k)
    rw [World.paymentsBy_notify]
    by_cases hjk : j = k
    · subst hjk
      rw [World.noticesBy_notify, hn]
    · rw [World.noticesBy_notify_ne w n hjk]
      exact h k

/-- A write of a sweep completes or fails a payment only over what its own claim wrote. -/
theorem SweepSettled.apply (h : SweepSettled calls w) (hk : PaymentsKept w) {j : Nat} {op : Op}
    {call : PaymentCall} (hc : calls[j]? = some call) (hw : call.Writes j w op) :
    SweepSettled calls (w.apply j op) := by
  rcases hw.cases with ⟨p, rfl, hp⟩ | ⟨q, rfl⟩ | ⟨n, rfl, -⟩
  · rcases World.createPayment_cases w j p with ⟨f, hf⟩ | ⟨n, -, rfl, hcr⟩
    · simpa [World.apply, hf] using h
    intro e he hs hfin
    simp only [World.apply, hcr] at he ⊢
    rcases List.mem_append.mp he with he | he
    · obtain ⟨c, hcm, rest⟩ := h e he hs hfin
      exact ⟨c, List.mem_append_left _ hcm, rest⟩
    -- a new payment is pending
    rw [List.mem_singleton.mp he] at hfin
    simp [hp] at hfin
  · rcases World.updatePayment_cases w j q with ⟨f, hf⟩ | ⟨cur, n, hcur, hv, hn, hu⟩
    · simpa [World.apply, hf] using h
    intro e he hs hfin
    simp only [World.apply, hu] at he ⊢
    rcases List.mem_append.mp he with he | he
    · obtain ⟨c, hcm, rest⟩ := h e he hs hfin
      exact ⟨c, List.mem_append_left _ hcm, rest⟩
    -- the new write is a sweep's: a claim, or a settlement over its claim's write
    rw [List.mem_singleton.mp he] at hs hfin ⊢
    have hfin' : n.status = .completed ∨ n.status = .failed := hfin
    have hns : n.status = q.status := by rw [hn]
    obtain ⟨b, cut, a, t, rfl⟩ := sweeper_eq_true hc hs
    rcases hw with ⟨k, hid, hclaim⟩ | ⟨c, hcm, hcw, hcl, q', hq', hset⟩ | ⟨n', hn', -⟩
    · rw [hid] at hcur
      rw [hns, (Payment.moveTo_eq_ok_iff.mp (hclaim cur hcur hv)).2] at hfin'
      simp at hfin'
    · cases hq'
      have hstep := hset.step
      rw [hstep.id] at hcur
      obtain rfl := hk.eq_of_version ⟨c, hcm, rfl⟩ hcur (hv.trans hstep.version)
      exact ⟨c, List.mem_append_left _ hcm, hcw, hcl, rfl⟩
    · cases hn'
  · exact h

/-! ## Counting what was settled -/

section Counting

theorem length_filter_le_of_imp {α : Type} {l : List α} {p q : α → Bool}
    (h : ∀ x ∈ l, p x → q x) : (l.filter p).length ≤ (l.filter q).length := by
  simpa only [List.countP_eq_length_filter] using List.countP_mono_left h

theorem eq_of_mem_of_length_le_one {α : Type} {l : List α} {a b : α} (h : l.length ≤ 1)
    (ha : a ∈ l) (hb : b ∈ l) : a = b := by
  rcases l with _ | ⟨x, _ | ⟨y, l⟩⟩
  · cases ha
  · exact (List.mem_singleton.mp ha).trans (List.mem_singleton.mp hb).symm
  · simp at h

/-- Counting the members of a list that belong to threads below `n` thread by thread. -/
theorem length_filter_eq_sum {β : Type} (L : List β) (who : β → Nat) (S : Nat → Bool)
    (P : β → Bool) (n : Nat) (hS : ∀ j, S j = true → j < n) :
    (L.filter fun x => S (who x) && P x).length =
      ∑ j ∈ Finset.range n, if S j then (L.filter fun x => P x && who x == j).length else 0 := by
  induction L with
  | nil => simp
  | cons x L ih =>
    -- `x` is counted under its own thread and no other
    have hx : (∑ j ∈ Finset.range n,
        if S j then (if (P x && who x == j) = true then 1 else 0) else 0) =
          if (S (who x) && P x) = true then 1 else 0 := by
      by_cases h : (S (who x) && P x) = true
      · rw [if_pos h, Finset.sum_eq_single (who x)]
        · simp_all
        · intro j _ hj
          simp [Ne.symm hj]
        · intro hn
          simp at h
          exact absurd (Finset.mem_range.mpr (hS _ h.1)) hn
      · rw [if_neg h]
        refine Finset.sum_eq_zero fun j _ => ?_
        by_cases hj : who x = j
        · subst hj; simp_all
        · simp [hj]
    calc (List.filter (fun x => S (who x) && P x) (x :: L)).length
        = (if (S (who x) && P x) = true then 1 else 0) +
            (L.filter fun x => S (who x) && P x).length := by
          rw [List.filter_cons]; split <;> simp [Nat.add_comm]
      _ = _ := by
          rw [ih, ← hx, ← Finset.sum_add_distrib]
          refine Finset.sum_congr rfl fun j _ => ?_
          rw [List.filter_cons]
          by_cases hj : S j = true <;> by_cases hxj : (P x && who x == j) = true <;>
            simp [hj, hxj, Nat.add_comm]

/-- Summing what the finished threads answer, thread by thread. -/
theorem sum_filterMap_eq_sum_range {α : Type} (rs : List (Option α)) (f : α → Nat)
    (F : Nat → Nat) (h : ∀ j (hj : j < rs.length), (rs[j].map f).getD 0 = F j) :
    ((rs.filterMap id).map f).sum = ∑ j ∈ Finset.range rs.length, F j := by
  induction rs using List.reverseRecOn with
  | nil => simp
  | append_singleton rs a ih =>
    have hl : ∀ j (hj : j < rs.length), (rs[j].map f).getD 0 = F j := fun j hj => by
      have := h j (by simp; omega)
      rwa [List.getElem_append_left hj] at this
    have ha := h rs.length (by simp)
    rw [List.length_append, List.length_singleton, Finset.sum_range_succ, ← ih hl]
    simp only [List.getElem_append_right (Nat.le_refl _), Nat.sub_self] at ha
    rw [← ha]
    cases a <;> simp

/-- The writes to one payment reach a stage's rank at most once. -/
theorem PaymentHistory.rank_once (h : PaymentHistory w) (k : Int) (r : Nat) :
    (w.paymentLog.filter fun e => e.after.status.rank == r && e.after.id == k).length ≤ 1 := by
  have := List.nodup_iff_count_le_one.mp (h.ranks k) r
  simpa [List.count_eq_length_filter, List.filter_map, List.filter_filter, Function.comp_def]
    using this

/-- A payment is stored as processing at most once. -/
theorem PaymentHistory.claimed_once (h : PaymentHistory w) (k : Int) :
    (w.paymentLog.filter fun e => e.after.id == k && e.after.status == .processing).length ≤ 1 :=
  (length_filter_le_of_imp fun e _ hp => by
    have hp' : e.after.id = k ∧ e.after.status = .processing := by simpa using hp
    simp [hp'.1, hp'.2, PaymentStatus.rank]).trans (h.rank_once k 1)

/-- The payments stored at one stage are distinct payments. -/
theorem PaymentHistory.nodup_ids (h : PaymentHistory w) (P : Entry Payment → Bool)
    (s : PaymentStatus) :
    ((w.paymentLog.filter fun e => P e && e.after.status == s).map (·.after.id)).Nodup := by
  refine List.nodup_iff_count_le_one.mpr fun k => ?_
  rw [List.count_eq_length_filter, List.filter_map, List.length_map, List.filter_filter]
  refine (length_filter_le_of_imp fun e _ hp => ?_).trans (h.rank_once k s.rank)
  have hp' : e.after.id = k ∧ P e = true ∧ e.after.status = s := by simpa using hp
  simp [hp'.1, hp'.2.2]

/-- One order's payment is settled at most once: all writes about the order are of one
payment, and that payment reaches the final rank once. -/
theorem PaymentHistory.settled_once (h : PaymentHistory w) (k : Int) :
    (w.paymentLog.filter fun e => e.after.orderId == k && e.after.status.rank == 2).length ≤ 1 := by
  cases hL : w.paymentLog.filter (fun e => e.after.orderId == k && e.after.status.rank == 2) with
  | nil => simp
  | cons e0 rest =>
    have he0 : e0 ∈ w.paymentLog ∧ e0.after.orderId = k := by
      have := List.mem_filter.mp (hL ▸ List.mem_cons_self : e0 ∈ w.paymentLog.filter _)
      simp_all
    rw [← hL]
    refine (length_filter_le_of_imp fun e he hp => ?_).trans (h.rank_once e0.after.id 2)
    have hp' : e.after.orderId = k ∧ e.after.status.rank = 2 := by simpa using hp
    have hid := h.orders e he e0 he0.1 (hp'.1.trans he0.2.symm)
    simp [hp'.2, hid]

/-- At most one notice is about any order: each follows, in its thread's turn, the one write
that settled the order's payment. -/
theorem SettleLaws.notices_once (h : SettleLaws calls w) (k : Int) :
    (w.notices.filter fun x => x.2.orderId == k).length ≤ 1 := by
  have hone := h.history.settled_once k
  -- a notice about `k` follows a write by its thread that settled the payment of `k`
  have hsrc : ∀ x ∈ w.notices, x.2.orderId = k → ∃ e ∈ w.paymentLog.filter
      (fun e => e.after.orderId == k && e.after.status.rank == 2), e.who = x.1 := by
    intro x hx hxk
    have hmem : x.2 ∈ w.noticesBy x.1 :=
      List.mem_map.mpr ⟨x, List.mem_filter.mpr ⟨hx, by simp⟩, rfl⟩
    obtain ⟨e, he, hn⟩ := List.mem_flatMap.mp ((h.told x.1).subset hmem)
    obtain ⟨heo, hrank⟩ := told_orderId hn
    have he' := List.mem_filter.mp he
    exact ⟨e, List.mem_filter.mpr ⟨he'.1, by simp [← heo, hxk, hrank]⟩, by simpa using he'.2⟩
  cases hL : w.notices.filter (fun x => x.2.orderId == k) with
  | nil => simp
  | cons x0 rest =>
    have hx0 := List.mem_filter.mp (hL ▸ List.mem_cons_self : x0 ∈ w.notices.filter _)
    obtain ⟨e0, he0, hw0⟩ := hsrc x0 hx0.1 (by simpa using hx0.2)
    rw [← hL]
    -- so they are all by the thread of that one write
    have hthread : w.notices.filter (fun x => x.2.orderId == k) =
        w.notices.filter (fun x => x.2.orderId == k && x.1 == x0.1) :=
      List.filter_congr fun x hx => by
        by_cases hxk : x.2.orderId = k
        · obtain ⟨e, he, hw⟩ := hsrc x hx hxk
          have := eq_of_mem_of_length_le_one hone he he0
          subst this
          simp [hxk, ← hw, hw0]
        · simp [hxk]
    calc (w.notices.filter fun x => x.2.orderId == k).length
        = ((w.noticesBy x0.1).filter fun n => n.orderId == k).length := by
          rw [hthread]
          simp [World.noticesBy, List.filter_map, List.filter_filter, Function.comp_def]
      _ ≤ ((Told (w.paymentsBy x0.1)).filter fun n => n.orderId == k).length :=
          ((h.told x0.1).sublist.filter _).length_le
      _ ≤ ((w.paymentsBy x0.1).filter fun e =>
            e.after.orderId == k && e.after.status.rank == 2).length := length_filter_Told _ k
      _ ≤ (w.paymentLog.filter fun e =>
            e.after.orderId == k && e.after.status.rank == 2).length :=
          (List.filter_sublist.filter _).length_le
      _ ≤ 1 := hone

end Counting

theorem stable_settleLaws (calls : List PaymentCall) (i : Nat) :
    Stable (payGuarantee calls i) (SettleLaws calls) := by
  rintro w w' (rfl | ⟨op, ⟨call, hc, hw⟩, rfl⟩) h
  · exact h
  · exact ⟨h.history.apply (hw.lawful h.history.kept) i, h.told.apply hw.cases,
      h.settled.apply h.history.kept hc hw⟩

/-- The laws of settlement hold in every state a pool of payment calls reaches. -/
theorem settleLaws_reach (now : Instant) (calls : List PaymentCall)
    {c : World × List (Prog World (Option SweepResult))}
    (hr : Relation.ReflTransGen (Pool.Step Env) (paymentPool now calls) c) : SettleLaws calls c.1 :=
  (paymentPool_safe now calls).invariant (stable_settleLaws calls)
    (fun w w' he h => ⟨h.history.env he, fun j => by
        rw [World.noticesBy_of_notices (Env.stores he).2.2.2.2, World.others_paymentsBy (.inl he)]
        exact h.told j,
      fun e hl => by
        rw [(Env.stores he).2.2.2.1] at hl ⊢
        exact h.settled e hl⟩)
    ⟨PaymentHistory.start now, fun _ => List.prefix_refl _, fun _ he => by cases he⟩ hr

/-- When every call of the pool has finished, the completions the sweeps report add up to the
writes by sweeps that stored a payment completed. -/
theorem completions_reported (now : Instant) (calls : List PaymentCall)
    {c : World × List (Prog World (Option SweepResult))}
    (hr : Relation.ReflTransGen (Pool.Step Env) (paymentPool now calls) c)
    (rs : List (Option SweepResult)) (hrs : c.2 = rs.map Prog.ret) :
    ((rs.filterMap id).map (·.completed)).sum =
      (c.1.paymentLog.filter fun e => sweeper calls e.who && e.after.status == .completed).length := by
  have hsafe := (paymentPool_safe now calls).reach hr
  have hlen : rs.length = calls.length := by
    simpa [hrs, paymentPool] using Pool.length_of_reach hr
  -- thread `j` answered what its call reports: a sweep its completions, the others nothing
  have hthread : ∀ j (hj : j < rs.length), (rs[j].map (·.completed)).getD 0 =
      if sweeper calls j then c.1.completedBy j else 0 := fun j hj => by
    obtain ⟨call, hc⟩ : ∃ call, calls[j]? = some call :=
      ⟨calls[j], List.getElem?_eq_getElem (hlen ▸ hj)⟩
    have hrep := hsafe.finished (i := j) (a := rs[j])
      (by rw [hrs, List.getElem?_map, List.getElem?_eq_getElem hj]; rfl) call hc
    cases call with
    | sweep b cut a t =>
      obtain ⟨r, hr', hcount⟩ := hrep
      simp [hr', hcount, sweeper, hc, PaymentCall.isSweep]
    | _ =>
      rw [show rs[j] = none from hrep]
      simp [sweeper, hc, PaymentCall.isSweep]
  rw [sum_filterMap_eq_sum_range rs _ _ hthread, hlen]
  calc ∑ j ∈ Finset.range calls.length, (if sweeper calls j then c.1.completedBy j else 0)
      = ∑ j ∈ Finset.range calls.length, if sweeper calls j then
          (c.1.paymentLog.filter fun e => e.after.status == .completed && e.who == j).length
        else 0 := Finset.sum_congr rfl fun j _ => by rw [World.completedBy_eq]
    _ = _ := (length_filter_eq_sum c.1.paymentLog Entry.who (sweeper calls)
          (fun e => e.after.status == .completed) calls.length fun j hs => lt_of_sweeper hs).symm

/-- **Concurrent sweeps settle each payment once.** However many sweeps run on one payment
store, interleaved in every way with payments being created and moved through the payment
service, with any settlement outcomes, in every reachable state:

1. each payment was stored as processing at most once, so at most one sweep claimed it;
2. a sweep stored a payment completed or failed only over what its own claim of that payment
   wrote, so only while the stored version was the one its claim produced;
3. what each thread told the notifier is a prefix of what its writes call for (a completion
   with the order and payment id after it stored the payment completed, a cancellation with
   the order and the stored reason after it stored it failed), and no order is told about
   twice;
4. once every call has finished, the payments the sweeps stored completed are distinct, and
   the completions the sweeps report add up to their number. -/
theorem sweeps_settle_each_payment_once (now : Instant) (calls : List PaymentCall)
    {c : World × List (Prog World (Option SweepResult))}
    (hr : Relation.ReflTransGen (Pool.Step Env) (paymentPool now calls) c) :
    (∀ k, (c.1.paymentLog.filter fun e =>
      e.after.id == k && e.after.status == .processing).length ≤ 1) ∧
    (∀ e ∈ c.1.paymentLog, sweeper calls e.who = true →
      (e.after.status = .completed ∨ e.after.status = .failed) →
      ∃ cl ∈ c.1.paymentLog, cl.who = e.who ∧ Claim cl ∧ e.before = some cl.after) ∧
    (∀ j, c.1.noticesBy j <+: Told (c.1.paymentsBy j)) ∧
    (∀ k, (c.1.notices.filter fun x => x.2.orderId == k).length ≤ 1) ∧
    ∀ rs : List (Option SweepResult), c.2 = rs.map Prog.ret →
      ((c.1.paymentLog.filter fun e =>
        sweeper calls e.who && e.after.status == .completed).map (·.after.id)).Nodup ∧
      ((rs.filterMap id).map (·.completed)).sum =
        (c.1.paymentLog.filter fun e =>
          sweeper calls e.who && e.after.status == .completed).length := by
  have h := settleLaws_reach now calls hr
  exact ⟨h.history.claimed_once, h.settled, h.told, h.notices_once, fun rs hrs =>
    ⟨h.history.nodup_ids _ _, completions_reported now calls hr rs hrs⟩⟩

/-- A payment for order 1, then two sweeps that both list it while it is pending: the first claims
it, completes it and tells the order service; the second's claim is refused and it skips the
payment. -/
theorem sweeps_settle_listed_payment_once :
    let calls : List PaymentCall :=
      [.create ⟨1, ⟨100, 0⟩, "card"⟩, .sweep 10 ⟨0⟩ (fun _ => .settled) "TXN-A",
       .sweep 10 ⟨0⟩ (fun _ => .refused "card expired") "TXN-B"]
    let c := Pool.schedule (paymentPool Instant.zero calls) [0, 1, 1, 2, 2, 1, 1, 1, 1, 1, 2, 2]
    let rs : List (Option SweepResult) := [none, some ⟨1, 1, 0, 0, 0⟩, some ⟨1, 0, 0, 0, 1⟩]
    Relation.ReflTransGen (Pool.Step Env) (paymentPool Instant.zero calls) c ∧
    c.2 = rs.map Prog.ret ∧ c.1.notices.length = 1 ∧
    (c.1.paymentLog.map fun e => (e.who, e.after.status)) =
      [(0, .pending), (1, .processing), (1, .completed)] ∧
    (∀ k, (c.1.paymentLog.filter fun e =>
      e.after.id == k && e.after.status == .processing).length ≤ 1) ∧
    (∀ e ∈ c.1.paymentLog, sweeper calls e.who = true →
      (e.after.status = .completed ∨ e.after.status = .failed) →
      ∃ cl ∈ c.1.paymentLog, cl.who = e.who ∧ Claim cl ∧ e.before = some cl.after) ∧
    (∀ j, c.1.noticesBy j <+: Told (c.1.paymentsBy j)) ∧
    (∀ k, (c.1.notices.filter fun x => x.2.orderId == k).length ≤ 1) ∧
    ((c.1.paymentLog.filter fun e =>
        sweeper calls e.who && e.after.status == .completed).map (·.after.id)).Nodup ∧
    ((rs.filterMap id).map (·.completed)).sum =
      (c.1.paymentLog.filter fun e => sweeper calls e.who && e.after.status == .completed).length := by
  intro calls c rs
  have hr : Relation.ReflTransGen (Pool.Step Env) (paymentPool Instant.zero calls) c :=
    Pool.reach_schedule _ _
  have hrs : c.2 = rs.map Prog.ret := Pool.eq_map_ret_of_values (by decide +kernel)
  obtain ⟨h1, h2, h3, h4, h5⟩ := sweeps_settle_each_payment_once Instant.zero calls hr
  exact ⟨hr, hrs, by decide +kernel, by decide +kernel, h1, h2, h3, h4, h5 rs hrs⟩

end Fulfillment
