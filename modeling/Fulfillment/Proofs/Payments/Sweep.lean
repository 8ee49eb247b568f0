import Fulfillment.Proofs.Payments.Laws
import Fulfillment.Service.Processor

/-!
# A sweep on the shared payment store

A settlement sweep run by one thread of a pool: its store calls go to the shared payment store,
its settlement attempts answer with any outcome (`attempt`), and its notifier records every call
in the world under the thread's name (`recorder`), where the claims about notices read them.

The sweep is shown to satisfy a judgment whose guarantee names its writes (`SweepWrites`): it
claims a payment by writing `markProcessing` of the payment it replaces; it writes a payment
completed or failed only as a settlement of a payment its own claim left, and only when that
claim's write is still the stored payment; and it calls the notifier only with what its own last
write calls for (`Told`). Its postcondition counts: the completions it reports are the writes it
made that completed a payment.
-/

namespace Fulfillment

open Prog

/-- What a sweep tells the order service after writing `p`: a completion with the payment id, a
failure with its reason, nothing for any other stage. -/
def told (p : Payment) : List Notice :=
  match p.status with
  | .completed => [.completed p.orderId p.id]
  | .failed => [.cancelled p.orderId p.failureReason]
  | _ => []

/-- What a run of writes calls for telling, in order. -/
def Told (es : List (Entry Payment)) : List Notice := es.flatMap fun e => told e.after

/-- Nothing panics in a program of atomic steps. -/
instance {σ : Type} : MonadRecover (Prog σ) where
  recover x _ := x

@[simp] theorem Prog.recover_eq {σ α : Type} (x : Prog σ α) (h : String → Prog σ α) :
    MonadRecover.recover x h = x := rfl

/-- The order a notice is about. -/
def Notice.orderId : Notice → Int
  | .completed orderId _ => orderId
  | .cancelled orderId _ => orderId

/-- The notifier of thread `i`: every call is one step recorded under `i`. -/
def recorder (i : Nat) : Notifier (Prog World) where
  markCompleted orderId paymentId := .atomic fun w => ((), w.notify i (.completed orderId paymentId))
  cancel orderId reason := .atomic fun w => ((), w.notify i (.cancelled orderId reason))

/-- A sweep run by thread `i`: the shared payment store, the settlement outcomes `attempt`, the
transaction id `txn`, the shared clock and the thread's halt signal. -/
def sweepEnv (i : Nat) (attempt : Payment → Attempt) (txn : String) : SweepEnv (Prog World) where
  payments := sharedPayments i
  attempt p := pure (attempt p)
  notifier := some (recorder i)
  freshTransaction := pure txn
  now := readClock
  calledOff := .atomic fun w => (w.halted i, w)

/-- A sweep run by thread `i` that calls the notifier `n`, otherwise as `sweepEnv`. -/
def sweepEnvWith (i : Nat) (n : Notifier (Prog World)) (attempt : Payment → Attempt)
    (txn : String) : SweepEnv (Prog World) where
  payments := sharedPayments i
  attempt p := pure (attempt p)
  notifier := some n
  freshTransaction := pure txn
  now := readClock
  calledOff := .atomic fun w => (w.halted i, w)

/-- A claim: a write that moved a pending payment to processing. -/
def Claim (e : Entry Payment) : Prop :=
  ∃ b, e.before = some b ∧ b.status = .pending ∧ e.after.status = .processing

/-- `q` settles `p`: completes it or fails it. -/
def Settles (p q : Payment) : Prop :=
  (∃ txn at_, p.markCompleted txn at_ = .ok q) ∨ ∃ reason at_, p.markFailed reason at_ = .ok q

/-- What a sweep of thread `i` may do in one step: claim a payment, settle a payment its own
claim wrote, or tell what its own last write calls for. -/
def SweepWrites (i : Nat) (w : World) (op : Op) : Prop :=
  (∃ k, PayWrites Payment.markProcessing k w op) ∨
  (∃ c ∈ w.paymentLog, c.who = i ∧ Claim c ∧ ∃ q, op = .updatePayment q ∧ Settles c.after q) ∨
  ∃ n, op = .notify n ∧ w.noticesBy i ++ [n] = Told (w.paymentsBy i)

/-- What a sweep of thread `i` needs of the pool it runs in: the others do no more than
`Others i` allows, every write of a sweep is one the thread may make, and `Ready`, what the
notifier may start from, survives whatever the others or the thread itself do. -/
structure SweepRules (i : Nat) (R : World → World → Prop) (Ok : World → Op → Prop)
    (Ready : World → Prop) : Prop where
  rely : ∀ w w', R w w' → Others i w w'
  writes : ∀ w op, SweepWrites i w op → Ok w op
  ready_stable : Stable R Ready
  ready_kept : ∀ w op, Ready w → Ready (w.apply i op)

namespace World

/-- The payments thread `i` stored COMPLETED. -/
def completedBy (w : World) (i : Nat) : Nat :=
  ((w.paymentsBy i).filter (·.after.status == .completed)).length

end World

/-- Where a sweep of thread `i` stands between payments: the store agrees with its log, the
thread has told what all its writes call for, and it completed `k` payments. -/
def Swept (i k : Nat) (w : World) : Prop :=
  PaymentsKept w ∧ w.noticesBy i = Told (w.paymentsBy i) ∧ w.completedBy i = k

/-- Right after a write of `p` by thread `i`, it has told all but what `p` calls for. -/
def Owing (i : Nat) (p : Payment) (k : Nat) (w : World) : Prop :=
  PaymentsKept w ∧ w.noticesBy i ++ told p = Told (w.paymentsBy i) ∧ w.completedBy i = k

/-- Thread `i` claimed a payment and its claim wrote `p`. -/
def Claimed (i : Nat) (p : Payment) (w : World) : Prop :=
  ∃ c ∈ w.paymentLog, c.who = i ∧ Claim c ∧ c.after = p

section Stability

variable {i : Nat}

theorem stable_swept (k : Nat) : Stable (Others i) (Swept i k) :=
  fun _ _ h ⟨hk, ht, hc⟩ => ⟨stable_paymentsKept h hk,
    by rw [World.others_noticesBy h, World.others_paymentsBy h]; exact ht,
    by unfold World.completedBy; rw [World.others_paymentsBy h]; exact hc⟩

theorem stable_claimed (p : Payment) : Stable (Others i) (Claimed i p) := by
  rintro w w' h ⟨c, hc, rest⟩
  obtain ⟨L, hL, -⟩ := (World.others_logs h).2.1
  exact ⟨c, hL ▸ List.mem_append_left _ hc, rest⟩

end Stability

theorem World.completedBy_eq (w : World) (i : Nat) :
    w.completedBy i =
      (w.paymentLog.filter fun e => e.after.status == .completed && e.who == i).length := by
  simp [World.completedBy, World.paymentsBy, List.filter_filter]

namespace World

@[simp] theorem noticesBy_notify (w : World) (i : Nat) (n : Notice) :
    (w.notify i n).noticesBy i = w.noticesBy i ++ [n] := by
  simp [noticesBy, notify]

@[simp] theorem paymentsBy_notify (w : World) (i j : Nat) (n : Notice) :
    (w.notify j n).paymentsBy i = w.paymentsBy i := rfl

end World

theorem Told_append (L L' : List (Entry Payment)) : Told (L ++ L') = Told L ++ Told L' :=
  List.flatMap_append

/-- A notice is told about the order of a payment that was completed or failed. -/
theorem told_orderId {p : Payment} {n : Notice} (h : n ∈ told p) :
    n.orderId = p.orderId ∧ p.status.rank = 2 := by
  unfold told at h
  split at h <;> simp_all [Notice.orderId, PaymentStatus.rank]

/-- A run of writes calls for at most one notice about an order per write that settled one of
its payments. -/
theorem length_filter_Told (L : List (Entry Payment)) (k : Int) :
    ((Told L).filter fun n => n.orderId == k).length ≤
      (L.filter fun e => e.after.orderId == k && e.after.status.rank == 2).length := by
  induction L with
  | nil => simp [Told]
  | cons e L ih =>
    have hcons : Told (e :: L) = told e.after ++ Told L := rfl
    have he : ((told e.after).filter fun n => n.orderId == k).length ≤
        if (e.after.orderId == k && e.after.status.rank == 2) = true then 1 else 0 := by
      unfold told
      split <;> simp_all [Notice.orderId, PaymentStatus.rank] <;> split <;> simp_all
    rw [hcons, List.filter_append, List.length_append, List.filter_cons]
    split
    · next hp =>
      rw [if_pos hp] at he
      rw [List.length_cons]
      omega
    · next hp =>
      rw [if_neg hp] at he
      omega

/-- After thread `i` logs a write `e` of its own, with nothing told in between, it owes what
`e` calls for and counts one more completion if `e` completed a payment. -/
theorem owing_of_write {i k : Nat} {w w' : World} {e : Entry Payment} (hk : PaymentsKept w')
    (hl : w'.paymentLog = w.paymentLog ++ [e]) (hn : w'.notices = w.notices) (hwho : e.who = i)
    (ht : w.noticesBy i = Told (w.paymentsBy i)) (hc : w.completedBy i = k) :
    Owing i e.after (k + if e.after.status = .completed then 1 else 0) w' := by
  have hby : w'.paymentsBy i = w.paymentsBy i ++ [e] := by
    simp [World.paymentsBy, hl, hwho]
  refine ⟨hk, ?_, ?_⟩
  · rw [hby, Told_append, ← ht]
    simp [World.noticesBy, hn, Told]
  · rw [← hc]
    unfold World.completedBy
    rw [hby, List.filter_append, List.length_append]
    by_cases hs : e.after.status = .completed <;> simp [hs]

theorem Owing.swept {i k : Nat} {p : Payment} {w : World} (h : Owing i p k w) (ht : told p = []) :
    Swept i k w :=
  ⟨h.1, by simpa [ht] using h.2.1, h.2.2⟩

/-- Only a pending payment can be claimed. -/
theorem PaymentStatus.eq_pending_of_canMoveTo {s : PaymentStatus}
    (h : s.canMoveTo .processing = true) : s = .pending := by
  cases s <;> simp_all [PaymentStatus.canMoveTo]

theorem Settles.step {p q : Payment} (h : Settles p q) : PayStep p q := by
  rcases h with ⟨txn, at_, h⟩ | ⟨reason, at_, h⟩
  · exact PayStep.markCompleted h
  · exact PayStep.markFailed h

theorem Payment.status_of_markFailed {b x : Payment} {reason : String} {at_ : Instant}
    (h : b.markFailed reason at_ = .ok x) : x.status = .failed := by
  rw [(Payment.markFailed_eq_ok h).2]

/-- Every write of a sweep keeps the laws of the payment store: a claim is a step of the payment
it replaces, and a settlement goes through only over what the claim wrote. -/
theorem SweepWrites.lawful {i : Nat} {w : World} {op : Op} (hk : PaymentsKept w)
    (h : SweepWrites i w op) : LawfulPayWrite w op := by
  rcases h with ⟨k, h⟩ | ⟨c, hc, -, -, q, rfl, hq⟩ | ⟨n, rfl, -⟩
  · exact h.lawful payLawful_markProcessing
  · intro cur hcur hv
    have hstep := hq.step
    rw [hstep.id] at hcur
    obtain rfl := hk.eq_of_version ⟨c, hc, rfl⟩ hcur (hv.trans hstep.version)
    exact hstep
  · trivial

@[simp] theorem SweepResult.tally_completed (r : SweepResult) (o : SweepOutcome) :
    (r.tally o).completed = r.completed + if o = .completed then 1 else 0 := by
  cases o <;> simp [SweepResult.tally]

/-- A sweep is only offered payments that are stored. -/
theorem PaymentStore.mem_of_mem_eligible {s : PaymentStore} {before : Instant} {limit : Int}
    {p : Payment} (h : p ∈ s.eligible before limit) : p ∈ s.payments := by
  have htake : ∀ l : List Payment, p ∈ (if 0 < limit then l.take limit.toNat else l) → p ∈ l :=
    fun l hl => by
      split at hl
      · exact List.mem_of_mem_take hl
      · exact hl
  exact (List.mem_filter.mp (List.mem_mergeSort.mp (htake _ h))).1

/-! ## The steps of a sweep -/

/-- A notifier that tells what a write calls for, run by thread `i` among others that keep to
`R`: each call, made when the thread owes exactly the notice it sends, leaves the thread having
told all it owes, and keeps `Ready`. -/
structure Tells (i : Nat) (R : World → World → Prop) (Ok : World → Op → Prop)
    (Ready : World → Prop) (n : Notifier (Prog World)) : Prop where
  completed : ∀ p k, p.status = .completed →
    Sat R (Does i Ok) (fun w => Owing i p k w ∧ Ready w) (n.markCompleted p.orderId p.id)
      fun _ w => Swept i k w ∧ Ready w
  cancelled : ∀ p k, p.status = .failed →
    Sat R (Does i Ok) (fun w => Owing i p k w ∧ Ready w) (n.cancel p.orderId p.failureReason)
      fun _ w => Swept i k w ∧ Ready w

section Steps

variable {i : Nat} {R : World → World → Prop} {Ok : World → Op → Prop} {Ready : World → Prop}
  {n : Notifier (Prog World)} (attempt : Payment → Attempt) (txn : String)

theorem SweepRules.ready_own (hs : SweepRules i R Ok Ready) : Stable (Does i Ok) Ready := by
  rintro w w' (rfl | ⟨op, -, rfl⟩) h
  · exact h
  · exact hs.ready_kept w op h

theorem SweepRules.swept (hs : SweepRules i R Ok Ready) (k : Nat) : Stable R (Swept i k) :=
  (stable_swept k).mono hs.rely

theorem SweepRules.claimed (hs : SweepRules i R Ok Ready) (p : Payment) :
    Stable R (Claimed i p) :=
  (stable_claimed p).mono hs.rely

theorem SweepRules.stored (hs : SweepRules i R Ok Ready) (ps : List Payment) :
    Stable R fun w => ∀ p ∈ ps, w.PaymentStored p :=
  fun _ _ h hp p hm => (stable_paymentStored p).mono hs.rely h (hp p hm)

theorem SweepRules.owing (hs : SweepRules i R Ok Ready) (p : Payment) (k : Nat) :
    Stable R (Owing i p k) := fun w w' h ⟨hk, ht, hc⟩ => by
  have h' := hs.rely w w' h
  refine ⟨stable_paymentsKept h' hk, ?_, ?_⟩
  · rw [World.others_noticesBy h', World.others_paymentsBy h']; exact ht
  · unfold World.completedBy; rw [World.others_paymentsBy h']; exact hc

/-- One recorded notice `m`, when that is what the thread owes. -/
theorem sat_tell (hs : SweepRules i R Ok Ready) {p : Payment} {m : Notice} (hm : told p = [m])
    (k : Nat) :
    Sat R (Does i Ok) (fun w => Owing i p k w ∧ Ready w) (Prog.atomic fun w => ((), w.notify i m))
      fun _ w => Swept i k w ∧ Ready w := by
  refine (Sat.atomic (hs.owing p k) (fun _ => hs.swept k) fun w ⟨hk, ht, hc⟩ => ?_).keep
    hs.ready_stable hs.ready_own
  rw [hm] at ht
  exact ⟨.inr ⟨.notify m, hs.writes w _ (.inr (.inr ⟨m, rfl, ht⟩)), rfl⟩, hk,
    by rw [World.noticesBy_notify, World.paymentsBy_notify]; exact ht, hc⟩

/-- The recorder tells what it is asked to, in one step a call. -/
theorem recorder_tells (hs : SweepRules i R Ok Ready) : Tells i R Ok Ready (recorder i) :=
  ⟨fun p k hst => sat_tell hs (by simp [told, hst]) k,
    fun p k hst => sat_tell hs (by simp [told, hst]) k⟩

/-- Telling what a write of `p` calls for: a completion, a failure, or nothing. -/
theorem sat_notify (hs : SweepRules i R Ok Ready) (hn : Tells i R Ok Ready n) (p : Payment)
    (k : Nat) :
    Sat R (Does i Ok) (fun w => Owing i p k w ∧ Ready w)
      (Sweep.notify (sweepEnvWith i n attempt txn) p) fun _ w => Swept i k w ∧ Ready w := by
  unfold Sweep.notify
  dsimp only [sweepEnvWith]
  cases hst : p.status with
  | completed => exact hn.completed p k hst
  | failed => exact hn.cancelled p k hst
  | _ =>
    exact Sat.ret' ((hs.owing p k).and hs.ready_stable) fun w ⟨⟨hk, ht, hc⟩, hr⟩ =>
      ⟨⟨hk, by simpa [told, hst] using ht, hc⟩, hr⟩

/-- Writing the claim of a payment `p` that was stored: accepted, the thread's own claim wrote
what the write returns, and nothing is owed for it; refused, nothing changed. -/
theorem sat_claim (hs : SweepRules i R Ok Ready) {p claimed : Payment}
    (hc : p.markProcessing = .ok claimed) (k : Nat) :
    Sat R (Does i Ok) (fun w => Swept i k w ∧ w.PaymentStored p)
      ((sharedPayments i).update claimed) fun r w => match r with
        | .ok n => Swept i k w ∧ Claimed i n w
        | .error _ => Swept i k w := by
  have hstep : PayStep p claimed := payLawful_markProcessing p claimed hc
  have hst : claimed.status = .processing := by rw [(Payment.moveTo_eq_ok_iff.mp hc).2]
  have hpre : Stable R fun w => Swept i k w ∧ w.PaymentStored p :=
    (hs.swept k).and ((stable_paymentStored p).mono hs.rely)
  show Sat _ _ _ (Prog.atomic fun w : World => w.updatePayment i claimed) _
  refine Sat.atomic hpre (fun r => ?_) fun w ⟨⟨hk, ht, hn⟩, hp⟩ => ?_
  · cases r
    · exact hs.swept k
    · exact (hs.swept k).and (hs.claimed _)
  rcases World.updatePayment_cases w i claimed with ⟨f, hf⟩ | ⟨cur, n, hcur, hv, hnc, hu⟩
  · simp only [hf]
    exact ⟨.inl rfl, hk, ht, hn⟩
  -- the write went through, so the stored payment had `p`'s version: it is `p`
  rw [hstep.id] at hcur
  obtain rfl : cur = p := hk.eq_of_version hp hcur (hv.trans hstep.version)
  have hns : n.status = .processing := by rw [hnc]; exact hst
  have hw : w.apply i (.updatePayment claimed) = (w.updatePayment i claimed).2 := rfl
  have hk' := paymentsKept_apply (j := i) hk (.updatePayment claimed)
  rw [hw, hu] at hk'
  have hown : Owing i n k (w.updatePayment i claimed).2 := by
    rw [hu]; simpa [hns] using owing_of_write hk' rfl rfl rfl ht hn
  rw [hu] at hown
  simp only [hu]
  refine ⟨.inr ⟨.updatePayment claimed,
      hs.writes w _ (.inl ⟨cur.id, hstep.id, fun c hc' _ => ?_⟩), by rw [hw, hu]⟩,
    hown.swept (by simp [told, hns]), _, List.mem_append_right _ (List.mem_singleton_self _), rfl,
    ⟨cur, rfl, PaymentStatus.eq_pending_of_canMoveTo (hst ▸ hstep.status), hns⟩, rfl⟩
  rw [← Option.some.inj (hcur.symm.trans hc')]
  exact hc

/-- Writing a settlement `q` of the payment `p` the thread's claim wrote: accepted, the thread
owes what the stored payment calls for and counts one more completion if `q` completes; refused,
nothing changed. -/
theorem sat_settleWrite (hs : SweepRules i R Ok Ready) {p q : Payment} (hq : Settles p q)
    (k : Nat) :
    Sat R (Does i Ok) (fun w => Swept i k w ∧ Claimed i p w) ((sharedPayments i).update q)
      fun r w => match r with
        | .ok n => Owing i n (k + if q.status = .completed then 1 else 0) w ∧ n.status = q.status
        | .error _ => Swept i k w ∧ Claimed i p w := by
  have hpre : Stable R fun w => Swept i k w ∧ Claimed i p w := (hs.swept k).and (hs.claimed p)
  show Sat _ _ _ (Prog.atomic fun w : World => w.updatePayment i q) _
  refine Sat.atomic hpre (fun r => ?_) fun w ⟨⟨hk, ht, hn⟩, hcl⟩ => ?_
  · cases r
    · exact hpre
    · exact (hs.owing _ _).and (stable_const _)
  rcases World.updatePayment_cases w i q with ⟨f, hf⟩ | ⟨cur, n, hcur, hv, hnc, hu⟩
  · simp only [hf]
    exact ⟨.inl rfl, ⟨hk, ht, hn⟩, hcl⟩
  obtain ⟨c, hcm, hcw, hclaim, rfl⟩ := hcl
  have hns : n.status = q.status := by rw [hnc]
  have hw : w.apply i (.updatePayment q) = (w.updatePayment i q).2 := rfl
  have hk' := paymentsKept_apply (j := i) hk (.updatePayment q)
  rw [hw, hu] at hk'
  have hown : Owing i n (k + if q.status = .completed then 1 else 0) (w.updatePayment i q).2 := by
    rw [hu, ← hns]; exact owing_of_write hk' rfl rfl rfl ht hn
  rw [hu] at hown
  simp only [hu]
  exact ⟨.inr ⟨.updatePayment q, hs.writes w _ (.inr (.inl ⟨c, hcm, hcw, hclaim, q, rfl, hq⟩)),
    by rw [hw, hu]⟩, hown, hns⟩

/-- Failing the payment the thread claimed, after something went wrong: it writes only while the
store still holds what the claim wrote, and it reports an error either way. -/
theorem sat_forceFail (hs : SweepRules i R Ok Ready) (hn : Tells i R Ok Ready n) (p : Payment)
    (cause : String) (k : Nat) :
    Sat R (Does i Ok) (fun w => (Swept i k w ∧ Claimed i p w) ∧ Ready w)
      (Sweep.forceFail (sweepEnvWith i n attempt txn) p.id p.version cause)
      fun o w => o = .errored ∧ Swept i k w ∧ Ready w := by
  have hpre : Stable R fun w => (Swept i k w ∧ Claimed i p w) ∧ Ready w :=
    ((hs.swept k).and (hs.claimed p)).and hs.ready_stable
  unfold Sweep.forceFail
  -- what the store holds under the claimed id, if it has the claimed version, is what the claim
  -- wrote
  refine Sat.bind (sat_read (A := fun (r : Except Fault Payment) _ =>
      ∀ s, r = .ok s → s.version = p.version → s = p)
    hpre (fun _ => stable_const _) fun w ⟨⟨⟨hk, _⟩, c, hcm, _, _, hcp⟩, _⟩ s hf hv =>
      hk.eq_of_find ⟨c, hcm, hcp⟩ hf hv) fun r => ?_
  cases r with
  | error f => exact Sat.ret' (hpre.and (stable_const _)) fun w h => ⟨rfl, h.1.1.1, h.1.2⟩
  | ok stored =>
    dsimp only
    by_cases hv : stored.version = p.version
    case neg =>
      rw [if_pos (by simpa using hv)]
      exact Sat.ret' (hpre.and (stable_const _)) fun w h => ⟨rfl, h.1.1.1, h.1.2⟩
    rw [if_neg (by simpa using hv)]
    refine Sat.pre (Sat.of_pure (fun heq => ?_) hpre) (hpre.and (stable_const _))
      fun w h => ⟨h.1, h.2 stored rfl hv⟩
    subst heq
    refine Sat.bind (sat_look hpre) fun now => ?_
    split
    · exact Sat.ret' hpre fun w h => ⟨rfl, h.1.1, h.2⟩
    · next failed hm =>
      have hst : failed.status = .failed := Payment.status_of_markFailed hm
      refine Sat.bind ((sat_settleWrite hs (.inr ⟨_, now, hm⟩) k).keep hs.ready_stable
        hs.ready_own) fun r => ?_
      cases r with
      | error f => exact Sat.ret' hpre fun w h => ⟨rfl, h.1.1, h.2⟩
      | ok written =>
        refine Sat.bind ((sat_notify attempt txn hs hn written k).pre
          (((hs.owing _ _).and (stable_const _)).and hs.ready_stable)
          fun w h => ⟨by simpa [hst] using h.1.1, h.2⟩) fun _ => ?_
        exact Sat.ret' ((hs.swept k).and hs.ready_stable) fun w h => ⟨rfl, h⟩

/-- Settling a payment the thread claimed: it reports a completion exactly when it stored the
payment completed, and it has then told what it stored; a settlement that broke down changes
nothing. -/
theorem sat_settle (hs : SweepRules i R Ok Ready) (hn : Tells i R Ok Ready n) (p : Payment)
    (k : Nat) :
    Sat R (Does i Ok) (fun w => (Swept i k w ∧ Claimed i p w) ∧ Ready w)
      (Sweep.settle (sweepEnvWith i n attempt txn) p) fun r w => match r with
        | .ok o => Swept i (k + if o = .completed then 1 else 0) w ∧ Ready w
        | .error _ => (Swept i k w ∧ Claimed i p w) ∧ Ready w := by
  have hpre : Stable R fun w => (Swept i k w ∧ Claimed i p w) ∧ Ready w :=
    ((hs.swept k).and (hs.claimed p)).and hs.ready_stable
  -- every failed write after the claim goes to `forceFail`, which reports an error
  have hfail : ∀ cause, Sat R (Does i Ok) (fun w => (Swept i k w ∧ Claimed i p w) ∧ Ready w)
      (Sweep.forceFail (sweepEnvWith i n attempt txn) p.id p.version cause >>=
        fun o => pure (Except.ok o : Except String SweepOutcome)) fun r w => match r with
        | .ok o => Swept i (k + if o = .completed then 1 else 0) w ∧ Ready w
        | .error _ => (Swept i k w ∧ Claimed i p w) ∧ Ready w := fun cause =>
    Sat.bind (sat_forceFail attempt txn hs hn p cause k) fun o =>
      Sat.ret' ((stable_const _).and ((hs.swept k).and hs.ready_stable)) fun w ⟨ho, h⟩ => by
        simpa [ho] using h
  unfold Sweep.settle
  refine Sat.pure_bind ?_
  split
  · exact Sat.ret' hpre fun w h => h
  refine Sat.bind (sat_look hpre) fun now => ?_
  lift_lets
  intro settled
  -- what follows the move, shared by a refused and a settled attempt
  have hsettled : ∀ m, Sat R (Does i Ok)
      (fun w => ((Swept i k w ∧ Claimed i p w) ∧ Ready w) ∧ ∀ q, m = .ok q → Settles p q)
      (settled m) fun r w => match r with
        | .ok o => Swept i (k + if o = .completed then 1 else 0) w ∧ Ready w
        | .error _ => (Swept i k w ∧ Claimed i p w) ∧ Ready w := by
    intro m
    cases m with
    | error f => exact (hfail _).pre (hpre.and (stable_const _)) fun w h => h.1
    | ok q =>
      refine Sat.pre (Sat.of_pure (fun hq => ?_) hpre) (hpre.and (stable_const _))
        fun w h => ⟨h.1, h.2 q rfl⟩
      refine Sat.bind ((sat_settleWrite hs hq k).keep hs.ready_stable hs.ready_own) fun r => ?_
      cases r with
      | error f => exact hfail _
      | ok written =>
        refine Sat.pre (Sat.of_pure (fun hst => ?_) ((hs.owing _ _).and hs.ready_stable))
          (((hs.owing _ _).and (stable_const _)).and hs.ready_stable)
          fun w h => ⟨⟨h.1.1, h.2⟩, h.1.2⟩
        refine Sat.bind (sat_notify attempt txn hs hn written _) fun _ => ?_
        exact Sat.ret' ((hs.swept _).and hs.ready_stable) fun w h => by
          by_cases hc : q.status = .completed <;> simpa [hst, hc] using h
  split
  · exact Sat.pure_bind ((hsettled _).pre hpre fun w h => ⟨h, fun q hq => .inr ⟨_, now, hq⟩⟩)
  · exact Sat.pure_bind (Sat.pure_bind ((hsettled _).pre hpre
      fun w h => ⟨h, fun q hq => .inl ⟨txn, now, hq⟩⟩))

/-- Claiming a payment that was stored: the copy the thread's own claim wrote, or an outcome
other than a completion with nothing owed. -/
theorem sat_claimPayment (hs : SweepRules i R Ok Ready) (p : Payment) (k : Nat) :
    Sat R (Does i Ok) (fun w => (Swept i k w ∧ w.PaymentStored p) ∧ Ready w)
      (Sweep.claim (sweepEnvWith i n attempt txn) p) fun r w => match r with
        | .ok c => (Swept i k w ∧ Claimed i c w) ∧ Ready w
        | .error o => o ≠ .completed ∧ Swept i k w ∧ Ready w := by
  have hpre : Stable R fun w => (Swept i k w ∧ w.PaymentStored p) ∧ Ready w :=
    ((hs.swept k).and ((stable_paymentStored p).mono hs.rely)).and hs.ready_stable
  -- a payment that is not claimed is skipped or an error, never a completion
  have hlost : ∀ f : Fault, (if f.isA .concurrentUpdate || f.isA .invalidTransition then
      SweepOutcome.skipped else .errored) ≠ .completed := fun f => by split <;> simp
  unfold Sweep.claim
  cases hc : p.markProcessing with
  | error f => exact Sat.ret' hpre fun w h => ⟨hlost f, h.1.1, h.2⟩
  | ok claimed =>
    refine Sat.bind ((sat_claim hs hc k).keep hs.ready_stable hs.ready_own) fun r => ?_
    cases r with
    | error f => exact Sat.ret' ((hs.swept k).and hs.ready_stable) fun w h => ⟨hlost _, h⟩
    | ok claimed' =>
      exact Sat.ret' (((hs.swept k).and (hs.claimed _)).and hs.ready_stable) fun w h => h

/-- Settling a payment the thread claimed, and failing it if the settlement broke down. -/
theorem sat_settleOrFail (hs : SweepRules i R Ok Ready) (hn : Tells i R Ok Ready n) (p : Payment)
    (k : Nat) :
    Sat R (Does i Ok) (fun w => (Swept i k w ∧ Claimed i p w) ∧ Ready w)
      (Sweep.settleOrFail (sweepEnvWith i n attempt txn) p)
      fun o w => Swept i (k + if o = .completed then 1 else 0) w ∧ Ready w := by
  unfold Sweep.settleOrFail
  simp only [Prog.recover_eq]
  refine Sat.bind (sat_settle attempt txn hs hn p k) fun r => ?_
  cases r with
  | ok o => exact Sat.ret' ((hs.swept _).and hs.ready_stable) fun w h => h
  | error cause =>
    exact (sat_forceFail attempt txn hs hn p _ k).post fun o w ⟨ho, h⟩ => by simpa [ho] using h

/-- Claiming and settling one payment that was stored. -/
theorem sat_processOne (hs : SweepRules i R Ok Ready) (hn : Tells i R Ok Ready n) (p : Payment)
    (k : Nat) :
    Sat R (Does i Ok) (fun w => (Swept i k w ∧ w.PaymentStored p) ∧ Ready w)
      (Sweep.processOne (sweepEnvWith i n attempt txn) p)
      fun o w => Swept i (k + if o = .completed then 1 else 0) w ∧ Ready w := by
  unfold Sweep.processOne
  simp only [Prog.recover_eq]
  refine Sat.bind (sat_claimPayment attempt txn hs p k) fun r => ?_
  cases r with
  | error o =>
    exact Sat.ret' ((stable_const _).and ((hs.swept k).and hs.ready_stable)) fun w h => by
      rw [if_neg h.1, Nat.add_zero]; exact h.2
  | ok claimed => exact sat_settleOrFail attempt txn hs hn claimed k

/-- Handling payments that were stored, in turn until called off: the completions counted are
those the thread stored. -/
theorem sat_processAll (hs : SweepRules i R Ok Ready) (hn : Tells i R Ok Ready n)
    (ps : List Payment) (r : SweepResult) :
    Sat R (Does i Ok) (fun w => (Swept i r.completed w ∧ ∀ p ∈ ps, w.PaymentStored p) ∧ Ready w)
      (Sweep.processAll (sweepEnvWith i n attempt txn) ps r)
      fun r' w => Swept i r'.completed w ∧ Ready w := by
  induction ps generalizing r with
  | nil =>
    exact Sat.ret' (((hs.swept _).and (hs.stored [])).and hs.ready_stable) fun w h =>
      ⟨h.1.1, h.2⟩
  | cons p ps ih =>
    have hpre : Stable R
        fun w => (Swept i r.completed w ∧ ∀ q ∈ p :: ps, w.PaymentStored q) ∧ Ready w :=
      ((hs.swept _).and (hs.stored _)).and hs.ready_stable
    unfold Sweep.processAll
    refine Sat.bind (sat_look hpre) fun b => Sat.ite (Sat.ret' hpre fun w h => ⟨h.1.1, h.2⟩) ?_
    -- the payments still to come stay stored whatever this one's handling does
    refine Sat.bind (((sat_processOne attempt txn hs hn p r.completed).keep (hs.stored ps)
      fun w w' h hq q hm => does_paymentStored q h (hq q hm)).pre hpre
      fun w h => ⟨⟨⟨h.1.1, h.1.2 p List.mem_cons_self⟩, h.2⟩,
        fun q hq => h.1.2 q (List.mem_cons_of_mem _ hq)⟩) fun o => ?_
    exact (ih (r.tally o)).pre (((hs.swept _).and hs.ready_stable).and (hs.stored ps))
      fun w h => ⟨⟨by simpa using h.1.1, h.2⟩, h.1.2⟩

/-- **A sweep counts what it stored.** A sweep by thread `i`, with any other threads doing
anything in between: every step it takes is a claim of a payment, a settlement of a payment its
own claim wrote, or a step of a notifier that tells what its own last write calls for; and when
it finishes it has told all its writes call for, and the completions it reports are the
payments it stored completed. -/
theorem sat_sweep (hs : SweepRules i R Ok Ready) (hn : Tells i R Ok Ready n) (batch : Nat)
    (cutoff : Duration) :
    Sat R (Does i Ok) (fun w => Swept i 0 w ∧ Ready w)
      (Sweep.run (sweepEnvWith i n attempt txn) batch cutoff)
      fun res w => Swept i res.1.completed w ∧ Ready w := by
  have hstart : Stable R fun w => Swept i 0 w ∧ Ready w := (hs.swept 0).and hs.ready_stable
  unfold Sweep.run
  refine Sat.bind (sat_look hstart) fun now => ?_
  -- what the store offers is stored
  have hfound : ∀ r : Except Fault (List Payment),
      Stable R fun w => ∀ found, r = .ok found → ∀ p ∈ found, w.PaymentStored p :=
    fun _ w w' h hf found hr => hs.stored found h (hf found hr)
  refine Sat.bind (sat_read (A := fun (r : Except Fault (List Payment)) w =>
      ∀ found, r = .ok found → ∀ p ∈ found, w.PaymentStored p) hstart hfound
    fun w ⟨⟨hk, _, _⟩, _⟩ found hr p hp => ?_) fun r => ?_
  · cases hr
    exact hk.logged p (PaymentStore.mem_of_mem_eligible hp)
  cases r with
  | error f => exact Sat.ret' (hstart.and (hfound _)) fun w h => h.1
  | ok found =>
    refine Sat.bind ((sat_processAll attempt txn hs hn (found.take batch)
      (SweepResult.none _)).pre (hstart.and (hfound _)) fun w h =>
        ⟨⟨h.1.1, fun p hp => h.2 found rfl p (List.mem_of_mem_take hp)⟩, h.1.2⟩) fun r => ?_
    exact Sat.ret' ((hs.swept _).and hs.ready_stable) fun w h => h

end Steps

end Fulfillment
