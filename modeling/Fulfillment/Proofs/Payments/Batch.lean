import Fulfillment.Proofs.Payments.Recovery

/-!
# One sweep over a healthy store

One sweep runs alone against a payment store that takes every write (`healthyPayments`). The
settlement executor settles each claimed payment or refuses it with a complaint, and never breaks
down; transaction ids come from a source that hands out its `n`-th id on the `n`-th draw; the
sweep may be called off between payments; an order service is told of each settled payment, when
one is configured (`BatchScript`).

Every write then goes through, so the sweep's work is determined: the `k` payments it reaches
before it is called off, the first of those it listed, end settled in turn (`BatchScript.settleAll`),
completed with the next id drawn or failed with the executor's complaint, processed at the clock;
every other payment stays as it was; each settled payment is told once, as a completion or a
cancellation (`processAll_settled`, `sweep_settles_first_listed`).
-/

namespace Fulfillment

/-- What a sweep over a healthy store meets: the executor's answer for each claimed payment (none
when it settles, the complaint when it refuses), the source's `n`-th transaction id, whether the
sweep is called off at its `n`-th question, and whether an order service is told. -/
structure BatchScript where
  executor : Payment → Option String
  txn : Nat → String
  halt : Nat → Bool
  notifying : Bool

/-- A sweep over a healthy store: the payment store, the clock, how many times the sweep asked
whether it is called off, how many transaction ids it drew, and the notices it sent. -/
structure BatchWorld where
  store : PaymentStore
  clock : Instant
  asked : Nat
  drawn : Nat
  notices : List Notice

/-- The payment store with nothing in front of it: every call reaches it. -/
def healthyPayments : PaymentRepo (StateM BatchWorld) where
  create p := MonadStateOf.modifyGet fun (w : BatchWorld) =>
    match w.store.create p w.clock with
    | .ok (stored, st) => (.ok stored, { w with store := st })
    | .error f => (.error f, w)
  update p := MonadStateOf.modifyGet fun (w : BatchWorld) =>
    match w.store.update p w.clock with
    | .ok (stored, st) => (.ok stored, { w with store := st })
    | .error f => (.error f, w)
  find id := MonadStateOf.modifyGet fun (w : BatchWorld) => (w.store.find id, w)
  findByOrder orderId := MonadStateOf.modifyGet fun (w : BatchWorld) =>
    (w.store.findByOrder orderId, w)
  list status := MonadStateOf.modifyGet fun (w : BatchWorld) => (.ok (w.store.list status), w)
  eligible before limit := MonadStateOf.modifyGet fun (w : BatchWorld) =>
    (.ok (w.store.eligible before limit), w)
  countByStatus := MonadStateOf.modifyGet fun (w : BatchWorld) => (.ok w.store.countByStatus, w)

/-- The order service, as the notices it is sent. -/
def batchRecorder : Notifier (StateM BatchWorld) where
  markCompleted orderId paymentId :=
    modify fun (w : BatchWorld) => { w with notices := w.notices ++ [.completed orderId paymentId] }
  cancel orderId reason :=
    modify fun (w : BatchWorld) => { w with notices := w.notices ++ [.cancelled orderId reason] }

namespace BatchScript

variable (a : BatchScript)

/-- How the executor's answer ends an attempt. -/
def attempt (c : Payment) : Attempt :=
  match a.executor c with
  | none => .settled
  | some complaint => .refused complaint

/-- The sweep over a healthy store against what `a` answers. -/
def sweep : SweepEnv (StateM BatchWorld) where
  payments := healthyPayments
  attempt c := pure (a.attempt c)
  notifier := if a.notifying then some batchRecorder else none
  freshTransaction := MonadStateOf.modifyGet fun (w : BatchWorld) =>
    (a.txn w.drawn, { w with drawn := w.drawn + 1 })
  now := MonadStateOf.modifyGet fun (w : BatchWorld) => (w.clock, w)
  calledOff := MonadStateOf.modifyGet fun (w : BatchWorld) =>
    (a.halt w.asked, { w with asked := w.asked + 1 })

/-- The notices the order service gets about the written payment `t`, if it is told. -/
def tells (t : Payment) : List Notice := if a.notifying then told t else []

/-- The terminal write of the claimed copy `c` at `now`: completed with the transaction id `txn`
when the executor settles it, failed with its complaint (or `payment failed` when that is blank)
when it refuses; processed at `now` either way. -/
def closed (c : Payment) (txn : String) (now : Instant) : Payment :=
  match a.executor c with
  | none => { c with status := .completed, transactionId := txn, processedAt := some now }
  | some complaint =>
    { c with status := .failed, failureReason := reasonOr complaint "payment failed",
             processedAt := some now }

/-- Whether the executor settles the claimed copy of the listed payment `p` at `now`, so that the
sweep draws a transaction id for it. -/
def draws (p : Payment) (now : Instant) : Bool := (a.executor (p.claim.written now)).isNone

/-- What the sweep at `now` leaves of the listed pending payment `p`: its claimed copy closed, two
versions up, with the transaction id `txn` when it completes. -/
def settled (p : Payment) (txn : String) (now : Instant) : Payment :=
  (a.closed (p.claim.written now) txn now).written now

/-- What the sweep at `now` leaves of the payments `ps`, settled in turn, the completions taking
the source's ids from the `n`-th on. -/
def settleAll (now : Instant) : Nat → List Payment → List Payment
  | _, [] => []
  | n, p :: ps =>
    a.settled p (a.txn n) now :: settleAll now (n + if a.draws p now then 1 else 0) ps

end BatchScript

/-- A precondition that holds for some `i` is taken apart. -/
theorem Alone.exists_pre {σ α ι : Type} {P : ι → σ → Prop} {c : StateM σ α} {Q : α → σ → Prop}
    (h : ∀ i, Alone (P i) c Q) : Alone (fun s => ∃ i, P i s) c Q := by
  rintro s ⟨i, hi⟩
  exact h i s hi

/-! ## One call at a time -/

namespace BatchScript

variable {a : BatchScript} {w : BatchWorld}

theorem alone_now : Alone (· = w) a.sweep.now fun v w' => v = w.clock ∧ w' = w :=
  Alone.modifyGet_at

theorem alone_fresh :
    Alone (· = w) a.sweep.freshTransaction
      fun v w' => v = a.txn w.drawn ∧ w' = { w with drawn := w.drawn + 1 } :=
  Alone.modifyGet_at

theorem alone_calledOff :
    Alone (· = w) a.sweep.calledOff
      fun v w' => v = a.halt w.asked ∧ w' = { w with asked := w.asked + 1 } :=
  Alone.modifyGet_at

/-- A write of the stored payment's version goes through, and changes that payment only. -/
theorem alone_update {x b : Payment} (hb : w.store.find x.id = .ok b) (hv : x.version = b.version)
    (hc : x.createdAt = b.createdAt) :
    Alone (· = w) (a.sweep.payments.update x) fun v w' => v = .ok (x.written w.clock) ∧
      ∃ st, w' = { w with store := st } ∧ st.find x.id = .ok (x.written w.clock) ∧
        ∀ k ≠ x.id, st.find k = w.store.find k := by
  obtain ⟨st, hu, hfind, hothers⟩ := PaymentStore.update_of_find w.clock hb hv hc
  refine Alone.modifyGet fun _ h => ?_
  subst h
  simp only [hu, true_and]
  exact ⟨st, rfl, hfind, hothers⟩

/-- Telling the order service of a written payment adds its notices, if it is told. -/
theorem alone_notify (t : Payment) :
    Alone (· = w) (Sweep.notify a.sweep t)
      fun _ w' => w' = { w with notices := w.notices ++ a.tells t } := by
  rintro _ rfl
  unfold Sweep.notify tells
  -- the state is handed on by `pure` untouched, which `simp` leaves to `rfl`
  cases hn : a.notifying
  · simp only [sweep, hn, Bool.false_eq_true, ↓reduceIte, List.append_nil]
    rfl
  · cases ht : t.status <;> simp [sweep, hn, ht, told, batchRecorder] <;> rfl

theorem attempt_of_none {c : Payment} (h : a.executor c = none) : a.attempt c = .settled := by
  simp [attempt, h]

theorem attempt_of_some {c : Payment} {complaint : String} (h : a.executor c = some complaint) :
    a.attempt c = .refused complaint := by
  simp [attempt, h]

theorem closed_of_none {c : Payment} (h : a.executor c = none) (txn : String) (now : Instant) :
    a.closed c txn now =
      { c with status := .completed, transactionId := txn, processedAt := some now } := by
  simp [closed, h]

theorem closed_of_some {c : Payment} {complaint : String} (h : a.executor c = some complaint)
    (txn : String) (now : Instant) :
    a.closed c txn now = { c with status := .failed, failureReason := reasonOr complaint
                                    "payment failed", processedAt := some now } := by
  simp [closed, h]

/-- Settling a claimed copy the store holds: the executor's answer is written over it and told,
and a completion draws the next transaction id. -/
theorem alone_settle {c : Payment} (hc : c.status = .processing) (hf : w.store.find c.id = .ok c) :
    Alone (· = w) (Sweep.settle a.sweep c) fun o w' =>
      o = .ok (if (a.executor c).isNone then .completed else .failed) ∧
      ∃ st, w' = { w with store := st, drawn := w.drawn + if (a.executor c).isNone then 1 else 0,
                          notices := w.notices ++
                            a.tells ((a.closed c (a.txn w.drawn) w.clock).written w.clock) } ∧
        st.find c.id = .ok ((a.closed c (a.txn w.drawn) w.clock).written w.clock) ∧
        ∀ k ≠ c.id, st.find k = w.store.find k := by
  unfold Sweep.settle
  refine Alone.bind_val Alone.pure_val ?_
  cases he : a.executor c
  case' none =>
    rw [attempt_of_none he]
    refine Alone.bind_val alone_now (Alone.bind_val alone_fresh (Alone.bind_val Alone.pure_val ?_))
    rw [Payment.markCompleted_of_processing hc]
  case' some complaint =>
    rw [attempt_of_some he]
    refine Alone.bind_val alone_now (Alone.bind_val Alone.pure_val ?_)
    rw [Payment.markFailed_of_processing hc]
  -- either way the closed copy is written over the claimed one, and told
  all_goals
    refine Alone.bind_val (alone_update hf rfl rfl)
      (Alone.exists_pre fun st => Alone.of_pure fun hst => ?_)
    obtain ⟨hfind, hothers⟩ := hst
    refine Alone.bind (alone_notify _) fun _ => Alone.pure fun w' hw' => ?_
    subst hw'
    simp only [closed, he]
    exact ⟨rfl, st, rfl, hfind, hothers⟩

/-- Claiming a listed pending payment the store holds writes its claimed copy. -/
theorem alone_claim {p : Payment} (hp : p.status = .pending) (hf : w.store.find p.id = .ok p) :
    Alone (· = w) (Sweep.claim a.sweep p) fun r w' => r = .ok (p.claim.written w.clock) ∧
      ∃ st, w' = { w with store := st } ∧ st.find p.id = .ok (p.claim.written w.clock) ∧
        ∀ k ≠ p.id, st.find k = w.store.find k := by
  unfold Sweep.claim
  simp only [Payment.markProcessing_of_pending hp]
  refine Alone.bind_val (alone_update hf rfl rfl)
    (Alone.exists_pre fun st => Alone.of_pure fun hst => ?_)
  exact Alone.pure fun w' hw' => ⟨rfl, st, hw', hst⟩

/-- Claiming and settling a listed pending payment the store holds: the store ends holding it
settled, and every other payment as it was. -/
theorem alone_processOne {p : Payment} (hp : p.status = .pending)
    (hf : w.store.find p.id = .ok p) :
    Alone (· = w) (Sweep.processOne a.sweep p) fun o w' =>
      o = (if a.draws p w.clock then .completed else .failed) ∧
      ∃ st, w' = { w with store := st, drawn := w.drawn + if a.draws p w.clock then 1 else 0,
                          notices := w.notices ++ a.tells (a.settled p (a.txn w.drawn) w.clock) } ∧
        st.find p.id = .ok (a.settled p (a.txn w.drawn) w.clock) ∧
        ∀ k ≠ p.id, st.find k = w.store.find k := by
  unfold Sweep.processOne Sweep.settleOrFail
  simp only [StateM.recover_eq]
  -- the claim goes through, so the claimed copy is what the store holds
  refine Alone.bind_val (alone_claim hp hf)
    (Alone.exists_pre fun st₁ => Alone.of_pure fun hst₁ => ?_)
  obtain ⟨hfind₁, hothers₁⟩ := hst₁
  refine Alone.bind_val (alone_settle rfl hfind₁) (Alone.pure fun w' hw' => ?_)
  obtain ⟨st, rfl, hfind, hothers⟩ := hw'
  exact ⟨rfl, st, rfl, hfind, fun k hk => (hothers k hk).trans (hothers₁ k hk)⟩

end BatchScript

/-! ## A whole sweep -/

namespace BatchScript

variable (a : BatchScript)

/-- A settled payment completed exactly when the executor settled its claimed copy. -/
theorem settled_status (p : Payment) (txn : String) (now : Instant) :
    (a.settled p txn now).status = if a.draws p now then .completed else .failed := by
  unfold settled draws
  cases he : a.executor (p.claim.written now) with
  | none =>
    rw [closed_of_none he]
    rfl
  | some complaint =>
    rw [closed_of_some he]
    rfl

theorem settled_transactionId {p : Payment} {now : Instant} (h : a.draws p now = true)
    (txn : String) : (a.settled p txn now).transactionId = txn := by
  unfold draws at h
  rw [Option.isNone_iff_eq_none] at h
  rw [settled, closed_of_none h]
  rfl

/-- The payments settled in turn that completed carry the ids drawn from the `n`-th on, in order,
one for each payment the executor settled. -/
theorem settleAll_transactions (now : Instant) (n : Nat) (ps : List Payment) :
    ((a.settleAll now n ps).filter (·.status == .completed)).map (·.transactionId) =
      (List.range' n (ps.filter (a.draws · now)).length).map a.txn := by
  induction ps generalizing n with
  | nil => rfl
  | cons p ps ih =>
    -- a completion takes the `n`-th id; a failure leaves it to the next payment
    cases hd : a.draws p now
    · simp [settleAll, settled_status, hd, ih]
    · simp [settleAll, settled_status, settled_transactionId a hd, hd, ih, List.range'_succ]

/-- What a sweep that handled the first `k` of the listed payments `ps`, from `w` with the counts
`r`, leaves as `out`: one more completion or failure for each payment it handled and the other
counts as they were; each handled payment settled in turn, a completion taking the next id drawn;
every other payment and the clock as they were; and the notices of the settled payments. -/
structure Settled (ps : List Payment) (k : Nat) (r : SweepResult) (w : BatchWorld)
    (out : SweepResult × BatchWorld) : Prop where
  selected : out.1.selected = r.selected
  completed : out.1.completed = r.completed + ((ps.take k).filter (a.draws · w.clock)).length
  failed : out.1.failed = r.failed + ((ps.take k).filter fun p => !a.draws p w.clock).length
  errored : out.1.errored = r.errored
  skipped : out.1.skipped = r.skipped
  clock : out.2.clock = w.clock
  drawn : out.2.drawn = w.drawn + ((ps.take k).filter (a.draws · w.clock)).length
  settled : List.Forall₂ (fun p q => out.2.store.find p.id = .ok q) (ps.take k)
    (a.settleAll w.clock w.drawn (ps.take k))
  others : ∀ id ∉ (ps.take k).map (·.id), out.2.store.find id = w.store.find id
  notices : out.2.notices = w.notices ++ (a.settleAll w.clock w.drawn (ps.take k)).flatMap a.tells

variable {a}

/-- Handling nothing changes nothing the sweep answers for. -/
theorem settled_none {ps : List Payment} {r : SweepResult} {w w' : BatchWorld}
    (hstore : w'.store = w.store) (hclock : w'.clock = w.clock) (hdrawn : w'.drawn = w.drawn)
    (hnotices : w'.notices = w.notices) : a.Settled ps 0 r w (r, w') where
  selected := rfl
  completed := by simp
  failed := by simp
  errored := rfl
  skipped := rfl
  clock := hclock
  drawn := by simp [hdrawn]
  settled := by simp [settleAll]
  others _ _ := by rw [hstore]
  notices := by simp [settleAll, hnotices]

/-- Settling `p` and then `k` of the rest. -/
theorem Settled.cons {p : Payment} {rest : List Payment} {k : Nat} {r : SweepResult}
    {w : BatchWorld} {st : PaymentStore} {out : SweepResult × BatchWorld}
    (hfind : st.find p.id = .ok (a.settled p (a.txn w.drawn) w.clock))
    (hothers : ∀ k ≠ p.id, st.find k = w.store.find k) (hfresh : p.id ∉ rest.map (·.id))
    (hs : a.Settled rest k (r.tally (if a.draws p w.clock then .completed else .failed))
      { w with asked := w.asked + 1, store := st, drawn := w.drawn + if a.draws p w.clock then 1 else 0,
               notices := w.notices ++ a.tells (a.settled p (a.txn w.drawn) w.clock) } out) :
    a.Settled (p :: rest) (k + 1) r w out := by
  have hfresh' : p.id ∉ (rest.take k).map (·.id) :=
    fun h => hfresh (List.map_subset _ (List.take_subset _ _) h)
  refine ⟨?_, ?_, ?_, ?_, ?_, hs.clock, ?_, ?_, fun id hid => ?_, ?_⟩
  · rw [hs.selected, SweepResult.selected_tally]
  · rw [hs.completed]
    cases hd : a.draws p w.clock
    · simp [SweepResult.tally, hd]
    · simp [SweepResult.tally, hd]
      omega
  · rw [hs.failed]
    cases hd : a.draws p w.clock
    · simp [SweepResult.tally, hd]
      omega
    · simp [SweepResult.tally, hd]
  · rw [hs.errored]
    cases a.draws p w.clock <;> rfl
  · rw [hs.skipped]
    cases a.draws p w.clock <;> rfl
  · rw [hs.drawn]
    cases hd : a.draws p w.clock
    · simp [hd]
    · simp [hd]
      omega
  · -- the head is settled first, and the rest from the ids it left
    refine .cons ?_ hs.settled
    rw [hs.others p.id hfresh']
    exact hfind
  · simp only [List.take_succ_cons, List.map_cons, List.mem_cons, not_or] at hid
    rw [hs.others id hid.2]
    exact hothers id hid.1
  · rw [hs.notices]
    simp [settleAll]

/-- Of `n` questions from the `start`-th on, the sweep answers the first `k` with go on, and the
next, if there is one, with stop. -/
theorem exists_first_halt (a : BatchScript) (start n : Nat) :
    ∃ k ≤ n, (∀ j < k, a.halt (start + j) = false) ∧ (k < n → a.halt (start + k) = true) := by
  -- the first question answered with stop, or the `n`-th when none is
  have hex : ∃ k, k = n ∨ a.halt (start + k) = true := ⟨n, .inl rfl⟩
  refine ⟨Nat.find hex, Nat.find_min' hex (.inl rfl), fun j hj => ?_, fun hk => ?_⟩
  · exact Bool.eq_false_iff.mpr (not_or.mp (Nat.find_min hex hj)).2
  · rcases Nat.find_spec hex with h | h
    · omega
    · exact h

end BatchScript

namespace PaymentStore

variable (s : PaymentStore) (before : Instant)

/-- A batch taken from the listing capped at that batch is the batch taken from the whole
listing. -/
theorem take_eligible (batch : Nat) :
    (s.eligible before batch).take batch = (s.eligible before 0).take batch := by
  unfold eligible
  cases batch with
  | zero => simp
  | succ n => simp [List.take_take]

/-- The whole listing holds every pending payment created by `before`. -/
theorem length_eligible :
    (s.eligible before 0).length =
      (s.payments.filter fun p => p.status == .pending && p.createdAt.ns ≤ before.ns).length := by
  simp [eligible, List.length_mergeSort]

end PaymentStore

namespace Sweep

/-- A sweep over listed pending payments of distinct ids, each held by the store, that is told to
go on at its first `k` questions and to stop at the next, if there is one: the first `k` payments
end settled in turn, and nothing else changes. -/
theorem processAll_settled (a : BatchScript) (ps : List Payment) (hids : (ps.map (·.id)).Nodup)
    (hpend : ∀ p ∈ ps, p.status = .pending) (k : Nat) (hk : k ≤ ps.length) (r : SweepResult)
    (w : BatchWorld) (hgo : ∀ j < k, a.halt (w.asked + j) = false)
    (hstop : k < ps.length → a.halt (w.asked + k) = true)
    (hfound : ∀ p ∈ ps, w.store.find p.id = .ok p) :
    a.Settled ps k r w ((processAll a.sweep ps r).run w) := by
  induction ps generalizing k r w with
  | nil =>
    obtain rfl : k = 0 := Nat.le_zero.mp hk
    exact BatchScript.settled_none rfl rfl rfl rfl
  | cons p rest ih =>
    obtain ⟨hfresh, hids⟩ : p.id ∉ rest.map (·.id) ∧ (rest.map (·.id)).Nodup :=
      List.nodup_cons.mp hids
    refine (?_ : Alone (· = w) (processAll a.sweep (p :: rest) r)
      fun v w' => a.Settled (p :: rest) k r w (v, w')) w rfl
    rw [processAll]
    refine Alone.bind_val BatchScript.alone_calledOff ?_
    cases k with
    | zero =>
      -- called off before the first payment
      have hhalt : a.halt w.asked = true := hstop (Nat.zero_lt_succ _)
      simp only [hhalt, ↓reduceIte]
      exact Alone.pure fun w' h => h ▸ BatchScript.settled_none rfl rfl rfl rfl
    | succ k =>
      -- told to go on: `p` is settled, then `k` of the rest
      have hgo₀ : a.halt w.asked = false := hgo 0 (Nat.zero_lt_succ _)
      simp only [hgo₀, Bool.false_eq_true, ↓reduceIte]
      refine Alone.bind (BatchScript.alone_processOne (hpend p List.mem_cons_self)
        (hfound p List.mem_cons_self)) fun o w₂ h₂ => ?_
      obtain ⟨rfl, st, rfl, hfind, hothers⟩ := h₂
      have hgo' : ∀ j < k, a.halt (w.asked + 1 + j) = false := fun j hj => by
        rw [Nat.add_assoc, Nat.add_comm 1 j]
        exact hgo (j + 1) (Nat.succ_lt_succ hj)
      have hstop' : k < rest.length → a.halt (w.asked + 1 + k) = true := fun hk' => by
        rw [Nat.add_assoc, Nat.add_comm 1 k]
        exact hstop (Nat.succ_lt_succ hk')
      have hfound' : ∀ q ∈ rest, st.find q.id = .ok q := fun q hq => by
        have hne : q.id ≠ p.id := fun h => hfresh (h ▸ List.mem_map_of_mem hq)
        rw [hothers q.id hne]
        exact hfound q (List.mem_cons_of_mem _ hq)
      exact BatchScript.Settled.cons hfind hothers hfresh
        (ih hids (fun q hq => hpend q (List.mem_cons_of_mem _ hq)) k (Nat.le_of_succ_le_succ hk)
          _ _ hgo' hstop' hfound')

/-- A sweep run alone over a healthy store whose payment ids are distinct returns without a
fault and selects the first `batch` of the pending payments created by its cutoff, in the store's
listing order. Told to go on at its first `k` questions and to stop at the next, if there is one,
it settles the first `k` selected payments in turn: each completes with the next id drawn or
fails with the executor's complaint, and is told once; it counts each as a completion or a
failure, with no error or skip; the other selected payments stay pending, and every other payment
as it was. -/
theorem sweep_settles_first_listed (a : BatchScript) (w : BatchWorld) (batch : Nat)
    (cutoff : Duration) (hids : (w.store.payments.map (·.id)).Nodup) :
    let before := w.clock.add ⟨-cutoff.ns⟩
    let sel := (w.store.eligible before batch).take batch
    let r := (run a.sweep batch cutoff).run w
    sel = (w.store.eligible before 0).take batch ∧
    sel.length = min batch
      (w.store.payments.filter fun p => p.status == .pending && p.createdAt.ns ≤ before.ns).length ∧
    r.1.2 = none ∧ r.1.1.selected = sel.length ∧ r.1.1.errored = 0 ∧ r.1.1.skipped = 0 ∧
    ∃ k ≤ sel.length, (∀ j < k, a.halt (w.asked + j) = false) ∧
      (k < sel.length → a.halt (w.asked + k) = true) ∧
      r.1.1.completed + r.1.1.failed = k ∧
      r.1.1.completed = ((sel.take k).filter (a.draws · w.clock)).length ∧
      List.Forall₂ (fun p q => r.2.store.find p.id = .ok q) (sel.take k)
        (a.settleAll w.clock w.drawn (sel.take k)) ∧
      ((a.settleAll w.clock w.drawn (sel.take k)).filter (·.status == .completed)).map
        (·.transactionId) = (List.range' w.drawn r.1.1.completed).map a.txn ∧
      r.2.drawn = w.drawn + r.1.1.completed ∧
      (∀ p ∈ sel.drop k, r.2.store.find p.id = .ok p ∧ p.status = .pending) ∧
      (∀ id ∉ (sel.take k).map (·.id), r.2.store.find id = w.store.find id) ∧
      r.2.notices = w.notices ++ (a.settleAll w.clock w.drawn (sel.take k)).flatMap a.tells := by
  intro before sel r
  obtain ⟨hnodup, hlisted⟩ : (sel.map (·.id)).Nodup ∧
      ∀ p ∈ sel, p.status = .pending ∧ w.store.find p.id = .ok p :=
    PaymentStore.listed_batch hids before batch batch
  have hpend : ∀ p ∈ sel, p.status = .pending := fun p hp => (hlisted p hp).1
  have hfound : ∀ p ∈ sel, w.store.find p.id = .ok p := fun p hp => (hlisted p hp).2
  obtain ⟨k, hk, hgo, hstop⟩ := a.exists_first_halt w.asked sel.length
  have hs := processAll_settled a sel hnodup hpend k hk (SweepResult.none sel.length) w hgo hstop
    hfound
  -- the listing reads the store and the clock only, and hands `sel` to the loop
  have hr : r = ((((processAll a.sweep sel (SweepResult.none sel.length)).run w).1, none),
      ((processAll a.sweep sel (SweepResult.none sel.length)).run w).2) := rfl
  have hsel : sel = (w.store.eligible before 0).take batch := PaymentStore.take_eligible _ _ _
  have hcompleted := hs.completed
  have hfailed := hs.failed
  rw [show (SweepResult.none sel.length).completed = 0 from rfl, Nat.zero_add] at hcompleted
  rw [show (SweepResult.none sel.length).failed = 0 from rfl, Nat.zero_add] at hfailed
  rw [hr]
  dsimp only
  refine ⟨hsel, ?_, rfl, hs.selected, hs.errored, hs.skipped, k, hk, hgo, hstop, ?_, hcompleted,
    hs.settled, ?_, ?_, fun p hp => ?_, hs.others, hs.notices⟩
  · rw [hsel, List.length_take, PaymentStore.length_eligible]
  · -- each handled payment is a completion or a failure
    have hsplit := List.length_eq_length_filter_add (l := sel.take k) (a.draws · w.clock)
    have htake : (sel.take k).length = k := List.length_take_of_le hk
    omega
  · rw [a.settleAll_transactions, hcompleted]
  · rw [hs.drawn, hcompleted]
  · -- an unhandled selected payment is no handled one, since the selected ids are distinct
    have hsplit := hnodup
    rw [← List.take_append_drop k sel, List.map_append] at hsplit
    have hdisj := List.disjoint_of_nodup_append hsplit
    have hsel : p ∈ sel := List.mem_of_mem_drop hp
    refine ⟨?_, hpend p hsel⟩
    rw [hs.others p.id fun h => hdisj h (List.mem_map_of_mem hp)]
    exact hfound p hsel

/-- Three pending payments, the second refused with a blank complaint, and the sweep called off
at its third question. -/
theorem sweep_called_off_after_two :
    let p : Payment := ⟨1, 1, ⟨10, 0⟩, .pending, "CREDIT_CARD", "", "", none, 1, Instant.zero,
      Instant.zero⟩
    let a : BatchScript := ⟨fun c => if c.id = 2 then some "" else none,
      fun n => if n = 0 then "TXN-1" else "TXN-2", fun j => j == 2, true⟩
    let w : BatchWorld :=
      ⟨⟨[p, { p with id := 2, orderId := 2 }, { p with id := 3, orderId := 3 }], 3,
        [(1, 1), (2, 2), (3, 3)]⟩,
        Instant.zero, 0, 0, []⟩
    (w.store.payments.map (·.id)).Nodup ∧
    let before := w.clock.add ⟨-0⟩
    let sel := (w.store.eligible before 10).take 10
    let r := (run a.sweep 10 ⟨0⟩).run w
    sel = (w.store.eligible before 0).take 10 ∧
    sel.length = min 10
      (w.store.payments.filter fun p => p.status == .pending && p.createdAt.ns ≤ before.ns).length ∧
    r.1.2 = none ∧ r.1.1.selected = sel.length ∧ r.1.1.errored = 0 ∧ r.1.1.skipped = 0 ∧
    ∃ k ≤ sel.length, (∀ j < k, a.halt (w.asked + j) = false) ∧
      (k < sel.length → a.halt (w.asked + k) = true) ∧
      r.1.1.completed + r.1.1.failed = k ∧
      r.1.1.completed = ((sel.take k).filter (a.draws · w.clock)).length ∧
      List.Forall₂ (fun p q => r.2.store.find p.id = .ok q) (sel.take k)
        (a.settleAll w.clock w.drawn (sel.take k)) ∧
      ((a.settleAll w.clock w.drawn (sel.take k)).filter (·.status == .completed)).map
        (·.transactionId) = (List.range' w.drawn r.1.1.completed).map a.txn ∧
      r.2.drawn = w.drawn + r.1.1.completed ∧
      (∀ p ∈ sel.drop k, r.2.store.find p.id = .ok p ∧ p.status = .pending) ∧
      (∀ id ∉ (sel.take k).map (·.id), r.2.store.find id = w.store.find id) ∧
      r.2.notices = w.notices ++ (a.settleAll w.clock w.drawn (sel.take k)).flatMap a.tells :=
  ⟨by decide, sweep_settles_first_listed _ _ 10 ⟨0⟩ (by decide)⟩

example :
    let p : Payment := ⟨1, 1, ⟨10, 0⟩, .pending, "CREDIT_CARD", "", "", none, 1, Instant.zero,
      Instant.zero⟩
    let a : BatchScript := ⟨fun c => if c.id = 2 then some "" else none,
      fun n => if n = 0 then "TXN-1" else "TXN-2", fun j => j == 2, true⟩
    let r := (run a.sweep 10 ⟨0⟩).run
      ⟨⟨[p, { p with id := 2, orderId := 2 }, { p with id := 3, orderId := 3 }], 3,
        [(1, 1), (2, 2), (3, 3)]⟩,
        Instant.zero, 0, 0, []⟩
    (r.2.store.payments.map fun q => (q.status, q.transactionId, q.failureReason, q.version)) =
      [(.completed, "TXN-1", "", 3), (.failed, "", "payment failed", 3), (.pending, "", "", 1)] ∧
    (r.1.1.completed, r.1.1.failed, r.2.drawn) = (1, 1, 1) := by
  cbv

end Sweep

end Fulfillment
