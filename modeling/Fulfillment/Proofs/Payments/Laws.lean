import Fulfillment.Proofs.Shared.History

/-!
# The laws of the payment store

Every write to a stored payment that a service makes moves it one edge along the payment
lifecycle and keeps its id, its order and its version (`PayStep`); the store then bumps the
version. Along an edge the stage's `rank` (pending, processing, final) strictly grows, so the
writes to one payment never repeat a rank: a payment is claimed at most once and settled at
most once. New payments are refused for an order that has one, and writes keep the order, so
one order id names one payment id in the whole log.

`PaymentHistory` gathers these facts about the store and its log; it holds of the empty store
and every lawful write keeps it (`PaymentHistory.apply`).
-/

namespace Fulfillment

/-- How far along the lifecycle a payment stage is: pending, processing, then final. -/
def PaymentStatus.rank : PaymentStatus → Nat
  | .pending => 0
  | .processing => 1
  | _ => 2

theorem PaymentStatus.rank_lt_of_canMoveTo {s t : PaymentStatus} (h : s.canMoveTo t = true) :
    s.rank < t.rank := by
  cases s <;> cases t <;> simp_all [PaymentStatus.canMoveTo, PaymentStatus.rank]

/-- A write of `x` over the stored payment `b`: same id, order and version, and a stage one
edge further. -/
structure PayStep (b x : Payment) : Prop where
  id : x.id = b.id
  orderId : x.orderId = b.orderId
  version : x.version = b.version
  status : b.status.canMoveTo x.status = true

/-- A payment change whose every accepted result is a `PayStep`. -/
def PayLawful (change : Payment → Except Fault Payment) : Prop :=
  ∀ b x, change b = .ok x → PayStep b x

/-- What a write of payment `k` applying `change` may do in one step: write, under `k`,
`change` of the payment the write replaces. -/
def PayWrites (change : Payment → Except Fault Payment) (k : Int) (w : World) : Op → Prop
  | .updatePayment p => p.id = k ∧ ∀ cur, w.payments.payments.find? (·.id == k) = some cur →
      cur.version = p.version → change cur = .ok p
  | _ => False

/-- A write that keeps the laws of the payment store: a new pending payment, or a write that, if
it goes through, is a step of the payment it replaces. Writes to the orders and the notices
touch no payment. -/
def LawfulPayWrite (w : World) : Op → Prop
  | .createPayment p => p.status = .pending
  | .updatePayment p => ∀ cur, w.payments.payments.find? (·.id == p.id) = some cur →
      cur.version = p.version → PayStep cur p
  | _ => True

theorem PayWrites.lawful {change : Payment → Except Fault Payment} {k : Int} {w : World}
    {op : Op} (hc : PayLawful change) (h : PayWrites change k w op) : LawfulPayWrite w op := by
  cases op with
  | updatePayment p =>
    obtain ⟨rfl, hw⟩ := h
    exact fun cur hcur hv => hc cur p (hw cur hcur hv)
  | _ => exact absurd h id

/-! ## The stage moves of a payment -/

section Moves

variable {b x : Payment}

theorem PayStep.moveTo {t : PaymentStatus} (h : b.moveTo t = .ok x) : PayStep b x := by
  obtain ⟨hc, rfl⟩ := Payment.moveTo_eq_ok_iff.mp h
  exact ⟨rfl, rfl, rfl, hc⟩

theorem payLawful_markProcessing : PayLawful Payment.markProcessing :=
  fun _ _ h => PayStep.moveTo h

theorem payLawful_cancel : PayLawful Payment.cancel :=
  fun _ _ h => PayStep.moveTo h

/-- Completing records a transaction and a moment on top of the stage move. -/
theorem Payment.markCompleted_eq_ok {t : String} {at_ : Instant}
    (h : b.markCompleted t at_ = .ok x) : b.status.canMoveTo .completed = true ∧
      x = { b with status := .completed, transactionId := t, processedAt := some at_ } := by
  unfold Payment.markCompleted at h
  cases hm : b.moveTo .completed with
  | error f => rw [hm] at h; cases h
  | ok y =>
    rw [hm] at h
    cases h
    obtain ⟨hc, rfl⟩ := Payment.moveTo_eq_ok_iff.mp hm
    exact ⟨hc, rfl⟩

/-- Failing records a reason, or the default one, and a moment on top of the stage move. -/
theorem Payment.markFailed_eq_ok {reason : String} {at_ : Instant}
    (h : b.markFailed reason at_ = .ok x) : b.status.canMoveTo .failed = true ∧
      x = { b with status := .failed, failureReason := reasonOr reason "payment failed",
                   processedAt := some at_ } := by
  unfold Payment.markFailed at h
  cases hm : b.moveTo .failed with
  | error f => rw [hm] at h; cases h
  | ok y =>
    rw [hm] at h
    cases h
    obtain ⟨hc, rfl⟩ := Payment.moveTo_eq_ok_iff.mp hm
    exact ⟨hc, rfl⟩

theorem PayStep.markCompleted {txn : String} {at_ : Instant} (h : b.markCompleted txn at_ = .ok x) :
    PayStep b x := by
  obtain ⟨hc, rfl⟩ := Payment.markCompleted_eq_ok h
  exact ⟨rfl, rfl, rfl, hc⟩

theorem PayStep.markFailed {reason : String} {at_ : Instant} (h : b.markFailed reason at_ = .ok x) :
    PayStep b x := by
  obtain ⟨hc, rfl⟩ := Payment.markFailed_eq_ok h
  exact ⟨rfl, rfl, rfl, hc⟩

/-- `q` is `b` moved through one of the payment's named transitions: claimed, completed with a
transaction id at a moment, failed with a reason at a moment, or cancelled. -/
inductive PayMove (b : Payment) : Payment → Prop
  | markProcessing {x : Payment} : b.markProcessing = .ok x → PayMove b x
  | markCompleted {x : Payment} (txn : String) (at_ : Instant) :
      b.markCompleted txn at_ = .ok x → PayMove b x
  | markFailed {x : Payment} (reason : String) (at_ : Instant) :
      b.markFailed reason at_ = .ok x → PayMove b x
  | cancel {x : Payment} : b.cancel = .ok x → PayMove b x

/-- A named transition is a step of the lifecycle. -/
theorem PayMove.step (h : PayMove b x) : PayStep b x := by
  cases h with
  | markProcessing h => exact payLawful_markProcessing b x h
  | markCompleted _ _ h => exact PayStep.markCompleted h
  | markFailed _ _ h => exact PayStep.markFailed h
  | cancel h => exact payLawful_cancel b x h

end Moves

/-! ## The history of the payment store -/

/-- The laws of the payment store and its log: the store agrees with the log, and its index by
order with its payments; every logged write is of a payment still stored with the same order,
and one order id belongs to one payment id; a logged write's stage ranks no higher than the
stored stage of its payment, and the writes to one payment never repeat a rank. -/
structure PaymentHistory (w : World) : Prop where
  kept : PaymentsKept w
  indexed : w.payments.Indexed
  backed : ∀ e ∈ w.paymentLog, ∃ r ∈ w.payments.payments, r.id = e.after.id ∧
    r.orderId = e.after.orderId
  orders : ∀ e ∈ w.paymentLog, ∀ e' ∈ w.paymentLog, e.after.orderId = e'.after.orderId →
    e.after.id = e'.after.id
  below : ∀ e ∈ w.paymentLog, ∀ r ∈ w.payments.payments, e.after.id = r.id →
    e.after.status.rank ≤ r.status.rank
  ranks : ∀ k, ((w.paymentLog.filter (·.after.id == k)).map (·.after.status.rank)).Nodup

/-- A write whose stage ranks above every earlier write of its payment keeps the ranks of each
payment's writes distinct. -/
theorem ranks_nodup_snoc {log : List (Entry Payment)} {e : Entry Payment}
    (h : ∀ k, ((log.filter (·.after.id == k)).map (·.after.status.rank)).Nodup)
    (hlt : ∀ x ∈ log, x.after.id = e.after.id → x.after.status.rank < e.after.status.rank)
    (k : Int) : (((log ++ [e]).filter (·.after.id == k)).map (·.after.status.rank)).Nodup := by
  rw [List.filter_append, List.map_append]
  by_cases hk : e.after.id = k
  · subst hk
    refine List.nodup_append.mpr ⟨h _, by simp, fun a ha b hb => ?_⟩
    simp only [List.filter_cons, List.filter_nil, beq_self_eq_true, if_true, List.map_cons,
      List.map_nil, List.mem_singleton] at hb
    obtain ⟨x, hx, rfl⟩ := List.mem_map.mp ha
    have hxk := List.mem_filter.mp hx
    have := hlt x hxk.1 (by simpa using hxk.2)
    omega
  · simpa [hk] using h k

namespace PaymentHistory

variable {w w' : World}

theorem start (now : Instant) : PaymentHistory (World.start now) :=
  ⟨paymentsKept_start now, rfl, by simp [World.start], by simp [World.start],
    by simp [World.start], by simp [World.start]⟩

/-- The laws speak only of the payment store and its log. -/
theorem congr (h : PaymentHistory w) (hp : w'.payments = w.payments)
    (hl : w'.paymentLog = w.paymentLog) : PaymentHistory w' where
  kept := by unfold PaymentsKept; rw [hp, hl]; exact h.kept
  indexed := hp ▸ h.indexed
  backed := by rw [hp, hl]; exact h.backed
  orders := by rw [hl]; exact h.orders
  below := by rw [hp, hl]; exact h.below
  ranks := by rw [hl]; exact h.ranks

theorem env (h : PaymentHistory w) (he : Env w w') : PaymentHistory w' :=
  h.congr (Env.stores he).2.1 (Env.stores he).2.2.2.1

/-- A new payment keeps the laws: its id is fresh and its order has no payment yet. -/
theorem create (h : PaymentHistory w) (p : Payment) (j : Nat) :
    PaymentHistory (w.apply j (.createPayment p)) := by
  have hk := paymentsKept_apply (j := j) h.kept (.createPayment p)
  rcases World.createPayment_cases w j p with ⟨f, hf⟩ | ⟨n, hnone, rfl, hc⟩
  · simpa [World.apply, hf] using h
  have hi : (w.apply j (.createPayment p)).payments.Indexed := by
    simp only [World.apply, hc, PaymentStore.Indexed, List.map_append, List.map_cons,
      List.map_nil]
    rw [h.indexed]
  simp only [World.apply, hc] at hk hi ⊢
  -- every logged or stored id was handed out before the new one
  have hlog : ∀ e ∈ w.paymentLog, e.after.id ≤ w.payments.lastId := h.kept.ids_le
  have hrs : ∀ r ∈ w.payments.payments, r.id ≤ w.payments.lastId := fun r hr => by
    obtain ⟨e, he, rfl⟩ := h.kept.logged r hr
    exact hlog e he
  -- the index has no payment of the order, so no stored one and no logged one has it
  have hfresh : ∀ e ∈ w.paymentLog, e.after.orderId ≠ p.orderId := fun e he heq => by
    obtain ⟨r, hr, -, hro⟩ := h.backed e he
    have hany := h.indexed.lookup_isSome p.orderId
    rw [hnone, Option.isSome_none] at hany
    have := List.any_eq_false.mp hany.symm r hr
    simp_all
  refine ⟨hk, hi, fun e he => ?_, fun e he e' he' ho => ?_, fun e he r hr hid => ?_, fun k => ?_⟩
  · rcases List.mem_append.mp he with he | he
    · obtain ⟨r, hr, rest⟩ := h.backed e he
      exact ⟨r, List.mem_append_left _ hr, rest⟩
    · rw [List.mem_singleton.mp he]
      exact ⟨_, List.mem_append_right _ (List.mem_singleton_self _), rfl, rfl⟩
  · rcases List.mem_append.mp he with he | he <;> rcases List.mem_append.mp he' with he' | he'
    · exact h.orders e he e' he' ho
    · rw [List.mem_singleton.mp he'] at ho; exact absurd ho (hfresh e he)
    · rw [List.mem_singleton.mp he] at ho; exact absurd ho.symm (hfresh e' he')
    · rw [List.mem_singleton.mp he, List.mem_singleton.mp he']
  · rcases List.mem_append.mp he with he | he <;> rcases List.mem_append.mp hr with hr | hr
    · exact h.below e he r hr hid
    · rw [List.mem_singleton.mp hr] at hid
      have := hlog e he
      simp only at hid
      omega
    · rw [List.mem_singleton.mp he] at hid
      have := hrs r hr
      simp only at hid
      omega
    · obtain rfl := List.mem_singleton.mp he
      obtain rfl := List.mem_singleton.mp hr
      exact Nat.le_refl _
  · -- no earlier write has the new id
    refine ranks_nodup_snoc h.ranks (fun e he hid => ?_) k
    have := hlog e he
    dsimp only at hid
    omega

/-- A step of the payment it replaces keeps the laws: the stage's rank grows, so no earlier
write of that payment had it. -/
theorem update (h : PaymentHistory w) {q : Payment}
    (hq : ∀ cur, w.payments.payments.find? (·.id == q.id) = some cur → cur.version = q.version →
      PayStep cur q) (j : Nat) :
    PaymentHistory (w.apply j (.updatePayment q)) := by
  have hk := paymentsKept_apply (j := j) h.kept (.updatePayment q)
  rcases World.updatePayment_cases w j q with ⟨f, hf⟩ | ⟨cur, n, hcur, hv, hn, hu⟩
  · simpa [World.apply, hf] using h
  simp only [World.apply, hu] at hk ⊢
  have hmem : cur ∈ w.payments.payments := List.mem_of_find?_eq_some hcur
  have hid : cur.id = q.id := by simpa using List.find?_some hcur
  have hs := hq cur hcur hv
  -- the stored payment `n` is `q` stamped: same id, order and stage
  have hnid : n.id = q.id := by rw [hn]
  have hno : n.orderId = cur.orderId := by rw [hn]; exact hs.orderId
  have hrank : cur.status.rank < n.status.rank := by
    rw [hn]; exact PaymentStatus.rank_lt_of_canMoveTo hs.status
  have hin : n ∈ w.payments.payments.map fun x => if x.id == q.id then n else x :=
    List.mem_map.mpr ⟨cur, hmem, by simp [hid]⟩
  -- a stored payment of the written id is the one replaced
  have hsame : ∀ x ∈ w.payments.payments, x.id = q.id → x = cur := fun x hx hxq =>
    h.kept.unique hx hmem (hxq.trans hid.symm)
  obtain ⟨c, hc, hca⟩ := h.kept.logged cur hmem
  have hi : ({ w.payments with payments := w.payments.payments.map fun x =>
      if x.id == q.id then n else x } : PaymentStore).Indexed :=
    h.indexed.replace fun x hx hxq => by
      rw [hsame x hx hxq]
      exact ⟨hno, hnid.trans hid.symm⟩
  refine ⟨hk, hi, fun e he => ?_, fun e he e' he' ho => ?_, fun e he r hr hr' => ?_, fun k => ?_⟩
  · rcases List.mem_append.mp he with he | he
    · obtain ⟨r, hr, hri, hro⟩ := h.backed e he
      by_cases hrq : r.id = q.id
      · rw [hsame r hr hrq] at hri hro
        exact ⟨n, hin, hnid.trans (hid.symm.trans hri), hno.trans hro⟩
      · exact ⟨r, List.mem_map.mpr ⟨r, hr, by simp [hrq]⟩, hri, hro⟩
    · rw [List.mem_singleton.mp he]
      exact ⟨n, hin, rfl, rfl⟩
  · -- the new write keeps the order of the payment it replaced, which is logged
    have hnew : ∀ e ∈ w.paymentLog, e.after.orderId = n.orderId → e.after.id = n.id :=
      fun e he ho => by
        rw [hno, ← hca] at ho
        rw [h.orders e he c hc ho, hca, hid, hnid]
    rcases List.mem_append.mp he with he | he <;> rcases List.mem_append.mp he' with he' | he'
    · exact h.orders e he e' he' ho
    · rw [List.mem_singleton.mp he'] at ho ⊢; exact hnew e he ho
    · rw [List.mem_singleton.mp he] at ho ⊢; exact (hnew e' he' ho.symm).symm
    · rw [List.mem_singleton.mp he, List.mem_singleton.mp he']
  · obtain ⟨x, hx, rfl⟩ := List.mem_map.mp hr
    by_cases hxq : x.id = q.id
    · simp only [hxq, beq_self_eq_true, if_true] at hr' ⊢
      rcases List.mem_append.mp he with he | he
      · have := h.below e he cur hmem (hr'.trans (hnid.trans hid.symm))
        omega
      · obtain rfl := List.mem_singleton.mp he
        exact Nat.le_refl _
    · have hne : (x.id == q.id) = false := by simpa using hxq
      simp only [hne, Bool.false_eq_true, if_false] at hr' ⊢
      rcases List.mem_append.mp he with he | he
      · exact h.below e he x hx hr'
      · rw [List.mem_singleton.mp he] at hr'; exact absurd (hr'.symm.trans hnid) hxq
  · -- every earlier write of the payment ranks at most its stored stage, which the step passes
    refine ranks_nodup_snoc h.ranks (fun e he hen => ?_) k
    have := h.below e he cur hmem (hen.trans (hnid.trans hid.symm))
    dsimp only
    omega

/-- **Every lawful write keeps the laws of the payment store.** -/
theorem apply (h : PaymentHistory w) {op : Op} (hop : LawfulPayWrite w op) (j : Nat) :
    PaymentHistory (w.apply j op) := by
  cases op with
  | createPayment p => exact h.create p j
  | updatePayment q => exact h.update hop j
  | createOrder o =>
    exact h.congr rfl rfl
  | updateOrder o =>
    simp only [World.apply, World.updateOrder]
    split <;> exact h.congr rfl rfl
  | notify n => exact h.congr rfl rfl

end PaymentHistory

end Fulfillment
