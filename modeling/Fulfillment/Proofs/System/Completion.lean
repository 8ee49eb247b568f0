import Fulfillment.Proofs.System.Wiring

/-!
# Completed orders are paid

In the wired system (`systemPool`), every stored order that is COMPLETED names a payment that is
stored COMPLETED for that order, and from then on the order stays COMPLETED with that payment.

Two facts of the payment side carry the order side: one order has one payment on record
(`PaymentHistory.eq_of_paidFor`), and a payment on record as completed is the stored payment of
its id, completed (`PaymentHistory.stored_of_settled`). Every change of an order that a call
writes pays for what it completes (`PaidChange`): a completion names a payment on record as
completed for the order, and a change of a completed order only attaches a payment on record
for it, which is then the one it already names. So every step keeps completed orders paid
(`CompletionLaws`), and keeps a completed order completed with its payment (`CompletedWith`).
-/

namespace Fulfillment

open Prog

/-! ## Changes that pay for what they complete -/

/-- A change of order `k` that completes an order only with a payment on record as completed for
`k`, and changes a completed order only by attaching a payment of `k` on record. -/
structure PaidChange (w : World) (k : Int) (c : Order → Except Fault Order) : Prop where
  completes : ∀ cur o, c cur = .ok o → cur.status ≠ .completed → o.status = .completed →
    ∃ p, o.paymentId = some p ∧ SettledFor k p w
  keeps : ∀ cur o, c cur = .ok o → cur.status = .completed →
    ∃ p, o = cur.attachPayment p ∧ PaidFor k p w

/-- An order write that keeps completed orders paid: a draft, or a change that pays for what it
completes. Writes to the payments and the notices touch no order. -/
def PaidOrderWrite (w : World) : Op → Prop
  | .createOrder o => Draft o
  | .updateOrder o => ∃ k c, ChangeWrites c k w (.updateOrder o) ∧ PaidChange w k c
  | _ => True

section Changes

variable {w : World} {k p : Int}

/-- A change that moves every order it accepts along an edge to a stage other than COMPLETED
completes nothing, and refuses a completed order, which moves nowhere. -/
theorem PaidChange.of_moves {c : Order → Except Fault Order}
    (h : ∀ cur o, c cur = .ok o → cur.status.canMoveTo o.status = true ∧ o.status ≠ .completed) :
    PaidChange w k c where
  completes cur o hc _ hs := absurd hs (h cur o hc).2
  keeps cur o hc hs := by
    have hm := (h cur o hc).1
    rw [hs, OrderStatus.not_canMoveTo_of_isTerminal rfl] at hm
    cases hm

theorem paidChange_confirm : PaidChange w k Order.confirm :=
  .of_moves fun _ _ hc => by
    obtain ⟨hm, rfl⟩ := Order.moveTo_eq_ok_iff.mp hc
    exact ⟨hm, by simp⟩

theorem paidChange_markPaymentProcessing : PaidChange w k Order.markPaymentProcessing :=
  .of_moves fun _ _ hc => by
    obtain ⟨hm, rfl⟩ := Order.moveTo_eq_ok_iff.mp hc
    exact ⟨hm, by simp⟩

theorem paidChange_fail (reason : String) : PaidChange w k fun o => o.fail reason :=
  .of_moves fun _ _ hc => by
    obtain ⟨y, hy, rfl⟩ := map_eq_ok hc
    obtain ⟨hm, rfl⟩ := Order.moveTo_eq_ok_iff.mp hy
    exact ⟨hm, by simp⟩

theorem paidChange_cancel (req : OrderMove) :
    PaidChange w k (OrderService.change .cancelled req) :=
  .of_moves fun _ _ hc => by
    obtain ⟨y, hy, rfl⟩ := map_eq_ok hc
    obtain ⟨hm, rfl⟩ := Order.moveTo_eq_ok_iff.mp hy
    exact ⟨hm, by simp⟩

theorem paidChange_attach (h : PaidFor k p w) :
    PaidChange w k fun o => .ok (o.attachPayment p) where
  completes cur o hc hne hs := by
    cases hc
    exact absurd hs hne
  keeps cur o hc _ := by
    cases hc
    exact ⟨p, rfl, h⟩

/-- The completion a sweep's notifier asks for names the payment it completed. -/
theorem paidChange_complete (h : SettledFor k p w) (reason : String) :
    PaidChange w k (OrderService.change .completed ⟨"COMPLETED", some p, reason⟩) where
  completes cur o hc _ _ := by
    obtain ⟨y, -, rfl⟩ := map_eq_ok hc
    exact ⟨p, rfl, h⟩
  keeps cur o hc hs := by
    obtain ⟨y, hy, -⟩ := map_eq_ok hc
    have hm := (Order.moveTo_eq_ok_iff.mp hy).1
    rw [hs, OrderStatus.not_canMoveTo_of_isTerminal rfl] at hm
    cases hm

end Changes

/-! ## Every write of a call -/

section Writes

variable {w : World} {op : Op} {i : Nat}

theorem MoveWrites.change {k : Int} {req : OrderMove} {t : OrderStatus}
    (h : MoveWrites k req w op) (ht : OrderService.parseStatus req.status = .ok t) :
    ChangeWrites (OrderService.change t req) k w op := by
  obtain ⟨t', ht', hw⟩ := h
  rw [ht] at ht'
  cases ht'
  exact hw

theorem SagaWrites.paidOrderWrite (h : SagaWrites PaidFor w op) : PaidOrderWrite w op := by
  rcases h with ⟨o, rfl, hd⟩ | ⟨k, hw | hw | ⟨r, hw⟩ | ⟨p, hp, hw⟩⟩
  · exact hd
  all_goals obtain ⟨o, rfl⟩ := hw.update
  · exact ⟨k, _, hw, paidChange_confirm⟩
  · exact ⟨k, _, hw, paidChange_markPaymentProcessing⟩
  · exact ⟨k, _, hw, paidChange_fail r⟩
  · exact ⟨k, _, hw, paidChange_attach hp⟩

theorem CallbackWrites.paidOrderWrite (h : CallbackWrites w op) : PaidOrderWrite w op := by
  rcases h with ⟨k, p, hs, hm⟩ | ⟨k, reason, hm⟩
  · have hw := hm.change (t := .completed) rfl
    obtain ⟨o, rfl⟩ := hw.update
    exact ⟨k, _, hw, paidChange_complete hs ""⟩
  · have hw := hm.change (t := .cancelled) rfl
    obtain ⟨o, rfl⟩ := hw.update
    exact ⟨k, _, hw, paidChange_cancel _⟩

theorem SweepWrites.paidOrderWrite (h : SweepWrites i w op) : PaidOrderWrite w op := by
  rcases h with ⟨k, h⟩ | ⟨c, -, -, -, q, rfl, -⟩ | ⟨n, rfl, -⟩
  · cases op with
    | updatePayment p => trivial
    | _ => exact absurd h id
  · trivial
  · trivial

theorem SagaWrites.payLawful {Paid : Int → Int → World → Prop} (h : SagaWrites Paid w op) :
    LawfulPayWrite w op := by
  rcases h with ⟨o, rfl, -⟩ | ⟨k, hw | hw | ⟨_, hw⟩ | ⟨_, _, hw⟩⟩
  · trivial
  all_goals
    obtain ⟨o, rfl⟩ := hw.update
    trivial

theorem CallbackWrites.payLawful (h : CallbackWrites w op) : LawfulPayWrite w op := by
  rcases h with ⟨_, _, _, _, _, hw⟩ | ⟨_, _, _, _, hw⟩
  all_goals
    obtain ⟨o, rfl⟩ := hw.update
    trivial

/-- Every write of a wired call keeps to the laws of both stores. -/
theorem SystemCall.Writes.paid {call : SystemCall} (h : call.Writes i w op) (hk : PaymentsKept w) :
    LawfulPayWrite w op ∧ PaidOrderWrite w op := by
  cases call with
  | place =>
    rcases h with h | ⟨p, rfl, hp⟩
    · exact ⟨h.payLawful, h.paidOrderWrite⟩
    · exact ⟨hp, trivial⟩
  | sweep =>
    rcases h with h | h
    · exact ⟨h.lawful hk, h.paidOrderWrite⟩
    · exact ⟨h.payLawful, h.paidOrderWrite⟩

end Writes

/-! ## Completed orders are paid -/

/-- Every stored completed order names a payment on record as completed for it. -/
def CompletedPaid (w : World) : Prop :=
  ∀ o ∈ w.orders.orders, o.status = .completed → ∃ p, o.paymentId = some p ∧ SettledFor o.id p w

/-- The laws of the wired system: the order store agrees with its log, the payment store keeps
its laws, and completed orders are paid. -/
structure CompletionLaws (w : World) : Prop where
  orders : OrdersKept w
  history : PaymentHistory w
  paid : CompletedPaid w

section Paid

variable {w w' : World} {op : Op}

@[simp] theorem World.apply_createPayment_orders (w : World) (j : Nat) (p : Payment) :
    (w.apply j (.createPayment p)).orders = w.orders := by
  simp only [World.apply, World.createPayment]
  split <;> rfl

@[simp] theorem World.apply_updatePayment_orders (w : World) (j : Nat) (p : Payment) :
    (w.apply j (.updatePayment p)).orders = w.orders := by
  simp only [World.apply, World.updatePayment]
  split <;> rfl

/-- After a write replaced the stored copies of one id, a stored order is one stored before
under another id, or the written one. -/
theorem mem_replaced {rs : List Order} {k : Int} {n x : Order}
    (hx : x ∈ rs.map fun y => if y.id == k then n else y) : (x ∈ rs ∧ x.id ≠ k) ∨ x = n := by
  obtain ⟨y, hy, rfl⟩ := List.mem_map.mp hx
  by_cases hyk : (y.id == k) = true
  · exact .inr (if_pos hyk)
  · rw [if_neg hyk]
    exact .inl ⟨hy, by simpa using hyk⟩

theorem CompletedPaid.congr (h : CompletedPaid w) (ho : w'.orders = w.orders)
    (hl : ∀ P, w.PaymentLogged P → w'.PaymentLogged P) : CompletedPaid w' := by
  intro o ho' hs
  rw [ho] at ho'
  obtain ⟨p, hp, hset⟩ := h o ho' hs
  exact ⟨p, hp, hl _ hset⟩

/-- A change that pays for what it completes keeps completed orders paid: it completes an order
with a payment on record as completed, or attaches to a completed order a payment of that order,
which is the one it already names. -/
theorem CompletedPaid.update (h : CompletedPaid w) (hh : PaymentHistory w)
    {c : Order → Except Fault Order} {k : Int} {o : Order}
    (hw : ChangeWrites c k w (.updateOrder o)) (hc : PaidChange w k c) (j : Nat) :
    CompletedPaid (w.apply j (.updateOrder o)) := by
  obtain rfl : o.id = k := hw.1
  rcases hw.cases j with heq | ⟨cur, hcur, -, hco, heq⟩
  · rw [heq]; exact h
  rw [heq]
  have hcmem : cur ∈ w.orders.orders := List.mem_of_find?_eq_some hcur
  have hcid : cur.id = o.id := by simpa using List.find?_some hcur
  -- the written order, if completed, names a payment on record as completed for it
  have hnew : o.status = .completed → ∃ p, o.paymentId = some p ∧ SettledFor o.id p w := by
    intro hs
    by_cases hcs : cur.status = .completed
    · obtain ⟨p, rfl, hp⟩ := hc.keeps cur _ hco hcs
      obtain ⟨p0, hp0, hset⟩ := h cur hcmem hcs
      rw [hcid] at hset
      obtain rfl := hh.eq_of_paidFor hset.paidFor hp
      exact ⟨p0, rfl, hset⟩
    · exact hc.completes cur o hco hcs hs
  intro x hx hxs
  rcases mem_replaced hx with ⟨hx, -⟩ | rfl
  · exact h x hx hxs
  · exact hnew hxs

/-- **Every write that keeps the laws of both stores keeps completed orders paid.** -/
theorem CompletedPaid.apply (h : CompletedPaid w) (hh : PaymentHistory w)
    (hop : PaidOrderWrite w op) (j : Nat) : CompletedPaid (w.apply j op) := by
  have hl : ∀ P, w.PaymentLogged P → (w.apply j op).PaymentLogged P := fun _ hp => hp.apply j op
  cases op with
  | createOrder o =>
    -- a new order is a draft, pending
    intro x hx hs
    simp only [World.apply, World.createOrder, OrderStore.create, List.mem_append,
      List.mem_singleton] at hx
    rcases hx with hx | rfl
    · obtain ⟨p, hp, hset⟩ := h x hx hs
      exact ⟨p, hp, hl _ hset⟩
    · have hpending : o.status = .completed := hs
      rw [hop.1] at hpending
      cases hpending
  | updateOrder o =>
    obtain ⟨k, c, hw, hc⟩ := hop
    exact h.update hh hw hc j
  | createPayment p => exact h.congr (World.apply_createPayment_orders w j p) hl
  | updatePayment p => exact h.congr (World.apply_updatePayment_orders w j p) hl
  | notify n => exact h.congr rfl hl

theorem CompletionLaws.start (now : Instant) : CompletionLaws (World.start now) :=
  ⟨ordersKept_start now, PaymentHistory.start now,
    fun _ ho => by simp [World.start, OrderStore.empty] at ho⟩

theorem CompletionLaws.env (h : CompletionLaws w) (he : Env w w') : CompletionLaws w' := by
  obtain ⟨ho, -, hol, hpl, -⟩ := Env.stores he
  refine ⟨?_, h.history.env he, h.paid.congr ho fun _ hp => ?_⟩
  · unfold OrdersKept; rw [ho, hol]; exact h.orders
  · unfold World.PaymentLogged; rw [hpl]; exact hp

theorem CompletionLaws.apply (h : CompletionLaws w) (hpay : LawfulPayWrite w op)
    (hop : PaidOrderWrite w op) (j : Nat) : CompletionLaws (w.apply j op) :=
  ⟨ordersKept_apply h.orders op, h.history.apply hpay j, h.paid.apply h.history hop j⟩

end Paid

theorem stable_completionLaws (calls : List SystemCall) (i : Nat) :
    Stable (systemGuarantee calls i) CompletionLaws := by
  rintro w w' (rfl | ⟨op, ⟨call, -, hw⟩, rfl⟩) h
  · exact h
  · obtain ⟨hpay, hop⟩ := hw.paid h.history.kept
    exact h.apply hpay hop i

/-- The laws hold in every state a wired system reaches. -/
theorem completionLaws_reach (now : Instant) (calls : List SystemCall)
    {c : World × List (Prog World Unit)}
    (hr : Relation.ReflTransGen (Pool.Step Env) (systemPool now calls) c) : CompletionLaws c.1 :=
  (systemPool_safe now calls).invariant (stable_completionLaws calls) (fun _ _ he h => h.env he)
    (CompletionLaws.start now) hr

/-! ## ... and stay so -/

/-- Order `k` is stored, and every stored copy of it is completed with payment `p`. -/
def CompletedWith (k p : Int) (w : World) : Prop :=
  (∃ o ∈ w.orders.orders, o.id = k) ∧
    ∀ o ∈ w.orders.orders, o.id = k → o.status = .completed ∧ o.paymentId = some p

section With

variable {w w' : World} {op : Op} {k p : Int}

theorem CompletedWith.congr (h : CompletedWith k p w) (ho : w'.orders = w.orders) :
    CompletedWith k p w' := by
  unfold CompletedWith; rw [ho]; exact h

/-- A new order gets an id above every id on record, so not that of a stored order. -/
theorem CompletedWith.create (h : CompletedWith k p w) (hk : OrdersKept w) (o : Order) (j : Nat) :
    CompletedWith k p (w.apply j (.createOrder o)) := by
  obtain ⟨⟨x, hx, hxk⟩, hall⟩ := h
  have hnew : w.orders.lastId + 1 ≠ k := by
    obtain ⟨e, he, hex⟩ := hk.logged x hx
    have := hk.ids_le e he
    rw [hex, hxk] at this
    omega
  simp only [World.apply, World.createOrder, OrderStore.create]
  refine ⟨⟨x, List.mem_append_left _ hx, hxk⟩, fun y hy hyk => ?_⟩
  rcases List.mem_append.mp hy with hy | hy
  · exact hall y hy hyk
  · rw [List.mem_singleton.mp hy] at hyk
    exact absurd hyk hnew

/-- A completed order stays completed with its payment: no move leaves COMPLETED, and the one
change that goes through attaches the payment of the order, which it already names. -/
theorem CompletedWith.update (h : CompletedWith k p w) (hl : CompletionLaws w)
    {c : Order → Except Fault Order} {k' : Int} {o : Order}
    (hw : ChangeWrites c k' w (.updateOrder o)) (hc : PaidChange w k' c) (j : Nat) :
    CompletedWith k p (w.apply j (.updateOrder o)) := by
  obtain rfl : o.id = k' := hw.1
  rcases hw.cases j with heq | ⟨cur, hcur, -, hco, heq⟩
  · rw [heq]; exact h
  rw [heq]
  obtain ⟨⟨x, hx, hxk⟩, hall⟩ := h
  have hcmem : cur ∈ w.orders.orders := List.mem_of_find?_eq_some hcur
  have hcid : cur.id = o.id := by simpa using List.find?_some hcur
  -- a write of order `k` goes through only over the completed copy, attaching its payment
  have hnew : o.id = k → o.status = .completed ∧ o.paymentId = some p := by
    intro hok
    obtain ⟨hcs, hcp⟩ := hall cur hcmem (hcid.trans hok)
    obtain ⟨p', rfl, hp'⟩ := hc.keeps cur _ hco hcs
    obtain ⟨p0, hp0, hset⟩ := hl.paid cur hcmem hcs
    rw [hcp] at hp0
    cases hp0
    rw [hcid] at hset
    obtain rfl := hl.history.eq_of_paidFor hset.paidFor hp'
    exact ⟨hcs, rfl⟩
  refine ⟨⟨_, List.mem_map_of_mem hx, ?_⟩, fun y hy hyk => ?_⟩
  · by_cases hxo : (x.id == o.id) = true
    · rw [if_pos hxo]
      exact (beq_iff_eq.mp hxo).symm.trans hxk
    · rw [if_neg hxo]
      exact hxk
  · rcases mem_replaced hy with ⟨hy, -⟩ | rfl
    · exact hall y hy hyk
    · exact hnew hyk

theorem CompletedWith.apply (h : CompletedWith k p w) (hl : CompletionLaws w)
    (hop : PaidOrderWrite w op) (j : Nat) : CompletedWith k p (w.apply j op) := by
  cases op with
  | createOrder o => exact h.create hl.orders o j
  | updateOrder o =>
    obtain ⟨k', c, hw, hc⟩ := hop
    exact h.update hl hw hc j
  | createPayment q => exact h.congr (World.apply_createPayment_orders w j q)
  | updatePayment q => exact h.congr (World.apply_updatePayment_orders w j q)
  | notify n => exact h.congr rfl

end With

theorem stable_completedWith (calls : List SystemCall) (k p : Int) (i : Nat) :
    Stable (systemGuarantee calls i) fun w => CompletionLaws w ∧ CompletedWith k p w := by
  rintro w w' (rfl | ⟨op, ⟨call, -, hw⟩, rfl⟩) ⟨hl, h⟩
  · exact ⟨hl, h⟩
  · obtain ⟨hpay, hop⟩ := hw.paid hl.history.kept
    exact ⟨hl.apply hpay hop i, h.apply hl hop i⟩

/-- **Completed orders are paid, for good.** In every state that a wired system of sagas placing
orders and sweeps settling payments reaches, every stored order that is COMPLETED names a payment
that is stored COMPLETED for that order; and in every state reached after that one, the order is
still stored, COMPLETED, with that same payment. -/
theorem completed_orders_stay_paid (now : Instant) (calls : List SystemCall)
    {c c' : World × List (Prog World Unit)}
    (hr : Relation.ReflTransGen (Pool.Step Env) (systemPool now calls) c)
    (hr' : Relation.ReflTransGen (Pool.Step Env) c c') :
    ∀ o ∈ c.1.orders.orders, o.status = .completed → ∃ p, o.paymentId = some p ∧
      (∃ q ∈ c.1.payments.payments, q.id = p ∧ q.status = .completed ∧ q.orderId = o.id) ∧
      (∃ o' ∈ c'.1.orders.orders, o'.id = o.id) ∧
      ∀ o' ∈ c'.1.orders.orders, o'.id = o.id → o'.status = .completed ∧ o'.paymentId = some p := by
  intro o ho hs
  have hl := completionLaws_reach now calls hr
  obtain ⟨p, hp, hset⟩ := hl.paid o ho hs
  -- the order is the only stored copy of its id
  have hwith : CompletedWith o.id p c.1 := ⟨⟨o, ho, rfl⟩, fun o' ho' hid => by
    obtain rfl := hl.orders.unique ho' ho hid
    exact ⟨hs, hp⟩⟩
  have hlater := ((systemPool_safe now calls).reach hr).stable
    (stable_completedWith calls o.id p) (fun _ _ he h => ⟨h.1.env he, h.2.congr (Env.stores he).1⟩)
    hr' ⟨hl, hwith⟩
  exact ⟨p, hp, hl.history.stored_of_settled hset, hlater.2.1, hlater.2.2⟩

/-- A saga places an order for one book (thread 0) and a sweep then settles its payment, which
completes the order (thread 1); a second saga places another order afterwards (thread 2). -/
theorem completed_orders_stay_paid_settled :
    let calls : List SystemCall :=
      [.place ⟨1, some [⟨0, "book", "", "", 1, ⟨100, 0⟩, ⟨100, 0⟩⟩], ""⟩ "" ⟨true, true, .ok 0, "saga-1"⟩,
       .sweep 10 ⟨0⟩ (fun _ => .settled) "TXN-1",
       .place ⟨2, some [⟨0, "pen", "", "", 2, ⟨150, -2⟩, ⟨0, 0⟩⟩], ""⟩ "" ⟨true, true, .ok 0, "saga-2"⟩]
    let c := Pool.schedule (systemPool Instant.zero calls) (List.replicate 9 0 ++ List.replicate 9 1)
    let c' := Pool.schedule c (List.replicate 9 2)
    Relation.ReflTransGen (Pool.Step Env) (systemPool Instant.zero calls) c ∧
    Relation.ReflTransGen (Pool.Step Env) c c' ∧ c'.1.orders.orders.length = 2 ∧
    ∃ o ∈ c.1.orders.orders, o.status = .completed ∧ ∃ p, o.paymentId = some p ∧
      (∃ q ∈ c.1.payments.payments, q.id = p ∧ q.status = .completed ∧ q.orderId = o.id) ∧
      (∃ o' ∈ c'.1.orders.orders, o'.id = o.id) ∧
      ∀ o' ∈ c'.1.orders.orders, o'.id = o.id → o'.status = .completed ∧ o'.paymentId = some p := by
  intro calls c c'
  have hr : Relation.ReflTransGen (Pool.Step Env) (systemPool Instant.zero calls) c :=
    Pool.reach_schedule _ _
  have hr' : Relation.ReflTransGen (Pool.Step Env) c c' := Pool.reach_schedule _ _
  obtain ⟨o, ho, hs⟩ : ∃ o ∈ c.1.orders.orders, o.status = .completed := by decide +kernel
  exact ⟨hr, hr', by decide +kernel, o, ho, hs, completed_orders_stay_paid _ _ hr hr' o ho hs⟩

end Fulfillment
