import Fulfillment.Proofs.Orders.Restore
import Fulfillment.Proofs.Payments.Recovery
import Fulfillment.Http.System

/-!
# Status moves through the services

A request names a stage by its text and, for an order, may carry a payment id and a reason; for
a payment, a reason and a transaction id. Both services move the stored record to that stage when
the lifecycle allows it (`OrderMove.Allows`, `PaymentMove.Allows`), and write what the move
changes and nothing else (`OrderMove.moved`, `PaymentMove.moved`):

* an order gets its payment id on the way to PAYMENT_PROCESSING (when the request has one) and
  to COMPLETED (which needs one, from the request or already on the order), and its failure
  reason, or the stage's default when the request's is blank, when it fails or is cancelled;
* a payment gets the request's trimmed transaction id, or a fresh one when it is blank, and the
  moment when it completes, and the reason, or `payment failed`, and the moment when it fails.

Each service reaches the record through one stage switch of its own (`OrderService.change` and
the switch of `PaymentService.updateStatus`); `change_eq_ok_iff` and `PaymentMove.switched_of_iff`
show that the switch accepts exactly the moves of the lifecycle table. Run against the stores of
the system with no other writer (`alone_updateOrderStatus`, `alone_updatePaymentStatus`), a
request succeeds exactly when its move is allowed; a refused one writes nothing
(`alone_refusedPaymentMove`), and one that succeeds writes the moved record one version up and
leaves every other record as it was (`alone_allowedPaymentMove`, `status_moves_as_requested`).
-/

namespace Fulfillment

/-! ## The stage names -/

/-- In a list whose names are distinct, a search by name finds exactly the element of that
name. -/
theorem find?_name_eq_some_iff {α : Type} {l : List α} {name : α → String}
    (hnames : (l.map name).Nodup) {s : String} {t : α} :
    l.find? (name · == s) = some t ↔ t ∈ l ∧ name t = s := by
  constructor
  · intro h
    exact ⟨List.mem_of_find?_eq_some h, by simpa using List.find?_some h⟩
  · rintro ⟨ht, rfl⟩
    obtain ⟨u, hu⟩ := Option.isSome_iff_exists.mp
      (List.find?_isSome.mpr ⟨t, ht, by simp⟩ : (l.find? (name · == name t)).isSome)
    have hut : u = t := List.inj_on_of_nodup_map hnames (List.mem_of_find?_eq_some hu) ht
      (by simpa using List.find?_some hu)
    rw [hu, hut]

/-- A text names at most one stage. -/
theorem OrderStatus.parse?_eq_some_iff {s : String} {t : OrderStatus} :
    OrderStatus.parse? s = some t ↔ t ∈ OrderStatus.all ∧ t.toText = s :=
  find?_name_eq_some_iff (by decide +kernel)

/-- A text names at most one stage. -/
theorem PaymentStatus.parse?_eq_some_iff {s : String} {t : PaymentStatus} :
    PaymentStatus.parse? s = some t ↔ t ∈ PaymentStatus.all ∧ t.toText = s :=
  find?_name_eq_some_iff (by decide +kernel)

/-- Nothing moves back to PENDING. -/
theorem OrderStatus.canMoveTo_pending (s : OrderStatus) : s.canMoveTo .pending = false := by
  cases s <;> rfl

/-- Nothing moves to a text that names no stage. -/
theorem OrderStatus.canMoveTo_other (s : OrderStatus) (t : String) :
    s.canMoveTo (.other t) = false := by
  cases s <;> rfl

/-- Nothing moves back to PENDING. -/
theorem PaymentStatus.canMoveTo_pending (s : PaymentStatus) : s.canMoveTo .pending = false := by
  cases s <;> rfl

/-- Nothing moves to a text that names no stage. -/
theorem PaymentStatus.canMoveTo_other (s : PaymentStatus) (t : String) :
    s.canMoveTo (.other t) = false := by
  cases s <;> rfl

theorem OrderService.parseStatus_eq_ok {s : String} {t : OrderStatus} :
    OrderService.parseStatus s = .ok t ↔ OrderStatus.parse? s = some t := by
  unfold OrderService.parseStatus
  split <;> simp_all

theorem PaymentService.parseStatus_eq_ok {s : String} {t : PaymentStatus} :
    PaymentService.parseStatus s = .ok t ↔ PaymentStatus.parse? s = some t := by
  unfold PaymentService.parseStatus
  split <;> simp_all

/-! ## What a move changes -/

namespace OrderMove

/-- The order a move to `target` leaves, before the store stamps it: the stage, and the target's
own field. -/
def moved (req : OrderMove) (target : OrderStatus) (o : Order) : Order :=
  match target with
  | .paymentProcessing | .completed =>
    { o with status := target, paymentId := req.paymentId.orElse fun _ => o.paymentId }
  | .failed =>
    { o with status := target, failureReason := reasonOr req.reason "order processing failed" }
  | .cancelled =>
    { o with status := target, failureReason := reasonOr req.reason "order cancelled" }
  | _ => { o with status := target }

/-- A request may move order `o`, stored under `id`, to `target`: its text names that stage, the
lifecycle allows the move, and a move to COMPLETED has a payment id, from the request or already
on the order. -/
def Allows (req : OrderMove) (s : OrderStore) (id : Int) (target : OrderStatus) (o : Order) :
    Prop :=
  OrderStatus.parse? req.status = some target ∧ s.find id = .ok o ∧
    o.status.canMoveTo target = true ∧
    (target = .completed → req.paymentId.isSome = true ∨ o.paymentId.isSome = true)

end OrderMove

namespace PaymentMove

/-- The transaction id a completion records: the request's, trimmed, or `fresh` when that is
blank. -/
def transaction (req : PaymentMove) (fresh : String) : String :=
  if (Text.trim req.transactionId).isEmpty then fresh else Text.trim req.transactionId

/-- The payment a move to `target` at `now` leaves, before the store stamps it: the stage, and
what settling records. -/
def moved (req : PaymentMove) (target : PaymentStatus) (txn : String) (now : Instant)
    (p : Payment) : Payment :=
  match target with
  | .completed => { p with status := target, transactionId := txn, processedAt := some now }
  | .failed =>
    { p with status := target, failureReason := reasonOr req.reason "payment failed",
             processedAt := some now }
  | _ => { p with status := target }

/-- A request may move payment `p`, stored under `id`, to `target`: its text names that stage and
the lifecycle allows the move. -/
def Allows (req : PaymentMove) (s : PaymentStore) (id : Int) (target : PaymentStatus)
    (p : Payment) : Prop :=
  PaymentStatus.parse? req.status = some target ∧ s.find id = .ok p ∧
    p.status.canMoveTo target = true

end PaymentMove

theorem Order.moveTo_map_eq_ok_iff {o x : Order} {t : OrderStatus} {f : Order → Order} :
    (o.moveTo t).map f = .ok x ↔ o.status.canMoveTo t = true ∧ x = f { o with status := t } := by
  cases hc : o.status.canMoveTo t
  · simp [Order.moveTo, hc, Except.map]
  · simp [Order.moveTo, hc, Except.map, eq_comm]

theorem Payment.moveTo_map_eq_ok_iff {p x : Payment} {t : PaymentStatus}
    {f : Payment → Payment} :
    (p.moveTo t).map f = .ok x ↔ p.status.canMoveTo t = true ∧ x = f { p with status := t } := by
  cases hc : p.status.canMoveTo t
  · simp [Payment.moveTo, hc, Except.map]
  · simp [Payment.moveTo, hc, Except.map, eq_comm]

/-- What the payment switch may leave for a move of `p` to `target`: a fault, when the lifecycle
does not allow the move, or the moved payment, when it does. -/
def PaymentMove.Switched (req : PaymentMove) (target : PaymentStatus) (txn : String)
    (now : Instant) (p : Payment) (m : Except Fault Payment) : Prop :=
  (∃ f, m = .error f ∧ p.status.canMoveTo target = false) ∨
    (m = .ok (req.moved target txn now p) ∧ p.status.canMoveTo target = true)

/-- A stage move that leaves the moved payment exactly when the lifecycle allows it is a switch
of the payment service. -/
theorem PaymentMove.switched_of_iff {req : PaymentMove} {target : PaymentStatus} {txn : String}
    {now : Instant} {p : Payment} {m : Except Fault Payment}
    (h : ∀ x, m = .ok x ↔ p.status.canMoveTo target = true ∧ x = req.moved target txn now p) :
    req.Switched target txn now p m := by
  cases m with
  | error f =>
    refine .inl ⟨f, rfl, ?_⟩
    cases hc : p.status.canMoveTo target
    · rfl
    · cases (h _).mpr ⟨hc, rfl⟩
  | ok x =>
    obtain ⟨hc, rfl⟩ := (h x).mp rfl
    exact .inr ⟨rfl, hc⟩

/-- **The order switch is the lifecycle table.** The change the order service makes for a target
goes through exactly when the lifecycle allows the move and, for COMPLETED, a payment id is at
hand; it then leaves the moved order. -/
theorem OrderService.change_eq_ok_iff {target : OrderStatus} {req : OrderMove} {o x : Order} :
    OrderService.change target req o = .ok x ↔
      (o.status.canMoveTo target = true ∧
        (target = .completed → req.paymentId.isSome = true ∨ o.paymentId.isSome = true)) ∧
      x = req.moved target o := by
  cases target with
  | confirmed | failed | cancelled =>
    simp [OrderService.change, Order.confirm, Order.fail, Order.cancel, Order.moveTo_eq_ok_iff,
      Order.moveTo_map_eq_ok_iff, OrderMove.moved]
  | paymentProcessing =>
    -- the payment id is attached after the move, when the request has one
    cases hp : req.paymentId <;>
      simp [OrderService.change, Order.markPaymentProcessing, Order.moveTo_map_eq_ok_iff,
        OrderMove.moved, Order.attachPayment, hp]
  | completed =>
    -- the payment id is looked up before the move: without one nothing moves
    cases hp : req.paymentId <;> cases ho : o.paymentId <;>
      simp [OrderService.change, Order.complete, Order.moveTo_map_eq_ok_iff, OrderMove.moved,
        hp, ho]
  | pending => simp [OrderService.change, OrderStatus.canMoveTo_pending]
  | other t => simp [OrderService.change, OrderStatus.canMoveTo_other]

/-! ## The stores of the system, with no other writer -/

namespace Http

variable {s : System}

theorem alone_findOrder (id : Int) :
    Alone (· = s) (orderRepo.find id) fun r w => r = s.orders.find id ∧ w = s := by
  rintro _ rfl
  exact ⟨rfl, rfl⟩

theorem alone_updateOrder {x y : Order} {st : OrderStore}
    (h : s.orders.update x s.wall = .ok (y, st)) :
    Alone (· = s) (orderRepo.update x) fun r w => r = .ok y ∧ w = { s with orders := st } := by
  rintro _ rfl
  simp only [orderRepo, StateT.run_bind, StateT.run_get, pure_bind, h]
  exact ⟨rfl, rfl⟩

theorem alone_findPayment (id : Int) :
    Alone (· = s) (paymentRepo.find id) fun r w => r = s.payments.find id ∧ w = s := by
  rintro _ rfl
  exact ⟨rfl, rfl⟩

theorem alone_updatePayment {x y : Payment} {st : PaymentStore}
    (h : s.payments.update x s.clock = .ok (y, st)) :
    Alone (· = s) (paymentRepo.update x) fun r w => r = .ok y ∧ w = { s with payments := st } := by
  rintro _ rfl
  simp only [paymentRepo, StateT.run_bind, StateT.run_get, pure_bind, h]
  exact ⟨rfl, rfl⟩

theorem alone_freshTransaction :
    Alone (· = s) freshTransaction fun r w =>
      r = PaymentService.transactionName (s.transactions + 1) ∧
        w = { s with transactions := s.transactions + 1 } := by
  rintro _ rfl
  exact ⟨rfl, rfl⟩

/-- A save from the order the store holds, with a change that keeps the key: refused by the
change with nothing written, or the change written one version up under the order's id. -/
theorem alone_save_current {o : Order} {change : Order → Except Fault Order}
    (ho : s.orders.find o.id = .ok o) (hkey : KeepsKey change) :
    Alone (· = s) (save orderRepo o (inPlace change)) fun r w =>
      (∃ f, change o = .error f ∧ r = (o, some f) ∧ w = s) ∨
      (∃ x st, change o = .ok x ∧ r = (OrderStore.written o x s.wall, none) ∧
        w = { s with orders := st } ∧ st.find o.id = .ok r.1 ∧
        ∀ k ≠ o.id, st.find k = s.orders.find k) := by
  rw [save_inPlace]
  unfold saveChange
  cases hc : change o with
  | error f => exact Alone.pure fun w hw => .inl ⟨f, rfl, rfl, hw⟩
  | ok x =>
    -- the change keeps the id and the version, so the write finds the order it replaces
    obtain ⟨hid, hv⟩ := hkey o x hc
    obtain ⟨st, hu, hfind, hothers⟩ :=
      OrderStore.update_of_find s.wall (hid ▸ ho : s.orders.find x.id = .ok o) hv
    refine Alone.bind_val (alone_updateOrder hu)
      (Alone.pure fun w hw => .inr ⟨x, st, rfl, rfl, hw, ?_, fun k hk => ?_⟩)
    · rw [← hid]
      exact hfind
    · exact hothers k (hid ▸ hk)

end Http

/-- What a status move of order `id` leaves: refused with nothing written, when the request cannot
move it; or the moved order, written one version up under its id, with every other order and the
rest of the system as they were. -/
def OrderMove.Outcome (req : OrderMove) (s : Http.System) (id : Int) :
    Except Fault Order → Http.System → Prop
  | .error _, t => t = s ∧ ¬ ∃ target o, req.Allows s.orders id target o
  | .ok x, t => ∃ target o, req.Allows s.orders id target o ∧
      x = OrderStore.written o (req.moved target o) s.wall ∧
      ∃ st, t = { s with orders := st } ∧ st.find id = .ok x ∧
        ∀ k ≠ id, st.find k = s.orders.find k

namespace OrderMove.Outcome

variable {req : OrderMove} {s : Http.System} {id : Int} {r : Except Fault Order} {t : Http.System}

theorem ok_iff (h : req.Outcome s id r t) :
    (∃ x, r = .ok x) ↔ ∃ target o, req.Allows s.orders id target o := by
  cases r with
  | error f =>
    constructor
    · rintro ⟨_, hx⟩
      cases hx
    · intro hallow
      exact absurd hallow h.2
  | ok x =>
    obtain ⟨target, o, hallow, -⟩ := h
    exact ⟨fun _ => ⟨target, o, hallow⟩, fun _ => ⟨x, rfl⟩⟩

end OrderMove.Outcome

/-- The order a move leaves, as the store writes it: the moved order one version up, stamped with
the store's clock. -/
theorem OrderMove.written_moved (req : OrderMove) (target : OrderStatus) (o : Order)
    (now : Instant) :
    OrderStore.written o (req.moved target o) now =
      { req.moved target o with version := o.version + 1, updatedAt := now } := by
  cases target <;> rfl

/-- Once the stage and the order are known, the request may move the order exactly when the
lifecycle allows it and a completion has a payment id. -/
theorem OrderMove.allows_iff {req : OrderMove} {s : OrderStore} {id : Int} {target : OrderStatus}
    {o : Order} (ht : OrderStatus.parse? req.status = some target) (hf : s.find id = .ok o) :
    (∃ target' o', req.Allows s id target' o') ↔ o.status.canMoveTo target = true ∧
      (target = .completed → req.paymentId.isSome = true ∨ o.paymentId.isSome = true) := by
  constructor
  · rintro ⟨target', o', ht', hf', hc⟩
    rw [ht] at ht'
    rw [hf] at hf'
    cases ht'
    cases hf'
    exact hc
  · intro hc
    exact ⟨target, o, ht, hf, hc⟩

namespace Http

variable {s : System}

/-- **An order status move, with no other writer.** -/
theorem alone_updateOrderStatus (id : Int) (req : OrderMove) :
    Alone (· = s) (OrderService.updateStatus orderRepo id req) fun r w => req.Outcome s id r w := by
  unfold OrderService.updateStatus
  cases hp : OrderService.parseStatus req.status with
  | error f =>
    -- the text names no stage
    refine Alone.pure fun w hw => ⟨hw, ?_⟩
    rintro ⟨target, o, ht, -⟩
    rw [OrderService.parseStatus_eq_ok.mpr ht] at hp
    cases hp
  | ok target =>
    have ht := OrderService.parseStatus_eq_ok.mp hp
    refine Alone.bind_val (alone_findOrder id) ?_
    cases hf : s.orders.find id with
    | error f =>
      refine Alone.pure fun w hw => ⟨hw, ?_⟩
      rintro ⟨target', o, -, hfo, -⟩
      rw [hf] at hfo
      cases hfo
    | ok o =>
      dsimp only
      have ho : s.orders.find o.id = .ok o := (OrderStore.id_of_find hf).symm ▸ hf
      refine Alone.bind (alone_save_current ho (lawful_change target req).keepsKey) ?_
      rintro ⟨o', fault⟩ w (⟨f, hc, hr, rfl⟩ | ⟨x, st, hc, hr, rfl, hfind, hothers⟩)
      · -- the change refused the order, so the lifecycle does not allow the move
        cases hr
        refine ⟨rfl, fun hallow => ?_⟩
        obtain ⟨x, hx⟩ : ∃ x, OrderService.change target req o = .ok x :=
          ⟨_, OrderService.change_eq_ok_iff.mpr ⟨(OrderMove.allows_iff ht hf).mp hallow, rfl⟩⟩
        rw [hx] at hc
        cases hc
      · cases hr
        obtain ⟨hallow, rfl⟩ := OrderService.change_eq_ok_iff.mp hc
        have hid : o.id = id := OrderStore.id_of_find hf
        subst hid
        exact ⟨target, o, ⟨ht, hf, hallow⟩, rfl, st, rfl, hfind, hothers⟩

end Http

/-- What a status move of payment `id` at `now` leaves: refused with no payment written, when the
request cannot move it; or the moved payment, written one version up under its id, with every
other payment and the rest of the system as they were. Only the count of transaction ids drawn
may move either way. -/
def PaymentMove.Outcome (req : PaymentMove) (now : Instant) (s : Http.System) (id : Int) :
    Except Fault Payment → Http.System → Prop
  | .error _, t => (∃ n, t = { s with transactions := n }) ∧
      ¬ ∃ target p, req.Allows s.payments id target p
  | .ok y, t => ∃ target p, req.Allows s.payments id target p ∧
      y = (req.moved target (req.transaction (PaymentService.transactionName (s.transactions + 1)))
        now p).written s.clock ∧
      ∃ st n, t = { s with payments := st, transactions := n } ∧ st.find id = .ok y ∧
        ∀ k ≠ id, st.find k = s.payments.find k

theorem PaymentMove.Outcome.ok_iff {req : PaymentMove} {now : Instant} {s : Http.System}
    {id : Int} {r : Except Fault Payment} {t : Http.System} (h : req.Outcome now s id r t) :
    (∃ y, r = .ok y) ↔ ∃ target p, req.Allows s.payments id target p := by
  cases r with
  | error f =>
    constructor
    · rintro ⟨_, hy⟩
      cases hy
    · intro hallow
      exact absurd hallow h.2
  | ok y =>
    obtain ⟨target, p, hallow, -⟩ := h
    exact ⟨fun _ => ⟨target, p, hallow⟩, fun _ => ⟨y, rfl⟩⟩

/-- The payment a move leaves, as the store writes it: the moved payment one version up, stamped
with the store's clock. -/
theorem PaymentMove.written_moved (req : PaymentMove) (target : PaymentStatus) (txn : String)
    (now at_ : Instant) (p : Payment) :
    (req.moved target txn now p).written at_ =
      { req.moved target txn now p with version := p.version + 1, updatedAt := at_ } := by
  cases target <;> rfl

/-- Once the stage and the payment are known, the request may move the payment exactly when the
lifecycle allows it. -/
theorem PaymentMove.allows_iff {req : PaymentMove} {s : PaymentStore} {id : Int}
    {target : PaymentStatus} {p : Payment} (ht : PaymentStatus.parse? req.status = some target)
    (hf : s.find id = .ok p) :
    (∃ target' p', req.Allows s id target' p') ↔ p.status.canMoveTo target = true := by
  constructor
  · rintro ⟨target', p', ht', hf', hc⟩
    rw [ht] at ht'
    rw [hf] at hf'
    cases ht'
    cases hf'
    exact hc
  · intro hc
    exact ⟨target, p, ht, hf, hc⟩

/-- A move keeps the payment's id, version and creation time. -/
theorem PaymentMove.moved_key (req : PaymentMove) (target : PaymentStatus) (txn : String)
    (now : Instant) (p : Payment) :
    (req.moved target txn now p).id = p.id ∧ (req.moved target txn now p).version = p.version ∧
      (req.moved target txn now p).createdAt = p.createdAt := by
  cases target <;> exact ⟨rfl, rfl, rfl⟩

theorem PaymentStore.id_of_find {s : PaymentStore} {id : Int} {p : Payment}
    (hf : s.find id = .ok p) : p.id = id := by
  simpa using List.find?_some (PaymentStore.find_eq_ok_iff.mp hf)

namespace Http

variable {s : System}

/-- A payment move the lifecycle refuses hands back its fault and writes no payment, whatever
count of transaction ids was drawn on the way. -/
theorem alone_refusedPaymentMove {now : Instant} {id : Int} {req : PaymentMove}
    {target : PaymentStatus} {p : Payment} (ht : PaymentStatus.parse? req.status = some target)
    (hf : s.payments.find id = .ok p) (hc : p.status.canMoveTo target = false) (n : Nat)
    (f : Fault) :
    Alone (· = { s with transactions := n }) (pure (.error f) : SystemM (Except Fault Payment))
      fun r w => req.Outcome now s id r w := by
  refine Alone.pure fun w hw => ⟨⟨n, hw⟩, fun hallow => ?_⟩
  rw [(PaymentMove.allows_iff ht hf).mp hallow] at hc
  cases hc

/-- A payment move the lifecycle allows is written over the stored payment it was made from. -/
theorem alone_allowedPaymentMove {now : Instant} {id : Int} {req : PaymentMove}
    {target : PaymentStatus} {p : Payment} (ht : PaymentStatus.parse? req.status = some target)
    (hf : s.payments.find id = .ok p) (hc : p.status.canMoveTo target = true) (n : Nat) :
    Alone (· = { s with transactions := n })
      (paymentRepo.update (req.moved target
        (req.transaction (PaymentService.transactionName (s.transactions + 1))) now p))
      fun r w => req.Outcome now s id r w := by
  let txn := req.transaction (PaymentService.transactionName (s.transactions + 1))
  -- the move keeps the key, so the write finds the payment it replaces under `id`
  have hid : (req.moved target txn now p).id = id :=
    (PaymentMove.moved_key req target txn now p).1.trans (PaymentStore.id_of_find hf)
  obtain ⟨-, hkv, hkc⟩ := PaymentMove.moved_key req target txn now p
  obtain ⟨st, hu, hfind, hothers⟩ :=
    PaymentStore.update_of_find s.clock (hid ▸ hf : s.payments.find _ = .ok p) hkv hkc
  refine Alone.post (alone_updatePayment (s := { s with transactions := n }) hu) ?_
  rintro r w ⟨rfl, rfl⟩
  refine ⟨target, p, ⟨ht, hf, hc⟩, rfl, st, n, rfl, ?_, fun k hk => ?_⟩
  · rw [← hid]
    exact hfind
  · exact hothers k (hid ▸ hk)

/-- **A payment status move, with no other writer.** The service's own stage switch leaves the
moved payment exactly when the lifecycle allows the move; the write of it then goes through. -/
theorem alone_updatePaymentStatus (now : Instant) (id : Int) (req : PaymentMove) :
    Alone (· = s) (PaymentService.updateStatus paymentRepo freshTransaction now id req)
      fun r w => req.Outcome now s id r w := by
  unfold PaymentService.updateStatus
  cases hp : PaymentService.parseStatus req.status with
  | error f =>
    -- the text names no stage
    refine Alone.pure fun w hw => ⟨⟨s.transactions, hw⟩, ?_⟩
    rintro ⟨target, p, ht, -⟩
    rw [PaymentService.parseStatus_eq_ok.mpr ht] at hp
    cases hp
  | ok target =>
    have ht := PaymentService.parseStatus_eq_ok.mp hp
    refine Alone.bind_val (alone_findPayment id) ?_
    cases hf : s.payments.find id with
    | error f =>
      refine Alone.pure fun w hw => ⟨⟨s.transactions, hw⟩, ?_⟩
      rintro ⟨target', p, -, hfp, -⟩
      rw [hf] at hfp
      cases hfp
    | ok p =>
      dsimp only
      -- the fresh id the switch would draw
      let txn := req.transaction (PaymentService.transactionName (s.transactions + 1))
      -- the service's own switch, one stage at a time
      cases target
      case' processing =>
        have hm : req.Switched .processing txn now p p.markProcessing :=
          PaymentMove.switched_of_iff fun x => by
            simp [Payment.markProcessing, Payment.moveTo_eq_ok_iff, PaymentMove.moved]
      case' completed =>
        dsimp only
        split
      case' isTrue hblank =>
        -- a blank transaction id: a fresh one is drawn first
        refine Alone.bind_val alone_freshTransaction ?_
        have hm : req.Switched .completed txn now p
            (p.markCompleted (PaymentService.transactionName (s.transactions + 1)) now) :=
          PaymentMove.switched_of_iff fun x => by
            simp [Payment.markCompleted, Payment.moveTo_map_eq_ok_iff, PaymentMove.moved,
              PaymentMove.transaction, txn, hblank]
      case' isFalse hgiven =>
        refine Alone.bind_val Alone.pure_val ?_
        have hm : req.Switched .completed txn now p
            (p.markCompleted (Text.trim req.transactionId) now) :=
          PaymentMove.switched_of_iff fun x => by
            simp [Payment.markCompleted, Payment.moveTo_map_eq_ok_iff, PaymentMove.moved,
              PaymentMove.transaction, txn, hgiven]
      case' failed =>
        have hm : req.Switched .failed txn now p (p.markFailed req.reason now) :=
          PaymentMove.switched_of_iff fun x => by
            simp [Payment.markFailed, Payment.moveTo_map_eq_ok_iff, PaymentMove.moved]
      case' cancelled =>
        have hm : req.Switched .cancelled txn now p p.cancel :=
          PaymentMove.switched_of_iff fun x => by
            simp [Payment.cancel, Payment.moveTo_eq_ok_iff, PaymentMove.moved]
      case' pending =>
        have hm : req.Switched .pending txn now p
            (.error (.transition .payment p.id p.status.toText PaymentStatus.pending.toText)) :=
          .inl ⟨_, rfl, PaymentStatus.canMoveTo_pending _⟩
      case' other t =>
        have hm : req.Switched (.other t) txn now p
            (.error (.transition .payment p.id p.status.toText (PaymentStatus.other t).toText)) :=
          .inl ⟨_, rfl, PaymentStatus.canMoveTo_other _ _⟩
      -- whichever stage, the switch's answer is written or handed back
      all_goals
        refine Alone.bind_val Alone.pure_val ?_
        rcases hm with ⟨f, hm, hc⟩ | ⟨hm, hc⟩ <;> rw [hm]
        · exact alone_refusedPaymentMove ht hf hc _ f
        · exact alone_allowedPaymentMove ht hf hc _

end Http

/-- **Status moves do as the request asks.** With no other writer, a request to move order `id`
succeeds exactly when its text names a stage the lifecycle lets the stored order reach and, for
COMPLETED, a payment id is at hand; a refused one writes nothing, and one that succeeds writes the
moved order, which differs from the stored one only in its stage, its version (one up), its update
time and the target's own field. A request to move payment `pid` succeeds exactly when its text
names a stage the lifecycle lets the stored payment reach; a refused one writes no payment, and one
that succeeds writes the moved payment one version up: a completion records the trimmed
transaction id given, or a fresh one, and the moment, a failure the reason, or `payment failed`,
and the moment. -/
theorem status_moves_as_requested (s : Http.System) (id : Int) (req : OrderMove) (pid : Int)
    (preq : PaymentMove) (now : Instant) :
    let r := (OrderService.updateStatus Http.orderRepo id req).run s
    let q := (PaymentService.updateStatus Http.paymentRepo Http.freshTransaction now pid preq).run s
    ((∃ x, r.1 = .ok x) ↔ ∃ target o, req.Allows s.orders id target o) ∧
    (∀ f, r.1 = .error f → r.2 = s) ∧
    (∀ x, r.1 = .ok x → ∃ target o, req.Allows s.orders id target o ∧
      x = { req.moved target o with version := o.version + 1, updatedAt := s.wall } ∧
      r.2.orders.find id = .ok x ∧ (∀ k ≠ id, r.2.orders.find k = s.orders.find k) ∧
      r.2 = { s with orders := r.2.orders }) ∧
    ((∃ y, q.1 = .ok y) ↔ ∃ target p, preq.Allows s.payments pid target p) ∧
    (∀ f, q.1 = .error f → q.2 = { s with transactions := q.2.transactions }) ∧
    (∀ y, q.1 = .ok y → ∃ target p, preq.Allows s.payments pid target p ∧
      y = { preq.moved target (preq.transaction (PaymentService.transactionName
              (s.transactions + 1))) now p with version := p.version + 1, updatedAt := s.clock } ∧
      q.2.payments.find pid = .ok y ∧ (∀ k ≠ pid, q.2.payments.find k = s.payments.find k) ∧
      q.2 = { s with payments := q.2.payments, transactions := q.2.transactions }) := by
  intro r q
  have ho : req.Outcome s id r.1 r.2 := Http.alone_updateOrderStatus id req s rfl
  have hp : preq.Outcome now s pid q.1 q.2 := Http.alone_updatePaymentStatus now pid preq s rfl
  refine ⟨ho.ok_iff, fun f hf => ?_, fun x hx => ?_, hp.ok_iff, fun f hf => ?_, fun y hy => ?_⟩
  · rw [hf] at ho
    exact ho.1
  · rw [hx] at ho
    obtain ⟨target, o, hallow, rfl, st, hst, hfind, hothers⟩ := ho
    rw [hst]
    exact ⟨target, o, hallow, OrderMove.written_moved req target o _, hfind, hothers, rfl⟩
  · rw [hf] at hp
    obtain ⟨⟨n, hn⟩, -⟩ := hp
    rw [hn]
  · rw [hy] at hp
    obtain ⟨target, p, hallow, rfl, st, n, hst, hfind, hothers⟩ := hp
    rw [hst]
    exact ⟨target, p, hallow, PaymentMove.written_moved preq target _ now _ p, hfind, hothers, rfl⟩

end Fulfillment
