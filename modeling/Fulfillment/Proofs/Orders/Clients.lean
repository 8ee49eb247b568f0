import Fulfillment.Proofs.Orders.Laws
import Fulfillment.Service.Saga

/-!
# Order clients on the shared store

The saga and the order service's status moves, each run by one thread of a pool on the shared
order store. What the saga gets from outside the store (the customer check, the payment breaker,
the key store, its id) is a fixed answer of any value (`SagaAnswers`); the payment it starts
comes from a client `pay` given as a program, so that a pool may run the payment service in
the same world.

Each client is shown to satisfy a rely-guarantee judgment whose guarantee names the writes it
may make: a saga stores lawful drafts and writes its four changes (`SagaWrites`), a status move
writes `OrderService.change` of the order it names. The pre- and postconditions are only that the
store agrees with its log and the copy in hand was stored (`Held`): that is what each of the
saves needs to start from.
-/

namespace Fulfillment

open Prog

/-- What a saga gets from outside the order store: whether the customer is valid, whether the
payment breaker lets payments through, what the key store answers to a claim, and the saga's
id. -/
structure SagaAnswers where
  customerValid : Bool
  breakerAllows : Bool
  claim : Except Fault Int
  sagaId : String

/-- The key store as the saga of `a` sees it: a claim gets `a.claim`, binding and letting go
succeed. -/
def sagaKeys (a : SagaAnswers) : KeyOps (Prog World) :=
  ⟨fun _ => pure a.claim, fun _ _ => pure (.ok ()), fun _ => pure (.ok ())⟩

/-- A saga run by thread `i`: the shared order store, the payment client `pay`, the shared clock
and the answers `a`. The saga log is written nowhere. -/
def sagaEnv (i : Nat) (pay : Int → Decimal → String → Prog World (Except Fault Payment))
    (a : SagaAnswers) : SagaEnv (Prog World) where
  orders := sharedOrders i
  customerValid _ := pure a.customerValid
  createPayment := pay
  breakerAllows := pure a.breakerAllows
  paymentSucceeded := pure ()
  paymentFailed := pure ()
  keys := some (sagaKeys a)
  newSagaId := pure a.sagaId
  now := readClock
  record _ := pure ()

/-- What a saga may write in one step: a new draft order, or a write of order `k` by one of its
saves, confirming, marking payment processing, failing, or attaching a payment `p` when
`Paid k p` holds. -/
def SagaWrites (Paid : Int → Int → World → Prop) (w : World) (op : Op) : Prop :=
  (∃ o, op = .createOrder o ∧ Draft o) ∨ ∃ k,
    ChangeWrites Order.confirm k w op ∨ ChangeWrites Order.markPaymentProcessing k w op ∨
    (∃ r, ChangeWrites (fun o => o.fail r) k w op) ∨
    ∃ p, Paid k p w ∧ ChangeWrites (fun o => .ok (o.attachPayment p)) k w op

/-- What a saga of thread `i` needs of the pool it runs in: the other threads do no more than
`Others i` allows, every write of a saga is one the thread may make, `Paid` facts survive
the other threads and the thread's own order writes, and `Ready`, what the payment client may
start from, survives whatever the other threads or the thread itself do. -/
structure SagaRules (i : Nat) (R : World → World → Prop) (Ok : World → Op → Prop)
    (Paid : Int → Int → World → Prop) (Ready : World → Prop) : Prop where
  rely : ∀ w w', R w w' → Others i w w'
  writes : ∀ w op, SagaWrites Paid w op → Ok w op
  paid_stable : ∀ k p, Stable R (Paid k p)
  paid_orders : ∀ k p w o, Paid k p w → Paid k p (w.apply i (.updateOrder o))
  ready_stable : Stable R Ready
  ready_kept : ∀ w op, Ready w → Ready (w.apply i op)

/-! ## Steps every client takes -/

section Steps

variable {i : Nat} {R : World → World → Prop} {Ok : World → Op → Prop}

/-- Storing a draft: the new order was stored. -/
theorem sat_create {o : Order} (hR : ∀ w w', R w w' → Others i w w')
    (hok : ∀ w, Ok w (.createOrder o)) :
    Sat R (Does i Ok) OrdersKept ((sharedOrders i).create o)
      fun r w => OrdersKept w ∧ ∀ o', r = .ok o' → w.OrderStored o' := by
  have hk : Stable R OrdersKept := stable_ordersKept.mono hR
  refine Sat.atomic hk (fun r => hk.and fun w w' h hs o' hr =>
    stable_orderStored o' (hR w w' h) (hs o' hr)) fun w hp => ?_
  refine ⟨.inr ⟨.createOrder o, hok w, rfl⟩, ordersKept_apply hp (.createOrder o), ?_⟩
  rintro o' ⟨⟩
  exact ⟨_, List.mem_append_right _ (List.mem_singleton_self _), rfl⟩

/-- A save by a thread that may write `change` of order `o.id` whenever `F` holds, `F` being a
fact that neither the others nor the thread's own order writes can break. -/
theorem sat_save {change : Order → Except Fault Order} {o : Order} {F : World → Prop}
    (hR : ∀ w w', R w w' → Others i w w') (hkey : KeepsKey change) (hF : Stable R F)
    (hFw : ∀ w o', F w → F (w.apply i (.updateOrder o')))
    (hok : ∀ w op, ChangeWrites change o.id w op → F w → Ok w op) :
    Sat R (Does i Ok) (fun w => Held o w ∧ F w) (save (sharedOrders i) o (inPlace change))
      fun r w => Held r.1 w ∧ F w := by
  have hown : Stable (Does i (ChangeWrites change o.id)) F := by
    rintro w w' (rfl | ⟨op, hop, rfl⟩) hf
    · exact hf
    · obtain ⟨o', rfl⟩ := hop.update
      exact hFw w o' hf
  refine (((save_held i o change hkey).mono hR fun _ _ h => h).frame hF hown).mono
    (fun _ _ h => h) fun w w' ⟨hd, hf⟩ => ?_
  rcases hd with rfl | ⟨op, hop, rfl⟩
  · exact .inl rfl
  · exact .inr ⟨op, hok w op hop hf, rfl⟩

/-- A save by a thread that may always write `change` of order `o.id`. -/
theorem sat_save_plain {change : Order → Except Fault Order} {o : Order}
    (hR : ∀ w w', R w w' → Others i w w') (hkey : KeepsKey change)
    (hok : ∀ w op, ChangeWrites change o.id w op → Ok w op) :
    Sat R (Does i Ok) (Held o) (save (sharedOrders i) o (inPlace change)) fun r => Held r.1 :=
  ((sat_save (F := fun _ => True) hR hkey (stable_const True) (fun _ _ h => h)
    fun w op h _ => hok w op h).pre ((stable_held o).mono hR) fun _ h => ⟨h, trivial⟩).post
    fun _ _ h => h.1

end Steps

/-! ## The saga -/

section Saga

variable {i : Nat} {R : World → World → Prop} {Ok : World → Op → Prop}
  {Paid : Int → Int → World → Prop} {Ready : World → Prop}
  {pay : Int → Decimal → String → Prog World (Except Fault Payment)} (a : SagaAnswers)

theorem SagaRules.held (hs : SagaRules i R Ok Paid Ready) (o : Order) : Stable R (Held o) :=
  (stable_held o).mono hs.rely

theorem SagaRules.ready_own (hs : SagaRules i R Ok Paid Ready) : Stable (Does i Ok) Ready := by
  rintro w w' (rfl | ⟨op, -, rfl⟩) h
  · exact h
  · exact hs.ready_kept w op h

theorem SagaRules.held_ready (hs : SagaRules i R Ok Paid Ready) (o : Order) :
    Stable R fun w => Held o w ∧ Ready w :=
  (hs.held o).and hs.ready_stable

theorem sat_log {P : World → Prop} (hP : Stable R P) (sagaId : String) (k : Int)
    (status : SagaStatus) (step : SagaStep) (error : String) :
    Sat R (Does i Ok) P (Saga.log (sagaEnv i pay a) sagaId k status step error) fun _ => P :=
  Sat.bind (sat_look hP) fun _ => Sat.ret' hP fun _ h => h

theorem sat_failOrder (hs : SagaRules i R Ok Paid Ready) (o : Order) (reason : String) :
    Sat R (Does i Ok) (Held o) (Saga.failOrder (sagaEnv i pay a) o reason) fun r => Held r.1 := by
  unfold Saga.failOrder
  refine Sat.bind (sat_save_plain hs.rely (lawful_fail reason).keepsKey fun w op h =>
    hs.writes w op (.inr ⟨o.id, .inr (.inr (.inl ⟨reason, h⟩))⟩)) fun r => ?_
  rcases r with ⟨o', _ | f⟩ <;> exact Sat.ret' (hs.held o') fun _ h => h

/-- Starting the payment: marking the order, asking `pay`, and failing the order or attaching
the payment, which `pay` vouches for. -/
theorem sat_startPayment (hs : SagaRules i R Ok Paid Ready)
    (hpay : ∀ o amount method, Sat R (Does i Ok) (fun w => Held o w ∧ Ready w)
      (pay o.id amount method) fun r w => Held o w ∧ ∀ p, r = .ok p → Paid o.id p.id w)
    (sagaId : String) (o : Order) :
    Sat R (Does i Ok) (fun w => Held o w ∧ Ready w) (Saga.startPayment (sagaEnv i pay a) sagaId o)
      fun _ w => OrdersKept w := by
  unfold Saga.startPayment
  -- `Ready` is carried through the marking to the payment client
  refine Sat.bind ((sat_save_plain hs.rely lawful_markPaymentProcessing.keepsKey fun w op h =>
    hs.writes w op (.inr ⟨o.id, .inr (.inl h)⟩)).keep hs.ready_stable hs.ready_own) fun r => ?_
  rcases r with ⟨o', _ | f⟩
  · refine Sat.bind (hpay o' o'.total defaultPaymentMethod) fun r => ?_
    have hq : Stable R fun w => Held o' w ∧ ∀ p, r = .ok p → Paid o'.id p.id w :=
      (hs.held o').and fun w w' h hp p hr => hs.paid_stable _ _ h (hp p hr)
    cases r with
    | error perr =>
      refine Sat.pure_bind ?_
      refine Sat.pre ?_ hq fun _ h => h.1
      refine Sat.bind (sat_failOrder a hs o' _) fun r => ?_
      rcases r with ⟨o'', _ | f⟩
      · exact Sat.bind (sat_log a (hs.held o'') _ _ _ _ _) fun _ => Sat.ret' (hs.held o'')
          fun _ h => h.1
      · exact Sat.ret' (hs.held o'') fun _ h => h.1
    | ok payment =>
      have hpaid : Stable R (Paid o'.id payment.id) := hs.paid_stable _ _
      refine Sat.pure_bind ?_
      refine Sat.pre ?_ hq fun w h =>
        (⟨h.1, h.2 payment rfl⟩ : Held o' w ∧ Paid o'.id payment.id w)
      refine Sat.bind (sat_save hs.rely (lawful_attach payment.id).keepsKey hpaid
        (fun w o'' h => hs.paid_orders _ _ w o'' h) fun w op h hp =>
          hs.writes w op (.inr ⟨o'.id, .inr (.inr (.inr ⟨payment.id, hp, h⟩))⟩)) fun r => ?_
      rcases r with ⟨o'', _ | f⟩
      · exact Sat.bind (sat_log a ((hs.held o'').and hpaid) _ _ _ _ _) fun _ =>
          Sat.ret' ((hs.held o'').and hpaid) fun _ h => h.1.1
      · exact Sat.bind (sat_log a ((hs.held o'').and hpaid) _ _ _ _ _) fun _ =>
          Sat.ret' ((hs.held o'').and hpaid) fun _ h => h.1.1
  · exact Sat.bind (sat_log a (hs.held_ready o') _ _ _ _ _) fun _ => Sat.ret' (hs.held_ready o')
      fun _ h => h.1.1

/-- The saga once its request passed the checks: every write it makes is a `SagaWrites`. -/
theorem sat_run (hs : SagaRules i R Ok Paid Ready)
    (hpay : ∀ o amount method, Sat R (Does i Ok) (fun w => Held o w ∧ Ready w)
      (pay o.id amount method) fun r w => Held o w ∧ ∀ p, r = .ok p → Paid o.id p.id w)
    (key : Option String) (req : OrderRequest) :
    Sat R (Does i Ok) (fun w => OrdersKept w ∧ Ready w)
      (Saga.run (sagaEnv i pay a) (key.map fun name => (sagaKeys a, name)) req)
      fun _ w => OrdersKept w := by
  have hk : Stable R fun w => OrdersKept w ∧ Ready w :=
    (stable_ordersKept.mono hs.rely).and hs.ready_stable
  unfold Saga.run
  refine Sat.pure_bind ?_
  refine Sat.bind (sat_log a hk _ _ _ _ _) fun _ => Sat.pure_bind ?_
  split
  · exact Sat.bind (sat_log a hk _ _ _ _ _) fun _ => Sat.ret' hk fun _ h => h.1
  refine Sat.bind ((sat_create hs.rely fun w =>
    hs.writes w _ (.inl ⟨_, rfl, draft_addItems _ (draft_create _ _)⟩)).keep hs.ready_stable
      hs.ready_own) fun r => ?_
  have hstored : Stable R fun w => ∀ o', r = .ok o' → w.OrderStored o' :=
    fun w w' h hf o' ho => stable_orderStored o' (hs.rely w w' h) (hf o' ho)
  have hq : Stable R fun w => (OrdersKept w ∧ ∀ o', r = .ok o' → w.OrderStored o') ∧ Ready w :=
    ((stable_ordersKept.mono hs.rely).and hstored).and hs.ready_stable
  cases r with
  | error f =>
    exact Sat.bind (sat_log a hq _ _ _ _ _) fun _ => Sat.ret' hq fun _ h => h.1.1
  | ok o =>
    refine Sat.pre ?_ hq fun w h => (⟨⟨h.1.1, h.1.2 o rfl⟩, h.2⟩ : Held o w ∧ Ready w)
    refine Sat.bind (sat_log a (hs.held_ready o) _ _ _ _ _) fun _ => ?_
    -- binding the key to the order touches no store, so with a key or without the saga goes on
    -- alike
    cases key <;> refine Sat.pure_bind ?_
    all_goals
      refine Sat.bind ((sat_save_plain hs.rely lawful_confirm.keepsKey fun w op h =>
        hs.writes w op (.inr ⟨o.id, .inl h⟩)).keep hs.ready_stable hs.ready_own) fun r => ?_
      rcases r with ⟨o', _ | f⟩
      · refine Sat.bind (sat_log a (hs.held_ready o') _ _ _ _ _) fun _ => Sat.pure_bind ?_
        split
        · refine Sat.bind ((sat_failOrder a hs o' _).pre (hs.held_ready o') fun _ h => h.1)
            fun r => ?_
          rcases r with ⟨o'', _ | f⟩
          · exact Sat.bind (sat_log a (hs.held o'') _ _ _ _ _) fun _ => Sat.ret' (hs.held o'')
              fun _ h => h.1
          · exact Sat.ret' (hs.held o'') fun _ h => h.1
        · exact sat_startPayment a hs hpay _ o'
      · exact Sat.bind (sat_log a (hs.held_ready o') _ _ _ _ _) fun _ =>
          Sat.ret' (hs.held_ready o') fun _ h => h.1.1

/-- **A saga writes only lawful drafts and its own changes of the order it placed**, whatever
the request, the key and the answers it gets, and whatever the other threads do within `R`. -/
theorem sat_placeOrder (hs : SagaRules i R Ok Paid Ready)
    (hpay : ∀ o amount method, Sat R (Does i Ok) (fun w => Held o w ∧ Ready w)
      (pay o.id amount method) fun r w => Held o w ∧ ∀ p, r = .ok p → Paid o.id p.id w)
    (req : OrderRequest) (key : String) :
    Sat R (Does i Ok) (fun w => OrdersKept w ∧ Ready w)
      (Saga.placeOrder (sagaEnv i pay a) req key) fun _ w => OrdersKept w := by
  have hk : Stable R OrdersKept := stable_ordersKept.mono hs.rely
  have hkr : Stable R fun w => OrdersKept w ∧ Ready w := hk.and hs.ready_stable
  unfold Saga.placeOrder
  split
  · exact Sat.ret' hkr fun _ h => h.1
  by_cases hkey : key.isEmpty = true
  · rw [if_pos hkey]
    exact sat_run a hs hpay none req
  rw [if_neg hkey]
  refine Sat.pure_bind ?_
  split
  · exact Sat.ret' hkr fun _ h => h.1
  split
  · -- a key that names an order answers with that order, read once
    refine Sat.bind (Sat.atomic hkr (fun _ => hkr) fun w h => ⟨.inl rfl, h⟩) fun r => ?_
    split <;> exact Sat.ret' hkr fun _ h => h.1
  refine Sat.bind (sat_run a hs hpay (some key) req) fun r => ?_
  exact Sat.ite (Sat.pure_bind (Sat.ret' hk fun _ h => h)) (Sat.ret' hk fun _ h => h)

end Saga

/-! ## Status moves -/

/-- What a status move of order `id` may write: the change its request names, of that order. -/
def MoveWrites (id : Int) (req : OrderMove) (w : World) (op : Op) : Prop :=
  ∃ target, OrderService.parseStatus req.status = .ok target ∧
    ChangeWrites (OrderService.change target req) id w op

section Moves

variable {i : Nat} {R : World → World → Prop} {Ok : World → Op → Prop}

/-- **A status move writes only the change its request names, of the order it names.** -/
theorem sat_updateStatus (hR : ∀ w w', R w w' → Others i w w') (id : Int) (req : OrderMove)
    (hok : ∀ w op, MoveWrites id req w op → Ok w op) :
    Sat R (Does i Ok) OrdersKept (OrderService.updateStatus (sharedOrders i) id req)
      fun _ w => OrdersKept w := by
  have hk : Stable R OrdersKept := stable_ordersKept.mono hR
  unfold OrderService.updateStatus
  split
  · exact Sat.ret' hk fun _ h => h
  next target ht =>
  refine Sat.bind ((sat_find id stable_ordersKept fun _ h => h).mono hR fun _ _ h => h)
    fun r => ?_
  have hq : Stable R fun w => OrdersKept w ∧ ∀ fresh, r = .ok fresh →
      w.OrderStored fresh ∧ fresh.id = id :=
    hk.and fun w w' h hf o ho => ⟨stable_orderStored o (hR w w' h) (hf o ho).1, (hf o ho).2⟩
  cases r with
  | error f => exact Sat.ret' hq fun _ h => h.1
  | ok o =>
    refine Sat.pre ?_ hq fun w h =>
      (⟨⟨h.1, (h.2 o rfl).1⟩, (h.2 o rfl).2⟩ : Held o w ∧ o.id = id)
    refine Sat.of_pure (fun hid => ?_) ((stable_held o).mono hR)
    refine Sat.bind (sat_save_plain hR (lawful_change target req).keepsKey fun w op h =>
      hok w op ⟨target, ht, hid ▸ h⟩) fun r => ?_
    rcases r with ⟨o', _ | f⟩ <;> exact Sat.ret' ((stable_held o').mono hR) fun _ h => h.1

/-- A cancellation is the status move to `CANCELLED` with its reason. -/
theorem sat_cancel (hR : ∀ w w', R w w' → Others i w w') (id : Int) (reason : String)
    (hok : ∀ w op, MoveWrites id ⟨OrderStatus.cancelled.toText, none, reason⟩ w op → Ok w op) :
    Sat R (Does i Ok) OrdersKept (OrderService.cancel (sharedOrders i) id reason)
      fun _ w => OrdersKept w :=
  sat_updateStatus hR id _ hok

end Moves

end Fulfillment
