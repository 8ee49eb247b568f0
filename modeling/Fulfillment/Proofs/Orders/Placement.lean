import Fulfillment.Proofs.Orders.Breaker

/-!
# Placing an order alone, with writes that may be refused

One saga run alone against the order store, with whatever its collaborators answer
(`Collaborators`): the customer check, the payment breaker and the payment service answer as they
like, and any write of the order store may be refused with any fault before it reaches the store
(`faultyOrders`). The world keeps the saga log and the calls the run made to the breaker and the
payment service, in order.

Each save of the saga either writes its change of the copy in hand and hands back what it wrote,
or writes nothing, answers a fault and leaves the caller its copy (`faulty_save`). So the
copy in hand is always the order the store holds under its id, and the store is the one the run
started from with that one order added (`OrderStore.Plus`). Following the saga from there gives
each of its exits (`Ending`): what it answered, the calls it made and the log entries it wrote
after storing its order (`alone_placeOrder`).
-/

namespace Fulfillment

/-- A call of the saga to the payment breaker or the payment service. -/
inductive PlaceCall where
  | allow
  | succeeded
  | failed
  | pay (orderId : Int) (amount : Decimal) (method : String)
  deriving DecidableEq

/-- The payment starts among some calls, with their order id, amount and method. -/
def payCalls (cs : List PlaceCall) : List (Int × Decimal × String) :=
  cs.filterMap fun
    | .pay orderId amount method => some (orderId, amount, method)
    | _ => none

/-- What the collaborators of the saga answer a run: the customer check by customer, the payment
breaker, the payment service by its arguments, the fault the `n`-th write of the order store is
refused with (none when it reaches the store), and the saga id. -/
structure Collaborators where
  customerValid : Int → Bool
  allows : Bool
  payment : Int → Decimal → String → Except Fault Payment
  refusal : Nat → Option Fault
  sagaId : String

/-- A saga run alone: the order store, the clock, how many order writes were tried, the calls
to the breaker and the payment service, and the saga log. -/
structure Placement where
  orders : OrderStore
  clock : Instant
  tries : Nat
  calls : List PlaceCall
  log : SagaLog

namespace Placement

/-- The clock, the calls and the log are `now`, `cs` and `l`. -/
def Sees (w : Placement) (now : Instant) (cs : List PlaceCall) (l : SagaLog) : Prop :=
  w.clock = now ∧ w.calls = cs ∧ w.log = l

/-- The world with one more call logged. -/
def call (w : Placement) (c : PlaceCall) : Placement := { w with calls := w.calls ++ [c] }

end Placement

/-- The order store whose `n`-th write is refused with `refusal n` when that is a fault and
otherwise reaches the store. -/
def faultyOrders (refusal : Nat → Option Fault) : OrderRepo (StateM Placement) where
  create o := MonadStateOf.modifyGet fun (w : Placement) =>
    let r := w.orders.create o w.clock
    (.ok r.1, { w with orders := r.2 })
  update o := MonadStateOf.modifyGet fun (w : Placement) =>
    match refusal w.tries with
    | some f => (.error f, { w with tries := w.tries + 1 })
    | none =>
      match w.orders.update o w.clock with
      | .ok (stored, st) => (.ok stored, { w with orders := st, tries := w.tries + 1 })
      | .error f => (.error f, { w with tries := w.tries + 1 })
  find id := MonadStateOf.modifyGet fun (w : Placement) => (w.orders.find id, w)
  list customerId status := MonadStateOf.modifyGet fun (w : Placement) =>
    (.ok (w.orders.list customerId status), w)

/-- The saga with the collaborators `a` and no key store; it logs its calls and writes the saga
log of the world. -/
def placementEnv (a : Collaborators) : SagaEnv (StateM Placement) where
  orders := faultyOrders a.refusal
  customerValid id := pure (a.customerValid id)
  createPayment id amount method := MonadStateOf.modifyGet fun (w : Placement) =>
    (a.payment id amount method, w.call (.pay id amount method))
  breakerAllows := MonadStateOf.modifyGet fun (w : Placement) => (a.allows, w.call .allow)
  paymentSucceeded := MonadStateOf.modifyGet fun (w : Placement) => ((), w.call .succeeded)
  paymentFailed := MonadStateOf.modifyGet fun (w : Placement) => ((), w.call .failed)
  keys := none
  newSagaId := pure a.sagaId
  now := MonadStateOf.modifyGet fun (w : Placement) => (w.clock, w)
  record e := MonadStateOf.modifyGet fun (w : Placement) => ((), { w with log := w.log.record e })

/-- The pending order the saga builds from a request before storing it. -/
def draftOf (req : OrderRequest) : Order :=
  (req.items.getD []).foldl Order.addItem (Order.create req.customerId req.notes)

/-- The entry saga `g` writes about order `k` at `now`. -/
def sagaEntry (g : String) (k : Int) (st : SagaStatus) (sp : SagaStep) (err : String)
    (now : Instant) : SagaEntry :=
  ⟨g, k, st, sp, err, now⟩

/-! ## The store with one order added -/

namespace OrderStore

/-- `t` is `s` with the order `o` added last, under an id no order of `s` has. -/
def Plus (s : OrderStore) (o : Order) (t : OrderStore) : Prop :=
  t.orders = s.orders ++ [o] ∧ ∀ x ∈ s.orders, x.id ≠ o.id

theorem plus_create {s : OrderStore} (hs : s.Numbered) (d : Order) (now : Instant) :
    s.Plus (s.create d now).1 (s.create d now).2 := by
  refine ⟨rfl, fun x hx => ?_⟩
  have := hs x hx
  simp only [create]
  omega

theorem Plus.find? {s t : OrderStore} {o : Order} (h : s.Plus o t) :
    t.orders.find? (·.id == o.id) = some o := by
  have hnone : s.orders.find? (·.id == o.id) = none :=
    List.find?_eq_none.mpr fun x hx => by simpa using h.2 x hx
  simp [h.1, List.find?_append, hnone]

theorem Plus.find {s t : OrderStore} {o : Order} (h : s.Plus o t) : t.find o.id = .ok o := by
  simp [OrderStore.find, h.find?]

/-- Writing a change of the added order, with its id and version, goes through and replaces it. -/
theorem Plus.update {s t : OrderStore} {o o' : Order} (h : s.Plus o t) (hid : o'.id = o.id)
    (hv : o'.version = o.version) (now : Instant) :
    ∃ t', t.update o' now = .ok (written o o' now, t') ∧ s.Plus (written o o' now) t' := by
  have hf : t.orders.find? (·.id == o'.id) = some o := hid ▸ h.find?
  -- the write maps over the store and touches only the added order
  have hmap : t.orders.map (fun x => if x.id == o'.id then written o o' now else x) =
      s.orders ++ [written o o' now] := by
    rw [h.1, List.map_append, List.map_singleton, if_pos (by simp [hid])]
    congr 1
    exact (List.map_congr_left fun x hx => if_neg (by simpa [hid] using h.2 x hx)).trans
      (List.map_id _)
  refine ⟨{ t with orders := s.orders ++ [written o o' now] }, ?_, rfl, ?_⟩
  · rw [OrderStore.update, hf, ← hmap]
    simp [hv, written]
  · simpa [written, hid] using h.2

@[simp] theorem create_total (s : OrderStore) (d : Order) (now : Instant) :
    (s.create d now).1.total = d.total := rfl

@[simp] theorem create_paymentId (s : OrderStore) (d : Order) (now : Instant) :
    (s.create d now).1.paymentId = d.paymentId := rfl

@[simp] theorem written_id (o o' : Order) (now : Instant) : (written o o' now).id = o'.id := rfl

@[simp] theorem written_total (o o' : Order) (now : Instant) :
    (written o o' now).total = o'.total := rfl

@[simp] theorem written_status (o o' : Order) (now : Instant) :
    (written o o' now).status = o'.status := rfl

@[simp] theorem written_paymentId (o o' : Order) (now : Instant) :
    (written o o' now).paymentId = o'.paymentId := rfl

@[simp] theorem written_failureReason (o o' : Order) (now : Instant) :
    (written o o' now).failureReason = o'.failureReason := rfl

end OrderStore

/-! ## One step at a time -/

section Steps

variable {a : Collaborators} {s : OrderStore} {now : Instant} {cs : List PlaceCall}
  {l : SagaLog}

/-- How a write of `o'`, a change of the copy `o` in hand, ended with `r` leaving the store `t`:
written as the store writes it, or refused with the store as it was. -/
def WriteEnd (s : OrderStore) (o o' : Order) (now : Instant) : Except Fault Order → OrderStore → Prop
  | .ok x, t => x = OrderStore.written o o' now ∧ s.Plus x t
  | .error _, t => s.Plus o t

/-- A write of a change of the copy in hand either goes through or is refused, leaving the store
as it was. -/
theorem faulty_update {o o' : Order} (hid : o'.id = o.id) (hv : o'.version = o.version) :
    Alone (fun w : Placement => s.Plus o w.orders ∧ w.Sees now cs l)
      ((faultyOrders a.refusal).update o')
      fun r w => w.Sees now cs l ∧ WriteEnd s o o' now r w.orders :=
  Alone.modifyGet fun w ⟨hw, hc, hcs, hl⟩ => by
    subst hc
    obtain ⟨t', hu, ht'⟩ := hw.update hid hv w.clock
    split
    · exact ⟨⟨rfl, hcs, hl⟩, hw⟩
    · rw [hu]
      exact ⟨⟨rfl, hcs, hl⟩, rfl, ht'⟩

/-- Looking the copy in hand up finds it. -/
theorem faulty_find {o : Order} :
    Alone (fun w : Placement => s.Plus o w.orders ∧ w.Sees now cs l)
      ((faultyOrders a.refusal).find o.id)
      fun r w => r = .ok o ∧ s.Plus o w.orders ∧ w.Sees now cs l :=
  Alone.modifyGet fun _ hw => ⟨hw.1.find, hw⟩

/-- How a save of a change the copy `o` accepts, as `o'`, ended with `r` leaving the store `t`:
it wrote the change and the caller holds what was written, or it wrote nothing, answered a fault
and left the caller its copy. -/
def SaveEnd (s : OrderStore) (o o' : Order) (now : Instant) (r : Order × Option Fault)
    (t : OrderStore) : Prop :=
  (r = (OrderStore.written o o' now, none) ∧ s.Plus (OrderStore.written o o' now) t) ∨
    (r.1 = o ∧ r.2.isSome ∧ s.Plus o t)

/-- A save of a change the copy in hand accepts, with any write refused: the retry after a
refusal that claims a version conflict reloads the very copy in hand, so it writes the same
change once more. -/
theorem faulty_save {change : Order → Except Fault Order} (hk : KeepsKey change)
    {o o' : Order} (hc : change o = .ok o') :
    Alone (fun w : Placement => s.Plus o w.orders ∧ w.Sees now cs l)
      (save (faultyOrders a.refusal) o (inPlace change))
      fun r w => w.Sees now cs l ∧ SaveEnd s o o' now r w.orders := by
  obtain ⟨hid, hv⟩ := hk o o' hc
  rw [save_inPlace]
  unfold saveChange
  rw [hc]
  refine Alone.bind (faulty_update hid hv) fun r => ?_
  cases r with
  | ok x => exact Alone.pure fun w ⟨hsee, hx, hw⟩ => by subst hx; exact ⟨hsee, .inl ⟨rfl, hw⟩⟩
  | error f =>
    refine Alone.pre (?_ : Alone (fun w : Placement => s.Plus o w.orders ∧ w.Sees now cs l) _ _)
      fun w ⟨hsee, hw⟩ => ⟨hw, hsee⟩
    -- a refusal that claims a version conflict is retried; any other is answered
    refine Alone.ite (Alone.pure fun w hw => ⟨hw.2, .inr ⟨rfl, rfl, hw.1⟩⟩) ?_
    refine Alone.bind_val faulty_find ?_
    dsimp only
    rw [hc]
    refine Alone.bind (faulty_update hid hv) fun r => ?_
    cases r with
    | ok x => exact Alone.pure fun w ⟨hsee, hx, hw⟩ => by subst hx; exact ⟨hsee, .inl ⟨rfl, hw⟩⟩
    | error e => exact Alone.pure fun w ⟨hsee, hw⟩ => ⟨hsee, .inr ⟨rfl, rfl, hw⟩⟩

/-- Writing a saga log entry stamps it with the clock and adds it to the log. -/
theorem logged_entry (g : String) (k : Int) (st : SagaStatus) (sp : SagaStep) (err : String)
    {F : OrderStore → Prop} :
    Alone (fun w : Placement => F w.orders ∧ w.Sees now cs l)
      (Saga.log (placementEnv a) g k st sp err)
      fun r w => r = () ∧ F w.orders ∧ w.Sees now cs (l.record (sagaEntry g k st sp err now)) := by
  refine Alone.bind_val (v := now) (R := fun w : Placement => F w.orders ∧ w.Sees now cs l)
    (Alone.modifyGet fun w hw => ⟨hw.2.1, hw⟩) ?_
  exact Alone.modifyGet fun w ⟨hf, hc, hcs, hl⟩ => ⟨rfl, hf, hc, hcs, by rw [hl]; rfl⟩

/-- A call to the breaker or the payment service answers `v` and is logged. -/
theorem logged_call {α : Type} (v : α) (c : PlaceCall) {F : OrderStore → Prop} :
    Alone (fun w : Placement => F w.orders ∧ w.Sees now cs l)
      (MonadStateOf.modifyGet fun (w : Placement) => (v, w.call c))
      fun r w => r = v ∧ F w.orders ∧ w.Sees now (cs ++ [c]) l :=
  Alone.modifyGet fun _ ⟨hf, hc, hcs, hl⟩ => ⟨rfl, hf, hc, by simp [Placement.call, hcs], hl⟩

/-- Going on after a save: from the copy in hand with a fault, from the written change without
one. -/
theorem after_save {β : Type} {o o' : Order} {k : Order × Option Fault → StateM Placement β}
    {S : β → Placement → Prop}
    (hf : ∀ f, Alone (fun w : Placement => s.Plus o w.orders ∧ w.Sees now cs l) (k (o, some f)) S)
    (hn : Alone (fun w : Placement => s.Plus (OrderStore.written o o' now) w.orders ∧
      w.Sees now cs l) (k (OrderStore.written o o' now, none)) S) (r : Order × Option Fault) :
    Alone (fun w : Placement => w.Sees now cs l ∧ SaveEnd s o o' now r w.orders) (k r) S := by
  rintro w ⟨hsee, ⟨rfl, hw⟩ | ⟨hx, hsome, hw⟩⟩
  · exact hn w ⟨hw, hsee⟩
  · obtain ⟨x, _ | f⟩ := r
    · cases hsome
    · cases hx
      exact hf f w ⟨hw, hsee⟩

end Steps

/-! ## The saga -/

/-- The status and step of a saga log entry. -/
def SagaEntry.tag (e : SagaEntry) : SagaStatus × SagaStep := (e.status, e.step)

/-- The exits of a saga run after it stored its order, under the id `X` with the total `T`: what it
answered, the calls it made to the breaker and the payment service, the status and step of each
saga log entry it wrote, and the order it left stored. -/
inductive Ending (a : Collaborators) (X : Int) (T : Decimal) :
    Option Order × Option Fault → List PlaceCall → List (SagaStatus × SagaStep) → Order → Prop
  /-- Confirming the order failed. -/
  | confirmRefused {o : Order} {f : Fault} (hs : o.status = .pending) :
      Ending a X T (some o, some f) [] [(.failed, .confirmOrder)] o
  /-- The breaker refused, and failing the order failed too. -/
  | breakerFailRefused {o : Order} {f : Fault} (ha : a.allows = false)
      (hs : o.status = .confirmed) :
      Ending a X T (some o, some f) [.allow] [(.stepDone, .confirmOrder)] o
  /-- The breaker refused: the order failed for the breaker's reason, with no fault. -/
  | breakerRefused {o : Order} (ha : a.allows = false) (hs : o.status = .failed)
      (hr : o.failureReason = Saga.breakerReason) (hpid : o.paymentId = none) :
      Ending a X T (some o, none) [.allow] [(.stepDone, .confirmOrder), (.failed, .checkBreaker)] o
  /-- Marking the order as waiting for its payment failed. -/
  | markRefused {o : Order} {f : Fault} (ha : a.allows = true) (hs : o.status = .confirmed) :
      Ending a X T (some o, some f) [.allow]
        [(.stepDone, .confirmOrder), (.failed, .initiatePayment)] o
  /-- The payment service failed, and failing the order failed too. -/
  | paymentFailRefused {o : Order} {f perr : Fault} (ha : a.allows = true)
      (hp : a.payment X T defaultPaymentMethod = .error perr) (hs : o.status = .paymentProcessing) :
      Ending a X T (some o, some f) [.allow, .pay X T defaultPaymentMethod, .failed]
        [(.stepDone, .confirmOrder)] o
  /-- The payment service failed: the order failed for it, with a fault saying the service is
  unavailable. -/
  | paymentRefused {o : Order} {f perr : Fault} (ha : a.allows = true)
      (hp : a.payment X T defaultPaymentMethod = .error perr) (hs : o.status = .failed)
      (hr : o.failureReason = "payment initiation failed: " ++ perr.message)
      (hf : f.isA .serviceUnavailable = true) :
      Ending a X T (some o, some f) [.allow, .pay X T defaultPaymentMethod, .failed]
        [(.stepDone, .confirmOrder), (.failed, .initiatePayment)] o
  /-- The payment started, and attaching it to the order failed. -/
  | attachRefused {o : Order} {f : Fault} {p : Payment} (ha : a.allows = true)
      (hp : a.payment X T defaultPaymentMethod = .ok p) (hs : o.status = .paymentProcessing) :
      Ending a X T (some o, some f) [.allow, .pay X T defaultPaymentMethod, .succeeded]
        [(.stepDone, .confirmOrder), (.failed, .initiatePayment)] o
  /-- The payment started and is attached to the order, with no fault. -/
  | attached {o : Order} {p : Payment} (ha : a.allows = true)
      (hp : a.payment X T defaultPaymentMethod = .ok p) (hs : o.status = .paymentProcessing)
      (hid : o.paymentId = some p.id) :
      Ending a X T (some o, none) [.allow, .pay X T defaultPaymentMethod, .succeeded]
        [(.stepDone, .confirmOrder), (.completed, .initiatePayment)] o

/-- How the part of a run of saga `g` after it stored its order, under `X` with total `T`, from
the calls `cs` and the log `l` at `now`, ended with `r` in `w`: one order `o` added to `s` is
answered and stored, and the calls `cs'` made and the entries `es` about `X` written are those of
an `Ending`. -/
def Rest (a : Collaborators) (g : String) (s : OrderStore) (X : Int) (T : Decimal) (now : Instant)
    (cs : List PlaceCall) (l : SagaLog) (r : Option Order × Option Fault) (w : Placement) : Prop :=
  w.clock = now ∧ ∃ o cs' es, r.1 = some o ∧ o.id = X ∧ o.total = T ∧ s.Plus o w.orders ∧
    w.calls = cs ++ cs' ∧ w.log.entries = l.entries ++ es ∧
    (∀ e ∈ es, e.sagaId = g ∧ e.orderId = X) ∧ Ending a X T r cs' (es.map SagaEntry.tag) o

/-- How a run of the saga from the store `s`, the calls `cs` and the log `l` at `now` ended with
`r` in `w`: a customer the check refuses gets no order, nothing is stored and neither the breaker
nor the payment service is called; otherwise the order is stored and the rest of the run ends as
`Rest` says, after the two entries that open the log. -/
def Placed (a : Collaborators) (req : OrderRequest) (s : OrderStore) (now : Instant)
    (cs : List PlaceCall) (l : SagaLog) (r : Option Order × Option Fault) (w : Placement) : Prop :=
  let start := l.record (sagaEntry a.sagaId 0 .started .validateCustomer "" now)
  match a.customerValid req.customerId with
  | true =>
    let o₀ := (s.create (draftOf req) now).1
    Rest a a.sagaId s o₀.id o₀.total now cs
      (start.record (sagaEntry a.sagaId o₀.id .stepDone .persistOrder "" now)) r w
  | false =>
    w.clock = now ∧ r.1 = none ∧ r.2.isSome ∧ w.orders = s ∧ w.calls = cs ∧
      w.log = start.record (sagaEntry a.sagaId 0 .failed .validateCustomer
        (Fault.missing .customer).message now)

section Saga

variable {a : Collaborators} {s : OrderStore} {now : Instant} {cs : List PlaceCall}
  {l : SagaLog}

@[simp] theorem SagaLog.record_entries (l : SagaLog) (e : SagaEntry) :
    (l.record e).entries = l.entries ++ [e] := rfl

/-- An exit of the rest of the run, read off the world it leaves and the entries `es` it wrote. -/
theorem rest_of {g : String} {X : Int} {T : Decimal} {r : Option Order × Option Fault}
    {w : Placement} {o : Order} {cs' : List PlaceCall} (es : List SagaEntry)
    (hend : Ending a X T r cs' (es.map SagaEntry.tag) o) (hr : r.1 = some o) (hX : o.id = X)
    (hT : o.total = T) (hw : s.Plus o w.orders) (hc : w.clock = now) (hcs : w.calls = cs ++ cs')
    (hl : w.log.entries = l.entries ++ es) (hes : ∀ e ∈ es, e.sagaId = g ∧ e.orderId = X) :
    Rest a g s X T now cs l r w :=
  ⟨hc, o, cs', es, hr, hX, hT, hw, hcs, hl, hes, hend⟩

/-- A reason that starts with a word is kept as it is. -/
theorem reasonOr_paymentFailed (m : String) :
    reasonOr ("payment initiation failed: " ++ m) "order processing failed" =
      "payment initiation failed: " ++ m := by
  simp [reasonOr, Text.isBlankText, Text.isBlank]

/-- A failed payment start is reported as a service that is unavailable. -/
theorem isA_unavailable (f : Fault) : (Saga.unavailable f).isA .serviceUnavailable = true := by
  unfold Saga.unavailable
  split
  · assumption
  · rfl

/-- Failing the copy in hand: a save of `fail`. -/
theorem placing_failOrder {o : Order} (reason : String)
    (hs : o.status.canMoveTo .failed = true) :
    Alone (fun w : Placement => s.Plus o w.orders ∧ w.Sees now cs l)
      (Saga.failOrder (placementEnv a) o reason)
      fun r w => w.Sees now cs l ∧ SaveEnd s o
        { o with status := .failed, failureReason := reasonOr reason "order processing failed" }
        now r w.orders := by
  unfold Saga.failOrder
  refine Alone.bind (faulty_save (lawful_fail reason).keepsKey (Order.fail_eq_ok hs reason))
    (after_save (fun f => ?_) ?_)
  · exact Alone.pure fun w ⟨hw, hsee⟩ => ⟨hsee, .inr ⟨rfl, rfl, hw⟩⟩
  · exact Alone.pure fun w ⟨hw, hsee⟩ => ⟨hsee, .inl ⟨rfl, hw⟩⟩

theorem markPaymentProcessing_eq {o : Order} (hs : o.status = .confirmed) :
    o.markPaymentProcessing = .ok { o with status := .paymentProcessing } :=
  Order.moveTo_of_canMoveTo (by rw [hs]; rfl)

/-- Starting the payment of the confirmed copy in hand, after the breaker let it through. -/
theorem placing_startPayment {o : Order} (hs : o.status = .confirmed) (ha : a.allows = true)
    (g : String) :
    Alone (fun w : Placement => s.Plus o w.orders ∧ w.Sees now (cs ++ [.allow])
        (l.record (sagaEntry g o.id .stepDone .confirmOrder "" now)))
      (Saga.startPayment (placementEnv a) g o) (Rest a g s o.id o.total now cs l) := by
  unfold Saga.startPayment
  refine Alone.bind (faulty_save lawful_markPaymentProcessing.keepsKey (markPaymentProcessing_eq hs))
    (after_save (fun f => ?_) ?_)
  · refine Alone.bind_val (logged_entry _ _ _ _ _) (Alone.pure fun w ⟨hw, hc, hcs, hl⟩ => ?_)
    exact rest_of [sagaEntry g o.id .stepDone .confirmOrder "" now,
      sagaEntry g o.id .failed .initiatePayment f.message now] (.markRefused ha hs) rfl rfl rfl hw hc hcs
      (by simp [hl]) (by simp [sagaEntry])
  · -- marked: the payment is started once, and its outcome told once
    refine Alone.bind_val (logged_call _ _) ?_
    simp only [OrderStore.written_id, OrderStore.written_total]
    cases hp : a.payment o.id o.total defaultPaymentMethod with
    | error perr =>
      refine Alone.bind_val (logged_call () .failed) ?_
      refine Alone.bind (placing_failOrder _ rfl) (after_save (fun f => ?_) ?_)
      · refine Alone.pure fun w ⟨hw, hc, hcs, hl⟩ => ?_
        exact rest_of [sagaEntry g o.id .stepDone .confirmOrder "" now]
          (.paymentFailRefused ha hp rfl) rfl rfl rfl hw hc (by simp [hcs]) (by simp [hl])
          (by simp [sagaEntry])
      · refine Alone.bind_val (logged_entry _ _ _ _ _) (Alone.pure fun w ⟨hw, hc, hcs, hl⟩ => ?_)
        exact rest_of [sagaEntry g o.id .stepDone .confirmOrder "" now,
          sagaEntry g o.id .failed .initiatePayment perr.message now]
          (.paymentRefused ha hp rfl (reasonOr_paymentFailed _) (isA_unavailable perr)) rfl rfl rfl hw hc
          (by simp [hcs]) (by simp [hl]) (by simp [sagaEntry])
    | ok p =>
      refine Alone.bind_val (logged_call () .succeeded) ?_
      refine Alone.bind (faulty_save (lawful_attach p.id).keepsKey rfl) (after_save (fun f => ?_) ?_)
      · refine Alone.bind_val (logged_entry _ _ _ _ _) (Alone.pure fun w ⟨hw, hc, hcs, hl⟩ => ?_)
        exact rest_of [sagaEntry g o.id .stepDone .confirmOrder "" now,
          sagaEntry g o.id .failed .initiatePayment f.message now] (.attachRefused ha hp rfl) rfl rfl rfl hw
          hc (by simp [hcs]) (by simp [hl]) (by simp [sagaEntry])
      · refine Alone.bind_val (logged_entry _ _ _ _ _) (Alone.pure fun w ⟨hw, hc, hcs, hl⟩ => ?_)
        exact rest_of [sagaEntry g o.id .stepDone .confirmOrder "" now,
          sagaEntry g o.id .completed .initiatePayment "" now] (.attached ha hp rfl rfl) rfl rfl rfl hw hc
          (by simp [hcs]) (by simp [hl, Order.attachPayment]) (by simp [sagaEntry])

/-- Storing the draft: the store is `s` with the new order added. -/
theorem placing_create (hs : s.Numbered) (d : Order) :
    Alone (fun w : Placement => w.orders = s ∧ w.Sees now cs l) ((faultyOrders a.refusal).create d)
      fun r w => r = .ok (s.create d now).1 ∧ s.Plus (s.create d now).1 w.orders ∧
        w.Sees now cs l :=
  Alone.modifyGet fun w ⟨ho, hc, hcs, hl⟩ => by
    subst ho hc
    exact ⟨rfl, OrderStore.plus_create hs d w.clock, rfl, hcs, hl⟩

theorem draftOf_pending (req : OrderRequest) : (draftOf req).status = .pending :=
  (draft_addItems _ (draft_create req.customerId req.notes)).1

theorem draftOf_paymentId (req : OrderRequest) : (draftOf req).paymentId = none := by
  suffices ∀ (items : List Item) (o : Order), (items.foldl Order.addItem o).paymentId = o.paymentId
    from this _ _
  intro items
  induction items with
  | nil => intro o; rfl
  | cons i rest ih => intro o; simp [ih, Order.addItem, Order.recalculate]

/-- The saga run alone from a store that numbers its orders ends as `Placed` says. -/
theorem placing_run (hs : s.Numbered) (req : OrderRequest) :
    Alone (fun w : Placement => w.orders = s ∧ w.Sees now cs l)
      (Saga.run (placementEnv a) none req) (Placed a req s now cs l) := by
  unfold Saga.run
  refine Alone.bind_val Alone.pure_val ?_
  refine Alone.bind_val (logged_entry (F := (· = s)) _ _ _ _ _) ?_
  refine Alone.bind_val Alone.pure_val ?_
  cases hc : a.customerValid req.customerId with
  | false =>
    rw [if_pos (show (!false) = true from rfl)]
    refine Alone.bind_val (logged_entry (F := (· = s)) _ _ _ _ _)
      (Alone.pure fun w h => ?_)
    obtain ⟨ho, hcl, hcs, hl⟩ := h
    unfold Placed
    rw [hc]
    exact ⟨hcl, rfl, rfl, ho, hcs, hl⟩
  | true =>
    rw [if_neg (show ¬(!true) = true from Bool.false_ne_true)]
    set o₀ := (s.create (draftOf req) now).1
    refine Alone.post (Q := Rest a a.sagaId s o₀.id o₀.total now cs
      ((l.record (sagaEntry a.sagaId 0 .started .validateCustomer "" now)).record
        (sagaEntry a.sagaId o₀.id .stepDone .persistOrder "" now))) ?_
      fun r w h => by unfold Placed; rw [hc]; exact h
    have hconfirm : o₀.confirm = .ok { o₀ with status := .confirmed } :=
      Order.moveTo_of_canMoveTo (by simp [o₀, OrderStore.create, draftOf_pending]; rfl)
    refine Alone.bind_val (placing_create hs _) ?_
    refine Alone.bind_val (logged_entry (F := s.Plus o₀) _ _ _ _ _) ?_
    refine Alone.bind (faulty_save lawful_confirm.keepsKey hconfirm) (after_save (fun f => ?_) ?_)
    · refine Alone.bind_val (logged_entry _ _ _ _ _) (Alone.pure fun w h => ?_)
      obtain ⟨hw, hcl, hcs, hl⟩ := h
      refine rest_of [sagaEntry a.sagaId o₀.id .failed .confirmOrder f.message now]
        (.confirmRefused ?_) rfl rfl rfl hw hcl (by simp [hcs]) (by simp [hl, o₀, draftOf]) (by simp [sagaEntry])
      simp [o₀, OrderStore.create, draftOf_pending]
    · -- confirmed: the breaker is asked
      refine Alone.bind_val (logged_entry _ _ _ _ _) ?_
      refine Alone.bind_val (logged_call _ _) ?_
      cases ha : a.allows with
      | false =>
        rw [if_pos (show (!false) = true from rfl)]
        refine Alone.bind (placing_failOrder _ rfl) (after_save (fun f => ?_) ?_)
        · refine Alone.pure fun w h => ?_
          obtain ⟨hw, hcl, hcs, hl⟩ := h
          exact rest_of [sagaEntry a.sagaId o₀.id .stepDone .confirmOrder "" now]
            (.breakerFailRefused ha rfl) rfl rfl rfl hw hcl hcs (by simp [hl, o₀, draftOf]) (by simp [sagaEntry])
        · refine Alone.bind_val (logged_entry _ _ _ _ _)
            (Alone.pure fun w h => ?_)
          obtain ⟨hw, hcl, hcs, hl⟩ := h
          exact rest_of [sagaEntry a.sagaId o₀.id .stepDone .confirmOrder "" now,
            sagaEntry a.sagaId o₀.id .failed .checkBreaker Saga.breakerReason now]
            (.breakerRefused ha rfl reasonOr_breakerReason (by simp [o₀, draftOf_paymentId]))
            rfl rfl rfl hw hcl hcs (by simp [hl, o₀, draftOf])
            (by simp [sagaEntry])
      | true =>
        rw [if_neg (show ¬(!true) = true from Bool.false_ne_true)]
        exact placing_startPayment rfl ha a.sagaId

/-- Placing an order with no idempotency key: a request that breaks a rule is answered with no
order and changes nothing; any other runs the saga. -/
theorem placing_placeOrder (hs : s.Numbered) (req : OrderRequest) :
    Alone (fun w : Placement => w.orders = s ∧ w.Sees now cs l)
      (Saga.placeOrder (placementEnv a) req "")
      fun r w => (∃ f, req.check = some f ∧ r = (none, some f) ∧ w.orders = s ∧ w.Sees now cs l) ∨
        (req.check = none ∧ Placed a req s now cs l r w) := by
  unfold Saga.placeOrder
  cases hcheck : req.check with
  | some f => exact Alone.pure fun w hw => .inl ⟨f, rfl, rfl, hw⟩
  | none => exact Alone.post (placing_run hs req) fun r w h => .inr ⟨rfl, h⟩

end Saga

/-! ## What every exit shares -/

namespace Ending

variable {a : Collaborators} {X : Int} {T : Decimal} {r : Option Order × Option Fault}
  {cs : List PlaceCall} {tags : List (SagaStatus × SagaStep)} {o : Order}

/-- The payment is started at most once, for the order's id and total and the default method. -/
theorem payCalls_eq (h : Ending a X T r cs tags o) :
    payCalls cs = [] ∨ payCalls cs = [(X, T, defaultPaymentMethod)] := by
  cases h <;> simp [payCalls]

/-- With no fault the order waits for the payment that was started and is attached, or failed
because the breaker refused. -/
theorem no_fault (h : Ending a X T r cs tags o) (hr : r.2 = none) :
    (o.status = .paymentProcessing ∧ ∃ p, a.payment X T defaultPaymentMethod = .ok p ∧
      o.paymentId = some p.id) ∨
    (o.status = .failed ∧ o.failureReason = Saga.breakerReason ∧ a.allows = false) := by
  cases h with
  | breakerRefused ha hs hr' => exact .inr ⟨hs, hr', ha⟩
  | attached ha hp hs hid => exact .inl ⟨hs, _, hp, hid⟩
  | _ => cases hr

/-- When the payment service refused the start, the order failed for it with a fault saying the
service is unavailable, or, when that write was refused, still waits for its payment. -/
theorem payment_refused (h : Ending a X T r cs tags o) (hpay : payCalls cs ≠ [])
    {perr : Fault} (hp : a.payment X T defaultPaymentMethod = .error perr) :
    (o.status = .failed ∧ o.failureReason = "payment initiation failed: " ++ perr.message ∧
      ∃ f, r.2 = some f ∧ f.isA .serviceUnavailable = true) ∨
    (o.status = .paymentProcessing ∧ r.2.isSome) := by
  cases h with
  | paymentFailRefused _ _ hs => exact .inr ⟨hs, rfl⟩
  | paymentRefused _ hp' hs hr hf =>
    rw [hp] at hp'
    cases hp'
    exact .inl ⟨hs, hr, _, rfl, hf⟩
  | attachRefused _ hp' => rw [hp] at hp'; cases hp'
  | attached _ hp' => rw [hp] at hp'; cases hp'
  | _ => simp [payCalls] at hpay

end Ending

/-! ## Placing an order -/

/-- Adding items one by one appends each with its total price computed. -/
theorem foldl_addItem_items (items : List Item) (o : Order) :
    (items.foldl Order.addItem o).items = o.items ++ items.map Item.withTotal := by
  induction items generalizing o with
  | nil => simp
  | cons i rest ih => simp [ih, Order.addItem, Order.recalculate]

/-- The draft's total is the exact sum of unit price × quantity over the requested items. -/
theorem draftOf_total (req : OrderRequest) :
    (draftOf req).total = Order.itemsTotal (req.items.getD []) := by
  unfold draftOf
  rw [(draft_addItems _ (draft_create req.customerId req.notes)).2.total]
  simp only [foldl_addItem_items, Order.create, List.nil_append, Order.itemsTotal, List.map_map]
  rfl

/-- **Placing an order with no idempotency key**, run alone on a store that numbers its orders,
whatever the customer check, the breaker and the payment service answer and whichever writes of
the store are refused:
* a request that breaks a rule, or a customer the check refuses, gets no order: nothing is stored
  and neither the breaker nor the payment service is called;
* otherwise exactly one order is added to the store, with the total of its items, and it is the
  order answered; any order answered is the one stored under its id;
* the payment service is called at most once, with that order's id, the sum of unit price ×
  quantity over the requested items and the default method;
* with no fault, the order waits for the payment that was started and is attached to it, or failed
  for the breaker's reason because the breaker refused;
* when the payment service refused the start, the order failed with the service's complaint and
  the fault says the service is unavailable, unless that write was refused too and the order still
  waits for its payment, with a fault. -/
theorem placed_order_is_stored (a : Collaborators) (req : OrderRequest) (w : Placement)
    (hw : w.orders.Numbered) :
    let r := (Saga.placeOrder (placementEnv a) req "").run w
    let total := Order.itemsTotal (req.items.getD [])
    ((req.check.isSome ∨ a.customerValid req.customerId = false) →
      r.1.1 = none ∧ r.2.orders = w.orders ∧ r.2.calls = w.calls) ∧
    (req.check = none → a.customerValid req.customerId = true →
      ∃ o, r.1.1 = some o ∧ r.2.orders.orders = w.orders.orders ++ [o] ∧ o.total = total) ∧
    (∀ o, r.1.1 = some o → r.2.orders.find o.id = .ok o) ∧
    ∃ cs, r.2.calls = w.calls ++ cs ∧
      (payCalls cs = [] ∨ ∃ o, r.1.1 = some o ∧ payCalls cs = [(o.id, total, "CREDIT_CARD")]) ∧
      (r.1.2 = none → ∃ o, r.1.1 = some o ∧
        ((o.status = .paymentProcessing ∧ ∃ p, a.payment o.id total "CREDIT_CARD" = .ok p ∧
            o.paymentId = some p.id) ∨
          (o.status = .failed ∧ o.failureReason = "payment service unavailable" ∧
            a.allows = false))) ∧
      (∀ o perr, r.1.1 = some o → payCalls cs ≠ [] →
        a.payment o.id total "CREDIT_CARD" = .error perr →
        (o.status = .failed ∧ o.failureReason = "payment initiation failed: " ++ perr.message ∧
          ∃ f, r.1.2 = some f ∧ f.isA .serviceUnavailable = true) ∨
        (o.status = .paymentProcessing ∧ r.1.2.isSome)) := by
  have hrun := placing_placeOrder (a := a) hw req w ⟨rfl, rfl, rfl, rfl⟩
  dsimp only
  generalize (Saga.placeOrder (placementEnv a) req "").run w = res at hrun ⊢
  obtain ⟨⟨ro, rf⟩, w'⟩ := res
  dsimp only at hrun ⊢
  rcases hrun with ⟨f, hcheck, hr, ho, -, hcs, -⟩ | ⟨hcheck, hplaced⟩
  · -- a request that breaks a rule
    cases hr
    refine ⟨fun _ => ⟨rfl, ho, hcs⟩, ?_, ?_, [], by simp [hcs], .inl rfl, ?_, ?_⟩ <;> simp [hcheck]
  cases hc : a.customerValid req.customerId with
  | false =>
    -- a customer the check refuses
    unfold Placed at hplaced
    rw [hc] at hplaced
    obtain ⟨-, rfl, hr2, ho, hcs, -⟩ := hplaced
    obtain ⟨f, rfl⟩ := Option.isSome_iff_exists.mp hr2
    refine ⟨fun _ => ⟨rfl, ho, hcs⟩, ?_, ?_, [], by simp [hcs], .inl rfl, ?_, ?_⟩ <;>
      simp [hr2]
  | true =>
    unfold Placed at hplaced
    rw [hc] at hplaced
    obtain ⟨-, o, cs', es, rfl, hX, hT, hplus, hcs, -, -, hend⟩ := hplaced
    -- the order answered has the total of the draft, the sum over the requested items
    rw [OrderStore.create_total, draftOf_total req] at hT hend
    rw [← hX] at hend
    refine ⟨by simp [hcheck], fun _ _ => ⟨o, rfl, hplus.1, hT⟩, ?_, cs', hcs, ?_, ?_, ?_⟩
    · rintro o' ⟨⟩
      exact hplus.find
    · rcases hend.payCalls_eq with h | h
      · exact .inl h
      · exact .inr ⟨o, rfl, h⟩
    · rintro rfl
      exact ⟨o, rfl, hend.no_fault rfl⟩
    · rintro o' perr ⟨⟩ hpay hp
      exact hend.payment_refused hpay hp

/-- A book ordered by a valid customer, with the payment service refusing: the answered order is
the stored one. -/
theorem placed_order_is_stored_declined :
    OrderStore.empty.Numbered ∧ ∀ o,
      ((Saga.placeOrder (placementEnv ⟨fun _ => true, true, fun _ _ _ => .error (.note "declined"),
          fun _ => none, "saga"⟩) ⟨1, some [⟨0, "book", "", "", 1, ⟨100, 0⟩, ⟨100, 0⟩⟩], ""⟩ "").run
        ⟨OrderStore.empty, Instant.zero, 0, [], SagaLog.empty⟩).1.1 = some o →
      ((Saga.placeOrder (placementEnv ⟨fun _ => true, true, fun _ _ _ => .error (.note "declined"),
          fun _ => none, "saga"⟩) ⟨1, some [⟨0, "book", "", "", 1, ⟨100, 0⟩, ⟨100, 0⟩⟩], ""⟩ "").run
        ⟨OrderStore.empty, Instant.zero, 0, [], SagaLog.empty⟩).2.orders.find o.id = .ok o :=
  ⟨OrderStore.numbered_empty,
    (placed_order_is_stored _ _ ⟨OrderStore.empty, Instant.zero, 0, [], SagaLog.empty⟩
      OrderStore.numbered_empty).2.2.1⟩

end Fulfillment