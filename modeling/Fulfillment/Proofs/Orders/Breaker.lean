import Mathlib.Data.List.Induction
import Fulfillment.Proofs.Breaker.Counting
import Fulfillment.Proofs.Orders.Laws
import Fulfillment.Service.Saga

/-!
# The payment breaker in the saga

Sagas run one after another against the order store, a payment service and one counting breaker,
each run at a clock reading of its own, forward or back of the last (`runOne`, `runAll`). The
payment service answers each run as it likes, and the customer check and the key store too.
What the runs do to the breaker and the payment service is logged in order (`Touch`).

Run alone, every save of the saga goes through: the store holds the copy of its order the saga
has in hand (`OrderStore.Holds`). So each run ends in one of three ways (`RunTouches`): before
asking the breaker; refused by it, with its order stored failed for `payment service
unavailable` and no fault; or let through, when it starts the payment once and tells the breaker
its outcome once, a success for a payment and a failure for a fault. The breaker is then the
counting breaker run on what the runs told it, so its laws say when it opens, and while it
refuses no payment is started (`breaker_guards_payment_starts`).

A run is followed with `Alone P c Q`: run alone from a state satisfying `P`, the program `c`
finishes with a value and state satisfying `Q`.
-/

namespace Fulfillment

/-! ## Programs run alone -/

/-- Run alone from a state satisfying `P`, `c` finishes with a value and a state satisfying
`Q`. -/
def Alone {σ α : Type} (P : σ → Prop) (c : StateM σ α) (Q : α → σ → Prop) : Prop :=
  ∀ s, P s → Q (c.run s).1 (c.run s).2

namespace Alone

variable {σ α β : Type} {P P' : σ → Prop} {Q Q' : α → σ → Prop}

theorem pure {a : α} (h : ∀ s, P s → Q a s) : Alone P (Pure.pure a : StateM σ α) Q := h

theorem bind {c : StateM σ α} {k : α → StateM σ β} {S : β → σ → Prop} (hc : Alone P c Q)
    (hk : ∀ a, Alone (Q a) (k a) S) : Alone P (c >>= k) S :=
  fun s hs => hk _ _ (hc s hs)

/-- Sequencing through a step whose value is known. -/
theorem bind_val {c : StateM σ α} {k : α → StateM σ β} {v : α} {R : σ → Prop}
    {S : β → σ → Prop} (hc : Alone P c fun a s => a = v ∧ R s) (hk : Alone R (k v) S) :
    Alone P (c >>= k) S := fun s hs => by
  obtain ⟨h1, h2⟩ := hc s hs
  show S ((k (c.run s).1).run (c.run s).2).1 ((k (c.run s).1).run (c.run s).2).2
  rw [h1]
  exact hk _ h2

/-- A value given without a step. -/
theorem pure_val {a : α} : Alone P (Pure.pure a : StateM σ α) fun v s => v = a ∧ P s :=
  fun _ h => ⟨rfl, h⟩

theorem pre {c : StateM σ α} (h : Alone P' c Q) (hp : ∀ s, P s → P' s) : Alone P c Q :=
  fun s hs => h s (hp s hs)

theorem post {c : StateM σ α} (h : Alone P c Q) (hq : ∀ a s, Q a s → Q' a s) : Alone P c Q' :=
  fun s hs => hq _ _ (h s hs)

theorem ite {p : Prop} [Decidable p] {a b : StateM σ α} (ha : Alone P a Q) (hb : Alone P b Q) :
    Alone P (if p then a else b) Q := by
  split
  · exact ha
  · exact hb

/-- A value given without a step, and dropped. -/
theorem discard_pure {a : α} :
    Alone P (discard (Pure.pure a : StateM σ α)) fun v s => v = () ∧ P s :=
  fun _ h => ⟨rfl, h⟩

/-- A fact about no state at all may be assumed. -/
theorem of_pure {p : Prop} {c : StateM σ α} (h : p → Alone P c Q) :
    Alone (fun s => P s ∧ p) c Q :=
  fun s hs => h hs.2 s hs.1

/-- One step that reads the state, changes it and gives a value. -/
theorem modifyGet {f : σ → α × σ} (h : ∀ s, P s → Q (f s).1 (f s).2) :
    Alone P (MonadStateOf.modifyGet f : StateM σ α) Q := h

/-- One step that reads the state, changes it and gives a value, from a known state. -/
theorem modifyGet_at {f : σ → α × σ} {s₀ : σ} :
    Alone (· = s₀) (MonadStateOf.modifyGet f : StateM σ α)
      fun v s => v = (f s₀).1 ∧ s = (f s₀).2 :=
  modifyGet fun _ h => h ▸ ⟨rfl, rfl⟩

end Alone

/-! ## Sagas run one after another -/

/-- What a run does to the breaker or the payment service: a call to the breaker, or a start of
a payment. -/
inductive Touch where
  | breaker (c : CountingBreaker.Call)
  | create
  deriving DecidableEq, Repr

/-- The breaker calls among some touches, in order. -/
def breakerCalls (ts : List Touch) : List CountingBreaker.Call :=
  ts.filterMap fun
    | .breaker c => some c
    | .create => none

/-- The world of sagas run one after another: the order store, the payment breaker, the clock,
and every touch of the breaker and the payment service so far. -/
structure SagaWorld where
  orders : OrderStore
  breaker : CountingBreaker
  clock : Instant
  touches : List Touch

/-- One run of the saga: its request and key, what the customer check, the key store and the
payment service answer it, and the clock reading it runs at. -/
structure SagaRun where
  req : OrderRequest
  key : String
  customerValid : Bool
  claim : Except Fault Int
  payment : Except Fault Payment
  now : Instant

namespace SagaWorld

/-- No orders, the breaker `b` and nothing touched, at `now`. -/
def start (b : CountingBreaker) (now : Instant) : SagaWorld := ⟨OrderStore.empty, b, now, []⟩

/-- A call to the breaker at the clock, logged. -/
def hit (w : SagaWorld) (c : CountingBreaker.Call) : SagaWorld :=
  { w with breaker := w.breaker.after c, touches := w.touches ++ [.breaker c] }

end SagaWorld

/-- The order store, reached by a saga run alone; records are stamped with the clock. -/
def aloneOrders : OrderRepo (StateM SagaWorld) where
  create o := MonadStateOf.modifyGet fun (w : SagaWorld) =>
    let r := w.orders.create o w.clock
    (.ok r.1, { w with orders := r.2 })
  update o := MonadStateOf.modifyGet fun (w : SagaWorld) =>
    match w.orders.update o w.clock with
    | .ok (stored, st) => (.ok stored, { w with orders := st })
    | .error f => (.error f, w)
  find id := MonadStateOf.modifyGet fun (w : SagaWorld) => (w.orders.find id, w)
  list customerId status := MonadStateOf.modifyGet fun (w : SagaWorld) =>
    (.ok (w.orders.list customerId status), w)

/-- The key store as run `r` finds it: a claim gets `r.claim`, binding and letting go succeed. -/
def runKeys (r : SagaRun) : KeyOps (StateM SagaWorld) :=
  ⟨fun _ => pure r.claim, fun _ _ => pure (.ok ()), fun _ => pure (.ok ())⟩

/-- The saga of run `r`: the order store, the breaker asked at the clock, the payment service
answering `r.payment`, and the customer check and key store answering as `r` says. -/
def breakerSaga (r : SagaRun) : SagaEnv (StateM SagaWorld) where
  orders := aloneOrders
  customerValid _ := pure r.customerValid
  createPayment _ _ _ := MonadStateOf.modifyGet fun (w : SagaWorld) =>
    (r.payment, { w with touches := w.touches ++ [.create] })
  breakerAllows := MonadStateOf.modifyGet fun (w : SagaWorld) =>
    ((w.breaker.allow w.clock).1, w.hit (.allow w.clock))
  paymentSucceeded := MonadStateOf.modifyGet fun (w : SagaWorld) => ((), w.hit .success)
  paymentFailed := MonadStateOf.modifyGet fun (w : SagaWorld) => ((), w.hit (.failure w.clock))
  keys := some (runKeys r)
  newSagaId := pure "saga"
  now := MonadStateOf.modifyGet fun (w : SagaWorld) => (w.clock, w)
  record _ := pure ()

/-- A run at its own clock reading. -/
def runOne (r : SagaRun) : StateM SagaWorld (Option Order × Option Fault) := do
  MonadStateOf.modifyGet fun (w : SagaWorld) => ((), { w with clock := r.now })
  Saga.placeOrder (breakerSaga r) r.req r.key

/-- Runs one after another, with what each answered. -/
def runAll (rs : List SagaRun) : StateM SagaWorld (List (Option Order × Option Fault)) :=
  rs.mapM runOne

/-! ## The order store run alone -/

/-- Replacing every element with key `i` by `y`, of that key, is seen only under `i`. -/
theorem find?_map_replace {α : Type} (key : α → Int) (l : List α) {i : Int} {y : α}
    (hy : key y = i) (k : Int) :
    (l.map fun x => if key x == i then y else x).find? (key · == k) =
      if k = i then (l.find? (key · == i)).map fun _ => y else l.find? (key · == k) := by
  -- the replaced list is searched as the original, since a replaced element keeps its key
  have hp : ((key · == k) ∘ fun x => if key x == i then y else x) = (key · == k) := by
    funext x
    by_cases hx : key x = i <;> simp [hx, hy]
  rw [List.find?_map, hp]
  cases hf : l.find? (key · == k) with
  | none =>
    split
    · next hk =>
      subst hk
      simp [hf]
    · rfl
  | some z =>
    have hz : key z = k := by simpa using List.find?_some hf
    split
    · next hk =>
      subst hk
      simp [hf, hz]
    · next hk => simp [hz, hk]

namespace OrderStore

/-- Every stored order has an id the store has handed out. -/
def Numbered (s : OrderStore) : Prop := ∀ o ∈ s.orders, o.id ≤ s.lastId

/-- The store numbers its orders, and the first order stored under `o`'s id is `o`. -/
def Holds (s : OrderStore) (o : Order) : Prop :=
  s.Numbered ∧ s.orders.find? (·.id == o.id) = some o

theorem numbered_empty : empty.Numbered := by simp [Numbered, empty]

theorem Holds.find {s : OrderStore} {o : Order} (h : s.Holds o) : s.find o.id = .ok o := by
  simp [OrderStore.find, h.2]

/-- A new order gets the next id, which no stored order has, so it is found under it. -/
theorem create_holds {s : OrderStore} (h : s.Numbered) (o : Order) (now : Instant) :
    (s.create o now).2.Holds (s.create o now).1 := by
  refine ⟨fun x hx => ?_, ?_⟩
  · simp only [create, List.mem_append, List.mem_singleton] at hx ⊢
    rcases hx with hx | rfl
    · have := h x hx; omega
    · exact Int.le_refl _
  · simp only [create, List.find?_append]
    rw [List.find?_eq_none.mpr fun x hx => by have := h x hx; simp; omega]
    simp

/-- What the store writes for `o'` over the stored `o` at `now`: one version up, stamped, with
`o`'s creation time. -/
def written (o o' : Order) (now : Instant) : Order :=
  { o' with version := o'.version + 1, updatedAt := now, createdAt := o.createdAt }

/-- Writing a change of the order the store holds, with its id and version, goes through; the
store then holds what it wrote. -/
theorem holds_update {s : OrderStore} {o o' : Order} (h : s.Holds o) (hid : o'.id = o.id)
    (hv : o'.version = o.version) (now : Instant) :
    ∃ st, s.update o' now = .ok (written o o' now, st) ∧ st.Holds (written o o' now) := by
  obtain ⟨hn, hf⟩ := h
  have ho : o ∈ s.orders := List.mem_of_find?_eq_some hf
  have hu : s.update o' now = .ok (written o o' now,
      { s with orders := s.orders.map (fun x => if x.id == o'.id then written o o' now else x) }) := by
    simp [update, hid, hf, hv, written]
  refine ⟨_, hu, fun x hx => ?_, ?_⟩
  · obtain ⟨y, hy, rfl⟩ := List.mem_map.mp hx
    by_cases hyo : y.id = o.id
    · simpa [hyo, hid, written] using hn o ho
    · simpa [hyo, hid] using hn y hy
  · -- the written order is the only one the write leaves under its id
    have hk : (written o o' now).id = o'.id := rfl
    rw [find?_map_replace Order.id s.orders hk, if_pos hk, hid, hf]
    rfl

end OrderStore

/-! ## One run, step by step -/

namespace SagaWorld

/-- The touches, the breaker and the clock are `t`, `b` and `now`. -/
def Sees (w : SagaWorld) (t : List Touch) (b : CountingBreaker) (now : Instant) : Prop :=
  w.touches = t ∧ w.breaker = b ∧ w.clock = now

end SagaWorld

section Steps

variable {t : List Touch} {b : CountingBreaker} {now : Instant}

/-- Storing a draft in the store `s`: the store then holds the new order. -/
theorem alone_create {s : OrderStore} (hs : s.Numbered) (d : Order) :
    Alone (fun w : SagaWorld => w.orders = s ∧ w.Sees t b now) (aloneOrders.create d)
      fun a w => a = .ok (s.create d now).1 ∧ w.orders.Holds (s.create d now).1 ∧
        w.Sees t b now :=
  Alone.modifyGet fun w hw => by
    obtain ⟨ho, ht, hb, hn⟩ := hw
    subst ho hn
    exact ⟨rfl, OrderStore.create_holds hs d w.clock, ht, hb, rfl⟩

/-- Looking an order up changes nothing. -/
theorem alone_find {s : OrderStore} (id : Int) :
    Alone (fun w : SagaWorld => w.orders = s ∧ w.Sees t b now) (aloneOrders.find id)
      fun a w => a = s.find id ∧ w.orders = s ∧ w.Sees t b now :=
  Alone.modifyGet fun w hw => ⟨by rw [hw.1], hw⟩

/-- Writing a change of the order the store holds, with its id and version, goes through. -/
theorem alone_update {o o' : Order} (hid : o'.id = o.id) (hv : o'.version = o.version) :
    Alone (fun w : SagaWorld => w.orders.Holds o ∧ w.Sees t b now) (aloneOrders.update o')
      fun a w => a = .ok (OrderStore.written o o' now) ∧
        w.orders.Holds (OrderStore.written o o' now) ∧ w.Sees t b now :=
  Alone.modifyGet fun w hw => by
    obtain ⟨hh, ht, hb, hn⟩ := hw
    obtain ⟨st, hu, hst⟩ := OrderStore.holds_update hh hid hv w.clock
    subst hn
    rw [hu]
    exact ⟨rfl, hst, ht, hb, rfl⟩

/-- A save of a change the copy in hand accepts goes through at once, run alone. -/
theorem alone_save {change : Order → Except Fault Order} (hk : KeepsKey change) {o o' : Order}
    (hc : change o = .ok o') :
    Alone (fun w : SagaWorld => w.orders.Holds o ∧ w.Sees t b now) (save aloneOrders o (inPlace change))
      fun r w => r = (OrderStore.written o o' now, none) ∧
        w.orders.Holds (OrderStore.written o o' now) ∧ w.Sees t b now := by
  obtain ⟨hid, hv⟩ := hk o o' hc
  rw [save_inPlace]
  unfold saveChange
  rw [hc]
  exact Alone.bind_val (alone_update hid hv) Alone.pure_val

/-- Asking the breaker: it answers as `allow` does at the clock, and the call is logged. -/
theorem alone_breakerAllows (r : SagaRun) {F : OrderStore → Prop} :
    Alone (fun w : SagaWorld => F w.orders ∧ w.Sees t b now) (breakerSaga r).breakerAllows
      fun a w => a = (b.allow now).1 ∧ F w.orders ∧
        w.Sees (t ++ [.breaker (.allow now)]) (b.after (.allow now)) now :=
  Alone.modifyGet fun w hw => by
    obtain ⟨hf, ht, hb, hn⟩ := hw
    subst ht hb hn
    exact ⟨rfl, hf, rfl, rfl, rfl⟩

/-- Starting a payment: the payment service answers `r.payment`, and the start is logged. -/
theorem alone_createPayment (r : SagaRun) {F : OrderStore → Prop} (id : Int) (amount : Decimal)
    (method : String) :
    Alone (fun w : SagaWorld => F w.orders ∧ w.Sees t b now)
      ((breakerSaga r).createPayment id amount method)
      fun a w => a = r.payment ∧ F w.orders ∧ w.Sees (t ++ [.create]) b now :=
  Alone.modifyGet fun w hw => by
    obtain ⟨hf, ht, hb, hn⟩ := hw
    subst ht hb hn
    exact ⟨rfl, hf, rfl, rfl, rfl⟩

/-- Telling the breaker an outcome: the call is made at the clock and logged. -/
theorem alone_hit {F : OrderStore → Prop} (call : Instant → CountingBreaker.Call) :
    Alone (fun w : SagaWorld => F w.orders ∧ w.Sees t b now)
      (MonadStateOf.modifyGet fun (w : SagaWorld) => ((), w.hit (call w.clock)))
      fun a w => a = () ∧ F w.orders ∧
        w.Sees (t ++ [.breaker (call now)]) (b.after (call now)) now :=
  Alone.modifyGet fun w hw => by
    obtain ⟨hf, ht, hb, hn⟩ := hw
    subst ht hb hn
    exact ⟨rfl, hf, rfl, rfl, rfl⟩

/-- Writing the saga log changes nothing here. -/
theorem alone_log (r : SagaRun) {P : SagaWorld → Prop} (sagaId : String) (orderId : Int)
    (status : SagaStatus) (step : SagaStep) (error : String) :
    Alone P (Saga.log (breakerSaga r) sagaId orderId status step error)
      fun a w => a = () ∧ P w :=
  fun _ h => ⟨rfl, h⟩

end Steps

/-! ## What a run touches -/

/-- What the breaker is told of a payment start: a success for a payment, a failure at the clock
for a fault. -/
def outcome (pay : Except Fault Payment) (now : Instant) : CountingBreaker.Call :=
  match pay with
  | .ok _ => .success
  | .error _ => .failure now

/-- A failed order with the reason the breaker gives, stored as answered. -/
theorem Order.fail_eq_ok {o : Order} (h : o.status.canMoveTo .failed = true) (reason : String) :
    o.fail reason =
      .ok { o with status := .failed, failureReason := reasonOr reason "order processing failed" } := by
  simp [Order.fail, Order.moveTo, h, Except.map]

/-- How one run, started on breaker `b` at `now` with the payment service answering `pay`, may
touch the breaker and the payment service (`seg`) and end (`res`), `s` being the store it
leaves. -/
inductive RunTouches (b : CountingBreaker) (now : Instant) (pay : Except Fault Payment)
    (s : OrderStore) : List Touch → Option Order × Option Fault → Prop
  /-- It ended before asking the breaker, touching nothing. -/
  | early {res} : RunTouches b now pay s [] res
  /-- The breaker refused it: its order is stored failed for the breaker's reason, and answered
  with no fault. -/
  | refused {o : Order} (hb : (b.allow now).1 = false) (hs : o.status = .failed)
      (hr : o.failureReason = Saga.breakerReason) (hf : s.find o.id = .ok o) :
      RunTouches b now pay s [.breaker (.allow now)] (some o, none)
  /-- The breaker let it through: it started the payment once and told the breaker the outcome
  once. -/
  | through {res} (hb : (b.allow now).1 = true) :
      RunTouches b now pay s [.breaker (.allow now), .create, .breaker (outcome pay now)] res

section Saga

variable {t : List Touch} {b : CountingBreaker} {now : Instant}

/-- A run from touches `t`, breaker `b` and clock `now` ended with `res` in `w`: the store
numbers its orders, and the run added touches the breaker was told, as `RunTouches` allows. -/
def Ran (t : List Touch) (b : CountingBreaker) (now : Instant) (pay : Except Fault Payment)
    (res : Option Order × Option Fault) (w : SagaWorld) : Prop :=
  w.orders.Numbered ∧ ∃ seg, w.Sees (t ++ seg) (b.run (breakerCalls seg)) now ∧
    RunTouches b now pay w.orders seg res

/-- A run that changed nothing ended early. -/
theorem ran_early {s : OrderStore} (hs : s.Numbered) {pay : Except Fault Payment}
    {res : Option Order × Option Fault} {w : SagaWorld} (hw : w.orders = s ∧ w.Sees t b now) :
    Ran t b now pay res w :=
  ⟨hw.1 ▸ hs, [], by simpa [breakerCalls, CountingBreaker.run] using hw.2, .early⟩

/-- Failing an order that may still fail goes through, run alone. -/
theorem alone_failOrder (r : SagaRun) {o o' : Order} {reason : String}
    (hf : o.fail reason = .ok o') :
    Alone (fun w : SagaWorld => w.orders.Holds o ∧ w.Sees t b now)
      (Saga.failOrder (breakerSaga r) o reason)
      fun a w => a = (OrderStore.written o o' now, none) ∧
        w.orders.Holds (OrderStore.written o o' now) ∧ w.Sees t b now :=
  Alone.bind_val (alone_save (lawful_fail reason).keepsKey hf) Alone.pure_val

/-- Starting the payment of a confirmed order: the payment is started once, and its outcome told
to the breaker once. -/
theorem alone_startPayment (r : SagaRun) {o : Order} (hs : o.status = .confirmed)
    (sagaId : String) :
    Alone (fun w : SagaWorld => w.orders.Holds o ∧ w.Sees t b now)
      (Saga.startPayment (breakerSaga r) sagaId o)
      fun _ w => w.orders.Numbered ∧
        w.Sees (t ++ [.create, .breaker (outcome r.payment now)])
          (b.after (outcome r.payment now)) now := by
  have hm : o.markPaymentProcessing = .ok { o with status := .paymentProcessing } := by
    simp [Order.markPaymentProcessing, Order.moveTo, hs, OrderStatus.canMoveTo]
  refine Alone.bind_val (alone_save lawful_markPaymentProcessing.keepsKey hm) ?_
  refine Alone.bind_val (alone_createPayment r (F := (·.Holds _)) _ _ _) ?_
  cases hp : r.payment with
  | error perr =>
    refine Alone.bind_val (alone_hit (F := (·.Holds _)) CountingBreaker.Call.failure) ?_
    refine Alone.bind_val (alone_failOrder r (Order.fail_eq_ok (by rfl) _)) ?_
    refine Alone.bind_val (alone_log r _ _ _ _ _) ?_
    refine Alone.pure ?_
    rintro w ⟨hh, ht, hb, hn⟩
    exact ⟨hh.1, by simp [ht, outcome], hb, hn⟩
  | ok p =>
    refine Alone.bind_val (alone_hit (F := (·.Holds _)) fun _ => CountingBreaker.Call.success) ?_
    refine Alone.bind_val (alone_save (lawful_attach p.id).keepsKey rfl) ?_
    refine Alone.bind_val (alone_log r _ _ _ _ _) ?_
    refine Alone.pure ?_
    rintro w ⟨hh, ht, hb, hn⟩
    exact ⟨hh.1, by simp [ht, outcome], hb, hn⟩

/-- The order the breaker refuses is stored with the breaker's reason itself. -/
theorem reasonOr_breakerReason :
    reasonOr Saga.breakerReason "order processing failed" = Saga.breakerReason := by
  decide

/-- The saga run alone on the store `s`: it ends early, is refused by the breaker, or starts the
payment once and tells the breaker its outcome once. -/
theorem alone_run (r : SagaRun) {s : OrderStore} (hs : s.Numbered) (key : Option String)
    (req : OrderRequest) :
    Alone (fun w : SagaWorld => w.orders = s ∧ w.Sees t b now)
      (Saga.run (breakerSaga r) (key.map fun name => (runKeys r, name)) req)
      (Ran t b now r.payment) := by
  refine Alone.bind_val Alone.pure_val ?_
  refine Alone.bind_val (alone_log r _ _ _ _ _) ?_
  refine Alone.bind_val Alone.pure_val ?_
  cases hc : r.customerValid with
  | false =>
    refine Alone.bind_val (alone_log r _ _ _ _ _) ?_
    exact Alone.pure fun w hw => ran_early hs hw
  | true =>
    have hpend := (draft_addItems (req.items.getD [])
      (draft_create req.customerId req.notes)).1
    refine Alone.bind_val (alone_create hs _) ?_
    refine Alone.bind_val (alone_log r _ _ _ _ _) ?_
    have hconfirm : Order.confirm (s.create ((req.items.getD []).foldl Order.addItem
        (Order.create req.customerId req.notes)) now).1 = .ok { (s.create ((req.items.getD []).foldl
          Order.addItem (Order.create req.customerId req.notes)) now).1 with status := .confirmed } := by
      simp [Order.confirm, Order.moveTo, OrderStore.create, hpend, OrderStatus.canMoveTo]
    -- binding the key changes nothing, and both ways go on alike
    obtain _ | name := key
    on_goal 2 => refine Alone.bind_val Alone.discard_pure ?_
    all_goals
      refine Alone.bind_val (alone_save lawful_confirm.keepsKey hconfirm) ?_
      refine Alone.bind_val (alone_log r _ _ _ _ _) ?_
      refine Alone.bind_val (alone_breakerAllows r (F := (·.Holds _))) ?_
      cases ha : (b.allow now).1 with
      | false =>
        refine Alone.bind_val (alone_failOrder r (Order.fail_eq_ok (by rfl) _)) ?_
        refine Alone.bind_val (alone_log r _ _ _ _ _) ?_
        refine Alone.pure ?_
        rintro w ⟨hh, hw⟩
        exact ⟨hh.1, [.breaker (.allow now)], hw, .refused ha rfl reasonOr_breakerReason hh.find⟩
      | true =>
        refine Alone.post (alone_startPayment r rfl "saga") ?_
        rintro _ w ⟨hn, ht, hb, hc⟩
        refine ⟨hn, [.breaker (.allow now), .create, .breaker (outcome r.payment now)], ?_, ?_⟩
        · exact ⟨by simp [ht], hb, hc⟩
        · exact .through ha

theorem alone_placeOrder (r : SagaRun) {s : OrderStore} (hs : s.Numbered) (req : OrderRequest)
    (key : String) :
    Alone (fun w : SagaWorld => w.orders = s ∧ w.Sees t b now)
      (Saga.placeOrder (breakerSaga r) req key) (Ran t b now r.payment) := by
  unfold Saga.placeOrder
  cases hcheck : req.check with
  | some f => exact Alone.pure fun w hw => ran_early hs hw
  | none =>
    cases hk : key.isEmpty with
    | true => exact alone_run r hs none req
    | false =>
      refine Alone.bind_val Alone.pure_val ?_
      cases hcl : r.claim with
      | error f => exact Alone.pure fun w hw => ran_early hs hw
      | ok existing =>
        refine Alone.ite ?_ ?_
        · refine Alone.bind_val (alone_find existing) ?_
          cases s.find existing <;> exact Alone.pure fun w hw => ran_early hs hw
        · refine Alone.bind (alone_run r hs (some key) req) ?_
          rintro ⟨o, fault⟩
          -- letting the key go changes nothing
          refine Alone.ite ?_ (Alone.pure fun _ h => h)
          exact Alone.bind_val Alone.discard_pure (Alone.pure fun _ h => h)

/-- One run at its own clock reading, from a store that numbers its orders. -/
theorem runOne_ran (w : SagaWorld) (hw : w.orders.Numbered) (r : SagaRun) :
    Ran w.touches w.breaker r.now r.payment ((runOne r).run w).1 ((runOne r).run w).2 := by
  have hclock : Alone (fun w' : SagaWorld => w' = w)
      (MonadStateOf.modifyGet fun (w' : SagaWorld) => ((), { w' with clock := r.now }))
      fun a w' => a = () ∧ w'.orders = w.orders ∧ w'.Sees w.touches w.breaker r.now :=
    Alone.modifyGet fun _ h => by subst h; exact ⟨rfl, rfl, rfl, rfl, rfl⟩
  exact Alone.bind_val hclock (alone_placeOrder r hw r.req r.key) w rfl

end Saga

/-! ## Runs one after another -/

@[simp] theorem breakerCalls_append (ts ts' : List Touch) :
    breakerCalls (ts ++ ts') = breakerCalls ts ++ breakerCalls ts' :=
  List.filterMap_append

theorem runAll_cons (r : SagaRun) (rs : List SagaRun) (w : SagaWorld) :
    ((runAll (r :: rs)).run w).2 = ((runAll rs).run ((runOne r).run w).2).2 := by
  simp only [runAll, List.mapM_cons]
  rfl

/-- A run the breaker refuses at its start touches nothing but the breaker, which stays as it
was, and starts no payment; if it asked the breaker, its order is stored failed for the breaker's
reason and answered with no fault. -/
theorem RunTouches.of_refuses {b : CountingBreaker} {now : Instant} {pay : Except Fault Payment}
    {s : OrderStore} {seg : List Touch} {res : Option Order × Option Fault}
    (h : RunTouches b now pay s seg res) (hb : (b.allow now).1 = false) :
    b.run (breakerCalls seg) = b ∧ Touch.create ∉ seg ∧
      (seg = [] ∨ ∃ o, res = (some o, none) ∧ o.status = .failed ∧
        o.failureReason = Saga.breakerReason ∧ s.find o.id = .ok o) := by
  cases h with
  | early => exact ⟨rfl, by simp, .inl rfl⟩
  | refused _ hs hr hf =>
    -- a refusing `allow` is no reset, so it leaves the breaker as it was
    have hr' : b.resets (.allow now) = false := by
      obtain ⟨ho, hc⟩ := (CountingBreaker.allow_eq_false_iff b now).mp hb
      simp [CountingBreaker.resets, ho, hc]
    exact ⟨CountingBreaker.after_allow_of_not_resets b now hr', by simp, .inr ⟨_, rfl, hs, hr, hf⟩⟩
  | through ht => simp [ht] at hb

/-- Runs from a store that numbers its orders: the store still does, and the breaker has been
told the breaker calls among the touches the runs added, and nothing else. -/
theorem runAll_told (w : SagaWorld) (hw : w.orders.Numbered) (rs : List SagaRun) :
    ((runAll rs).run w).2.orders.Numbered ∧ ∃ seg, ((runAll rs).run w).2.touches = w.touches ++ seg ∧
      ((runAll rs).run w).2.breaker = w.breaker.run (breakerCalls seg) := by
  induction rs generalizing w with
  | nil => exact ⟨hw, [], (List.append_nil _).symm, rfl⟩
  | cons r rs ih =>
    obtain ⟨hn, seg, ⟨ht, hb, -⟩, -⟩ := runOne_ran w hw r
    obtain ⟨hn', seg', ht', hb'⟩ := ih _ hn
    rw [runAll_cons]
    refine ⟨hn', seg ++ seg', ?_, ?_⟩
    · rw [ht', ht, List.append_assoc]
    · rw [hb', hb, breakerCalls_append, CountingBreaker.run_append]

/-- Runs that all start within the cool-down of a breaker that is open start no payment, and
leave the breaker as it was. -/
theorem runAll_refused (w : SagaWorld) (hw : w.orders.Numbered) (rs : List SagaRun)
    (hopen : w.breaker.isOpen = true)
    (hwait : ∀ r ∈ rs, (r.now.since w.breaker.openedAt).ns ≤ w.breaker.coolDown.ns) :
    ((runAll rs).run w).2.breaker = w.breaker ∧
      ∃ seg, ((runAll rs).run w).2.touches = w.touches ++ seg ∧ Touch.create ∉ seg := by
  induction rs generalizing w with
  | nil => exact ⟨rfl, [], (List.append_nil _).symm, by simp⟩
  | cons r rs ih =>
    obtain ⟨hn, seg, ⟨ht, hb, -⟩, hrun⟩ := runOne_ran w hw r
    have hrefuse : (w.breaker.allow r.now).1 = false :=
      (CountingBreaker.allow_eq_false_iff _ _).mpr ⟨hopen, hwait r (by simp)⟩
    obtain ⟨hsame, hseg, -⟩ := hrun.of_refuses hrefuse
    -- the breaker is as it was, so the rest of the runs are refused alike
    have hb' : ((runOne r).run w).2.breaker = w.breaker := hb.trans hsame
    obtain ⟨hb'', seg', ht', hseg'⟩ := ih _ hn (hb' ▸ hopen)
      (fun r' hr' => hb' ▸ hwait r' (List.mem_cons_of_mem r hr'))
    rw [runAll_cons]
    refine ⟨hb''.trans hb', seg ++ seg', by rw [ht', ht, List.append_assoc], ?_⟩
    simp [hseg, hseg']

/-- **The payment breaker guards the payment starts.** Sagas run one after another from no
orders on one counting breaker, each at a clock reading of its own and with whatever the payment
service answers it. After any runs `rs`:
* the breaker has been told the breaker calls of the runs and nothing else, so it is open exactly
  when the failures since its last reset reach the threshold, and it opened at the one that did;
* the next run touches the breaker and the payment service in one of the ways `RunTouches`
  allows, and the breaker is told the breaker calls among them: nothing, a refused `allow`, or an
  `allow` followed by one payment start and its one outcome; if the breaker is open and the run
  starts within the cool-down, it starts no payment, and if it asked the breaker its order is
  stored failed for the breaker's reason and answered with no fault;
* while the breaker is open, runs that all start within the cool-down of its opening start no
  payment and leave it as it is. -/
theorem breaker_guards_payment_starts (name : String) (T : Int) (C : Duration) (start : Instant)
    (rs : List SagaRun) :
    let b₀ := CountingBreaker.make name T C
    let w := ((runAll rs).run (SagaWorld.start b₀ start)).2
    let fails := CountingBreaker.failureTimes (b₀.sinceReset (breakerCalls w.touches))
    w.breaker = b₀.run (breakerCalls w.touches) ∧
    (w.breaker.isOpen = true ↔ b₀.threshold ≤ fails.length) ∧
    (w.breaker.isOpen = true → fails[b₀.threshold - 1]? = some w.breaker.openedAt) ∧
    (∀ r : SagaRun, ∃ seg, ((runOne r).run w).2.touches = w.touches ++ seg ∧
      ((runOne r).run w).2.breaker = w.breaker.run (breakerCalls seg) ∧
      RunTouches w.breaker r.now r.payment ((runOne r).run w).2.orders seg ((runOne r).run w).1 ∧
      (w.breaker.isOpen = true → (r.now.since w.breaker.openedAt).ns ≤ b₀.coolDown.ns →
        Touch.create ∉ seg ∧ (seg = [] ∨ ∃ o, ((runOne r).run w).1 = (some o, none) ∧
          o.status = .failed ∧ o.failureReason = Saga.breakerReason ∧
          ((runOne r).run w).2.orders.find o.id = .ok o))) ∧
    (∀ rs' : List SagaRun, w.breaker.isOpen = true →
      (∀ r ∈ rs', (r.now.since w.breaker.openedAt).ns ≤ b₀.coolDown.ns) →
      ((runAll rs').run w).2.breaker = w.breaker ∧
        ∃ seg, ((runAll rs').run w).2.touches = w.touches ++ seg ∧ Touch.create ∉ seg) := by
  intro b₀ w fails
  obtain ⟨hn, seg, ht, hb⟩ : w.orders.Numbered ∧
      ∃ seg, w.touches = seg ∧ w.breaker = b₀.run (breakerCalls seg) :=
    runAll_told _ OrderStore.numbered_empty rs
  -- the runs started with nothing touched, so the breaker is the fresh one told every call
  have hcalls : w.breaker = b₀.run (breakerCalls w.touches) := by rw [ht]; exact hb
  have hlaws : CountingBreaker.Laws w.breaker fails :=
    hcalls ▸ CountingBreaker.laws_run name T C (breakerCalls w.touches)
  have hT : w.breaker.threshold = b₀.threshold := hcalls ▸ CountingBreaker.run_threshold _ _
  have hC : w.breaker.coolDown = b₀.coolDown := hcalls ▸ CountingBreaker.run_coolDown _ _
  refine ⟨hcalls, ?_, fun ho => hT ▸ hlaws.openedAt ho, fun r => ?_, fun rs' ho hwait => ?_⟩
  · rw [hlaws.isOpen, hT]
  · obtain ⟨-, seg, ⟨ht', hb', -⟩, hrun⟩ := runOne_ran w hn r
    refine ⟨seg, ht', hb', hrun, fun ho hwait => ?_⟩
    obtain ⟨-, hc, hres⟩ :=
      hrun.of_refuses ((CountingBreaker.allow_eq_false_iff _ _).mpr ⟨ho, hC ▸ hwait⟩)
    exact ⟨hc, hres⟩
  · exact runAll_refused w hn rs' ho fun r hr => hC ▸ hwait r hr

end Fulfillment
