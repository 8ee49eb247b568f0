import Fulfillment.Proofs.Orders.Save
import Fulfillment.Service.Orders

/-!
# The laws of a stored order

Every order the services store keeps three laws (`OrderLawful`): its failure reason is not blank
exactly when it failed or was cancelled, a completed order names its payment, and its total is
the exact sum of unit price × quantity over its items.

The saga stores a pending draft that keeps them (`draft_addItems`), the store keeps them when it
numbers the items (`OrderLawful.stored`), and every change a service saves is `Lawful`: it keeps
the order's key, customer, items and total, leaves the stage where it is or moves it along one
edge of the lifecycle, and keeps the laws. That is shown once per stage move of `Order` and then
for `OrderService.change` at every target.
-/

namespace Fulfillment

open Text (isBlankText)

/-- The laws of a stored order. -/
structure OrderLawful (o : Order) : Prop where
  reason : isBlankText o.failureReason = false ↔ o.status = .failed ∨ o.status = .cancelled
  paid : o.status = .completed → o.paymentId.isSome
  total : o.total = Order.itemsTotal o.items

/-- A write of `x` over `b` that a save may make: same key, customer, items and total, the stage
kept or moved along one edge, and the laws kept. -/
structure Move (b x : Order) : Prop where
  id : x.id = b.id
  version : x.version = b.version
  customerId : x.customerId = b.customerId
  items : x.items = b.items
  total : x.total = b.total
  status : x.status = b.status ∨ b.status.canMoveTo x.status = true
  lawful : OrderLawful b → OrderLawful x

/-- Every order a change accepts moves lawfully. -/
def Lawful (change : Order → Except Fault Order) : Prop := ∀ b x, change b = .ok x → Move b x

/-- A pending order that keeps the laws: what the saga may store as new. -/
def Draft (o : Order) : Prop := o.status = .pending ∧ OrderLawful o

theorem Lawful.keepsKey {change : Order → Except Fault Order} (h : Lawful change) :
    KeepsKey change :=
  fun b x hx => ⟨(h b x hx).id, (h b x hx).version⟩

/-- A move followed by a write that keeps the stage is a move. -/
theorem Move.then_same {b y x : Order} (h : Move b y) (h' : Move y x) (hs : x.status = y.status) :
    Move b x where
  id := h'.id.trans h.id
  version := h'.version.trans h.version
  customerId := h'.customerId.trans h.customerId
  items := h'.items.trans h.items
  total := h'.total.trans h.total
  status := hs ▸ h.status
  lawful := fun hb => h'.lawful (h.lawful hb)

/-! ## Totals and drafts -/

theorem itemsTotal_numberItems (items : List Item) (k : Int) :
    Order.itemsTotal (OrderStore.numberItems items k) = Order.itemsTotal items := by
  unfold Order.itemsTotal
  congr 1
  induction items generalizing k with
  | nil => rfl
  | cons i rest ih => simp only [OrderStore.numberItems, List.map_cons, ih]

/-- The store keeps the laws of an order it stores as new: numbering the items leaves their
prices and quantities. -/
theorem OrderLawful.stored {o : Order} (h : OrderLawful o) (k v : Int) (t t' : Instant)
    (last : Int) :
    OrderLawful { o with id := k, version := v, createdAt := t, updatedAt := t',
                         items := OrderStore.numberItems o.items last } :=
  ⟨h.reason, h.paid, h.total.trans (itemsTotal_numberItems o.items last).symm⟩

theorem draft_create (customerId : Int) (notes : String) :
    Draft (Order.create customerId notes) :=
  ⟨rfl, ⟨by simp only [Order.create]; decide, by simp [Order.create], rfl⟩⟩

/-- Adding items one by one keeps a draft a draft: each addition recomputes the total. -/
theorem draft_addItems (items : List Item) {o : Order} (h : Draft o) :
    Draft (items.foldl Order.addItem o) := by
  induction items generalizing o with
  | nil => exact h
  | cons i rest ih =>
    obtain ⟨hp, hl⟩ := h
    exact ih ⟨hp, ⟨by simpa [Order.addItem, Order.recalculate] using hl.reason,
      by simp [Order.addItem, Order.recalculate, hp], rfl⟩⟩

/-! ## The stage moves -/

section Moves

variable {b x : Order}

theorem map_eq_ok {ε α β : Type} {e : Except ε α} {f : α → β} {y : β} (h : e.map f = .ok y) :
    ∃ a, e = .ok a ∧ y = f a := by
  cases e with
  | error _ => cases h
  | ok a => exact ⟨a, rfl, (Except.ok.inj h).symm⟩

/-- An order that may still move has a blank failure reason. -/
theorem OrderLawful.blank {t : OrderStatus} (h : OrderLawful b) (hc : b.status.canMoveTo t = true) :
    isBlankText b.failureReason = true := by
  cases hb : isBlankText b.failureReason
  · rcases h.reason.mp hb with hs | hs <;> simp [hs, OrderStatus.canMoveTo] at hc
  · rfl

theorem isBlankText_reasonOr (reason : String) {fallback : String}
    (h : isBlankText fallback = false) : isBlankText (reasonOr reason fallback) = false := by
  unfold reasonOr
  split
  · exact h
  · next hr => simpa using hr

/-- Moving to a stage that is neither final nor failed keeps the laws. -/
theorem OrderLawful.moved {t : OrderStatus} (h : OrderLawful b) (hc : b.status.canMoveTo t = true)
    (ht : t = .confirmed ∨ t = .paymentProcessing) : OrderLawful { b with status := t } := by
  have hblank := h.blank hc
  refine ⟨?_, fun hs => ?_, h.total⟩
  · simp only [hblank, Bool.true_eq_false, false_iff]
    rcases ht with rfl | rfl <;> simp
  · rcases ht with rfl | rfl <;> cases hs

/-- A move along one edge to a stage that is neither final nor failed. -/
theorem Move.moveTo {t : OrderStatus} (h : b.moveTo t = .ok x)
    (ht : t = .confirmed ∨ t = .paymentProcessing) : Move b x := by
  obtain ⟨hc, rfl⟩ := Order.moveTo_eq_ok_iff.mp h
  exact ⟨rfl, rfl, rfl, rfl, rfl, .inr hc, fun hb => hb.moved hc ht⟩

theorem lawful_confirm : Lawful Order.confirm :=
  fun _ _ h => Move.moveTo h (.inl rfl)

theorem lawful_markPaymentProcessing : Lawful Order.markPaymentProcessing :=
  fun _ _ h => Move.moveTo h (.inr rfl)

theorem lawful_complete (paymentId : Int) : Lawful fun o => o.complete paymentId := by
  intro b x h
  obtain ⟨y, hy, rfl⟩ := map_eq_ok h
  obtain ⟨hc, rfl⟩ := Order.moveTo_eq_ok_iff.mp hy
  refine ⟨rfl, rfl, rfl, rfl, rfl, .inr hc, fun hb => ⟨?_, fun _ => rfl, hb.total⟩⟩
  simp [hb.blank hc]

/-- Failing and cancelling: the order ends with the reason given, or the fallback when the
reason is blank, and neither is blank. -/
theorem Move.ended {t : OrderStatus} {reason fallback : String}
    (hf : isBlankText fallback = false) (ht : t = .failed ∨ t = .cancelled)
    (h : (b.moveTo t).map (fun o => { o with failureReason := reasonOr reason fallback }) = .ok x) :
    Move b x := by
  obtain ⟨y, hy, rfl⟩ := map_eq_ok h
  obtain ⟨hc, rfl⟩ := Order.moveTo_eq_ok_iff.mp hy
  refine ⟨rfl, rfl, rfl, rfl, rfl, .inr hc, fun hb => ⟨?_, fun hs => ?_, hb.total⟩⟩
  · simp only [isBlankText_reasonOr reason hf, true_iff]
    exact ht
  · rcases ht with rfl | rfl <;> cases hs

theorem lawful_fail (reason : String) : Lawful fun o => o.fail reason :=
  fun _ _ h => Move.ended (by decide) (.inl rfl) h

theorem lawful_cancel (reason : String) : Lawful fun o => o.cancel reason :=
  fun _ _ h => Move.ended (by decide) (.inr rfl) h

/-- Attaching a payment keeps the stage, and names a payment. -/
theorem move_attach (o : Order) (paymentId : Int) : Move o (o.attachPayment paymentId) :=
  ⟨rfl, rfl, rfl, rfl, rfl, .inl rfl, fun ho => ⟨ho.reason, fun _ => rfl, ho.total⟩⟩

theorem lawful_attach (paymentId : Int) :
    Lawful fun o => .ok (o.attachPayment paymentId) := by
  intro b x h
  cases h
  exact move_attach b paymentId

end Moves

/-- **Every status change the order service saves is lawful**, at every target: the stage moves
along one edge of the lifecycle, a payment attached on the way keeps it there, and a change to
any other target is refused. -/
theorem lawful_change (target : OrderStatus) (req : OrderMove) :
    Lawful (OrderService.change target req) := by
  intro b x h
  cases target with
  | confirmed => exact lawful_confirm b x h
  | paymentProcessing =>
    obtain ⟨y, hy, rfl⟩ := map_eq_ok h
    have hm := lawful_markPaymentProcessing b y hy
    cases hp : req.paymentId with
    | none => simpa [hp] using hm
    | some p => simpa [hp] using hm.then_same (move_attach y p) rfl
  | completed =>
    simp only [OrderService.change] at h
    split at h
    · exact lawful_complete _ b x h
    · cases h
  | failed => exact lawful_fail req.reason b x h
  | cancelled => exact lawful_cancel req.reason b x h
  | pending => cases h
  | other t => cases h

/-! ## The laws of the store -/

/-- A write that keeps the laws of the order store: a pending draft, or a lawful change of the
order it replaces. Writes to the payments and the notices touch no order. -/
def LawfulWrite (w : World) : Op → Prop
  | .createOrder o => Draft o
  | .updateOrder o => ∃ c k, Lawful c ∧ ChangeWrites c k w (.updateOrder o)
  | _ => True

/-- The laws of the order store and its log: the store agrees with the log; every stored order
keeps its laws and has the customer, items and total that its creation logged; every creation
logged a pending order, and every other write kept the stage or moved it along one edge. -/
structure OrderLaws (w : World) : Prop where
  kept : OrdersKept w
  lawful : ∀ o ∈ w.orders.orders, OrderLawful o
  created : ∀ o ∈ w.orders.orders, ∃ e ∈ w.orderLog, e.before = none ∧ e.after.id = o.id ∧
    e.after.customerId = o.customerId ∧ e.after.items = o.items ∧ e.after.total = o.total
  starts : ∀ e ∈ w.orderLog, e.before = none → e.after.status = .pending
  moves : ∀ e ∈ w.orderLog, ∀ b, e.before = some b →
    e.after.status = b.status ∨ b.status.canMoveTo e.after.status = true

namespace OrderLaws

variable {w w' : World}

theorem start (now : Instant) : OrderLaws (World.start now) :=
  ⟨ordersKept_start now, by simp [World.start, OrderStore.empty],
    by simp [World.start, OrderStore.empty], by simp [World.start], by simp [World.start]⟩

/-- The laws speak only of the order store and its log. -/
theorem congr (h : OrderLaws w) (ho : w'.orders = w.orders) (hl : w'.orderLog = w.orderLog) :
    OrderLaws w' where
  kept := by unfold OrdersKept; rw [ho, hl]; exact h.kept
  lawful := by rw [ho]; exact h.lawful
  created := by rw [ho, hl]; exact h.created
  starts := by rw [hl]; exact h.starts
  moves := by rw [hl]; exact h.moves

theorem env (h : OrderLaws w) (he : Env w w') : OrderLaws w' :=
  h.congr (Env.stores he).1 (Env.stores he).2.2.1

/-- Storing a draft keeps the laws: the new order is pending and lawful, and its creation is
logged with what it was stored with. -/
theorem create (h : OrderLaws w) {o : Order} (hd : Draft o) (j : Nat) :
    OrderLaws (w.apply j (.createOrder o)) := by
  refine ⟨ordersKept_apply h.kept _, fun x hx => ?_, fun x hx => ?_, fun e he hb => ?_,
    fun e he b hb => ?_⟩
  · simp only [World.apply, World.createOrder, OrderStore.create, List.mem_append,
      List.mem_singleton] at hx
    rcases hx with hx | rfl
    · exact h.lawful x hx
    · exact hd.2.stored _ _ _ _ _
  · simp only [World.apply, World.createOrder, OrderStore.create, List.mem_append,
      List.mem_singleton] at hx ⊢
    rcases hx with hx | rfl
    · obtain ⟨e, he, rest⟩ := h.created x hx
      exact ⟨e, .inl he, rest⟩
    · exact ⟨_, .inr rfl, rfl, rfl, rfl, rfl, rfl⟩
  · simp only [World.apply, World.createOrder, OrderStore.create, List.mem_append,
      List.mem_singleton] at he
    rcases he with he | rfl
    · exact h.starts e he hb
    · exact hd.1
  · simp only [World.apply, World.createOrder, OrderStore.create, List.mem_append,
      List.mem_singleton] at he
    rcases he with he | rfl
    · exact h.moves e he b hb
    · cases hb

/-- A lawful change of the order it replaces keeps the laws: the new order moved lawfully from
the stored one, which was created with the same customer, items and total. -/
theorem update (h : OrderLaws w) {c : Order → Except Fault Order} {k : Int} {o : Order}
    (hc : Lawful c) (hw : ChangeWrites c k w (.updateOrder o)) (j : Nat) :
    OrderLaws (w.apply j (.updateOrder o)) := by
  have hk := ordersKept_apply (j := j) h.kept (.updateOrder o)
  rcases hw.cases j with heq | ⟨cur, hcur, hv, hco, heq⟩
  · rw [heq]; exact h
  rw [heq] at hk ⊢
  have hmem : cur ∈ w.orders.orders := List.mem_of_find?_eq_some hcur
  have hid : cur.id = o.id := by simpa using List.find?_some hcur
  have hm : Move cur o := hc cur o hco
  refine ⟨hk, fun x hx => ?_, fun x hx => ?_, fun e he hb => ?_, fun e he b hb => ?_⟩
  · obtain ⟨y, hy, rfl⟩ := List.mem_map.mp hx
    split
    · have hl := hm.lawful (h.lawful cur hmem)
      exact ⟨hl.reason, hl.paid, hl.total⟩
    · exact h.lawful y hy
  · obtain ⟨y, hy, rfl⟩ := List.mem_map.mp hx
    split
    · obtain ⟨e, he, hb, heid, hcu, hit, hto⟩ := h.created cur hmem
      exact ⟨e, List.mem_append_left _ he, hb, heid.trans hid, hcu.trans hm.customerId.symm,
        hit.trans hm.items.symm, hto.trans hm.total.symm⟩
    · obtain ⟨e, he, rest⟩ := h.created y hy
      exact ⟨e, List.mem_append_left _ he, rest⟩
  · rcases List.mem_append.mp he with he | he
    · exact h.starts e he hb
    · rw [List.mem_singleton.mp he] at hb; cases hb
  · rcases List.mem_append.mp he with he | he
    · exact h.moves e he b hb
    · rw [List.mem_singleton.mp he] at hb ⊢
      cases hb
      exact hm.status

/-- **Every lawful write keeps the laws of the order store.** -/
theorem apply (h : OrderLaws w) {op : Op} (hop : LawfulWrite w op) (j : Nat) :
    OrderLaws (w.apply j op) := by
  cases op with
  | createOrder o => exact h.create hop j
  | updateOrder o =>
    obtain ⟨c, k, hc, hw⟩ := hop
    exact h.update hc hw j
  | createPayment p =>
    simp only [World.apply, World.createPayment]
    split <;> exact h.congr rfl rfl
  | updatePayment p =>
    simp only [World.apply, World.updatePayment]
    split <;> exact h.congr rfl rfl
  | notify n => exact h.congr rfl rfl

end OrderLaws

end Fulfillment
