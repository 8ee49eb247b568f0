import Mathlib
import Fulfillment.Proofs.Orders.Placement
import Fulfillment.Proofs.Stores.Listings

/-!
# Order totals are exact

A decimal stands for the rational number `coeff × 10 ^ exp` (`Decimal.value`); sums and products
of decimals are exact on these values (`Decimal.value_add`, `Decimal.value_mul`), so the total of
a list of items is the exact rational sum of unit price × quantity (`value_itemsTotal`).

An order keeps its prices right (`Priced`): every item's total price is its unit price ×
quantity, and the order's total is the sum over its items. A new order does, and every edit keeps
it (`Priced.apply`): adding an item prices it and recomputes the total, removing one recomputes
the total, and stage moves, attaching a payment and copying leave items and total alone.

An order request that passes its checks has items with positive quantity and price, so the order
the saga builds from it has a positive total, and the payment the saga starts for it, under the
positive id the store gives the order, passes the payment request's checks
(`accepted_orders_pass_payment_checks`).
-/

namespace Fulfillment

namespace Decimal

/-- The rational number a decimal stands for. -/
def value (d : Decimal) : ℚ := d.coeff * 10 ^ d.exp

theorem int_pow_eq (a : Int) (n : Nat) : Int.pow a n = a ^ n := rfl

/-- Scaling the coefficient to a smaller exponent keeps the number. -/
theorem value_coeffAt (d : Decimal) {e : Int} (he : e ≤ d.exp) :
    (d.coeffAt e : ℚ) * 10 ^ e = d.value := by
  have hk : ((d.exp - e).toNat : ℤ) = d.exp - e := Int.toNat_of_nonneg (by omega)
  unfold coeffAt value
  rw [int_pow_eq, Int.cast_mul, Int.cast_pow, mul_assoc, Int.cast_ofNat, ← zpow_natCast, hk,
    ← zpow_add₀ (by norm_num), sub_add_cancel]

@[simp] theorem value_add (a b : Decimal) : (a + b).value = a.value + b.value := by
  show (⟨a.coeffAt (min a.exp b.exp) + b.coeffAt (min a.exp b.exp), min a.exp b.exp⟩ :
    Decimal).value = _
  rw [← value_coeffAt a (min_le_left a.exp b.exp), ← value_coeffAt b (min_le_right a.exp b.exp)]
  simp only [value, Int.cast_add, add_mul]

@[simp] theorem value_mul (a b : Decimal) : (a * b).value = a.value * b.value := by
  simp only [value, mul_coeff, mul_exp, Int.cast_mul, zpow_add₀ (by norm_num : (10 : ℚ) ≠ 0)]
  ring

@[simp] theorem value_ofInt (n : Int) : (ofInt n).value = n := by simp [value, ofInt]

@[simp] theorem value_zero : zero.value = 0 := by simp [value, zero]

theorem value_foldl (acc : Decimal) (ds : List Decimal) :
    (ds.foldl add acc).value = acc.value + (ds.map value).sum := by
  induction ds generalizing acc with
  | nil => simp
  | cons d ds ih =>
    rw [List.foldl_cons, ih, List.map_cons, List.sum_cons, ← add_assoc]
    exact congrArg (· + _) (value_add acc d)

@[simp] theorem value_sum (ds : List Decimal) : (sum ds).value = (ds.map value).sum := by
  simp [sum, value_foldl]

/-- A decimal is positive exactly when the number it stands for is. -/
theorem isPositive_iff_value (d : Decimal) : d.isPositive = true ↔ 0 < d.value := by
  have hp : (0 : ℚ) < 10 ^ d.exp := zpow_pos (by norm_num) _
  rw [isPositive_iff, value, mul_pos_iff_of_pos_right hp, Int.cast_pos]

end Decimal

/-- The exact sum of unit price × quantity over some items. -/
theorem value_itemsTotal (items : List Item) :
    (Order.itemsTotal items).value =
      (items.map fun i => i.unitPrice.value * (i.quantity : ℚ)).sum := by
  simp [Order.itemsTotal, List.map_map, Function.comp_def]

/-! ## Edits of an order -/

/-- An edit of an order in hand: an item added or removed by position, the total recomputed, a
stage move, a payment attached, or a copy taken. -/
inductive OrderEdit where
  | addItem (i : Item)
  | removeItem (pos : Int)
  | recalculate
  | confirm
  | markPaymentProcessing
  | complete (paymentId : Int)
  | fail (reason : String)
  | cancel (reason : String)
  | attachPayment (paymentId : Int)
  | copy

namespace OrderEdit

/-- The order a stage move leaves: the moved order, or the order as it was when the move is not
allowed. -/
def settle (o : Order) : Except Fault Order → Order
  | .ok o' => o'
  | .error _ => o

/-- The order an edit leaves. Orders are values, never shared, so a copy is the order itself. -/
def apply (o : Order) : OrderEdit → Order
  | addItem i => o.addItem i
  | removeItem pos => o.removeItem pos
  | recalculate => o.recalculate
  | confirm => settle o o.confirm
  | markPaymentProcessing => settle o o.markPaymentProcessing
  | complete paymentId => settle o (o.complete paymentId)
  | fail reason => settle o (o.fail reason)
  | cancel reason => settle o (o.cancel reason)
  | attachPayment paymentId => o.attachPayment paymentId
  | copy => o

/-- The order after edits, one after the other. -/
def run (o : Order) (edits : List OrderEdit) : Order := edits.foldl apply o

end OrderEdit

/-- Every item's total price is its unit price × quantity, and the order's total is the sum of unit
price × quantity over its items. -/
structure Priced (o : Order) : Prop where
  items : ∀ i ∈ o.items, i.totalPrice = i.unitPrice * Decimal.ofInt i.quantity
  total : o.total = Order.itemsTotal o.items

namespace Priced

variable {o : Order}

theorem create (customerId : Int) (notes : String) : Priced (Order.create customerId notes) :=
  ⟨by simp [Order.create], rfl⟩

theorem recalculate (h : Priced o) : Priced o.recalculate := ⟨h.items, rfl⟩

theorem addItem (h : Priced o) (i : Item) : Priced (o.addItem i) := by
  refine ⟨fun x hx => ?_, rfl⟩
  simp only [Order.addItem, Order.recalculate, List.mem_append, List.mem_singleton] at hx
  rcases hx with hx | rfl
  · exact h.items x hx
  · exact Item.withTotal_totalPrice i

theorem removeItem (h : Priced o) (pos : Int) : Priced (o.removeItem pos) := by
  unfold Order.removeItem
  split
  · exact ⟨fun x hx => h.items x (List.mem_of_mem_eraseIdx hx), rfl⟩
  · exact h

/-- A change that moves lawfully keeps items and total, so it keeps the prices. -/
theorem settle (h : Priced o) {change : Order → Except Fault Order} (hc : Lawful change) :
    Priced (OrderEdit.settle o (change o)) := by
  cases ho : change o with
  | error f => exact h
  | ok x =>
    have hm := hc o x ho
    exact ⟨hm.items ▸ h.items, hm.total.trans (h.total.trans (congrArg _ hm.items.symm))⟩

theorem attachPayment (h : Priced o) (paymentId : Int) : Priced (o.attachPayment paymentId) :=
  ⟨h.items, h.total⟩

/-- Every edit keeps the prices. -/
theorem apply (h : Priced o) : ∀ e : OrderEdit, Priced (e.apply o)
  | .addItem i => h.addItem i
  | .removeItem pos => h.removeItem pos
  | .recalculate => h.recalculate
  | .confirm => h.settle lawful_confirm
  | .markPaymentProcessing => h.settle lawful_markPaymentProcessing
  | .complete paymentId => h.settle (lawful_complete paymentId)
  | .fail reason => h.settle (lawful_fail reason)
  | .cancel reason => h.settle (lawful_cancel reason)
  | .attachPayment paymentId => h.attachPayment paymentId
  | .copy => h

theorem run (h : Priced o) (edits : List OrderEdit) : Priced (OrderEdit.run o edits) := by
  induction edits generalizing o with
  | nil => exact h
  | cons e edits ih => exact ih (h.apply e)

end Priced

/-- Removing the item at a position in the list keeps the items before it and after it, in order. -/
theorem removeItem_items {o : Order} {pos : Int} (h : 0 ≤ pos ∧ pos < o.items.length) :
    (o.removeItem pos).items = o.items.take pos.toNat ++ o.items.drop (pos.toNat + 1) := by
  simp [Order.removeItem, h, Order.recalculate, List.eraseIdx_eq_take_drop_succ]

theorem removeItem_of_outside {o : Order} {pos : Int} (h : ¬(0 ≤ pos ∧ pos < o.items.length)) :
    o.removeItem pos = o := by
  simp only [Order.removeItem, if_neg h]

/-- **Edited orders keep exact prices.** After any edits of a new order, every item's total price
is its unit price × quantity, and the total is the exact rational sum of unit price × quantity
over the items. Removing the item at a position in the list keeps the others in order; any other
position changes nothing. -/
theorem edited_orders_stay_priced (customerId : Int) (notes : String) (edits : List OrderEdit) :
    let o := OrderEdit.run (Order.create customerId notes) edits
    (∀ i ∈ o.items, i.totalPrice = i.unitPrice * Decimal.ofInt i.quantity) ∧
    o.total.value = (o.items.map fun i => i.unitPrice.value * (i.quantity : ℚ)).sum ∧
    ∀ pos : Int,
      (0 ≤ pos ∧ pos < o.items.length →
        (o.removeItem pos).items = o.items.take pos.toNat ++ o.items.drop (pos.toNat + 1)) ∧
      (¬(0 ≤ pos ∧ pos < o.items.length) → o.removeItem pos = o) := by
  intro o
  have h : Priced o := (Priced.create customerId notes).run edits
  refine ⟨h.items, by rw [h.total, value_itemsTotal],
    fun pos => ⟨removeItem_items, removeItem_of_outside⟩⟩

/-! ## What passes the order checks passes the payment checks -/

theorem firstBroken_eq_none {n : Nat} {items : List Item}
    (h : OrderRequest.firstBroken n items = none) :
    ∀ i ∈ items, i.check = none := by
  induction items generalizing n with
  | nil => simp
  | cons x rest ih =>
    unfold OrderRequest.firstBroken at h
    cases hx : x.check with
    | some f => rw [hx] at h; cases h
    | none =>
      rw [hx] at h
      intro i hi
      rcases List.mem_cons.mp hi with rfl | hi
      · exact hx
      · exact ih h i hi

theorem Item.check_eq_none {i : Item} (h : i.check = none) :
    1 ≤ i.quantity ∧ i.unitPrice.isPositive = true := by
  unfold Item.check at h
  split at h
  · cases h
  · split at h
    · cases h
    · next hq =>
      split at h
      · cases h
      · next hp => exact ⟨by omega, by simpa using hp⟩

/-- A request that passes its checks has items, each with positive quantity and unit price. -/
theorem OrderRequest.check_eq_none {req : OrderRequest} (h : req.check = none) :
    req.items.getD [] ≠ [] ∧
      ∀ i ∈ req.items.getD [], 1 ≤ i.quantity ∧ 0 < i.unitPrice.value := by
  unfold OrderRequest.check at h
  split at h
  · cases h
  · simp only at h
    split at h
    · cases h
    · next hne =>
      refine ⟨fun he => by simp [he] at hne, fun i hi => ?_⟩
      have hb : OrderRequest.firstBroken 0 (req.items.getD []) = none := by
        cases hf : OrderRequest.firstBroken 0 (req.items.getD []) with
        | none => rfl
        | some nf => rw [hf] at h; cases h
      obtain ⟨hq, hp⟩ := Item.check_eq_none (firstBroken_eq_none hb i hi)
      exact ⟨hq, (Decimal.isPositive_iff_value _).mp hp⟩

theorem PaymentRequest.check_eq_none_iff (r : PaymentRequest) :
    r.check = none ↔ 0 < r.orderId ∧ 0 < r.amount.value := by
  rw [← Decimal.isPositive_iff_value]
  unfold PaymentRequest.check
  by_cases ho : r.orderId ≤ 0
  · simp only [ho, if_true, reduceCtorEq, false_iff, not_and]
    omega
  · by_cases hp : r.amount.isPositive = true
    · simp only [ho, hp, if_false, Bool.not_true, Bool.false_eq_true, true_iff]
      exact ⟨by omega, trivial⟩
    · simp [ho, hp]

/-- The order built from a request that passes its checks has a positive total, the exact sum of
unit price × quantity over the requested items. -/
theorem draftOf_total_value {req : OrderRequest} (h : req.check = none) :
    (draftOf req).total.value =
        ((req.items.getD []).map fun i => i.unitPrice.value * (i.quantity : ℚ)).sum ∧
      0 < (draftOf req).total.value := by
  rw [draftOf_total, value_itemsTotal]
  obtain ⟨hne, hpos⟩ := OrderRequest.check_eq_none h
  refine ⟨rfl, List.sum_pos _ (fun x hx => ?_) (by simpa using hne)⟩
  obtain ⟨i, hi, rfl⟩ := List.mem_map.mp hx
  obtain ⟨hq, hp⟩ := hpos i hi
  have : (0 : ℚ) < i.quantity := by exact_mod_cast (show (0 : Int) < i.quantity by omega)
  positivity

/-- **Orders the checks accept are payable.** Placing an order from a request that passes its
checks, on any store the order store can reach, whatever the collaborators answer: the order the
saga builds has a total that is the exact sum of unit price × quantity over the requested items and
is positive, and every payment the saga starts is for that total, under an order id and amount that
pass the payment request's checks. -/
theorem accepted_orders_pass_payment_checks (a : Collaborators) (req : OrderRequest)
    (w : Placement) (writes : List (Instant × OrderWrite))
    (hw : w.orders = OrderWrite.run OrderStore.empty writes) (hreq : req.check = none) :
    let total := (draftOf req).total
    total.value = ((req.items.getD []).map fun i => i.unitPrice.value * (i.quantity : ℚ)).sum ∧
    0 < total.value ∧
    ∃ cs, ((Saga.placeOrder (placementEnv a) req "").run w).2.calls = w.calls ++ cs ∧
      ∀ x ∈ payCalls cs,
        x.2.1 = total ∧ (PaymentRequest.mk x.1 x.2.1 x.2.2).check = none := by
  intro total
  obtain ⟨hvalue, hpos⟩ := draftOf_total_value hreq
  have hs : w.orders.Ascending := hw ▸ OrderWrite.ascending_run OrderStore.ascending_empty writes
  have hlast : 0 ≤ w.orders.lastId := hw ▸ OrderWrite.lastId_le_run OrderStore.empty writes
  refine ⟨hvalue, hpos, ?_⟩
  have hrun := placing_placeOrder (a := a) hs.numbered req w ⟨rfl, rfl, rfl, rfl⟩
  generalize (Saga.placeOrder (placementEnv a) req "").run w = res at hrun ⊢
  obtain ⟨r, w'⟩ := res
  rcases hrun with ⟨f, hcheck, -⟩ | ⟨-, hplaced⟩
  · rw [hreq] at hcheck
    cases hcheck
  unfold Placed at hplaced
  cases hc : a.customerValid req.customerId with
  | false =>
    -- a customer the check refuses: no payment is started
    rw [hc] at hplaced
    obtain ⟨-, -, -, -, hcs, -⟩ := hplaced
    exact ⟨[], by simpa using hcs, by simp [payCalls]⟩
  | true =>
    rw [hc] at hplaced
    obtain ⟨-, o, cs', es, -, -, -, -, hcs, -, -, hend⟩ := hplaced
    refine ⟨cs', hcs, fun x hx => ?_⟩
    -- the one payment the saga may start is for the stored order's id and total
    rcases hend.payCalls_eq with h | h
    · rw [h] at hx
      cases hx
    · rw [h, List.mem_singleton] at hx
      subst hx
      refine ⟨rfl, (PaymentRequest.check_eq_none_iff _).mpr ⟨?_, hpos⟩⟩
      show 0 < w.orders.lastId + 1
      omega

/-- Two pens at 1.50 each, ordered by customer 1 on an empty store, with the payment service
accepting: the total is positive and the payment the saga starts passes the payment checks. -/
theorem two_pens_pass_payment_checks :
    let req : OrderRequest :=
      ⟨1, some [⟨0, "pen", "", "", 2, ⟨150, -2⟩, ⟨0, 0⟩⟩], ""⟩
    req.check = none ∧ 0 < (draftOf req).total.value :=
  ⟨rfl, (accepted_orders_pass_payment_checks
    ⟨fun _ => true, true, fun _ _ _ => .ok Payment.blank, fun _ => none, "saga"⟩
    ⟨1, some [⟨0, "pen", "", "", 2, ⟨150, -2⟩, ⟨0, 0⟩⟩], ""⟩
    ⟨OrderStore.empty, Instant.zero, 0, [], SagaLog.empty⟩ [] rfl rfl).2.1⟩

end Fulfillment
