import Fulfillment.Proofs.Payments.Store

/-!
# What the store listings return

Both stores keep their records in increasing id order (`IdsAscending`): a create appends the
record under the next id, above every stored one (`IdsAscending.append_next`), and an update
replaces a record by one of the same id (`IdsAscending.replace`). So every state the stores reach
from empty keeps that order (`StoreCall.ascending_run`, `OrderWrite.ascending_run`).

From it the listings follow. A listing by filter is the stored records the filter accepts, newest
id first, where an unset field of the filter accepts everything. The eligible payments are the
pending ones created at or before the cut-off, sorted by creation time and then by id; since ids
are distinct that order is strict, so the sort has one possible outcome, and a positive limit
keeps its first entries (`store_listings`).
-/

namespace Fulfillment

/-- A write to the order store: a new order, or a change of a stored one. -/
inductive OrderWrite where
  | create (o : Order)
  | update (o : Order)

namespace OrderWrite

/-- The store a write at `now` leaves: the one it wrote, or the one it had when it was refused. -/
def apply (s : OrderStore) (now : Instant) : OrderWrite → OrderStore
  | create o => (s.create o now).2
  | update o =>
    match s.update o now with
    | .ok (_, t) => t
    | .error _ => s

/-- The store after timed writes, one after the other. -/
def run (s : OrderStore) (writes : List (Instant × OrderWrite)) : OrderStore :=
  writes.foldl (fun s w => w.2.apply s w.1) s

end OrderWrite

/-- A payment is settled before another: created earlier, or at the same time with a lower id. -/
def SettlesFirst (a b : Payment) : Prop :=
  a.createdAt.ns < b.createdAt.ns ∨ (a.createdAt.ns = b.createdAt.ns ∧ a.id < b.id)

/-! ## Ids in increasing order -/

/-- Records kept by strictly increasing id, none above the last id handed out. -/
structure IdsAscending {α : Type} (id : α → Int) (xs : List α) (last : Int) : Prop where
  ids : xs.Pairwise fun a b => id a < id b
  bounded : ∀ x ∈ xs, id x ≤ last

namespace IdsAscending

variable {α : Type} {id : α → Int} {xs : List α} {last : Int}

/-- A record under the next id goes after every other. -/
theorem append_next (h : IdsAscending id xs last) {x : α} (hx : id x = last + 1) :
    IdsAscending id (xs ++ [x]) (last + 1) := by
  have hlt : ∀ y ∈ xs, id y < id x := fun y hy => by
    have := h.bounded y hy
    omega
  refine ⟨?_, fun y hy => ?_⟩
  · rw [List.pairwise_append]
    exact ⟨h.ids, List.pairwise_singleton _ _, fun y hy z hz => by
      rw [List.mem_singleton.mp hz]
      exact hlt y hy⟩
  · rcases List.mem_append.mp hy with hy | hy
    · have := h.bounded y hy
      omega
    · rw [List.mem_singleton.mp hy]
      omega

/-- Replacing the records under one id by a record of that id keeps every id in its place. -/
theorem replace (h : IdsAscending id xs last) {k : Int} {y : α} (hy : id y = k) :
    IdsAscending id (xs.map fun x => if id x == k then y else x) last := by
  have hid : ∀ x, id (if id x == k then y else x) = id x := fun x => by
    by_cases hx : id x = k <;> simp [hx, hy]
  refine ⟨?_, fun x hx => ?_⟩
  · rw [List.pairwise_map]
    exact h.ids.imp fun {a b} hab => by rw [hid a, hid b]; exact hab
  · obtain ⟨z, hz, rfl⟩ := List.mem_map.mp hx
    rw [hid z]
    exact h.bounded z hz

end IdsAscending

namespace PaymentStore

variable {s t : PaymentStore} {p q : Payment} {now : Instant}

/-- Payments are stored by strictly increasing id, none above the last id handed out. -/
def Ascending (s : PaymentStore) : Prop := IdsAscending Payment.id s.payments s.lastId

theorem ascending_empty : empty.Ascending := ⟨List.Pairwise.nil, by simp [empty]⟩

theorem Ascending.create (hs : s.Ascending) (h : s.create p now = .ok (q, t)) : t.Ascending := by
  obtain ⟨ht, hq, hl, -, -, -⟩ := create_payments h
  unfold Ascending
  rw [ht, hl]
  exact IdsAscending.append_next hs hq

theorem Ascending.update (hs : s.Ascending) (h : s.update p now = .ok (q, t)) : t.Ascending := by
  obtain ⟨ht, hq, -, hl, -⟩ := update_payments h
  unfold Ascending
  rw [ht, hl]
  exact IdsAscending.replace hs hq

end PaymentStore

namespace OrderStore

variable {s t : OrderStore} {o q : Order} {now : Instant}

/-- Orders are stored by strictly increasing id, none above the last id handed out. -/
def Ascending (s : OrderStore) : Prop := IdsAscending Order.id s.orders s.lastId

theorem ascending_empty : empty.Ascending := ⟨List.Pairwise.nil, by simp [empty]⟩

theorem Ascending.create (hs : s.Ascending) (o : Order) (now : Instant) :
    (s.create o now).2.Ascending :=
  IdsAscending.append_next hs rfl

theorem Ascending.update (hs : s.Ascending) (h : s.update o now = .ok (q, t)) : t.Ascending := by
  obtain ⟨cur, -, -, hq, rfl⟩ := OrderStore.update_eq_ok h
  exact IdsAscending.replace hs (by rw [hq])

theorem Ascending.numbered (hs : s.Ascending) : s.Numbered := hs.bounded

end OrderStore

namespace StoreCall

theorem ascending_run {s : PaymentStore} (hs : s.Ascending) (calls : List (Instant × StoreCall)) :
    (run s calls).Ascending :=
  run_of (P := PaymentStore.Ascending)
    (fun call h => apply_of PaymentStore.Ascending.create PaymentStore.Ascending.update h call)
    hs calls

end StoreCall

namespace OrderWrite

/-- A property of stores that every create keeps, and every update that goes through, is kept by
every write. -/
theorem apply_of {P : OrderStore → Prop} (hc : ∀ {s} (o : Order) (now : Instant), P s →
    P (s.create o now).2) (hu : ∀ {s t o q now}, P s → s.update o now = .ok (q, t) → P t)
    {s : OrderStore} {now : Instant} (hs : P s) (w : OrderWrite) : P (w.apply s now) := by
  cases w with
  | create o => exact hc o now hs
  | update o =>
    simp only [apply]
    split
    · next q t h => exact hu hs h
    · exact hs

/-- A property of stores that every write keeps holds after every run. -/
theorem run_of {P : OrderStore → Prop} (hstep : ∀ {s now} (w : OrderWrite), P s →
    P (w.apply s now)) {s : OrderStore} (hs : P s) (writes : List (Instant × OrderWrite)) :
    P (run s writes) := by
  induction writes generalizing s with
  | nil => exact hs
  | cons w writes ih => exact ih (hstep w.2 hs)

theorem ascending_run {s : OrderStore} (hs : s.Ascending) (writes : List (Instant × OrderWrite)) :
    (run s writes).Ascending :=
  run_of (P := OrderStore.Ascending)
    (fun w h => apply_of (fun o now h => h.create o now) OrderStore.Ascending.update h w) hs writes

/-- The last id handed out never goes down. -/
theorem lastId_le_run (s : OrderStore) (writes : List (Instant × OrderWrite)) :
    s.lastId ≤ (run s writes).lastId := by
  refine run_of (P := fun t => s.lastId ≤ t.lastId)
    (fun w h => apply_of (P := fun t => s.lastId ≤ t.lastId) ?_ ?_ h w) (Int.le_refl _) writes
  · intro t o now h
    simp only [OrderStore.create]
    omega
  · intro t t' o q now h hu
    obtain ⟨cur, -, -, -, rfl⟩ := OrderStore.update_eq_ok hu
    exact h

end OrderWrite

/-! ## The listings -/

section Listing

/-- A listing by filter is the accepted records, newest first, when ids increase along the
store. -/
theorem listing_newest_first {α : Type} (id : α → Int) {xs : List α} (accept : α → Bool)
    (hxs : xs.Pairwise fun a b => id a < id b) :
    (xs.filter accept).reverse.Pairwise fun a b => id b < id a :=
  List.pairwise_reverse.mpr (hxs.sublist List.filter_sublist)

theorem Payment.fits_iff (p : Payment) (status : Option PaymentStatus) :
    p.fits status = true ↔ status = none ∨ status = some p.status := by
  cases status with
  | none => simp [Payment.fits]
  | some st =>
    simp only [Payment.fits, beq_iff_eq, Option.some.injEq, reduceCtorEq, false_or]
    exact eq_comm

theorem Order.fits_iff (o : Order) (customerId : Int) (status : Option OrderStatus) :
    o.fits customerId status = true ↔
      (customerId = 0 ∨ o.customerId = customerId) ∧
        (status = none ∨ status = some o.status) := by
  cases status with
  | none => simp [Order.fits]
  | some st =>
    simp only [Order.fits, Bool.and_eq_true, Bool.or_eq_true, beq_iff_eq, Option.some.injEq,
      reduceCtorEq, false_or]
    rw [@eq_comm _ st]

/-- The order used to settle payments is a total preorder. -/
theorem settlesBefore_trans (a b c : Payment) (hab : PaymentStore.settlesBefore a b = true)
    (hbc : PaymentStore.settlesBefore b c = true) : PaymentStore.settlesBefore a c = true := by
  simp only [PaymentStore.settlesBefore, Bool.or_eq_true, decide_eq_true_eq, Bool.and_eq_true,
    beq_iff_eq] at hab hbc ⊢
  omega

theorem settlesBefore_total (a b : Payment) :
    (PaymentStore.settlesBefore a b || PaymentStore.settlesBefore b a) = true := by
  simp only [PaymentStore.settlesBefore, Bool.or_eq_true, decide_eq_true_eq, Bool.and_eq_true,
    beq_iff_eq]
  omega

/-- Between payments of different ids the settling order is strict. -/
theorem settlesFirst_of_settlesBefore {a b : Payment} (h : PaymentStore.settlesBefore a b = true)
    (hne : a.id ≠ b.id) : SettlesFirst a b := by
  simp only [PaymentStore.settlesBefore, Bool.or_eq_true, decide_eq_true_eq, Bool.and_eq_true,
    beq_iff_eq] at h
  unfold SettlesFirst
  omega

variable {s : PaymentStore}

/-- The payments due by `before`, sorted for settling: a permutation of the stored pending
payments created by then, in strictly increasing settling order. -/
theorem PaymentStore.Ascending.due_sorted (hs : s.Ascending) (before : Instant) :
    let due := (s.payments.filter fun p => p.status == .pending && p.createdAt.ns ≤ before.ns)
      |>.mergeSort PaymentStore.settlesBefore
    due.Perm (s.payments.filter fun p => p.status = .pending ∧ p.createdAt.ns ≤ before.ns) ∧
      due.Pairwise SettlesFirst := by
  intro due
  have hfilter : (s.payments.filter fun p => p.status == .pending && p.createdAt.ns ≤ before.ns) =
      s.payments.filter fun p => p.status = .pending ∧ p.createdAt.ns ≤ before.ns :=
    List.filter_congr fun p _ => by rw [Bool.eq_iff_iff]; simp
  have hperm : due.Perm (s.payments.filter fun p => p.status = .pending ∧
      p.createdAt.ns ≤ before.ns) := hfilter ▸ List.mergeSort_perm _ _
  -- distinct ids survive the filter and the sort
  have hne : due.Pairwise fun a b => a.id ≠ b.id := by
    have hstored : s.payments.Pairwise fun a b => a.id ≠ b.id := hs.ids.imp Int.ne_of_lt
    refine (hperm.pairwise_iff fun {a b} h => Ne.symm h).mpr ?_
    exact hstored.sublist List.filter_sublist
  have hle : due.Pairwise fun a b => PaymentStore.settlesBefore a b = true :=
    @List.pairwise_mergeSort _ PaymentStore.settlesBefore settlesBefore_trans settlesBefore_total _
  exact ⟨hperm, (hle.and hne).imp fun h => settlesFirst_of_settlesBefore h.1 h.2⟩

end Listing

/-- **The store listings**, in every state the stores reach from empty:
* the eligible payments are the stored pending payments created at or before the cut-off, each
  once, in strictly increasing order of creation time and then id, cut to the first `limit` when
  `limit` is positive and all of them otherwise;
* a payment listing by stage returns each stored payment in that stage (any stage when none is
  given) once, in strictly decreasing id order;
* an order listing by customer and stage returns each stored order of that customer (any when the
  customer is 0) in that stage (any when none is given) once, in strictly decreasing id order. -/
theorem store_listings (calls : List (Instant × StoreCall))
    (writes : List (Instant × OrderWrite)) :
    let s := StoreCall.run PaymentStore.empty calls
    let t := OrderWrite.run OrderStore.empty writes
    (∀ before limit, ∃ due : List Payment,
      due.Perm (s.payments.filter fun p => p.status = .pending ∧ p.createdAt.ns ≤ before.ns) ∧
      due.Pairwise SettlesFirst ∧
      s.eligible before limit = if 0 < limit then due.take limit.toNat else due) ∧
    (∀ status,
      (s.list status).Perm (s.payments.filter fun p => status = none ∨ status = some p.status) ∧
      (s.list status).Pairwise fun a b => b.id < a.id) ∧
    (∀ customerId status,
      (t.list customerId status).Perm (t.orders.filter fun o =>
        (customerId = 0 ∨ o.customerId = customerId) ∧
          (status = none ∨ status = some o.status)) ∧
      (t.list customerId status).Pairwise fun a b => b.id < a.id) := by
  intro s t
  have hs : s.Ascending := StoreCall.ascending_run PaymentStore.ascending_empty calls
  have ht : t.Ascending := OrderWrite.ascending_run OrderStore.ascending_empty writes
  refine ⟨fun before limit => ?_, fun status => ⟨?_, ?_⟩,
    fun customerId status => ⟨?_, ?_⟩⟩
  · obtain ⟨hperm, hsorted⟩ := hs.due_sorted before
    exact ⟨_, hperm, hsorted, rfl⟩
  · refine (List.reverse_perm _).trans (List.Perm.of_eq (List.filter_congr fun p _ => ?_))
    rw [Bool.eq_iff_iff, Payment.fits_iff]
    simp
  · exact listing_newest_first Payment.id _ hs.ids
  · refine (List.reverse_perm _).trans (List.Perm.of_eq (List.filter_congr fun o _ => ?_))
    rw [Bool.eq_iff_iff, Order.fits_iff]
    simp
  · exact listing_newest_first Order.id _ ht.ids

/-- Three payments, created at 5, 3 and 3 ns: at cut-off 4 ns with limit 1, the listing keeps the
one of lower id among the two created at 3 ns. -/
example : ((StoreCall.run PaymentStore.empty
    [(⟨5⟩, .create (Payment.create 1 Decimal.zero "")),
     (⟨3⟩, .create (Payment.create 2 Decimal.zero "")),
     (⟨3⟩, .create (Payment.create 3 Decimal.zero ""))]).eligible ⟨4⟩ 1).map (·.orderId) =
    [2] := by cbv

end Fulfillment
