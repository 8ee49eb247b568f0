import Fulfillment.Proofs.Shared.World

/-!
# Store histories

Both stores hand out ids from a counter and bump a record's version on every write, and a write
goes through only when the writer holds the stored version. `Kept` is what that gives a store
together with its log of writes: every id ever logged was handed out, every stored record is the
last one logged under its id, each write replaced the last record logged under its id (none for
the first), and a logged record of an id has at most the stored version of that id, and the same
version only if it is the stored record. So a copy of a record that was stored at some time
(`OrderStored`) and carries the stored version is the stored record: the fact that makes a
versioned write of such a copy never lose another writer's change.

`Kept` holds of the empty stores and is kept by every operation of every thread
(`ordersKept_apply`, `paymentsKept_apply`), so it is stable under any interference.
-/

namespace Fulfillment

/-- The record last written under key `k` in a log, if any. -/
def lastOf {α : Type} (id : α → Int) (k : Int) (log : List (Entry α)) : Option α :=
  (log.filter fun e => id e.after == k).getLast?.map (·.after)

/-- Every write in a log replaced the record last written under its key before it. -/
def Chained {α : Type} (id : α → Int) (log : List (Entry α)) : Prop :=
  ∀ L e L', log = L ++ e :: L' → e.before = lastOf id (id e.after) L

section Chain

variable {α : Type} {id : α → Int} {log : List (Entry α)}

theorem lastOf_snoc (k : Int) (e : Entry α) :
    lastOf id k (log ++ [e]) = if id e.after = k then some e.after else lastOf id k log := by
  by_cases h : id e.after = k <;> simp [lastOf, h, List.filter_append]

theorem lastOf_eq_none {k : Int} (h : ∀ e ∈ log, id e.after ≠ k) : lastOf id k log = none := by
  have hnil : log.filter (fun e => id e.after == k) = [] :=
    List.filter_eq_nil_iff.mpr fun e he => by simpa using h e he
  simp [lastOf, hnil]

theorem chained_nil : Chained id ([] : List (Entry α)) := by
  intro L e L' h
  simp at h

/-- A write appended to a chained log keeps it chained when it replaced the last record of its
key. -/
theorem Chained.snoc (h : Chained id log) {x : Entry α}
    (hx : x.before = lastOf id (id x.after) log) : Chained id (log ++ [x]) := by
  intro L e L' heq
  rcases List.eq_nil_or_concat L' with rfl | ⟨L'', y, rfl⟩
  · obtain ⟨rfl, he⟩ := List.append_inj' heq rfl
    cases he
    exact hx
  · rw [List.concat_eq_append, ← List.cons_append, ← List.append_assoc] at heq
    exact h L e L'' (List.append_inj_left' heq rfl)

end Chain

/-- A store of records with ids and versions agrees with its log of writes. -/
structure Kept {α : Type} (id version : α → Int) (log : List (Entry α)) (rs : List α)
    (lastId : Int) : Prop where
  ids_le : ∀ e ∈ log, id e.after ≤ lastId
  logged : ∀ r ∈ rs, ∃ e ∈ log, e.after = r
  latest : ∀ e ∈ log, ∀ r ∈ rs, id e.after = id r →
    version e.after ≤ version r ∧ (version e.after = version r → e.after = r)
  last : ∀ r ∈ rs, lastOf id (id r) log = some r
  chained : Chained id log

namespace Kept

variable {α : Type} {id version : α → Int} {log : List (Entry α)} {rs : List α} {lastId : Int}

theorem nil : Kept id version [] [] 0 := ⟨by simp, by simp, by simp, by simp, chained_nil⟩

/-- A new record under the next id. -/
theorem create (h : Kept id version log rs lastId) (who : Nat) {n : α} (hn : id n = lastId + 1) :
    Kept id version (log ++ [⟨who, none, n⟩]) (rs ++ [n]) (lastId + 1) := by
  have hrs : ∀ r ∈ rs, id r ≤ lastId := fun r hr => by
    obtain ⟨e, he, rfl⟩ := h.logged r hr
    exact h.ids_le e he
  refine ⟨fun e he => ?_, fun r hr => ?_, fun e he r hr hid => ?_, fun r hr => ?_,
    h.chained.snoc (lastOf_eq_none fun e he => ?_).symm⟩
  · rcases List.mem_append.mp he with he | he
    · have := h.ids_le e he; omega
    · rw [List.mem_singleton.mp he]; show id n ≤ lastId + 1; omega
  · rcases List.mem_append.mp hr with hr | hr
    · obtain ⟨e, he, rfl⟩ := h.logged r hr
      exact ⟨e, List.mem_append_left _ he, rfl⟩
    · exact ⟨_, List.mem_append_right _ (List.mem_singleton_self _), (List.mem_singleton.mp hr).symm⟩
  · rcases List.mem_append.mp he with he | he <;> rcases List.mem_append.mp hr with hr | hr
    · exact h.latest e he r hr hid
    · have := h.ids_le e he; rw [List.mem_singleton.mp hr] at hid; exfalso; omega
    · have := hrs r hr; rw [List.mem_singleton.mp he] at hid; exfalso; exact absurd hid (by
        show ¬ id n = id r; omega)
    · rw [List.mem_singleton.mp he, List.mem_singleton.mp hr]; exact ⟨Int.le_refl _, fun _ => rfl⟩
  · rw [lastOf_snoc]
    rcases List.mem_append.mp hr with hr | hr
    · have : id n ≠ id r := by have := hrs r hr; omega
      rw [if_neg this]; exact h.last r hr
    · rw [List.mem_singleton.mp hr, if_pos rfl]
  · have := h.ids_le e he; show id e.after ≠ id n; omega

/-- The stored record `cur` of key `k` replaced by `new`, one version up. -/
theorem replace (h : Kept id version log rs lastId) (who : Nat) {cur new : α} {k : Int}
    (hcur : cur ∈ rs) (hk : id cur = k) (hid : id new = k) (hv : version new = version cur + 1) :
    Kept id version (log ++ [⟨who, some cur, new⟩]) (rs.map fun x => if id x == k then new else x)
      lastId := by
  refine ⟨fun e he => ?_, fun r hr => ?_, fun e he r hr hr' => ?_, fun r hr => ?_,
    h.chained.snoc ?_⟩
  · rcases List.mem_append.mp he with he | he
    · exact h.ids_le e he
    · obtain ⟨e', he', hcur'⟩ := h.logged cur hcur
      have := h.ids_le e' he'
      rw [List.mem_singleton.mp he]; simp only; rw [hid, ← hk, ← hcur']; exact this
  · obtain ⟨x, hx, rfl⟩ := List.mem_map.mp hr
    by_cases hxk : id x = k
    · exact ⟨_, List.mem_append_right _ (List.mem_singleton_self _), by simp [hxk]⟩
    · obtain ⟨e, he, rfl⟩ := h.logged x hx
      exact ⟨e, List.mem_append_left _ he, by simp [hxk]⟩
  · obtain ⟨x, hx, rfl⟩ := List.mem_map.mp hr
    by_cases hxk : id x = k
    · simp only [hxk, beq_self_eq_true, if_true] at hr' ⊢
      rcases List.mem_append.mp he with he | he
      · have := (h.latest e he cur hcur (by rw [hr', hid, hk])).1
        omega
      · rw [List.mem_singleton.mp he]; exact ⟨Int.le_refl _, fun _ => rfl⟩
    · have hne : (id x == k) = false := by simpa using hxk
      simp only [hne] at hr' ⊢
      rcases List.mem_append.mp he with he | he
      · exact h.latest e he x hx hr'
      · rw [List.mem_singleton.mp he] at hr'; exact absurd (hr'.symm.trans hid) hxk
  · obtain ⟨x, hx, rfl⟩ := List.mem_map.mp hr
    by_cases hxk : id x = k
    · simp only [hxk, beq_self_eq_true, if_true, lastOf_snoc, hid]
    · have hne : (id x == k) = false := by simpa using hxk
      simp only [hne, Bool.false_eq_true, if_false, lastOf_snoc, hid]
      rw [if_neg (Ne.symm hxk)]
      exact h.last x hx
  · show some cur = lastOf id (id new) log
    rw [hid, ← hk, h.last cur hcur]

/-- A logged record with the stored version of its id is the stored record. -/
theorem eq_of_version (h : Kept id version log rs lastId) {e : Entry α} {r : α} (he : e ∈ log)
    (hr : r ∈ rs) (hid : id e.after = id r) (hv : version e.after = version r) : e.after = r :=
  (h.latest e he r hr hid).2 hv

/-- Two stored records of one id are the same record. -/
theorem unique (h : Kept id version log rs lastId) {r r' : α} (hr : r ∈ rs) (hr' : r' ∈ rs)
    (hid : id r = id r') : r = r' := by
  obtain ⟨e, he, rfl⟩ := h.logged r hr
  obtain ⟨e', he', rfl⟩ := h.logged r' hr'
  have h1 := h.latest e he e'.after hr' hid
  have h2 := h.latest e' he' e.after hr hid.symm
  exact h1.2 (by omega)

end Kept

/-! ## The stores' writes -/

theorem OrderStore.update_eq_ok {s : OrderStore} {o : Order} {now : Instant} {stored : Order}
    {st : OrderStore} (h : s.update o now = .ok (stored, st)) :
    ∃ cur, s.orders.find? (·.id == o.id) = some cur ∧ cur.version = o.version ∧
      stored = { o with version := o.version + 1, updatedAt := now, createdAt := cur.createdAt } ∧
      st = { s with orders := s.orders.map fun x => if x.id == o.id then stored else x } := by
  unfold OrderStore.update at h
  split at h
  · cases h
  · next cur hcur =>
    split at h
    · cases h
    · next hv =>
      cases h
      exact ⟨cur, hcur, by simpa using hv, rfl, rfl⟩

theorem PaymentStore.update_eq_ok {s : PaymentStore} {p : Payment} {now : Instant}
    {stored : Payment} {st : PaymentStore} (h : s.update p now = .ok (stored, st)) :
    ∃ cur, s.payments.find? (·.id == p.id) = some cur ∧ cur.version = p.version ∧
      stored = { p with version := p.version + 1, updatedAt := now, createdAt := cur.createdAt } ∧
      st = { s with payments := s.payments.map fun x => if x.id == p.id then stored else x } := by
  unfold PaymentStore.update at h
  split at h
  · cases h
  · next cur hcur =>
    split at h
    · cases h
    · next hv =>
      cases h
      exact ⟨cur, hcur, by simpa using hv, rfl, rfl⟩

theorem PaymentStore.create_eq_ok {s : PaymentStore} {p : Payment} {now : Instant}
    {stored : Payment} {st : PaymentStore} (h : s.create p now = .ok (stored, st)) :
    s.byOrder.lookup p.orderId = none ∧
      stored = { p with id := s.lastId + 1, version := 1, createdAt := now, updatedAt := now } ∧
      st = ⟨s.payments ++ [stored], s.lastId + 1, s.byOrder ++ [(p.orderId, s.lastId + 1)]⟩ := by
  unfold PaymentStore.create at h
  split at h
  · cases h
  · next hnone =>
    cases h
    exact ⟨Option.not_isSome_iff_eq_none.mp hnone, rfl, rfl⟩

namespace PaymentStore

variable {s t : PaymentStore} {p q : Payment} {now : Instant}

theorem find_eq_ok_iff {k : Int} : s.find k = .ok p ↔ s.payments.find? (·.id == k) = some p := by
  unfold find
  split
  next c h => simp [h]
  next h => simp [h]

/-- The lookup by order finds the stored payment under the id the index has for the order. -/
theorem findByOrder_eq_ok {k : Int} (h : s.findByOrder k = .ok p) :
    ∃ id, s.byOrder.lookup k = some id ∧ p ∈ s.payments ∧ p.id = id := by
  unfold findByOrder at h
  split at h
  · next id hid =>
    have hf := find_eq_ok_iff.mp h
    exact ⟨id, hid, List.mem_of_find?_eq_some hf, by simpa using List.find?_some hf⟩
  · cases h

/-- The index by order agrees with the payments: it holds each stored payment's order with its
id, in store order. It does while every update keeps the order of the payment it replaces. -/
def Indexed (s : PaymentStore) : Prop := s.byOrder = s.payments.map fun p => (p.orderId, p.id)

theorem lookup_orders (ps : List Payment) (o : Int) :
    (ps.map fun p => (p.orderId, p.id)).lookup o = (ps.find? (·.orderId == o)).map (·.id) := by
  induction ps with
  | nil => rfl
  | cons p ps ih =>
    by_cases h : p.orderId = o
    · simp [h]
    · have hne : (o == p.orderId) = false := beq_false_of_ne (Ne.symm h)
      simp [List.lookup_cons, hne, h, ih]

/-- With the index in agreement, it has an order exactly when a payment of that order is
stored. -/
theorem Indexed.lookup_isSome (hi : s.Indexed) (o : Int) :
    (s.byOrder.lookup o).isSome = s.payments.any (·.orderId == o) := by
  rw [hi, lookup_orders, Option.isSome_map]
  exact Bool.eq_iff_iff.mpr (by simp [List.find?_isSome, List.any_eq_true])

/-- A view of the payments that agrees between each payment under a replaced id and the one
that replaces it is kept by the replacement. -/
theorem map_replace {β : Type} (view : Payment → β) (ps : List Payment) {k : Int} {n : Payment}
    (hv : ∀ x ∈ ps, x.id = k → view n = view x) :
    (ps.map fun x => if x.id == k then n else x).map view = ps.map view := by
  rw [List.map_map]
  refine List.map_congr_left fun x hx => ?_
  by_cases hx' : x.id = k
  · simp [hx', hv x hx hx']
  · simp [hx']

theorem Indexed.create (hi : s.Indexed) (h : s.create p now = .ok (q, t)) : t.Indexed := by
  obtain ⟨-, rfl, rfl⟩ := create_eq_ok h
  simp only [Indexed, List.map_append, List.map_cons, List.map_nil]
  rw [hi]

/-- Replacing the payments of an id by one of the same id and order keeps the index in
agreement. -/
theorem Indexed.replace (hi : s.Indexed) {k : Int} {n : Payment}
    (hn : ∀ x ∈ s.payments, x.id = k → n.orderId = x.orderId ∧ n.id = x.id) :
    ({ s with payments := s.payments.map fun x => if x.id == k then n else x } :
      PaymentStore).Indexed := by
  unfold Indexed
  dsimp only
  rw [map_replace (fun p => (p.orderId, p.id)) s.payments fun x hx hk => by
    rw [(hn x hx hk).1, (hn x hx hk).2]]
  exact hi

end PaymentStore

namespace World

variable {w w' : World} {who : Nat}

/-- A write to the order store either is refused and changes nothing, or replaces the stored
record of the writer's id, which has the writer's version, and logs it. -/
theorem updateOrder_cases (w : World) (who : Nat) (o : Order) :
    (∃ f, w.updateOrder who o = (.error f, w)) ∨
    ∃ cur stored, w.orders.orders.find? (·.id == o.id) = some cur ∧ cur.version = o.version ∧
      stored = { o with version := o.version + 1, updatedAt := w.clock,
                        createdAt := cur.createdAt } ∧
      w.updateOrder who o = (.ok stored, { w with
        orders := { w.orders with orders := w.orders.orders.map fun x =>
          if x.id == o.id then stored else x }
        orderLog := w.orderLog ++ [⟨who, some cur, stored⟩] }) := by
  unfold updateOrder
  split
  · next stored st hu =>
    obtain ⟨cur, hcur, hv, rfl, rfl⟩ := OrderStore.update_eq_ok hu
    refine .inr ⟨cur, _, hcur, hv, rfl, ?_⟩
    simp [OrderStore.find, hcur, Except.toOption]
  · next f _ => exact .inl ⟨f, rfl⟩

/-- A write to the payment store either is refused and changes nothing, or replaces the stored
record of the writer's id, which has the writer's version, and logs it. -/
theorem updatePayment_cases (w : World) (who : Nat) (p : Payment) :
    (∃ f, w.updatePayment who p = (.error f, w)) ∨
    ∃ cur stored, w.payments.payments.find? (·.id == p.id) = some cur ∧ cur.version = p.version ∧
      stored = { p with version := p.version + 1, updatedAt := w.clock,
                        createdAt := cur.createdAt } ∧
      w.updatePayment who p = (.ok stored, { w with
        payments := { w.payments with payments := w.payments.payments.map fun x =>
          if x.id == p.id then stored else x }
        paymentLog := w.paymentLog ++ [⟨who, some cur, stored⟩] }) := by
  unfold updatePayment
  split
  · next stored st hu =>
    obtain ⟨cur, hcur, hv, rfl, rfl⟩ := PaymentStore.update_eq_ok hu
    refine .inr ⟨cur, _, hcur, hv, rfl, ?_⟩
    simp [PaymentStore.find, hcur, Except.toOption]
  · next f _ => exact .inl ⟨f, rfl⟩

/-- A new payment either is refused and changes nothing, or is stored under the next id and
logged. -/
theorem createPayment_cases (w : World) (who : Nat) (p : Payment) :
    (∃ f, w.createPayment who p = (.error f, w)) ∨
    ∃ stored, w.payments.byOrder.lookup p.orderId = none ∧
      stored = { p with id := w.payments.lastId + 1, version := 1, createdAt := w.clock,
                        updatedAt := w.clock } ∧
      w.createPayment who p = (.ok stored, { w with
        payments := ⟨w.payments.payments ++ [stored], w.payments.lastId + 1,
          w.payments.byOrder ++ [(p.orderId, w.payments.lastId + 1)]⟩
        paymentLog := w.paymentLog ++ [⟨who, none, stored⟩] }) := by
  unfold createPayment
  split
  · next stored st hc =>
    obtain ⟨hnone, rfl, rfl⟩ := PaymentStore.create_eq_ok hc
    exact .inr ⟨_, hnone, rfl, rfl⟩
  · next f _ => exact .inl ⟨f, rfl⟩

end World

/-! ## Both stores agree with their logs -/

/-- The order store agrees with the order log. -/
def OrdersKept (w : World) : Prop :=
  Kept Order.id Order.version w.orderLog w.orders.orders w.orders.lastId

/-- The payment store agrees with the payment log. -/
def PaymentsKept (w : World) : Prop :=
  Kept Payment.id Payment.version w.paymentLog w.payments.payments w.payments.lastId

namespace World

/-- The order was stored at some time. -/
def OrderStored (w : World) (o : Order) : Prop := ∃ e ∈ w.orderLog, e.after = o

/-- The payment was stored at some time. -/
def PaymentStored (w : World) (p : Payment) : Prop := ∃ e ∈ w.paymentLog, e.after = p

end World

variable {w w' : World} {i j : Nat}

theorem ordersKept_start (now : Instant) : OrdersKept (World.start now) := Kept.nil

theorem paymentsKept_start (now : Instant) : PaymentsKept (World.start now) := Kept.nil

theorem ordersKept_apply (h : OrdersKept w) (op : Op) : OrdersKept (w.apply j op) := by
  cases op with
  | createOrder o => exact h.create j rfl
  | updateOrder o =>
    rcases World.updateOrder_cases w j o with ⟨f, hf⟩ | ⟨cur, stored, hcur, hv, rfl, hu⟩
    · simpa [World.apply, hf] using h
    · simp only [World.apply, hu]
      exact h.replace j (List.mem_of_find?_eq_some hcur) (by simpa using List.find?_some hcur)
        rfl (by simp [hv])
  | createPayment p =>
    simp only [World.apply, World.createPayment]
    split <;> exact h
  | updatePayment p =>
    simp only [World.apply, World.updatePayment]
    split <;> exact h
  | notify n => exact h

theorem paymentsKept_apply (h : PaymentsKept w) (op : Op) : PaymentsKept (w.apply j op) := by
  cases op with
  | createOrder o => exact h
  | updateOrder o =>
    simp only [World.apply, World.updateOrder]
    split <;> exact h
  | createPayment p =>
    rcases World.createPayment_cases w j p with ⟨f, hf⟩ | ⟨stored, -, rfl, hc⟩
    · simpa [World.apply, hf] using h
    · simp only [World.apply, hc]
      exact h.create j rfl
  | updatePayment p =>
    rcases World.updatePayment_cases w j p with ⟨f, hf⟩ | ⟨cur, stored, hcur, hv, rfl, hu⟩
    · simpa [World.apply, hf] using h
    · simp only [World.apply, hu]
      exact h.replace j (List.mem_of_find?_eq_some hcur) (by simpa using List.find?_some hcur)
        rfl (by simp [hv])
  | notify n => exact h

/-- Under a step of the environment the stores and logs are as they were. -/
theorem Env.stores {w w' : World} (h : Env w w') : w'.orders = w.orders ∧
    w'.payments = w.payments ∧ w'.orderLog = w.orderLog ∧ w'.paymentLog = w.paymentLog ∧
    w'.notices = w.notices := by
  rw [h]; exact ⟨rfl, rfl, rfl, rfl, rfl⟩

theorem stable_ordersKept : Prog.Stable (Others i) OrdersKept := by
  rintro w w' (he | ⟨j, -, rfl | ⟨op, -, rfl⟩⟩) h
  · obtain ⟨h1, -, h3, -⟩ := Env.stores he
    unfold OrdersKept; rw [h1, h3]; exact h
  · exact h
  · exact ordersKept_apply h op

theorem stable_paymentsKept : Prog.Stable (Others i) PaymentsKept := by
  rintro w w' (he | ⟨j, -, rfl | ⟨op, -, rfl⟩⟩) h
  · obtain ⟨-, h2, -, h4, -⟩ := Env.stores he
    unfold PaymentsKept; rw [h2, h4]; exact h
  · exact h
  · exact paymentsKept_apply h op

theorem stable_orderStored (o : Order) : Prog.Stable (Others i) fun w => w.OrderStored o := by
  rintro w w' h ⟨e, he, rfl⟩
  obtain ⟨L, hL, -⟩ := (World.others_logs h).1
  exact ⟨e, hL ▸ List.mem_append_left _ he, rfl⟩

theorem stable_paymentStored (p : Payment) : Prog.Stable (Others i) fun w => w.PaymentStored p := by
  rintro w w' h ⟨e, he, rfl⟩
  obtain ⟨L, hL, -⟩ := (World.others_logs h).2.1
  exact ⟨e, hL ▸ List.mem_append_left _ he, rfl⟩

/-- A payment once stored stays on record whatever a thread does itself, too. -/
theorem does_paymentStored {ok : World → Op → Prop} (p : Payment) :
    Prog.Stable (Does i ok) fun w => w.PaymentStored p := by
  rintro w w' (rfl | ⟨op, -, rfl⟩) ⟨e, he, rfl⟩
  · exact ⟨e, he, rfl⟩
  · obtain ⟨L, hL, -⟩ := (World.apply_logs w i op).2.1
    exact ⟨e, hL ▸ List.mem_append_left _ he, rfl⟩

theorem stable_ordersBy (L : List (Entry Order)) :
    Prog.Stable (Others i) fun w => w.ordersBy i = L :=
  fun _ _ h hL => (World.others_ordersBy h).trans hL

/-- A copy of an order that was stored at some time and has the version now stored under its
id is the order now stored. -/
theorem OrdersKept.eq_of_version (h : OrdersKept w) {o cur : Order} (ho : w.OrderStored o)
    (hcur : w.orders.orders.find? (·.id == o.id) = some cur) (hv : cur.version = o.version) :
    cur = o := by
  obtain ⟨e, he, rfl⟩ := ho
  have hid : cur.id = e.after.id := by simpa using List.find?_some hcur
  exact (Kept.eq_of_version h he (List.mem_of_find?_eq_some hcur) hid.symm hv.symm).symm

/-- A copy of a payment that was stored at some time and has the version now stored under its
id is the payment now stored. -/
theorem PaymentsKept.eq_of_version (h : PaymentsKept w) {p cur : Payment} (hp : w.PaymentStored p)
    (hcur : w.payments.payments.find? (·.id == p.id) = some cur) (hv : cur.version = p.version) :
    cur = p := by
  obtain ⟨e, he, rfl⟩ := hp
  have hid : cur.id = e.after.id := by simpa using List.find?_some hcur
  exact (Kept.eq_of_version h he (List.mem_of_find?_eq_some hcur) hid.symm hv.symm).symm

/-- What the order store finds was stored. -/
theorem OrdersKept.stored_of_find (h : OrdersKept w) {id : Int} {o : Order}
    (hf : w.orders.find id = .ok o) : w.OrderStored o := by
  unfold OrderStore.find at hf
  split at hf
  · next o' ho' =>
    cases hf
    exact h.logged _ (List.mem_of_find?_eq_some ho')
  · cases hf

/-- The order store finds an order under its own id. -/
theorem OrderStore.id_of_find {s : OrderStore} {id : Int} {o : Order} (hf : s.find id = .ok o) :
    o.id = id := by
  unfold OrderStore.find at hf
  split at hf
  · next o' ho' =>
    cases hf
    simpa using List.find?_some ho'
  · cases hf

/-- A copy of a payment that was stored at some time, with the version of the payment the store
now finds under its id, is that payment. -/
theorem PaymentsKept.eq_of_find (h : PaymentsKept w) {p s : Payment} (hp : w.PaymentStored p)
    (hf : w.payments.find p.id = .ok s) (hv : s.version = p.version) : s = p := by
  unfold PaymentStore.find at hf
  split at hf
  · next s' hs' =>
    cases hf
    exact h.eq_of_version hp hs' hv
  · cases hf

/-- What the payment store finds was stored. -/
theorem PaymentsKept.stored_of_find (h : PaymentsKept w) {id : Int} {p : Payment}
    (hf : w.payments.find id = .ok p) : w.PaymentStored p := by
  unfold PaymentStore.find at hf
  split at hf
  · next p' hp' =>
    cases hf
    exact h.logged _ (List.mem_of_find?_eq_some hp')
  · cases hf

end Fulfillment
