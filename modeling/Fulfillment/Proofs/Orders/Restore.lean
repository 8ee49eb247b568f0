import Fulfillment.Proofs.Orders.Placement

/-!
# A save from any copy, with any mutation, over writes that may be refused

`save` run alone against the order store, from any copy of an order the caller holds, with any
mutation, while every write may be refused with any fault before it reaches the store
(`faultyOrders`). The store itself refuses a write that names no stored order, or one that does
not carry the stored version.

A write is refused and leaves the store as it was, or goes through over the order stored under
its id at its version and changes that order only (`faulty_write`). Following `save` through its
exits (`alone_save_any`, `save_writes_change_one_version_up`):

* a save that fails leaves the store as it was, and the caller holds its own copy, or, when the
  mutation refused the order reloaded after a version conflict, that order as the mutation left
  it;
* a save that succeeds wrote what the mutation made of the caller's copy or of the reloaded
  order, one version above the version the mutation returned, and the store and the caller hold
  the same order.

A mutation that edits the order before it refuses hands its edit back to the caller after a
version conflict, and one that sets the version itself is written one above the version it set
(`refused_edit_handed_back`). The services' mutations check before they edit and keep the key;
for those the caller holds the stored order, and the written version is one above the order the
change was applied to.
-/

namespace Fulfillment

namespace OrderStore

variable {s : OrderStore} {k : Int} {b x : Order}

theorem find_eq_ok_iff : s.find k = .ok b ↔ s.orders.find? (·.id == k) = some b := by
  unfold find
  split
  next c h => simp [h]
  next h => simp [h]

/-- A write of an order stored under its id at its version goes through; the store then holds
it written, under its id, and every other order as it was. -/
theorem update_of_find (now : Instant) (hb : s.find x.id = .ok b) (hv : x.version = b.version) :
    ∃ s', s.update x now = .ok (written b x now, s') ∧ s'.find x.id = .ok (written b x now) ∧
      ∀ k ≠ x.id, s'.find k = s.find k := by
  have hf := find_eq_ok_iff.mp hb
  have hrep := find?_map_replace Order.id s.orders (i := x.id) (y := written b x now) rfl
  refine ⟨{ s with orders := s.orders.map fun y => if y.id == x.id then written b x now else y },
    ?_, ?_, fun k hk => ?_⟩
  · unfold update
    rw [hf]
    simp [hv, written]
  · rw [find_eq_ok_iff]
    dsimp only
    rw [hrep, if_pos rfl, hf]
    rfl
  · unfold find
    dsimp only
    rw [hrep, if_neg hk]

/-- A write is refused by the store, or there is an order stored under its id at its version. -/
theorem update_cases (x : Order) (now : Instant) :
    (∃ f, s.update x now = .error f) ∨ ∃ b, s.find x.id = .ok b ∧ x.version = b.version := by
  unfold update
  split
  · exact .inl ⟨_, rfl⟩
  · next cur hcur =>
    split
    · exact .inl ⟨_, rfl⟩
    · next hv =>
      refine .inr ⟨cur, find_eq_ok_iff.mpr hcur, ?_⟩
      simp only [bne_iff_ne, ne_eq, Decidable.not_not] at hv
      exact hv.symm

end OrderStore

/-! ## One call at a time -/

section Steps

variable {refusal : Nat → Option Fault} {s : OrderStore} {now : Instant}

/-- A write is refused with the store as it was, or it goes through over the order stored under
its id at its version, and changes that order only. -/
theorem faulty_write (x : Order) :
    Alone (fun w : Placement => w.orders = s ∧ w.clock = now) ((faultyOrders refusal).update x)
      fun r w => w.clock = now ∧ ((∃ f, r = .error f ∧ w.orders = s) ∨
        ∃ b, s.find x.id = .ok b ∧ x.version = b.version ∧
          r = .ok (OrderStore.written b x now) ∧
          w.orders.find x.id = .ok (OrderStore.written b x now) ∧
          ∀ k ≠ x.id, w.orders.find k = s.find k) :=
  Alone.modifyGet fun w ⟨hs, hn⟩ => by
    subst hs hn
    split
    · exact ⟨rfl, .inl ⟨_, rfl, rfl⟩⟩
    · rcases OrderStore.update_cases (s := w.orders) x w.clock with ⟨f, hf⟩ | ⟨b, hb, hv⟩
      · rw [hf]
        exact ⟨rfl, .inl ⟨f, rfl, rfl⟩⟩
      · obtain ⟨s', hu, hfound, hothers⟩ := OrderStore.update_of_find w.clock hb hv
        rw [hu]
        exact ⟨rfl, .inr ⟨b, hb, hv, rfl, hfound, hothers⟩⟩

/-- Looking an order up reads the store and changes nothing. -/
theorem faulty_lookup (id : Int) :
    Alone (fun w : Placement => w.orders = s ∧ w.clock = now) ((faultyOrders refusal).find id)
      fun r w => r = s.find id ∧ (w.orders = s ∧ w.clock = now) :=
  Alone.modifyGet fun w hw => ⟨by rw [hw.1], hw⟩

end Steps

/-! ## A whole save -/

/-- What a save of `mutate` from the copy `o`, over the store `s` at `now`, may leave as the
answer `r` and the store `t`. With a fault: the store as it was, and the caller holding its copy,
or what `mutate` left of the order stored under the copy's id when it refused that order with the
fault. Without one: what `mutate` made of the copy or of the order stored under its id, written
over the order `cur` stored under its id at its version, and held by the caller and the store
alike, with every other order as it was. -/
def SaveOutcome (s : OrderStore) (o : Order) (mutate : Order → Order × Option Fault)
    (now : Instant) (r : Order × Option Fault) (t : OrderStore) : Prop :=
  match r.2 with
  | some f => t = s ∧ (r.1 = o ∨ ∃ fresh, s.find o.id = .ok fresh ∧ mutate fresh = (r.1, some f))
  | none => ∃ base c cur, (base = o ∨ s.find o.id = .ok base) ∧ mutate base = (c, none) ∧
      s.find c.id = .ok cur ∧ c.version = cur.version ∧ r.1 = OrderStore.written cur c now ∧
      t.find c.id = .ok r.1 ∧ ∀ k ≠ c.id, t.find k = s.find k

namespace SaveOutcome

variable {s : OrderStore} {o : Order} {mutate : Order → Order × Option Fault} {now : Instant}

/-- A save that answers the fault `f` and leaves the store as it was. -/
theorem kept {x : Order} {f : Fault}
    (h : x = o ∨ ∃ fresh, s.find o.id = .ok fresh ∧ mutate fresh = (x, some f)) :
    SaveOutcome s o mutate now (x, some f) s :=
  ⟨rfl, h⟩

/-- A save whose write of what `mutate` made of `base` went through. -/
theorem wrote {base c cur : Order} {t : OrderStore} (hb : base = o ∨ s.find o.id = .ok base)
    (hc : mutate base = (c, none)) (hcur : s.find c.id = .ok cur) (hv : c.version = cur.version)
    (ht : t.find c.id = .ok (OrderStore.written cur c now))
    (hothers : ∀ k ≠ c.id, t.find k = s.find k) :
    SaveOutcome s o mutate now (OrderStore.written cur c now, none) t :=
  ⟨base, c, cur, hb, hc, hcur, hv, rfl, ht, hothers⟩

end SaveOutcome

section Save

variable {refusal : Nat → Option Fault} {s : OrderStore} {now : Instant}

/-- Going on after a write of what `mutate` made of `base`: from the store as it was when the
write is refused, and with what `save` leaves when it goes through. -/
theorem after_write {β : Type} {o base c : Order} {mutate : Order → Order × Option Fault}
    {k : Except Fault Order → StateM Placement β} {S : β → Placement → Prop}
    (hb : base = o ∨ s.find o.id = .ok base) (hc : mutate base = (c, none))
    (hrefused : ∀ f, Alone (fun w : Placement => w.orders = s ∧ w.clock = now) (k (.error f)) S)
    (hthrough : ∀ cur t, SaveOutcome s o mutate now (OrderStore.written cur c now, none) t →
      Alone (fun w : Placement => w.orders = t ∧ w.clock = now)
        (k (.ok (OrderStore.written cur c now))) S) :
    Alone (fun w : Placement => w.orders = s ∧ w.clock = now)
      ((faultyOrders refusal).update c >>= k) S := by
  refine Alone.bind (faulty_write c) fun r w ⟨hn, hw⟩ => ?_
  rcases hw with ⟨f, rfl, hs⟩ | ⟨cur, hcur, hv, rfl, hfound, hothers⟩
  · exact hrefused f w ⟨hs, hn⟩
  · exact hthrough cur w.orders (.wrote hb hc hcur hv hfound hothers) w ⟨rfl, hn⟩

/-- A save from any copy, with any mutation, over writes that may be refused, leaves what
`SaveOutcome` says. -/
theorem alone_save_any (o : Order) (mutate : Order → Order × Option Fault) :
    Alone (fun w : Placement => w.orders = s ∧ w.clock = now)
      (save (faultyOrders refusal) o mutate) fun r w => SaveOutcome s o mutate now r w.orders := by
  -- a written order is held by the store and handed back
  have done : ∀ cur c t, SaveOutcome s o mutate now (OrderStore.written cur c now, none) t →
      Alone (fun w : Placement => w.orders = t ∧ w.clock = now)
        (pure (OrderStore.written cur c now, none)) fun r w => SaveOutcome s o mutate now r w.orders :=
    fun _ _ _ h => Alone.pure fun w hw => hw.1 ▸ h
  have kept : ∀ {x : Order} {f : Fault},
      (x = o ∨ ∃ fresh, s.find o.id = .ok fresh ∧ mutate fresh = (x, some f)) →
      Alone (fun w : Placement => w.orders = s ∧ w.clock = now)
        (pure (x, some f)) fun r w => SaveOutcome s o mutate now r w.orders :=
    fun h => Alone.pure fun w hw => by rw [hw.1]; exact SaveOutcome.kept h
  unfold save
  cases hc : mutate o with
  | mk c e =>
    cases e with
    | some e => exact kept (.inl rfl)
    | none =>
      refine after_write (.inl rfl) hc (fun f => ?_) fun cur t h => done cur c t h
      -- a refusal that claims a version conflict is retried from the stored order
      refine Alone.ite (kept (.inl rfl)) ?_
      refine Alone.bind_val (faulty_lookup o.id) ?_
      cases hf : s.find o.id with
      | error e => exact kept (.inl rfl)
      | ok fresh =>
        dsimp only
        cases hcf : mutate fresh with
        | mk c' e' =>
          cases e' with
          | some e' => exact kept (.inr ⟨fresh, hf, hcf⟩)
          | none =>
            exact after_write (.inr hf) hcf (fun f => kept (.inl rfl))
              fun cur t h => done cur c' t h

end Save

/-- **What a save leaves.** Run alone from any copy `o` of an order, with any mutation, over any
store whose writes may be refused with any fault: a save that fails leaves the store as it was,
and the caller holds its copy, or, when the mutation refused the order stored under the copy's
id with the fault, that order as the mutation left it. A save that succeeds leaves the caller and
the store holding the same order: what the mutation made of the copy or of the order stored
under its id, written over the order stored at the version the mutation returned, one version
above it, with that order's creation time and the store's clock, and every other order as it
was. -/
theorem save_writes_change_one_version_up (refusal : Nat → Option Fault) (w : Placement)
    (o : Order) (mutate : Order → Order × Option Fault) :
    let r := (save (faultyOrders refusal) o mutate).run w
    (∀ f, r.1.2 = some f → r.2.orders = w.orders ∧
      (r.1.1 = o ∨ ∃ fresh, w.orders.find o.id = .ok fresh ∧ mutate fresh = (r.1.1, some f))) ∧
    (r.1.2 = none → ∃ base c cur, (base = o ∨ w.orders.find o.id = .ok base) ∧
      mutate base = (c, none) ∧ w.orders.find c.id = .ok cur ∧ c.version = cur.version ∧
      r.1.1 = { c with version := c.version + 1, updatedAt := w.clock, createdAt := cur.createdAt } ∧
      r.2.orders.find r.1.1.id = .ok r.1.1 ∧ ∀ k ≠ r.1.1.id, r.2.orders.find k = w.orders.find k) := by
  intro r
  have h : SaveOutcome w.orders o mutate w.clock r.1 r.2.orders :=
    alone_save_any o mutate w ⟨rfl, rfl⟩
  unfold SaveOutcome at h
  refine ⟨fun f hf => ?_, fun hn => ?_⟩
  · rw [hf] at h
    exact h
  · rw [hn] at h
    obtain ⟨base, c, cur, hb, hc, hcur, hv, hr, ht, hothers⟩ := h
    -- the written order keeps the id of what the mutation made
    have hid : r.1.1.id = c.id := by rw [hr]; rfl
    rw [hid]
    exact ⟨base, c, cur, hb, hc, hcur, hv, hr, ht, hothers⟩

/-- Two mutations of a copy one version behind the store, over writes that are never refused. One
notes an edit and then refuses the reloaded order: the caller is handed the edited reload, which
is neither its copy nor the stored order. The other sets the version to the stored one: the save
goes through at once, two versions above the copy it was applied to. -/
theorem refused_edit_handed_back :
    let o : Order := { Order.create 1 "" with id := 1, version := 1 }
    let w : Placement := ⟨⟨[{ o with version := 2 }], 1, 0⟩, Instant.zero, 0, [], SagaLog.empty⟩
    let edit : Order → Order × Option Fault := fun x =>
      ({ x with notes := "edited" }, if x.version = 1 then none else some (.bare .validation))
    let bump : Order → Order × Option Fault := fun x => ({ x with version := 2 }, none)
    let r := (save (faultyOrders fun _ => none) o edit).run w
    let r' := (save (faultyOrders fun _ => none) o bump).run w
    r.1.2.isSome ∧ r.1.1 ≠ o ∧ (w.orders.find o.id).toOption ≠ some r.1.1 ∧
      r'.1.2 = none ∧ r'.1.1.version = o.version + 2 := by
  decide

end Fulfillment
