import Fulfillment.Proofs.Shared.History
import Fulfillment.Service.Save

/-!
# Saves never lose another writer's change

`save` applies a change to the caller's copy of an order and writes it; a version conflict makes
it reload the order and apply the change once more. Run on the shared store with any number of
other threads doing anything at all in between (`Others`), from a copy that was stored at some
time (what `create`, `find` and an earlier `save` hand out):

* a save that succeeds wrote exactly once, and what it wrote is its change applied to the order
  stored right before the write, one version up; the caller then holds what was written;
* a save that fails wrote nothing;
* either way the caller is left holding a copy that was stored at some time, so its next save
  starts from the same footing.

The guarantee `ChangeWrites` says the same of each single step: a write of a save stores its
change of the record it replaces. The argument rests on `Kept`: a stored copy carrying the
stored version is the stored record, so the first write, made from the caller's copy, can only
succeed when that copy is current.
-/

namespace Fulfillment

open Prog

/-- A change that keeps an order's id and version, as every stage move does. -/
def KeepsKey (change : Order → Except Fault Order) : Prop :=
  ∀ x y, change x = .ok y → y.id = x.id ∧ y.version = x.version

/-- What a save of order `k` applying `change` may do in one step: write, under `k`, `change`
of the order the write replaces. -/
def ChangeWrites (change : Order → Except Fault Order) (k : Int) (w : World) : Op → Prop
  | .updateOrder o => o.id = k ∧ ∀ cur, w.orders.orders.find? (·.id == k) = some cur →
      cur.version = o.version → change cur = .ok o
  | _ => False

/-- A logged write that stores `change` of the order stored before it, one version up. -/
def Applied (change : Order → Except Fault Order) (e : Entry Order) : Prop :=
  ∃ b x t, e.before = some b ∧ change b = .ok x ∧
    e.after = { x with version := b.version + 1, updatedAt := t, createdAt := b.createdAt }

/-- What a save by thread `i` leaves, with `mine` the thread's writes before it: the store still
agrees with its log and the caller holds a copy that was stored; on success the thread wrote
once, `change` applied to the order stored before, and holds what it wrote; on failure it wrote
nothing. -/
def Saved (i : Nat) (change : Order → Except Fault Order) (mine : List (Entry Order))
    (r : Order × Option Fault) (w : World) : Prop :=
  OrdersKept w ∧ w.OrderStored r.1 ∧
    match r.2 with
    | none => ∃ e, w.ordersBy i = mine ++ [e] ∧ e.who = i ∧ e.after = r.1 ∧ Applied change e
    | some _ => w.ordersBy i = mine

variable {i : Nat} {change : Order → Except Fault Order} {mine : List (Entry Order)}

/-- A write of a change of an order is an order write. -/
theorem ChangeWrites.update {k : Int} {w : World} {op : Op} (h : ChangeWrites change k w op) :
    ∃ o, op = .updateOrder o := by
  cases op with
  | updateOrder o => exact ⟨o, rfl⟩
  | _ => exact absurd h id

/-- A write a save may make is refused and changes nothing, or it replaces the stored order by
`change` of it, one version up, and logs that. -/
theorem ChangeWrites.cases {k : Int} {w : World} {o : Order}
    (h : ChangeWrites change k w (.updateOrder o)) (j : Nat) :
    w.apply j (.updateOrder o) = w ∨
    ∃ cur, w.orders.orders.find? (·.id == o.id) = some cur ∧ cur.version = o.version ∧
      change cur = .ok o ∧
      w.apply j (.updateOrder o) = { w with
        orders := { w.orders with orders := w.orders.orders.map fun x =>
          if x.id == o.id then
            { o with version := o.version + 1, updatedAt := w.clock, createdAt := cur.createdAt }
          else x }
        orderLog := w.orderLog ++ [⟨j, some cur,
          { o with version := o.version + 1, updatedAt := w.clock, createdAt := cur.createdAt }⟩] } := by
  rcases World.updateOrder_cases w j o with ⟨f, hf⟩ | ⟨cur, stored, hcur, hv, rfl, hu⟩
  · left; simp [World.apply, hf]
  · obtain ⟨hk, hc⟩ := h
    exact .inr ⟨cur, hcur, hv, hc cur (hk ▸ hcur) hv, by simp [World.apply, hu]⟩

theorem stable_saved (r : Order × Option Fault) : Stable (Others i) (Saved i change mine r) := by
  intro w w' h ⟨hk, hs, hr⟩
  refine ⟨stable_ordersKept h hk, stable_orderStored _ h hs, ?_⟩
  rcases r with ⟨o, _ | f⟩
  · obtain ⟨e, he, rest⟩ := hr
    exact ⟨e, (World.others_ordersBy h).trans he, rest⟩
  · exact (World.others_ordersBy h).trans hr

/-- Where a save starts: the store agrees with its log, the caller's copy was stored, and the
thread's writes so far are `mine`. -/
def SaveStart (i : Nat) (o : Order) (mine : List (Entry Order)) (w : World) : Prop :=
  OrdersKept w ∧ w.OrderStored o ∧ w.ordersBy i = mine

theorem stable_saveStart (o : Order) : Stable (Others i) (SaveStart i o mine) :=
  fun _ _ h ⟨hk, hs, hm⟩ =>
    ⟨stable_ordersKept h hk, stable_orderStored o h hs, stable_ordersBy mine h hm⟩

/-- One write of `change x` for a stored `x`: refused, it changes nothing, so whatever held
before still holds; accepted, it stored `change` of the order stored just before, which was `x`
itself. -/
theorem sat_update_change {x changed : Order} (hkey : KeepsKey change)
    (hc : change x = .ok changed) {P : World → Prop} (hP : Stable (Others i) P)
    (hx : ∀ w, P w → SaveStart i x mine w) :
    Sat (Others i) (Does i (ChangeWrites change x.id)) P ((sharedOrders i).update changed)
      fun r w => match r with
        | .ok written => Saved i change mine (written, none) w
        | .error _ => P w := by
  obtain ⟨hid, hver⟩ := hkey x changed hc
  show Sat _ _ _ (Prog.atomic fun w : World => w.updateOrder i changed) _
  refine Sat.atomic hP (fun r => ?_) fun w hp => ?_
  · cases r
    · exact hP
    · exact stable_saved _
  obtain ⟨hk, hs, hm⟩ := hx w hp
  rcases World.updateOrder_cases w i changed with ⟨f, hf⟩ | ⟨cur, stored, hcur, hv, rfl, hu⟩
  · simp only [hf]
    exact ⟨.inl rfl, hp⟩
  -- the write went through, so the stored order had the copy's version: it is the copy
  rw [hid] at hcur
  have hcx : cur = x := hk.eq_of_version hs hcur (hv.trans hver)
  subst hcx
  have hw : w.apply i (.updateOrder changed) = (w.updateOrder i changed).2 := rfl
  have hk' : OrdersKept (w.apply i (.updateOrder changed)) := ordersKept_apply hk _
  rw [hw, hu] at hk'
  simp only [hu]
  refine ⟨.inr ⟨.updateOrder changed, ⟨hid, fun c hc' _ => ?_⟩, by rw [hw, hu]⟩, hk',
    ⟨_, List.mem_append_right _ (List.mem_singleton_self _), rfl⟩,
    ⟨i, some cur, _⟩, ?_, rfl, rfl, cur, changed, w.clock, rfl, hc, ?_⟩
  · rw [← Option.some.inj (hcur.symm.trans hc')]
    exact hc
  · simp [World.ordersBy, ← hm]
  · simp [hver]

/-- Reading an order keeps what held and gives a copy of the order asked for that was
stored. -/
theorem sat_find {ok : World → Op → Prop} (id : Int) {P : World → Prop}
    (hP : Stable (Others i) P) (hk : ∀ w, P w → OrdersKept w) :
    Sat (Others i) (Does i ok) P ((sharedOrders i).find id)
      fun r w => P w ∧ ∀ fresh, r = .ok fresh → w.OrderStored fresh ∧ fresh.id = id := by
  refine Sat.atomic hP (fun r => hP.and fun w w' h hf fresh hr =>
    ⟨stable_orderStored fresh h (hf fresh hr).1, (hf fresh hr).2⟩) fun w hp => ?_
  exact ⟨.inl rfl, hp, fun _ hr => ⟨(hk w hp).stored_of_find hr, OrderStore.id_of_find hr⟩⟩

/-- **Saves never lose another writer's change.** A save by thread `i` from a copy that was
stored, with any other threads doing anything in between: if it succeeds it wrote exactly once,
`change` of the order stored just before its write with the version one up, and the caller holds
what it wrote; if it fails it wrote nothing; and every step it took wrote, if anything, `change`
of the record it replaced. -/
theorem save_applies_change_to_stored (i : Nat) (o : Order)
    (change : Order → Except Fault Order) (hkey : KeepsKey change) (mine : List (Entry Order)) :
    Sat (Others i) (Does i (ChangeWrites change o.id)) (SaveStart i o mine)
      (save (sharedOrders i) o (inPlace change)) (Saved i change mine) := by
  have hstart : Stable (Others i) (SaveStart i o mine) := stable_saveStart o
  rw [save_inPlace]
  unfold saveChange
  cases hc : change o with
  | error e => exact Sat.ret' hstart fun w h => h
  | ok changed =>
    refine Sat.bind (sat_update_change hkey hc hstart fun _ h => h) fun r => ?_
    cases r with
    | ok written => exact Sat.ret' (stable_saved _) fun w h => h
    | error e =>
      dsimp only
      cases hcon : e.isA .concurrentUpdate
      · rw [if_pos (by simp)]
        exact Sat.ret' hstart fun w h => h
      -- a lost race: reload, then the same change once more on the fresh copy
      rw [if_neg (by simp)]
      refine Sat.bind (sat_find o.id hstart fun w h => h.1) fun r => ?_
      cases r with
      | error e' => dsimp only; exact Sat.ret' (hstart.and fun w w' h hf fresh hr =>
          ⟨stable_orderStored fresh h (hf fresh hr).1, (hf fresh hr).2⟩) fun w h => h.1
      | ok fresh =>
        have hfresh : Stable (Others i) fun w => SaveStart i o mine w ∧ w.OrderStored fresh :=
          hstart.and (stable_orderStored fresh)
        refine Sat.pre ?_ (hstart.and fun w w' h hf f hr =>
          ⟨stable_orderStored f h (hf f hr).1, (hf f hr).2⟩)
          fun w h => (⟨⟨h.1, (h.2 fresh rfl).1⟩, (h.2 fresh rfl).2⟩ :
            (SaveStart i o mine w ∧ w.OrderStored fresh) ∧ fresh.id = o.id)
        -- the fresh copy is of the same order, so its write is still a write of order `o.id`
        refine Sat.of_pure (fun hid => ?_) hfresh
        dsimp only
        cases hf : change fresh with
        | error e' => exact Sat.ret' hfresh fun w ⟨⟨hk, _, hm⟩, hs⟩ => ⟨hk, hs, hm⟩
        | ok again =>
          refine Sat.bind (hid ▸ sat_update_change hkey hf hfresh fun w ⟨⟨hk, _, hm⟩, hs⟩ =>
            ⟨hk, hs, hm⟩) fun r => ?_
          cases r with
          | ok written => exact Sat.ret' (stable_saved _) fun w h => h
          | error e'' => exact Sat.ret' hfresh fun w h => ⟨h.1.1, h.1.2.1, h.1.2.2⟩

/-- The store agrees with its log and `o` is a copy of an order that was stored. -/
def Held (o : Order) (w : World) : Prop := OrdersKept w ∧ w.OrderStored o

theorem stable_held (o : Order) : Stable (Others i) (Held o) :=
  stable_ordersKept.and (stable_orderStored o)

/-- A copy that was stored stays held whatever the thread does itself, too. -/
theorem does_held {ok : World → Op → Prop} (o : Order) : Stable (Does i ok) (Held o) := by
  rintro w w' (rfl | ⟨op, -, rfl⟩) ⟨hk, e, he, rfl⟩
  · exact ⟨hk, e, he, rfl⟩
  · obtain ⟨L, hL, -⟩ := (World.apply_logs w i op).1
    exact ⟨ordersKept_apply hk op, e, hL ▸ List.mem_append_left _ he, rfl⟩

/-- Whatever the thread wrote before, a save from a copy that was stored leaves the caller
holding a copy that was stored. -/
theorem save_held (i : Nat) (o : Order) (change : Order → Except Fault Order)
    (hkey : KeepsKey change) :
    Sat (Others i) (Does i (ChangeWrites change o.id)) (Held o) (save (sharedOrders i) o (inPlace change))
      fun r => Held r.1 :=
  ((Sat.exists fun mine => save_applies_change_to_stored i o change hkey mine).pre
    (stable_held o) fun w h => ⟨w.ordersBy i, h.1, h.2, rfl⟩).post
    fun _ _ ⟨_, hk, hs, _⟩ => ⟨hk, hs⟩

end Fulfillment
