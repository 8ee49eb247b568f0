import Fulfillment.Proofs.Concurrent.Pool
import Fulfillment.Service.Repo
import Fulfillment.Store.Orders
import Fulfillment.Store.Payments

/-!
# The shared world

The order and payment stores that concurrent service calls share, as one state for `Prog`:
each call to a store is one atomic step (the stores hold a lock for the whole call). Besides the
stores the world holds the clock, a halt signal per thread (a cancelled context), and what has
happened so far: every successful write to either store as an `Entry` with the record stored
before it, and every call made to the order notifier, each under the thread that made it. These
logs are what the claims about histories are stated over; no service reads them.

`World.Step`-like facts are said once: a thread's step either changes nothing (a read, or a
write the store refused) or applies one `Op` under its name (`Does`), and the environment moves
only the clock and the halt signals (`Env`). Under any such step of another thread the logs only
grow, and what a thread wrote itself stays as it was (`Others`).
-/

namespace Fulfillment

/-- One write to a store as its log keeps it: the thread that made it, the record stored before
(none for a new record) and the record stored. -/
structure Entry (α : Type) where
  who : Nat
  before : Option α
  after : α

/-- A call to the order notifier. -/
inductive Notice where
  | completed (orderId paymentId : Int)
  | cancelled (orderId : Int) (reason : String)

/-- The shared stores with the clock, the halt signals and the logs of writes and notices. -/
structure World where
  orders : OrderStore
  payments : PaymentStore
  clock : Instant
  halted : Nat → Bool
  orderLog : List (Entry Order)
  paymentLog : List (Entry Payment)
  notices : List (Nat × Notice)

/-- One operation that changes the world. -/
inductive Op where
  | createOrder (o : Order)
  | updateOrder (o : Order)
  | createPayment (p : Payment)
  | updatePayment (p : Payment)
  | notify (n : Notice)

namespace World

/-- Empty stores at `now`, nothing halted and nothing logged. -/
def start (now : Instant) : World := ⟨OrderStore.empty, PaymentStore.empty, now, fun _ => false, [], [], []⟩

/-- Stores a new order for thread `who`. -/
def createOrder (w : World) (who : Nat) (o : Order) : Order × World :=
  let r := w.orders.create o w.clock
  (r.1, { w with orders := r.2, orderLog := w.orderLog ++ [⟨who, none, r.1⟩] })

/-- Writes an order for thread `who` when it holds the stored version. -/
def updateOrder (w : World) (who : Nat) (o : Order) : Except Fault Order × World :=
  match w.orders.update o w.clock with
  | .ok (stored, st) =>
    let e : Entry Order := ⟨who, (w.orders.find o.id).toOption, stored⟩
    (.ok stored, { w with orders := st, orderLog := w.orderLog ++ [e] })
  | .error f => (.error f, w)

/-- Stores a new payment for thread `who` unless its order has one. -/
def createPayment (w : World) (who : Nat) (p : Payment) : Except Fault Payment × World :=
  match w.payments.create p w.clock with
  | .ok (stored, st) =>
    (.ok stored, { w with payments := st, paymentLog := w.paymentLog ++ [⟨who, none, stored⟩] })
  | .error f => (.error f, w)

/-- Writes a payment for thread `who` when it holds the stored version. -/
def updatePayment (w : World) (who : Nat) (p : Payment) : Except Fault Payment × World :=
  match w.payments.update p w.clock with
  | .ok (stored, st) =>
    let e : Entry Payment := ⟨who, (w.payments.find p.id).toOption, stored⟩
    (.ok stored, { w with payments := st, paymentLog := w.paymentLog ++ [e] })
  | .error f => (.error f, w)

/-- Records a call to the order notifier by thread `who`. -/
def notify (w : World) (who : Nat) (n : Notice) : World :=
  { w with notices := w.notices ++ [(who, n)] }

/-- The world after thread `who` applies an operation. -/
def apply (w : World) (who : Nat) : Op → World
  | .createOrder o => (w.createOrder who o).2
  | .updateOrder o => (w.updateOrder who o).2
  | .createPayment p => (w.createPayment who p).2
  | .updatePayment p => (w.updatePayment who p).2
  | .notify n => w.notify who n

/-- The writes of thread `i` to the order store, in order. -/
def ordersBy (w : World) (i : Nat) : List (Entry Order) := w.orderLog.filter (·.who == i)

/-- The writes of thread `i` to the payment store, in order. -/
def paymentsBy (w : World) (i : Nat) : List (Entry Payment) := w.paymentLog.filter (·.who == i)

/-- The notices sent by thread `i`, in order. -/
def noticesBy (w : World) (i : Nat) : List Notice := (w.notices.filter (·.1 == i)).map (·.2)

end World

/-! ## Steps -/

/-- A step of thread `i` that changes nothing, or applies one operation that `ok` allows in the
state it sees. -/
def Does (i : Nat) (ok : World → Op → Prop) (w w' : World) : Prop :=
  w' = w ∨ ∃ op, ok w op ∧ w' = w.apply i op

/-- The environment moves the clock and the halt signals, and nothing else. -/
def Env (w w' : World) : Prop := w' = { w with clock := w'.clock, halted := w'.halted }

/-- Any operation at all. -/
def anyOp (_ : World) (_ : Op) : Prop := True

/-- What thread `i` puts up with when nothing is known of the others: the environment and any
operation of any other thread. -/
def Others (i : Nat) (w w' : World) : Prop := Env w w' ∨ ∃ j, j ≠ i ∧ Does j anyOp w w'

theorem Does.mono {i : Nat} {ok ok' : World → Op → Prop} {w w' : World} (h : Does i ok w w')
    (hok : ∀ w op, ok w op → ok' w op) : Does i ok' w w' := by
  rcases h with rfl | ⟨op, hop, rfl⟩
  · exact .inl rfl
  · exact .inr ⟨op, hok _ _ hop, rfl⟩

/-- A pool whose threads only do store operations relies on no more than `Others`. -/
theorem rely_others {G : Nat → World → World → Prop} {i : Nat}
    (hG : ∀ j w w', G j w w' → Does j anyOp w w') {w w' : World} (h : Pool.Rely Env G i w w') :
    Others i w w' := by
  rcases h with he | ⟨j, hj, hg⟩
  · exact .inl he
  · exact .inr ⟨j, hj, hG j w w' hg⟩

/-- A pool whose every thread applies only the operations its guarantee names relies on no
more than `Others`. -/
theorem rely_does {ok : Nat → World → Op → Prop} {i : Nat} {w w' : World}
    (h : Pool.Rely Env (fun j => Does j (ok j)) i w w') : Others i w w' :=
  rely_others (fun _ _ _ h => h.mono fun _ _ _ => trivial) h

/-! ## What a step leaves of the logs -/

namespace World

variable {w w' : World} {i j : Nat}

/-- An operation appends to each log only entries under the name of its thread. -/
theorem apply_logs (w : World) (j : Nat) (op : Op) :
    (∃ L, (w.apply j op).orderLog = w.orderLog ++ L ∧ ∀ e ∈ L, e.who = j) ∧
    (∃ L, (w.apply j op).paymentLog = w.paymentLog ++ L ∧ ∀ e ∈ L, e.who = j) ∧
    (∃ L, (w.apply j op).notices = w.notices ++ L ∧ ∀ n ∈ L, n.1 = j) := by
  cases op with
  | createOrder o =>
    simp only [apply, createOrder]
    exact ⟨⟨_, rfl, by simp⟩, ⟨[], by simp, by simp⟩, ⟨[], by simp, by simp⟩⟩
  | updateOrder o =>
    simp only [apply, updateOrder]
    split
    · exact ⟨⟨_, rfl, by simp⟩, ⟨[], by simp, by simp⟩, ⟨[], by simp, by simp⟩⟩
    · exact ⟨⟨[], by simp, by simp⟩, ⟨[], by simp, by simp⟩, ⟨[], by simp, by simp⟩⟩
  | createPayment p =>
    simp only [apply, createPayment]
    split
    · exact ⟨⟨[], by simp, by simp⟩, ⟨_, rfl, by simp⟩, ⟨[], by simp, by simp⟩⟩
    · exact ⟨⟨[], by simp, by simp⟩, ⟨[], by simp, by simp⟩, ⟨[], by simp, by simp⟩⟩
  | updatePayment p =>
    simp only [apply, updatePayment]
    split
    · exact ⟨⟨[], by simp, by simp⟩, ⟨_, rfl, by simp⟩, ⟨[], by simp, by simp⟩⟩
    · exact ⟨⟨[], by simp, by simp⟩, ⟨[], by simp, by simp⟩, ⟨[], by simp, by simp⟩⟩
  | notify n =>
    simp only [apply, notify]
    exact ⟨⟨[], by simp, by simp⟩, ⟨[], by simp, by simp⟩, ⟨_, rfl, by simp⟩⟩

/-- Under a step of another thread or of the environment, every log only grows, by entries of
other threads. -/
theorem others_logs (h : Others i w w') :
    (∃ L, w'.orderLog = w.orderLog ++ L ∧ ∀ e ∈ L, e.who ≠ i) ∧
    (∃ L, w'.paymentLog = w.paymentLog ++ L ∧ ∀ e ∈ L, e.who ≠ i) ∧
    (∃ L, w'.notices = w.notices ++ L ∧ ∀ n ∈ L, n.1 ≠ i) := by
  rcases h with he | ⟨j, hj, rfl | ⟨op, -, rfl⟩⟩
  · rw [he]
    exact ⟨⟨[], by simp, by simp⟩, ⟨[], by simp, by simp⟩, ⟨[], by simp, by simp⟩⟩
  · exact ⟨⟨[], by simp, by simp⟩, ⟨[], by simp, by simp⟩, ⟨[], by simp, by simp⟩⟩
  · obtain ⟨⟨L1, h1, e1⟩, ⟨L2, h2, e2⟩, ⟨L3, h3, e3⟩⟩ := apply_logs w j op
    exact ⟨⟨L1, h1, fun e he => (e1 e he).symm ▸ hj⟩, ⟨L2, h2, fun e he => (e2 e he).symm ▸ hj⟩,
      ⟨L3, h3, fun n hn => (e3 n hn).symm ▸ hj⟩⟩

theorem others_ordersBy (h : Others i w w') : w'.ordersBy i = w.ordersBy i := by
  obtain ⟨L, hL, hw⟩ := (others_logs h).1
  simp only [ordersBy, hL, List.filter_append, List.append_right_eq_self, List.filter_eq_nil_iff,
    beq_iff_eq]
  exact hw

theorem others_paymentsBy (h : Others i w w') : w'.paymentsBy i = w.paymentsBy i := by
  obtain ⟨L, hL, hw⟩ := (others_logs h).2.1
  simp only [paymentsBy, hL, List.filter_append, List.append_right_eq_self, List.filter_eq_nil_iff,
    beq_iff_eq]
  exact hw

theorem others_noticesBy (h : Others i w w') : w'.noticesBy i = w.noticesBy i := by
  obtain ⟨L, hL, hw⟩ := (others_logs h).2.2
  simp only [noticesBy, hL, List.filter_append, List.map_append, List.append_right_eq_self,
    List.map_eq_nil_iff, List.filter_eq_nil_iff, beq_iff_eq]
  exact hw

end World

/-! ## The stores as threads reach them -/

/-- The order store as thread `who` reaches it: every call is one atomic step. -/
def sharedOrders (who : Nat) : OrderRepo (Prog World) where
  create o := .atomic fun w => let r := w.createOrder who o; (.ok r.1, r.2)
  update o := .atomic fun w => w.updateOrder who o
  find id := .atomic fun w => (w.orders.find id, w)
  list customerId status := .atomic fun w => (.ok (w.orders.list customerId status), w)

/-- The payment store as thread `who` reaches it: every call is one atomic step. -/
def sharedPayments (who : Nat) : PaymentRepo (Prog World) where
  create p := .atomic fun w => w.createPayment who p
  update p := .atomic fun w => w.updatePayment who p
  find id := .atomic fun w => (w.payments.find id, w)
  findByOrder orderId := .atomic fun w => (w.payments.findByOrder orderId, w)
  list status := .atomic fun w => (.ok (w.payments.list status), w)
  eligible before limit := .atomic fun w => (.ok (w.payments.eligible before limit), w)
  countByStatus := .atomic fun w => (.ok w.payments.countByStatus, w)

/-- The clock, read in one step. -/
def readClock : Prog World Instant := .atomic fun w => (w.clock, w)

section Reads

variable {α : Type} {i : Nat} {R : World → World → Prop} {ok : World → Op → Prop}
  {P : World → Prop}

/-- A step that only reads keeps what held. -/
theorem sat_look {f : World → α} (hP : Prog.Stable R P) :
    Prog.Sat R (Does i ok) P (Prog.atomic fun w => (f w, w)) fun _ => P :=
  Prog.Sat.atomic hP (fun _ => hP) fun _ hp => ⟨.inl rfl, hp⟩

/-- A step that only reads keeps what held, and its answer has what the state read gives it. -/
theorem sat_read {f : World → α} {A : α → World → Prop} (hP : Prog.Stable R P)
    (hA : ∀ a, Prog.Stable R (A a)) (h : ∀ w, P w → A (f w) w) :
    Prog.Sat R (Does i ok) P (Prog.atomic fun w => (f w, w)) fun a w => P w ∧ A a w :=
  Prog.Sat.atomic hP (fun a => hP.and (hA a)) fun w hp => ⟨.inl rfl, hp, h w hp⟩

end Reads

end Fulfillment
