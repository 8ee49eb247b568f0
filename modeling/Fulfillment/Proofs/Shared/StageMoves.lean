import Fulfillment.Proofs.Orders.Checks
import Fulfillment.Proofs.System.StatusMoves

/-!
# Stage moves are all or nothing

An order has five named stage moves and a payment four (`OrderTransition`, `PaymentTransition`).
Each asks the lifecycle table for one target stage, and at every stage, and at every text that
names no stage, does exactly one of two things (`OrderTransition.run_eq_ok_iff`,
`OrderTransition.run_eq_error_iff` and their payment twins):

* the table allows the move: the record comes back with the target stage and the move's own
  fields written (`write`), every other field as it was;
* the table refuses it: the move returns a transition fault naming the record, its id, the text of
  the stage it is in and the text of the stage asked for, and no record, so the caller keeps the
  record as it was. That fault is of the invalid-transition class and of no other
  (`Fault.isA_transition`).

A status text that names no stage has no row in the table, so every move from it is refused, and
the fault quotes the text as it was (`OrderTransition.run_unnamed`). All of it together is
`stage_moves_all_or_nothing`.

Failing and cancelling record the reason given, or the move's fixed default when the reason is
empty once the Unicode white space at both ends is trimmed (`reasonOr_eq_trim`).
-/

namespace Fulfillment

/-! ## Refused moves and reasons -/

/-- A transition fault is of the invalid-transition class and of no other. -/
theorem Fault.isA_transition (e : Entity) (id : Int) (source target : String) (c : FaultClass) :
    (Fault.transition e id source target).isA c = true ↔ c = .invalidTransition := by
  simp [Fault.isA, Fault.classes]

/-- The reason a move records is the one given, unless it trims to nothing. -/
theorem reasonOr_eq_trim (reason fallback : String) :
    reasonOr reason fallback = if Text.trim reason = "" then fallback else reason := by
  simp only [reasonOr, Text.isBlankText_iff_trim_eq]

example : reasonOr "\u3000\t " "order cancelled" = "order cancelled" := by decide +kernel

/-- A text that names no order stage is read as itself. -/
theorem OrderStatus.ofText_of_parse?_eq_none {s : String} (h : OrderStatus.parse? s = none) :
    OrderStatus.ofText s = .other s := by
  unfold OrderStatus.ofText
  rw [show OrderStatus.all.find? (·.toText == s) = none from h]

/-- A text that names no payment stage is read as itself. -/
theorem PaymentStatus.ofText_of_parse?_eq_none {s : String} (h : PaymentStatus.parse? s = none) :
    PaymentStatus.ofText s = .other s := by
  unfold PaymentStatus.ofText
  rw [show PaymentStatus.all.find? (·.toText == s) = none from h]

theorem Order.moveTo_map_eq_error_iff {o : Order} {t : OrderStatus} {f : Order → Order}
    {e : Fault} :
    (o.moveTo t).map f = .error e ↔
      o.status.canMoveTo t = false ∧ e = .transition .order o.id o.status.toText t.toText := by
  cases hc : o.status.canMoveTo t
  · simp [Order.moveTo, hc, Except.map, eq_comm]
  · simp [Order.moveTo, hc, Except.map]

theorem Payment.moveTo_map_eq_error_iff {p : Payment} {t : PaymentStatus} {f : Payment → Payment}
    {e : Fault} :
    (p.moveTo t).map f = .error e ↔
      p.status.canMoveTo t = false ∧ e = .transition .payment p.id p.status.toText t.toText := by
  cases hc : p.status.canMoveTo t
  · simp [Payment.moveTo, hc, Except.map, eq_comm]
  · simp [Payment.moveTo, hc, Except.map]

/-! ## The named moves of an order -/

/-- The named stage moves of an order, with what each carries. -/
inductive OrderTransition where
  | confirm
  | markPaymentProcessing
  | complete (paymentId : Int)
  | fail (reason : String)
  | cancel (reason : String)
  deriving DecidableEq, Repr

namespace OrderTransition

/-- The stage a move asks for. -/
def target : OrderTransition → OrderStatus
  | confirm => .confirmed
  | markPaymentProcessing => .paymentProcessing
  | complete _ => .completed
  | fail _ => .failed
  | cancel _ => .cancelled

/-- Makes the move on an order. -/
def run : OrderTransition → Order → Except Fault Order
  | confirm, o => o.confirm
  | markPaymentProcessing, o => o.markPaymentProcessing
  | complete paymentId, o => o.complete paymentId
  | fail reason, o => o.fail reason
  | cancel reason, o => o.cancel reason

/-- The fields a move writes besides the stage: the payment that settled the order, or the
reason, which is the one given unless it trims to nothing. -/
def write : OrderTransition → Order → Order
  | confirm, o => o
  | markPaymentProcessing, o => o
  | complete paymentId, o => { o with paymentId := some paymentId }
  | fail reason, o =>
    { o with failureReason := if Text.trim reason = "" then "order processing failed" else reason }
  | cancel reason, o =>
    { o with failureReason := if Text.trim reason = "" then "order cancelled" else reason }

/-- Every named move is the table's stage move followed by the move's own writes. -/
theorem run_eq_map (m : OrderTransition) (o : Order) :
    m.run o = (o.moveTo m.target).map m.write := by
  cases m with
  | confirm | markPaymentProcessing => exact (congrFun Except.map_id (o.moveTo _)).symm
  | complete paymentId => rfl
  | fail reason | cancel reason => simp only [run, Order.fail, Order.cancel, reasonOr_eq_trim]; rfl

theorem run_eq_ok_iff {m : OrderTransition} {o x : Order} :
    m.run o = .ok x ↔
      o.status.canMoveTo m.target = true ∧ x = m.write { o with status := m.target } := by
  rw [run_eq_map, Order.moveTo_map_eq_ok_iff]

theorem run_eq_error_iff {m : OrderTransition} {o : Order} {e : Fault} :
    m.run o = .error e ↔
      o.status.canMoveTo m.target = false ∧
        e = .transition .order o.id o.status.toText m.target.toText := by
  rw [run_eq_map, Order.moveTo_map_eq_error_iff]

/-- Every move from a status text that names no stage is refused, and the fault quotes the text. -/
theorem run_unnamed {s : String} (hs : OrderStatus.parse? s = none) (m : OrderTransition)
    (o : Order) :
    m.run { o with status := OrderStatus.ofText s } =
      .error (.transition .order o.id s m.target.toText) := by
  rw [run_eq_error_iff, OrderStatus.ofText_of_parse?_eq_none hs]
  exact ⟨rfl, rfl⟩

end OrderTransition

/-! ## The named moves of a payment -/

/-- The named stage moves of a payment, with what each carries. -/
inductive PaymentTransition where
  | markProcessing
  | markCompleted (transactionId : String) (at_ : Instant)
  | markFailed (reason : String) (at_ : Instant)
  | cancel
  deriving DecidableEq, Repr

namespace PaymentTransition

/-- The stage a move asks for. -/
def target : PaymentTransition → PaymentStatus
  | markProcessing => .processing
  | markCompleted .. => .completed
  | markFailed .. => .failed
  | cancel => .cancelled

/-- Makes the move on a payment. -/
def run : PaymentTransition → Payment → Except Fault Payment
  | markProcessing, p => p.markProcessing
  | markCompleted transactionId at_, p => p.markCompleted transactionId at_
  | markFailed reason at_, p => p.markFailed reason at_
  | cancel, p => p.cancel

/-- The fields a move writes besides the stage: the transaction id and the moment of a
settlement, or the reason, which is the one given unless it trims to nothing, and the moment of
a failure. -/
def write : PaymentTransition → Payment → Payment
  | markProcessing, p => p
  | markCompleted transactionId at_, p =>
    { p with transactionId := transactionId, processedAt := some at_ }
  | markFailed reason at_, p =>
    { p with failureReason := if Text.trim reason = "" then "payment failed" else reason,
             processedAt := some at_ }
  | cancel, p => p

/-- Every named move is the table's stage move followed by the move's own writes. -/
theorem run_eq_map (m : PaymentTransition) (p : Payment) :
    m.run p = (p.moveTo m.target).map m.write := by
  cases m with
  | markProcessing | cancel => exact (congrFun Except.map_id (p.moveTo _)).symm
  | markCompleted transactionId at_ => rfl
  | markFailed reason at_ => simp only [run, Payment.markFailed, reasonOr_eq_trim]; rfl

theorem run_eq_ok_iff {m : PaymentTransition} {p x : Payment} :
    m.run p = .ok x ↔
      p.status.canMoveTo m.target = true ∧ x = m.write { p with status := m.target } := by
  rw [run_eq_map, Payment.moveTo_map_eq_ok_iff]

theorem run_eq_error_iff {m : PaymentTransition} {p : Payment} {e : Fault} :
    m.run p = .error e ↔
      p.status.canMoveTo m.target = false ∧
        e = .transition .payment p.id p.status.toText m.target.toText := by
  rw [run_eq_map, Payment.moveTo_map_eq_error_iff]

/-- Every move from a status text that names no stage is refused, and the fault quotes the text. -/
theorem run_unnamed {s : String} (hs : PaymentStatus.parse? s = none) (m : PaymentTransition)
    (p : Payment) :
    m.run { p with status := PaymentStatus.ofText s } =
      .error (.transition .payment p.id s m.target.toText) := by
  rw [run_eq_error_iff, PaymentStatus.ofText_of_parse?_eq_none hs]
  exact ⟨rfl, rfl⟩

end PaymentTransition

/-! ## All or nothing -/

/-- **Every named stage move is all or nothing**, for orders and payments, at every stage and at
every text that names no stage. A move succeeds exactly when the lifecycle table allows it, and
then writes the target stage and its own fields and nothing else. Otherwise it returns the
record's transition fault, from the text of its stage to the text of the target, and that fault
is of the invalid-transition class alone. A move from a text that names no stage is refused and
the fault quotes that text. -/
theorem stage_moves_all_or_nothing :
    (∀ (m : OrderTransition) (o x : Order) (f : Fault),
      (m.run o = .ok x ↔
        o.status.canMoveTo m.target = true ∧ x = m.write { o with status := m.target }) ∧
      (m.run o = .error f ↔
        o.status.canMoveTo m.target = false ∧
          f = .transition .order o.id o.status.toText m.target.toText)) ∧
    (∀ (m : PaymentTransition) (p y : Payment) (f : Fault),
      (m.run p = .ok y ↔
        p.status.canMoveTo m.target = true ∧ y = m.write { p with status := m.target }) ∧
      (m.run p = .error f ↔
        p.status.canMoveTo m.target = false ∧
          f = .transition .payment p.id p.status.toText m.target.toText)) ∧
    (∀ s : String, OrderStatus.parse? s = none → ∀ (m : OrderTransition) (o : Order),
      m.run { o with status := OrderStatus.ofText s } =
        .error (.transition .order o.id s m.target.toText)) ∧
    (∀ s : String, PaymentStatus.parse? s = none → ∀ (m : PaymentTransition) (p : Payment),
      m.run { p with status := PaymentStatus.ofText s } =
        .error (.transition .payment p.id s m.target.toText)) ∧
    (∀ (e : Entity) (id : Int) (source target : String) (c : FaultClass),
      (Fault.transition e id source target).isA c = true ↔ c = .invalidTransition) :=
  ⟨fun _ _ _ _ => ⟨OrderTransition.run_eq_ok_iff, OrderTransition.run_eq_error_iff⟩,
    fun _ _ _ _ => ⟨PaymentTransition.run_eq_ok_iff, PaymentTransition.run_eq_error_iff⟩,
    fun _ hs => OrderTransition.run_unnamed hs, fun _ hs => PaymentTransition.run_unnamed hs,
    Fault.isA_transition⟩

/-- A new order whose status text is `SHIPPED`, which names no stage, cannot be confirmed. -/
theorem shipped_order_not_confirmed :
    OrderStatus.parse? "SHIPPED" = none ∧
      OrderTransition.confirm.run
          { Order.create 1 "" with status := OrderStatus.ofText "SHIPPED" } =
        .error (.transition .order 0 "SHIPPED" "CONFIRMED") :=
  ⟨by decide +kernel,
    stage_moves_all_or_nothing.2.2.1 "SHIPPED" (by decide +kernel) .confirm (Order.create 1 "")⟩

end Fulfillment
