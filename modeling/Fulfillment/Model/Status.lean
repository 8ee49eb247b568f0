/-!
# Order and payment stages

An order moves PENDING → CONFIRMED → PAYMENT_PROCESSING → COMPLETED, and may end FAILED or
CANCELLED from any of the first three stages. A payment moves PENDING → PROCESSING → COMPLETED;
a pending payment may fail or be cancelled, a processing one may fail. COMPLETED, FAILED and
CANCELLED are final. A status text that names no stage (`other`) is final for no one and moves
nowhere.

`ofText` reads the exact stage names (case matters) and keeps any other text as `other`, so that
`toText (ofText s) = s` for every text.
-/

namespace Fulfillment

/-- The stage of an order, or a text that names no stage. -/
inductive OrderStatus where
  | pending
  | confirmed
  | paymentProcessing
  | completed
  | failed
  | cancelled
  | other (text : String)
  deriving DecidableEq, Inhabited, Repr

namespace OrderStatus

/-- The six stages, in the order of the lifecycle. -/
def all : List OrderStatus := [pending, confirmed, paymentProcessing, completed, failed, cancelled]

/-- The name of a stage. -/
def toText : OrderStatus → String
  | pending => "PENDING"
  | confirmed => "CONFIRMED"
  | paymentProcessing => "PAYMENT_PROCESSING"
  | completed => "COMPLETED"
  | failed => "FAILED"
  | cancelled => "CANCELLED"
  | other t => t

/-- The stage a text names, or the text kept as it is. -/
def ofText (s : String) : OrderStatus :=
  match all.find? (·.toText == s) with
  | some st => st
  | none => other s

/-- The stage a text names exactly. -/
def parse? (s : String) : Option OrderStatus := all.find? (·.toText == s)

/-- Whether an order may move from one stage to another. -/
def canMoveTo : OrderStatus → OrderStatus → Bool
  | pending, confirmed => true
  | pending, failed => true
  | pending, cancelled => true
  | confirmed, paymentProcessing => true
  | confirmed, failed => true
  | confirmed, cancelled => true
  | paymentProcessing, completed => true
  | paymentProcessing, failed => true
  | paymentProcessing, cancelled => true
  | _, _ => false

/-- Whether a stage is final. -/
def isTerminal : OrderStatus → Bool
  | completed | failed | cancelled => true
  | _ => false

theorem not_canMoveTo_of_isTerminal {s t : OrderStatus} (h : s.isTerminal = true) :
    s.canMoveTo t = false := by
  cases s <;> cases t <;> simp_all [isTerminal, canMoveTo]

end OrderStatus

/-- The stage of a payment, or a text that names no stage. -/
inductive PaymentStatus where
  | pending
  | processing
  | completed
  | failed
  | cancelled
  | other (text : String)
  deriving DecidableEq, Inhabited, Repr

namespace PaymentStatus

/-- The five stages, in the order of the lifecycle. -/
def all : List PaymentStatus := [pending, processing, completed, failed, cancelled]

/-- The name of a stage. -/
def toText : PaymentStatus → String
  | pending => "PENDING"
  | processing => "PROCESSING"
  | completed => "COMPLETED"
  | failed => "FAILED"
  | cancelled => "CANCELLED"
  | other t => t

/-- The stage a text names, or the text kept as it is. -/
def ofText (s : String) : PaymentStatus :=
  match all.find? (·.toText == s) with
  | some st => st
  | none => other s

/-- The stage a text names exactly. -/
def parse? (s : String) : Option PaymentStatus := all.find? (·.toText == s)

/-- Whether a payment may move from one stage to another. -/
def canMoveTo : PaymentStatus → PaymentStatus → Bool
  | pending, processing => true
  | pending, failed => true
  | pending, cancelled => true
  | processing, completed => true
  | processing, failed => true
  | _, _ => false

/-- Whether a stage is final. -/
def isTerminal : PaymentStatus → Bool
  | completed | failed | cancelled => true
  | _ => false

theorem not_canMoveTo_of_isTerminal {s t : PaymentStatus} (h : s.isTerminal = true) :
    s.canMoveTo t = false := by
  cases s <;> cases t <;> simp_all [isTerminal, canMoveTo]

end PaymentStatus

end Fulfillment
