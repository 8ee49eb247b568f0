import Fulfillment.Model.Request
import Fulfillment.Script.Answer
import Fulfillment.Script.Input

/-!
# Single questions

Operations that answer one question with no state: whether a stage move is allowed, whether a
text names a stage, whether a category is valid, whether an item or a request passes its rules,
a new item, the outcome of a settlement that succeeds always or never, a permanent fault, and a
span with a fallback.
-/

namespace Fulfillment.Script

open Json

/-- Whether an order may move between two stage texts. -/
def orderCanTransition (i : Input) : Json :=
  .obj [("allowed", .bool ((OrderStatus.ofText i.source).canMoveTo (OrderStatus.ofText i.target)))]

/-- Whether a payment may move between two stage texts. -/
def paymentCanTransition (i : Input) : Json :=
  .obj [("allowed", .bool
    ((PaymentStatus.ofText i.source).canMoveTo (PaymentStatus.ofText i.target)))]

/-- Whether a text names a final order stage, and the stage it names. -/
def orderStatusAnswer (i : Input) : Json :=
  let s := i.status
  let terminal := ("terminal", Json.bool (OrderStatus.ofText s).isTerminal)
  match OrderStatus.parse? s with
  | some st => .obj [terminal, ("parsed", .str st.toText)]
  | none => .obj [terminal,
      ("parse_error", faultAnswer (.invalid ("unknown order status " ++ Text.quote s)))]

/-- Whether a text names a final payment stage, and the stage it names. -/
def paymentStatusAnswer (i : Input) : Json :=
  let s := i.status
  let terminal := ("terminal", Json.bool (PaymentStatus.ofText s).isTerminal)
  match PaymentStatus.parse? s with
  | some st => .obj [terminal, ("parsed", .str st.toText)]
  | none => .obj [terminal,
      ("parse_error", faultAnswer (.invalid ("unknown payment status " ++ Text.quote s)))]

/-- Whether a category text is valid. -/
def categoryAnswer (i : Input) : Json :=
  .obj [("valid", .bool (categoryValid i.category))]

/-- The answer to a rule check of a decoded value. -/
def checkedAnswer {α : Type} (decoded : Except String α) (check : α → Option Fault)
    (render : α → Json) : Json :=
  match decoded with
  | .error e => decodeProblem e
  | .ok v =>
    match check v with
    | some f => faultAnswer f
    | none => .obj [("valid", .bool true), ("value", render v)]

/-- Checks an item. -/
def validateItem (i : Input) : Json :=
  checkedAnswer (readDocument Item.decode i.value) Item.check Item.toJson

/-- Checks an order request. -/
def validateOrderRequest (i : Input) : Json :=
  checkedAnswer (readDocument OrderRequest.decode i.value) OrderRequest.check OrderRequest.toJson

/-- Checks a payment request. -/
def validatePaymentRequest (i : Input) : Json :=
  checkedAnswer (readDocument PaymentRequest.decode i.value) PaymentRequest.check
    PaymentRequest.toJson

/-- A new item from a name, a quantity and a unit price text. -/
def newOrderItem (i : Input) : Json :=
  match Decimal.ofText i.unitPrice with
  | .error e => decodeProblem e
  | .ok price => .obj [("item", (Item.make i.name i.quantity price).toJson)]

/-- Whether a double is above one half. -/
def aboveHalf (x : Number.Binary64) : Bool :=
  let (top, bottom) := x.magnitude
  !x.negative && bottom < 2 * top

/-- A settlement that succeeds when a draw from [0, 1) falls below the given rate: a cancelled
attempt fails first. The draw is taken to be one half, so a rate of at least one always succeeds,
a rate of zero or less always declines, and rates near either end go the way they almost surely
go. -/
def randomSettlement (i : Input) : Json :=
  if i.cancelled then faultAnswer (.note "context canceled")
  else if aboveHalf i.rate then okAnswer
  else faultAnswer (.note "payment declined by gateway")

/-- A permanent fault reads as the fault it wraps. -/
def permanentAnswer (i : Input) : Json :=
  .obj [("message", .str i.message), ("unwraps", .bool true)]

/-- A span given in milliseconds, or the fallback when it is not positive, in whole
milliseconds. -/
def orDefault (i : Input) : Json :=
  let d := (Duration.ofMillis i.spanMs).orDefault (Duration.ofMillis i.fallbackMs)
  .obj [("ms", Json.int d.toMillis)]

end Fulfillment.Script
