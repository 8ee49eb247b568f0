import Fulfillment.Json.Decode
import Fulfillment.Model.Customer
import Fulfillment.Model.Order
import Fulfillment.Model.Payment

/-!
# Requests

What clients send: an order to place, a payment to create, a stage to move an order or a payment
to, a cancellation, and a customer's contact details. Each has a reader from JSON with the rules
of `Fulfillment.Json.Decode`, and the requests that carry business rules have a `check` that
reports the first rule broken.

An order request needs a positive customer id, at least one item, and every item must pass
`Item.check`; a broken item is reported as `item <i>: ` followed by its own complaint. A payment
request needs a positive order id and a positive amount.
-/

namespace Fulfillment

open Json

/-- How the members of an item are read. -/
def itemFields : List (FieldReader Item) :=
  [⟨"id", fun p j i => do return { i with id := ← readIntField "int64" p j i.id }⟩,
   ⟨"product_name", fun p j i => do return { i with name := ← readTextField "string" p j i.name }⟩,
   ⟨"product_description", fun p j i => do
      return { i with description := ← readTextField "string" p j i.description }⟩,
   ⟨"product_category", fun p j i => do
      return { i with category := ← readTextField "models.ProductCategory" p j i.category }⟩,
   ⟨"quantity", fun p j i => do return { i with quantity := ← readIntField "int" p j i.quantity }⟩,
   ⟨"unit_price", fun p j i => do
      return { i with unitPrice := ← readDecimalField p j i.unitPrice }⟩,
   ⟨"total_price", fun p j i => do
      return { i with totalPrice := ← readDecimalField p j i.totalPrice }⟩]

/-- Reads an item. -/
def Item.decode (j : Json) : Except String Item :=
  decodeModel "OrderItem" itemFields Item.blank j

/-- An order a client asks to place. -/
structure OrderRequest where
  customerId : Int
  items : Option (List Item)
  notes : String
  deriving Inhabited, Repr

namespace OrderRequest

/-- The members of an order request, read with the spare items of a repeated `items` member
(see `readList`). -/
def fields : List (FieldReader (OrderRequest × List Item)) :=
  [⟨"customer_id", fun p j (r, spare) => do
      return ({ r with customerId := ← readIntField "int64" p j r.customerId }, spare)⟩,
   ⟨"items", fun p j (r, spare) => do
      let (items, spare) ← readList "[]models.OrderItem" Item.blank
        (readRecord "models.OrderItem" itemFields) p j (r.items, spare)
      return ({ r with items := items }, spare)⟩,
   ⟨"notes", fun p j (r, spare) => do
      return ({ r with notes := ← readTextField "string" p j r.notes }, spare)⟩]

/-- Reads an order request. -/
def decode (j : Json) : Except String OrderRequest :=
  (decodeModel "CreateOrderRequest" fields (⟨0, none, ""⟩, []) j).map (·.1)

/-- The first broken item and its position. -/
def firstBroken : Nat → List Item → Option (Nat × Fault)
  | _, [] => none
  | n, i :: rest =>
    match i.check with
    | some f => some (n, f)
    | none => firstBroken (n + 1) rest

/-- The first rule an order request breaks. -/
def check (r : OrderRequest) : Option Fault :=
  if r.customerId ≤ 0 then some (.invalid "customer_id must be greater than 0")
  else
    let items := r.items.getD []
    if items.isEmpty then some (.invalid "order must contain at least one item")
    else (firstBroken 0 items).map fun (n, f) =>
      .invalid ("item " ++ toString n ++ ": " ++ f.message)

/-- The request as JSON; absent items are `null`. -/
def toJson (r : OrderRequest) : Json :=
  .obj [("customer_id", Json.int r.customerId),
        ("items", match r.items with
          | some is => .arr (is.map Item.toJson)
          | none => .null),
        ("notes", .str r.notes)]

end OrderRequest

/-- A payment a client asks to create. -/
structure PaymentRequest where
  orderId : Int
  amount : Decimal
  method : String
  deriving Inhabited, Repr

namespace PaymentRequest

/-- The members of a payment request. -/
def fields : List (FieldReader PaymentRequest) :=
  [⟨"order_id", fun p j r => do return { r with orderId := ← readIntField "int64" p j r.orderId }⟩,
   ⟨"amount", fun p j r => do return { r with amount := ← readDecimalField p j r.amount }⟩,
   ⟨"payment_method", fun p j r => do
      return { r with method := ← readTextField "string" p j r.method }⟩]

/-- Reads a payment request. -/
def decode (j : Json) : Except String PaymentRequest :=
  decodeModel "CreatePaymentRequest" fields ⟨0, Decimal.zero, ""⟩ j

/-- The first rule a payment request breaks. -/
def check (r : PaymentRequest) : Option Fault :=
  if r.orderId ≤ 0 then some (.invalid "order_id must be greater than 0")
  else if !r.amount.isPositive then some (.invalid "amount must be greater than 0")
  else none

/-- The request as JSON; an empty method is left out. -/
def toJson (r : PaymentRequest) : Json :=
  .obj <| [("order_id", Json.int r.orderId), ("amount", .str r.amount.toText)] ++
    (if r.method.isEmpty then [] else [("payment_method", .str r.method)])

end PaymentRequest

/-- A stage an order is asked to move to, with the payment id or reason it may need. -/
structure OrderMove where
  status : String
  paymentId : Option Int
  reason : String
  deriving Inhabited, Repr

namespace OrderMove

/-- The members of an order move. -/
def fields : List (FieldReader OrderMove) :=
  [⟨"status", fun p j r => do return { r with status := ← readTextField "string" p j r.status }⟩,
   ⟨"payment_id", fun p j r => do
      return { r with paymentId := ← readOptIntField p j r.paymentId }⟩,
   ⟨"reason", fun p j r => do return { r with reason := ← readTextField "string" p j r.reason }⟩]

/-- Reads an order move. -/
def decode (j : Json) : Except String OrderMove :=
  decodeModel "UpdateOrderStatusRequest" fields ⟨"", none, ""⟩ j

end OrderMove

/-- A stage a payment is asked to move to, with its reason or transaction id. -/
structure PaymentMove where
  status : String
  reason : String
  transactionId : String
  deriving Inhabited, Repr

namespace PaymentMove

/-- The members of a payment move. -/
def fields : List (FieldReader PaymentMove) :=
  [⟨"status", fun p j r => do return { r with status := ← readTextField "string" p j r.status }⟩,
   ⟨"reason", fun p j r => do return { r with reason := ← readTextField "string" p j r.reason }⟩,
   ⟨"transaction_id", fun p j r => do
      return { r with transactionId := ← readTextField "string" p j r.transactionId }⟩]

/-- Reads a payment move. -/
def decode (j : Json) : Except String PaymentMove :=
  decodeModel "UpdatePaymentStatusRequest" fields ⟨"", "", ""⟩ j

end PaymentMove

/-- Reads the reason of a cancellation. -/
def decodeCancelReason (j : Json) : Except String String :=
  decodeModel "CancelOrderRequest"
    [⟨"reason", fun p j r => readTextField "string" p j r⟩] "" j

namespace Contact

/-- The members of a contact. -/
def fields : List (FieldReader Contact) :=
  [⟨"first_name", fun p j r => do
      return { r with firstName := ← readBytesField "string" p j r.firstName }⟩,
   ⟨"last_name", fun p j r => do
      return { r with lastName := ← readBytesField "string" p j r.lastName }⟩,
   ⟨"email", fun p j r => do return { r with email := ← readBytesField "string" p j r.email }⟩,
   ⟨"phone_number", fun p j r => do
      return { r with phone := ← readBytesField "string" p j r.phone }⟩,
   ⟨"address", fun p j r => do
      return { r with address := ← readBytesField "string" p j r.address }⟩]

/-- Reads a contact. -/
def decode (j : Json) : Except String Contact :=
  decodeModel "CustomerRequest" fields default j

end Contact

end Fulfillment
