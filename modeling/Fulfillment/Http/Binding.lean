import Fulfillment.Json.Reader
import Fulfillment.Model.Request
import Fulfillment.Text.Email

/-!
# Binding request bodies

A request body is bound in three stages, and the first that fails gives the complaint, put
after `invalid request: ` in a validation fault:

1. the first JSON value of the body is read as a streaming decoder reads it (an empty body is
   `EOF`, a cut-off one `unexpected EOF`, see `Payload.firstValue`);
2. the value is decoded into the request record;
3. the record's fields are checked against their binding rules.

Each field has a list of rules, checked in order; a field reports only its first broken rule,
and every field with a broken rule is reported, in field order, one line each:
`Key: '<Record>.<Field>' Error:Field validation for '<Field>' failed on the '<tag>' tag`.

A text is `required` when it is not empty, a number when it is not zero, a list when it is
present (an empty list is present). `max`, `gt` and `min` bound the size of a field: the number
of characters of a text, the value of a number, the length of a list.
-/

namespace Fulfillment.Http

/-- A rule from a request's binding tags. -/
inductive Rule where
  | required
  | atMost (n : Nat)
  | above (n : Nat)
  | atLeast (n : Nat)
  | email
  deriving DecidableEq, Inhabited, Repr

/-- A field's value as the rules see it: a text, a whole number, or a list that may be absent. -/
inductive FieldValue where
  | text (s : String)
  | whole (n : Int)
  | items (present : Bool) (count : Nat)
  deriving DecidableEq, Inhabited, Repr

/-- The size the bounding rules measure. -/
def FieldValue.size : FieldValue → Int
  | .text s => s.length
  | .whole n => n
  | .items _ k => k

namespace Rule

/-- The tag a rule is named by. -/
def tag : Rule → String
  | required => "required"
  | atMost _ => "max"
  | above _ => "gt"
  | atLeast _ => "min"
  | email => "email"

/-- Whether a value keeps a rule. -/
def holds : Rule → FieldValue → Bool
  | required, .text s => !s.isEmpty
  | required, .whole n => n != 0
  | required, .items present _ => present
  | atMost n, v => v.size ≤ n
  | above n, v => n < v.size
  | atLeast n, v => n ≤ v.size
  | email, .text s => Text.isEmail s
  | email, _ => false

end Rule

/-- A field of a request record with its value and its rules. -/
structure FieldRules where
  name : String
  value : FieldValue
  rules : List Rule

/-- The first rule a field breaks. -/
def FieldRules.broken (f : FieldRules) : Option Rule :=
  f.rules.find? fun r => !r.holds f.value

/-- The line that reports a broken rule of a field of the record `owner`. -/
def brokenLine (owner : String) (f : FieldRules) (r : Rule) : String :=
  "Key: '" ++ owner ++ "." ++ f.name ++ "' Error:Field validation for '" ++ f.name ++
    "' failed on the '" ++ r.tag ++ "' tag"

/-- The report on the fields of a record, if any of them breaks a rule. -/
def verdict (owner : String) (fields : List FieldRules) : Option String :=
  match fields.filterMap (fun f => f.broken.map (brokenLine owner f)) with
  | [] => none
  | lines => some ("\n".intercalate lines)

/-- The binding rules of an order request. -/
def OrderRequest.bindingRules (r : OrderRequest) : List FieldRules :=
  [⟨"CustomerID", .whole r.customerId, [.required, .above 0]⟩,
   ⟨"Items", .items r.items.isSome (r.items.getD []).length, [.required, .atLeast 1]⟩]

/-- The binding rules of a payment request. -/
def PaymentRequest.bindingRules (r : PaymentRequest) : List FieldRules :=
  [⟨"OrderID", .whole r.orderId, [.required, .above 0]⟩]

/-- The binding rules of an order move. -/
def OrderMove.bindingRules (r : OrderMove) : List FieldRules :=
  [⟨"Status", .text r.status, [.required]⟩]

/-- The binding rules of a payment move. -/
def PaymentMove.bindingRules (r : PaymentMove) : List FieldRules :=
  [⟨"Status", .text r.status, [.required]⟩]

/-- The binding rules of a customer's contact details. -/
def Contact.bindingRules (c : Contact) : List FieldRules :=
  [⟨"FirstName", .text c.firstName.toText, [.required, .atMost 50]⟩,
   ⟨"LastName", .text c.lastName.toText, [.required, .atMost 50]⟩,
   ⟨"Email", .text c.email.toText, [.required, .email]⟩,
   ⟨"PhoneNumber", .text c.phone.toText, [.atMost 15]⟩,
   ⟨"Address", .text c.address.toText, [.atMost 200]⟩]

/-- A record type a request body binds to: its name, its reader, and its rules. -/
structure Binding (α : Type) where
  owner : String
  decode : Json → Except String α
  rules : α → List FieldRules

/-- Binds a body from its first JSON value as read, or the complaint about reading it: decode,
check. -/
def Binding.bind {α : Type} (b : Binding α) (read : Except String Json) : Except Fault α :=
  let refuse (complaint : String) : Except Fault α :=
    .error (.invalid ("invalid request: " ++ complaint))
  match read with
  | .error e => refuse e
  | .ok j =>
    match b.decode j with
    | .error e => refuse e
    | .ok v =>
      match verdict b.owner (b.rules v) with
      | some report => refuse report
      | none => .ok v

/-- How an order request is bound. -/
def orderBinding : Binding OrderRequest :=
  ⟨"CreateOrderRequest", OrderRequest.decode, OrderRequest.bindingRules⟩

/-- How an order move is bound. -/
def orderMoveBinding : Binding OrderMove :=
  ⟨"UpdateOrderStatusRequest", OrderMove.decode, OrderMove.bindingRules⟩

/-- How a cancellation is bound: it has no rules. -/
def cancelBinding : Binding String :=
  ⟨"CancelOrderRequest", decodeCancelReason, fun _ => []⟩

/-- How a payment request is bound. -/
def paymentBinding : Binding PaymentRequest :=
  ⟨"CreatePaymentRequest", PaymentRequest.decode, PaymentRequest.bindingRules⟩

/-- How a payment move is bound. -/
def paymentMoveBinding : Binding PaymentMove :=
  ⟨"UpdatePaymentStatusRequest", PaymentMove.decode, PaymentMove.bindingRules⟩

/-- How a customer's contact details are bound. -/
def contactBinding : Binding Contact :=
  ⟨"CustomerRequest", Contact.decode, Contact.bindingRules⟩

end Fulfillment.Http
