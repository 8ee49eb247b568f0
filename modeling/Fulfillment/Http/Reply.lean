import Fulfillment.Model.Request

/-!
# Reading answers back

A service that calls another reads the JSON body of a successful answer into the record it
asked for, with the rules of `Fulfillment.Json.Decode`: a customer, a payment, or a bare `true`
or `false`. Times are RFC 3339 text (see `Instant.ofText?`); `null` leaves a field as it was,
and a `null` payment time means the payment has none.
-/

namespace Fulfillment

open Json

/-- A time field. -/
def readTimeField (_place : Place) (j : Json) (cur : Instant) : Decoding Instant :=
  match j with
  | .null => pure cur
  | .string s _ =>
    match Instant.ofText? s with
    | some t => pure t
    | none => throw ("parsing time " ++ Text.quote s ++ " as RFC 3339")
  | _ => throw "Time.UnmarshalJSON: input is not a JSON string"

/-- A time field that may be absent. -/
def readOptTimeField (place : Place) (j : Json) (cur : Option Instant) :
    Decoding (Option Instant) :=
  match j with
  | .null => pure none
  | other => do return some (← readTimeField place other (cur.getD Instant.zero))

namespace Customer

/-- How the members of a customer are read. -/
def fields : List (FieldReader Customer) :=
  [⟨"id", fun p j c => do return { c with id := ← readIntField "int64" p j c.id }⟩,
   ⟨"first_name", fun p j c => do
      return { c with firstName := ← readBytesField "string" p j c.firstName }⟩,
   ⟨"last_name", fun p j c => do
      return { c with lastName := ← readBytesField "string" p j c.lastName }⟩,
   ⟨"email", fun p j c => do return { c with email := ← readBytesField "string" p j c.email }⟩,
   ⟨"phone_number", fun p j c => do
      return { c with phone := ← readBytesField "string" p j c.phone }⟩,
   ⟨"address", fun p j c => do
      return { c with address := ← readBytesField "string" p j c.address }⟩,
   ⟨"created_at", fun p j c => do return { c with createdAt := ← readTimeField p j c.createdAt }⟩,
   ⟨"updated_at", fun p j c => do return { c with updatedAt := ← readTimeField p j c.updatedAt }⟩]

/-- Reads a customer. -/
def decode (j : Json) : Except String Customer :=
  decodeModel "Customer" fields blank j

end Customer

namespace Payment

/-- How the members of a payment are read. -/
def fields : List (FieldReader Payment) :=
  [⟨"id", fun p j x => do return { x with id := ← readIntField "int64" p j x.id }⟩,
   ⟨"order_id", fun p j x => do return { x with orderId := ← readIntField "int64" p j x.orderId }⟩,
   ⟨"amount", fun p j x => do return { x with amount := ← readDecimalField p j x.amount }⟩,
   ⟨"status", fun p j x => do
      let t ← readTextField "models.PaymentStatus" p j x.status.toText
      return { x with status := PaymentStatus.ofText t }⟩,
   ⟨"payment_method", fun p j x => do
      return { x with method := ← readTextField "string" p j x.method }⟩,
   ⟨"transaction_id", fun p j x => do
      return { x with transactionId := ← readTextField "string" p j x.transactionId }⟩,
   ⟨"failure_reason", fun p j x => do
      return { x with failureReason := ← readTextField "string" p j x.failureReason }⟩,
   ⟨"processed_at", fun p j x => do
      return { x with processedAt := ← readOptTimeField p j x.processedAt }⟩,
   ⟨"version", fun p j x => do return { x with version := ← readIntField "int64" p j x.version }⟩,
   ⟨"created_at", fun p j x => do return { x with createdAt := ← readTimeField p j x.createdAt }⟩,
   ⟨"updated_at", fun p j x => do return { x with updatedAt := ← readTimeField p j x.updatedAt }⟩]

/-- Reads a payment. -/
def decode (j : Json) : Except String Payment :=
  decodeModel "Payment" fields blank j

end Payment

/-- Reads a bare `true` or `false`; `null` is `false`. -/
def decodeFlag : Json → Except String Bool
  | .bool b => .ok b
  | .null => .ok false
  | other => .error ("json: cannot unmarshal " ++ kindWord other ++ " into Go value of type bool")

end Fulfillment
