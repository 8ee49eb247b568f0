import Fulfillment.Clock.Instant
import Fulfillment.Json.Basic
import Fulfillment.Text.Bytes

/-!
# Customers

A customer has a first and last name, an e-mail address, and optionally a phone number and an
address, each any string of bytes. A `Contact` is what a client sends to create or change a
customer; `Contact.normalize` trims every field and lowers the e-mail address, which is the form
the directory keeps.
-/

namespace Fulfillment

/-- A customer of the shop. -/
structure Customer where
  id : Int
  firstName : Bytes
  lastName : Bytes
  email : Bytes
  phone : Bytes
  address : Bytes
  createdAt : Instant
  updatedAt : Instant
  deriving DecidableEq, Inhabited, Repr

/-- The details a client sends for a customer. -/
structure Contact where
  firstName : Bytes
  lastName : Bytes
  email : Bytes
  phone : Bytes
  address : Bytes
  deriving DecidableEq, Inhabited, Repr

namespace Contact

/-- Every field trimmed, and the e-mail address lowered. -/
def normalize (c : Contact) : Contact :=
  ⟨c.firstName.trim, c.lastName.trim, c.email.trim.lower, c.phone.trim, c.address.trim⟩

end Contact

namespace Customer

/-- A customer with nothing set, as a failed lookup leaves it. -/
def blank : Customer := ⟨0, default, default, default, default, default, Instant.zero, Instant.zero⟩

/-- The customer with the details of a contact. -/
def withContact (c : Customer) (k : Contact) : Customer :=
  { c with firstName := k.firstName, lastName := k.lastName, email := k.email,
           phone := k.phone, address := k.address }

/-- The customer as JSON; an empty phone number or address is left out. -/
def toJson (c : Customer) : Json :=
  .obj <|
    [("id", Json.int c.id), ("first_name", .str c.firstName.toText),
     ("last_name", .str c.lastName.toText), ("email", .str c.email.toText)] ++
    (if c.phone.isEmpty then [] else [("phone_number", .str c.phone.toText)]) ++
    (if c.address.isEmpty then [] else [("address", .str c.address.toText)]) ++
    [("created_at", .str c.createdAt.toText), ("updated_at", .str c.updatedAt.toText)]

end Customer

end Fulfillment
