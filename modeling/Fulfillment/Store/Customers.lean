import Fulfillment.Model.Customer
import Fulfillment.Model.Fault

/-!
# The customer directory store

A `CustomerStore` keeps customers in the order they were added, which is increasing id order,
and the last id it handed out. Ids are never reused, even after a deletion. No two stored
customers have e-mail addresses that are equal under case folding: `create` and `update`
refuse an address another customer already has.
-/

namespace Fulfillment

/-- Stored customers, by increasing id, and the last id handed out. -/
structure CustomerStore where
  customers : List Customer
  lastId : Int
  deriving Inhabited

namespace CustomerStore

/-- A store with no customers. -/
def empty : CustomerStore := ⟨[], 0⟩

/-- The fault for a missing customer. -/
def notFound : Fault := .missing .customer

/-- The fault for an e-mail address another customer has. -/
def emailTaken (email : Bytes) : Fault :=
  .within ("customer with email " ++ email.toText) (.bare .alreadyExists)

/-- Whether a customer other than `except` has an address equal to `email` under folding. -/
def takes (s : CustomerStore) (email : Bytes) (except : Int) : Bool :=
  s.customers.any fun c => c.id != except && c.email.foldEq email

/-- Adds a customer under the next id, stamped with `now`. -/
def create (s : CustomerStore) (c : Customer) (now : Instant) :
    Except Fault (Customer × CustomerStore) :=
  if s.takes c.email 0 then .error (emailTaken c.email)
  else
    let stored := { c with id := s.lastId + 1, createdAt := now, updatedAt := now }
    .ok (stored, ⟨s.customers ++ [stored], s.lastId + 1⟩)

/-- The stored customer with an id. -/
def find (s : CustomerStore) (id : Int) : Except Fault Customer :=
  match s.customers.find? (·.id == id) with
  | some c => .ok c
  | none => .error notFound

/-- Replaces the stored customer with the same id, keeping its creation time. -/
def update (s : CustomerStore) (c : Customer) (now : Instant) :
    Except Fault (Customer × CustomerStore) :=
  match s.customers.find? (·.id == c.id) with
  | none => .error notFound
  | some current =>
    if s.takes c.email c.id then .error (emailTaken c.email)
    else
      let stored := { c with createdAt := current.createdAt, updatedAt := now }
      .ok (stored, { s with customers := s.customers.map fun x => if x.id == c.id then stored else x })

/-- Removes the customer with an id. -/
def delete (s : CustomerStore) (id : Int) : Except Fault CustomerStore :=
  if s.customers.any (·.id == id) then .ok { s with customers := s.customers.filter (·.id != id) }
  else .error notFound

/-- The customer whose address equals `email` under folding. -/
def findByEmail (s : CustomerStore) (email : Bytes) : Except Fault Customer :=
  match s.customers.find? (fun c => c.email.foldEq email) with
  | some c => .ok c
  | none => .error notFound

/-- Whether a customer with an id is stored. -/
def holds (s : CustomerStore) (id : Int) : Bool := s.customers.any (·.id == id)

end CustomerStore

end Fulfillment
