import Fulfillment.Store.Customers

/-!
# The customer directory

The directory normalises every contact before it reaches the store: names, phone number and
address are trimmed, and the e-mail address is trimmed and lowered. A lookup by e-mail trims
the address it is given and matches it under case folding. Seeding adds three sample customers,
but only to an empty directory.
-/

namespace Fulfillment.Directory

/-- Adds a customer from a contact. -/
def create (s : CustomerStore) (req : Contact) (now : Instant) :
    Except Fault (Customer × CustomerStore) :=
  s.create (Customer.blank.withContact req.normalize) now

/-- Replaces the details of a stored customer with those of a contact. -/
def update (s : CustomerStore) (id : Int) (req : Contact) (now : Instant) :
    Except Fault (Customer × CustomerStore) := do
  let c ← s.find id
  s.update (c.withContact req.normalize) now

/-- The customer with an e-mail address, trimmed and matched under case folding. -/
def getByEmail (s : CustomerStore) (email : Bytes) : Except Fault Customer :=
  s.findByEmail email.trim

/-- The sample customers seeding adds. -/
def samples : List Contact :=
  [⟨.ofText "John", .ofText "Doe", .ofText "john.doe@example.com", .ofText "1234567890",
     .ofText "123 Main Street, New York, NY 10001"⟩,
   ⟨.ofText "Jane", .ofText "Smith", .ofText "jane.smith@example.com", .ofText "9876543210",
     .ofText "456 Oak Avenue, Los Angeles, CA 90210"⟩,
   ⟨.ofText "Bob", .ofText "Johnson", .ofText "bob.johnson@example.com", .ofText "5555551234",
     .ofText "789 Pine Road, Chicago, IL 60601"⟩]

/-- Adds the samples to an empty directory; a directory with customers is left as it is. An
address that is already taken is skipped. -/
def seed (s : CustomerStore) (now : Instant) : Except Fault CustomerStore :=
  if !s.customers.isEmpty then .ok s
  else
    samples.foldlM (fun acc req =>
      match create acc req now with
      | .ok (_, acc') => .ok acc'
      | .error f => if f.isA .alreadyExists then .ok acc else .error f) s

end Fulfillment.Directory
