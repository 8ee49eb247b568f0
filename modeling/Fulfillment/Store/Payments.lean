import Fulfillment.Model.Payment

/-!
# The payment store

A `PaymentStore` keeps payments in increasing id order with the last id it handed out, and an
index from each order to the id of the payment created for it. `create` refuses an order the
index has, and is the only call that writes the index. `update` replaces a stored payment
whole, its order included, only when the caller holds the stored version, bumping it and
keeping the creation time; the lookup by order goes through the index, so after an update
that moves a payment to another order it still finds that payment under the order it was
created for. `eligible` lists the pending payments created at or before a moment, oldest first with
ties broken by id, cut to a limit when the limit is positive.
-/

namespace Fulfillment

/-- Stored payments, by increasing id, the last id handed out, and the id of the payment created
for each order. -/
structure PaymentStore where
  payments : List Payment
  lastId : Int
  byOrder : List (Int × Int)
  deriving Inhabited

namespace PaymentStore

/-- A store with no payments. -/
def empty : PaymentStore := ⟨[], 0, []⟩

/-- Stores a new payment under the next id, with version 1, stamped with `now`, and indexes it
under its order, unless the index has that order. -/
def create (s : PaymentStore) (p : Payment) (now : Instant) :
    Except Fault (Payment × PaymentStore) :=
  if (s.byOrder.lookup p.orderId).isSome then
    .error (.within ("payment for order " ++ toString p.orderId) (.bare .alreadyExists))
  else
    let stored := { p with id := s.lastId + 1, version := 1, createdAt := now, updatedAt := now }
    .ok (stored, ⟨s.payments ++ [stored], s.lastId + 1, s.byOrder ++ [(p.orderId, s.lastId + 1)]⟩)

/-- The stored payment with an id. -/
def find (s : PaymentStore) (id : Int) : Except Fault Payment :=
  match s.payments.find? (·.id == id) with
  | some p => .ok p
  | none => .error (.missing .payment)

/-- The stored payment under the id the index has for an order. -/
def findByOrder (s : PaymentStore) (orderId : Int) : Except Fault Payment :=
  match s.byOrder.lookup orderId with
  | some id => s.find id
  | none => .error (.missing .payment)

/-- Replaces the stored payment when the caller holds its version, bumping the version. -/
def update (s : PaymentStore) (p : Payment) (now : Instant) :
    Except Fault (Payment × PaymentStore) :=
  match s.payments.find? (·.id == p.id) with
  | none => .error (.missing .payment)
  | some current =>
    if current.version != p.version then .error (.stale .payment p.id p.version current.version)
    else
      let stored := { p with version := p.version + 1, updatedAt := now,
                             createdAt := current.createdAt }
      .ok (stored, { s with payments := s.payments.map fun x => if x.id == p.id then stored else x })

/-- The payments in a stage (`none` for any), newest id first. -/
def list (s : PaymentStore) (status : Option PaymentStatus) : List Payment :=
  (s.payments.filter fun p => p.fits status).reverse

/-- Whether a payment comes before another when settling: older first, then lower id. -/
def settlesBefore (a b : Payment) : Bool :=
  a.createdAt.ns < b.createdAt.ns || (a.createdAt.ns == b.createdAt.ns && a.id ≤ b.id)

/-- The pending payments created at or before `before`, oldest first, at most `limit` of them
when `limit` is positive. -/
def eligible (s : PaymentStore) (before : Instant) (limit : Int) : List Payment :=
  let found := (s.payments.filter fun p => p.status == .pending && p.createdAt.ns ≤ before.ns)
    |>.mergeSort settlesBefore
  if 0 < limit then found.take limit.toNat else found

/-- The number of payments in each stage: the five known stages first, then any other stage
that occurs. -/
def countByStatus (s : PaymentStore) : List (PaymentStatus × Nat) :=
  let known := PaymentStatus.all.map fun st => (st, (s.payments.filter (·.status == st)).length)
  let others := (s.payments.map (·.status)).filter (fun st => !PaymentStatus.all.contains st)
  known ++ others.eraseDups.map fun st => (st, (s.payments.filter (·.status == st)).length)

/-- Payment counts by stage as a JSON object. -/
def countsJson (counts : List (PaymentStatus × Nat)) : Json :=
  .obj (counts.map fun (st, n) => (st.toText, Json.int n))

end PaymentStore

end Fulfillment
