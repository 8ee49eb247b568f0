import Fulfillment.Model.Order

/-!
# The order store

An `OrderStore` keeps orders in increasing id order with the last order id and the last item id
it handed out. `create` gives an order the next id, version 1 and fresh ids for its items;
`update` replaces a stored order only when the caller holds the stored version, and then bumps
the version and keeps the creation time. Listings come newest id first.
-/

namespace Fulfillment

/-- Stored orders, by increasing id, and the last order and item ids handed out. -/
structure OrderStore where
  orders : List Order
  lastId : Int
  lastItemId : Int
  deriving Inhabited

namespace OrderStore

/-- A store with no orders. -/
def empty : OrderStore := ⟨[], 0, 0⟩

/-- Gives items consecutive ids after `last`. -/
def numberItems : List Item → Int → List Item
  | [], _ => []
  | i :: rest, last => { i with id := last + 1 } :: numberItems rest (last + 1)

/-- Stores a new order under the next id, with version 1, stamped with `now`. -/
def create (s : OrderStore) (o : Order) (now : Instant) : Order × OrderStore :=
  let stored := { o with id := s.lastId + 1, version := 1, createdAt := now, updatedAt := now,
                         items := numberItems o.items s.lastItemId }
  (stored, ⟨s.orders ++ [stored], s.lastId + 1, s.lastItemId + o.items.length⟩)

/-- The stored order with an id. -/
def find (s : OrderStore) (id : Int) : Except Fault Order :=
  match s.orders.find? (·.id == id) with
  | some o => .ok o
  | none => .error (.missing .order)

/-- Replaces the stored order when the caller holds its version, bumping the version. -/
def update (s : OrderStore) (o : Order) (now : Instant) : Except Fault (Order × OrderStore) :=
  match s.orders.find? (·.id == o.id) with
  | none => .error (.missing .order)
  | some current =>
    if current.version != o.version then .error (.stale .order o.id o.version current.version)
    else
      let stored := { o with version := o.version + 1, updatedAt := now,
                             createdAt := current.createdAt }
      .ok (stored, { s with orders := s.orders.map fun x => if x.id == o.id then stored else x })

/-- The orders of a customer (0 for any) in a stage (`none` for any), newest id first. -/
def list (s : OrderStore) (customerId : Int) (status : Option OrderStatus) : List Order :=
  (s.orders.filter fun o => o.fits customerId status).reverse

end OrderStore

end Fulfillment
