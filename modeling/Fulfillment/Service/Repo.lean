import Fulfillment.Model.Order
import Fulfillment.Model.Payment

/-!
# Repositories

The services reach their records through a repository of operations in some monad `m`, so that
the same service runs over a plain store, over a store with faults injected into it, or over a
store shared with other services. A call may fail with a fault.

`create` returns the record as stored, with its id and version; `update` returns the record as
written, with its version bumped.
-/

namespace Fulfillment

/-- What the order services need from where orders are kept. -/
structure OrderRepo (m : Type → Type) where
  create : Order → m (Except Fault Order)
  update : Order → m (Except Fault Order)
  find : Int → m (Except Fault Order)
  list : Int → Option OrderStatus → m (Except Fault (List Order))

/-- What the payment services need from where payments are kept. -/
structure PaymentRepo (m : Type → Type) where
  create : Payment → m (Except Fault Payment)
  update : Payment → m (Except Fault Payment)
  find : Int → m (Except Fault Payment)
  findByOrder : Int → m (Except Fault Payment)
  list : Option PaymentStatus → m (Except Fault (List Payment))
  eligible : Instant → Int → m (Except Fault (List Payment))
  countByStatus : m (Except Fault (List (PaymentStatus × Nat)))

/-- The same payment repository, reached from another monad through `f`. -/
def PaymentRepo.lift {m n : Type → Type} (f : {α : Type} → m α → n α) (r : PaymentRepo m) :
    PaymentRepo n where
  create p := f (r.create p)
  update p := f (r.update p)
  find id := f (r.find id)
  findByOrder orderId := f (r.findByOrder orderId)
  list status := f (r.list status)
  eligible before limit := f (r.eligible before limit)
  countByStatus := f r.countByStatus

end Fulfillment
