import Fulfillment.Service.Repo

/-!
# Saving a change to an order

`save` applies a mutation to an order and writes it. A mutation edits the order it is given in
place and may report a fault; it is modelled as the order it leaves together with that fault.
When the write loses a race (another writer bumped the version in between), `save` reloads the
order, applies the mutation to the fresh copy once more and writes that. The caller gets back
the order it holds afterwards:

* the written order, when a write succeeded;
* the fresh copy as the mutation left it, when the mutation refused the fresh copy;
* its own order unchanged, when anything else failed.

Every mutation the services save checks before it edits (`inPlace`): it changes nothing when it
refuses. For those, `save` is `saveChange` (`save_inPlace`), which reads the refused fresh copy
as it was reloaded.
-/

namespace Fulfillment

/-- Applies a mutation to an order and writes it, retrying once on a version conflict. Returns the
order the caller holds afterwards and the fault, if there was one. -/
def save {m : Type → Type} [Monad m] (repo : OrderRepo m) (o : Order)
    (mutate : Order → Order × Option Fault) : m (Order × Option Fault) := do
  match mutate o with
  | (_, some e) => return (o, some e)
  | (changed, none) =>
    match ← repo.update changed with
    | .ok written => return (written, none)
    | .error e =>
      if !e.isA .concurrentUpdate then return (o, some e)
      else
        match ← repo.find o.id with
        | .error e => return (o, some e)
        | .ok fresh =>
          match mutate fresh with
          | (edited, some e) => return (edited, some e)
          | (changedFresh, none) =>
            match ← repo.update changedFresh with
            | .error e => return (o, some e)
            | .ok written => return (written, none)

/-- A change that checks before it edits, as a mutation: the changed order, or the order as it
was with the fault. -/
def inPlace (change : Order → Except Fault Order) (o : Order) : Order × Option Fault :=
  match change o with
  | .ok changed => (changed, none)
  | .error e => (o, some e)

/-- `save` of a change that checks before it edits. -/
def saveChange {m : Type → Type} [Monad m] (repo : OrderRepo m) (o : Order)
    (change : Order → Except Fault Order) : m (Order × Option Fault) := do
  match change o with
  | .error e => return (o, some e)
  | .ok changed =>
    match ← repo.update changed with
    | .ok written => return (written, none)
    | .error e =>
      if !e.isA .concurrentUpdate then return (o, some e)
      else
        match ← repo.find o.id with
        | .error e => return (o, some e)
        | .ok fresh =>
          match change fresh with
          | .error e => return (fresh, some e)
          | .ok changedFresh =>
            match ← repo.update changedFresh with
            | .error e => return (o, some e)
            | .ok written => return (written, none)

theorem save_inPlace {m : Type → Type} [Monad m] (repo : OrderRepo m) (o : Order)
    (change : Order → Except Fault Order) :
    save repo o (inPlace change) = saveChange repo o change := by
  unfold save saveChange
  cases hc : change o with
  | error e => simp only [inPlace, hc]
  | ok changed =>
    simp only [inPlace, hc]
    congr 1
    funext r
    cases r with
    | ok written => rfl
    | error e =>
      simp only
      split
      · rfl
      · congr 1
        funext r'
        cases r' with
        | error e' => rfl
        | ok fresh => cases hf : change fresh <;> simp only [hf]

end Fulfillment
