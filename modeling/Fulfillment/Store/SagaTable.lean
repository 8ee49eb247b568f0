import Fulfillment.Store.SagaLog

/-!
# The saga table

The saga log as a SQL table keeps it: one row per entry, with the status and the step as their
texts and the moment as RFC 3339 text in UTC (`Instant.toText`). The database is a parameter
(`SagaDb`): the repository sends it two statements, an INSERT of a row and the SELECT of the rows
of every run that wrote an order's id, ordered by row id. `SagaDb.Lawful` states what SQLite
documents of them: an inserted row gets an id above every id in the table, so the rows in id
order are the rows in the order they were inserted, and the SELECT answers those of them whose
run id is the run id of a row with the order's id.

`SagaRepo.save` inserts the row of an entry; `SagaRepo.listByOrder` selects and reads each row
back, its status and step from their texts and its moment with `Instant.ofText?`, and a row that
cannot be read fails the whole listing. `SagaTable` is the table as its rows, a database that
keeps the laws.
-/

namespace Fulfillment

/-- The saga status a text names. -/
def SagaStatus.ofText? (s : String) : Option SagaStatus :=
  [SagaStatus.started, .stepDone, .completed, .failed].find? (·.text == s)

/-- The saga step a name names. -/
def SagaStep.ofName? (s : String) : Option SagaStep :=
  [SagaStep.validateCustomer, .persistOrder, .confirmOrder, .checkBreaker, .initiatePayment].find?
    (·.name == s)

/-- A row of the saga table, its columns as stored. -/
structure SagaRow where
  sagaId : String
  orderId : Int
  status : String
  step : String
  error : String
  updatedAt : String
  deriving DecidableEq, Repr

namespace SagaRow

/-- The row an entry is stored as. -/
def ofEntry (e : SagaEntry) : SagaRow :=
  ⟨e.sagaId, e.orderId, e.status.text, e.step.name, e.error, e.updatedAt.toText⟩

/-- The entry a row reads back as, when its status, step and moment can be read. -/
def read (r : SagaRow) : Option SagaEntry := do
  let status ← SagaStatus.ofText? r.status
  let step ← SagaStep.ofName? r.step
  let updatedAt ← Instant.ofText? r.updatedAt
  return ⟨r.sagaId, r.orderId, status, step, r.error, updatedAt⟩

end SagaRow

/-- A SQL database that holds the saga table, as the repository uses it: the INSERT of a row,
and the SELECT of the rows of every run that wrote an order's id, in id order. Either fails when
the database does. -/
structure SagaDb (D : Type) where
  insert : SagaRow → D → Option D
  selectRuns : Int → D → Option (List SagaRow)

/-- The rows of every run that wrote an order's id. -/
def runsOfOrder (rows : List SagaRow) (orderId : Int) : List SagaRow :=
  let runs := (rows.filter (·.orderId == orderId)).map (·.sagaId)
  rows.filter fun r => runs.contains r.sagaId

/-- What SQLite documents of the two statements, through `rows`, the rows of the table in id
order, while the database works: an INSERT succeeds and its row comes after every row there is
(AUTOINCREMENT gives it an id above every id the table has had), and the SELECT answers the rows
of the order's runs in id order. -/
structure SagaDb.Lawful {D : Type} (db : SagaDb D) (rows : D → List SagaRow) (works : D → Prop) :
    Prop where
  insert : ∀ r d, works d → ∃ d', db.insert r d = some d' ∧ works d' ∧ rows d' = rows d ++ [r]
  selectRuns : ∀ orderId d, works d → db.selectRuns orderId d = some (runsOfOrder (rows d) orderId)

namespace SagaRepo

variable {D : Type} (db : SagaDb D)

/-- Saves an entry: inserts its row. -/
def save (d : D) (e : SagaEntry) : Option D := db.insert (SagaRow.ofEntry e) d

/-- Every entry of every run that wrote an order's id, in row order, read back; `none` when the
database fails or a row cannot be read. -/
def listByOrder (d : D) (orderId : Int) : Option (List SagaEntry) := do
  let rows ← db.selectRuns orderId d
  rows.mapM SagaRow.read

end SagaRepo

/-- The saga table as its rows, in the order they were inserted. -/
structure SagaTable where
  rows : List SagaRow

namespace SagaTable

/-- A table with no rows. -/
def empty : SagaTable := ⟨[]⟩

/-- The table as a database: an insert puts its row after every row there is. -/
def db : SagaDb SagaTable :=
  ⟨fun r t => some ⟨t.rows ++ [r]⟩, fun orderId t => some (runsOfOrder t.rows orderId)⟩

end SagaTable

end Fulfillment
