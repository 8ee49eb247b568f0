import Fulfillment.Proofs.Clock.Text
import Fulfillment.Store.SagaTable

/-!
# The saga table lists whole runs

On any database that keeps the laws SQLite documents, saving entries one after another into an
empty table and then listing an order gives back, in the order they were saved, exactly the
entries of every run that wrote the order's id, each as it was saved, its moment included, as
long as every moment has a four-digit year (`lists_saved_runs_of_order`).

A row reads back as the entry it was made of: the status and step texts name them back
(`SagaStatus.ofText?_text`, `SagaStep.ofName?_name`) and the moment's text reads back
(`Instant.ofText?_toText`). The selection over the rows is the selection over the entries, since
a row keeps its entry's run and order ids. So the table lists what `SagaLog.history` lists over
the same entries (`SagaRepo.listByOrder_saveAll`), which is why the services keep the saga log as
a list of entries.
-/

namespace Fulfillment

@[simp] theorem SagaStatus.ofText?_text (s : SagaStatus) : SagaStatus.ofText? s.text = some s := by
  cases s <;> rfl

@[simp] theorem SagaStep.ofName?_name (s : SagaStep) : SagaStep.ofName? s.name = some s := by
  cases s <;> rfl

namespace SagaRow

@[simp] theorem ofEntry_sagaId (e : SagaEntry) : (ofEntry e).sagaId = e.sagaId := rfl

@[simp] theorem ofEntry_orderId (e : SagaEntry) : (ofEntry e).orderId = e.orderId := rfl

/-- A row reads back as the entry it was made of, when the entry's moment has a four-digit
year. -/
theorem read_ofEntry {e : SagaEntry} (h : e.updatedAt.writable = true) :
    (ofEntry e).read = some e := by
  simp only [read, ofEntry, SagaStatus.ofText?_text, SagaStep.ofName?_name,
    Instant.ofText?_toText _ h]
  rfl

theorem mapM_read_map_ofEntry {es : List SagaEntry} (h : ∀ e ∈ es, e.updatedAt.writable = true) :
    (es.map ofEntry).mapM read = some es := by
  induction es with
  | nil => rfl
  | cons e rest ih =>
    rw [List.map_cons, List.mapM_cons, read_ofEntry (h e List.mem_cons_self),
      ih fun x hx => h x (List.mem_cons_of_mem _ hx)]
    rfl

end SagaRow

theorem runsOfOrder_map_ofEntry (es : List SagaEntry) (orderId : Int) :
    runsOfOrder (es.map SagaRow.ofEntry) orderId =
      (SagaLog.history ⟨es⟩ orderId).map SagaRow.ofEntry := by
  simp only [runsOfOrder, SagaLog.history, List.filter_map, List.map_map]
  rfl

/-- The table as its rows keeps the laws, and never fails. -/
theorem SagaTable.db_lawful : SagaTable.db.Lawful (·.rows) fun _ => True where
  insert r t _ := ⟨⟨t.rows ++ [r]⟩, rfl, trivial, rfl⟩
  selectRuns _ _ _ := rfl

namespace SagaRepo

variable {D : Type} {db : SagaDb D} {rows : D → List SagaRow} {works : D → Prop}

/-- Saving entries one after another on a working database puts their rows after the rows
there were. -/
theorem foldlM_save (hdb : db.Lawful rows works) (es : List SagaEntry) {d : D} (hd : works d) :
    ∃ d', es.foldlM (save db) d = some d' ∧ works d' ∧
      rows d' = rows d ++ es.map SagaRow.ofEntry := by
  induction es generalizing d with
  | nil => exact ⟨d, rfl, hd, by simp⟩
  | cons e rest ih =>
    obtain ⟨d₁, h₁, hw₁, hr₁⟩ := hdb.insert (SagaRow.ofEntry e) d hd
    obtain ⟨d', h', hw', hr'⟩ := ih hw₁
    refine ⟨d', ?_, hw', by rw [hr', hr₁]; simp⟩
    rw [List.foldlM_cons, save, h₁]
    exact h'

/-- The table lists what the saga log lists over the same entries. -/
theorem listByOrder_saveAll (hdb : db.Lawful rows works) {d : D} (hd : works d)
    (hempty : rows d = []) (es : List SagaEntry) (hw : ∀ e ∈ es, e.updatedAt.writable = true)
    (orderId : Int) :
    (es.foldlM (save db) d >>= fun d' => listByOrder db d' orderId) =
      some (SagaLog.history ⟨es⟩ orderId) := by
  obtain ⟨d', hs, hw', hr⟩ := foldlM_save hdb es hd
  rw [hs, Option.bind_eq_bind, Option.bind_some, listByOrder, hdb.selectRuns orderId d' hw', hr,
    hempty, List.nil_append, runsOfOrder_map_ofEntry]
  exact SagaRow.mapM_read_map_ofEntry fun e he => hw e (List.mem_of_mem_filter he)

end SagaRepo

/-- **Listing an order gives back its whole runs.** On a database that keeps the laws of SQLite,
after saving entries one after another into an empty table, each with a moment in a four-digit
year, listing an order gives, in the order they were saved, exactly the saved entries of the runs
that saved some entry with that order's id, each read back as it was saved. -/
theorem lists_saved_runs_of_order {D : Type} (db : SagaDb D) (rows : D → List SagaRow)
    (works : D → Prop) (hdb : db.Lawful rows works) {d : D} (hd : works d) (hempty : rows d = [])
    (es : List SagaEntry) (hw : ∀ e ∈ es, e.updatedAt.writable = true) (orderId : Int) :
    (es.foldlM (SagaRepo.save db) d >>= fun d' => SagaRepo.listByOrder db d' orderId) =
      some (es.filter fun e => es.any fun e' => e'.orderId == orderId && e'.sagaId == e.sagaId) := by
  rw [SagaRepo.listByOrder_saveAll hdb hd hempty es hw orderId, SagaLog.history]
  congr 1
  apply List.filter_congr
  intro e _
  rw [Bool.eq_iff_iff]
  simp only [List.contains_iff_mem, List.mem_map, List.mem_filter, beq_iff_eq, List.any_eq_true,
    Bool.and_eq_true]
  constructor
  · rintro ⟨e', ⟨he', ho⟩, hs⟩
    exact ⟨e', he', ho, hs⟩
  · rintro ⟨e', he', ho, hs⟩
    exact ⟨e', ⟨he', ho⟩, hs⟩

/-- Run `s1` saves three entries, the first before its order has an id, and run `s2` saves one
for order 8; listing order 7 from the table gives the three entries of `s1`. -/
theorem lists_saved_runs_of_order_seven :
    let t0 : Instant := ⟨1709294400 * Instant.nanosPerSecond⟩
    let es : List SagaEntry :=
      [⟨"s1", 0, .started, .validateCustomer, "", t0⟩, ⟨"s1", 7, .stepDone, .persistOrder, "", t0⟩,
        ⟨"s1", 7, .failed, .initiatePayment, "boom", t0⟩,
        ⟨"s2", 8, .completed, .initiatePayment, "", t0⟩]
    SagaTable.db.Lawful (·.rows) (fun _ => True) ∧ SagaTable.empty.rows = [] ∧
      (∀ e ∈ es, e.updatedAt.writable = true) ∧
      (es.foldlM (SagaRepo.save SagaTable.db) SagaTable.empty >>= fun t =>
        SagaRepo.listByOrder SagaTable.db t 7) = some (es.take 3) := by
  intro t0 es
  have hw : ∀ e ∈ es, e.updatedAt.writable = true := by decide
  exact ⟨SagaTable.db_lawful, rfl, hw,
    (lists_saved_runs_of_order SagaTable.db (·.rows) (fun _ => True) SagaTable.db_lawful trivial
      rfl es hw 7).trans rfl⟩

end Fulfillment
