import Fulfillment.Proofs.Orders.Placement

/-!
# The saga log of a stored order

`SagaLog.history` gathers every entry of every saga that wrote an order's id. For a saga run alone
that stored an order, with a saga id the log has not seen and a log that names only orders the
store has handed out, the history of the new order is exactly the entries that run wrote
(`history_of_new_saga`). What those entries say is read off the run's `Ending`
(`Ending.opened_tags`): they open with the customer check and the stored order, no entry but the
last ends the saga, and the last one does, except on the two exits where the run fails its order
and the store refuses that write. There the run returns at once and no entry ends the saga.
-/

namespace Fulfillment

/-- Whether a saga status ends the saga. -/
def SagaStatus.ends : SagaStatus → Bool
  | .failed | .completed => true
  | .started | .stepDone => false

/-- The history of order `X` when the entries `es` of saga `g` follow entries `l` that name neither
`X` nor `g`, and one entry of `es` names `X`: exactly `es`, since `g` is the only saga that wrote
`X`. -/
theorem history_of_new_saga {l es : List SagaEntry} {X : Int} {g : String}
    (hl : ∀ e ∈ l, e.orderId ≠ X ∧ e.sagaId ≠ g) (hes : ∀ e ∈ es, e.sagaId = g)
    (hX : ∃ e ∈ es, e.orderId = X) : SagaLog.history ⟨l ++ es⟩ X = es := by
  obtain ⟨x, hx, hxX⟩ := hX
  have hruns : ∀ e ∈ l ++ es,
      (((l ++ es).filter (·.orderId == X)).map (·.sagaId)).contains e.sagaId = (e.sagaId == g) := by
    intro e _
    rw [Bool.eq_iff_iff, beq_iff_eq]
    simp only [List.contains_iff_mem, List.mem_map, List.mem_filter, List.mem_append,
      beq_iff_eq]
    constructor
    · rintro ⟨y, ⟨hy | hy, hyX⟩, hye⟩
      · exact absurd hyX (hl y hy).1
      · rw [← hye, hes y hy]
    · intro he
      exact ⟨x, ⟨.inr hx, hxX⟩, by rw [hes x hx, he]⟩
  unfold SagaLog.history
  dsimp only
  rw [List.filter_congr hruns, List.filter_append,
    List.filter_eq_nil_iff.mpr fun e he => by simpa using (hl e he).2,
    List.filter_eq_self.mpr fun e he => by simpa using hes e he, List.nil_append]

/-- The statuses and steps a run writes, opened by the customer check and the stored order: no
entry but the last ends the saga; the last one does unless the run failed its order and that
write was refused; and it completes the payment step exactly when the run ended with no fault and
a payment attached. -/
theorem Ending.opened_tags {a : Collaborators} {X : Int} {T : Decimal}
    {r : Option Order × Option Fault} {cs : List PlaceCall} {tags : List (SagaStatus × SagaStep)}
    {o : Order} (h : Ending a X T r cs tags o) :
    let full := [(SagaStatus.started, SagaStep.validateCustomer), (.stepDone, .persistOrder)] ++ tags
    (∀ t ∈ full.dropLast, t.1.ends = false) ∧
    ((∃ t, full.getLast? = some t ∧ t.1.ends = true) ∨
      ((∀ t ∈ full, t.1.ends = false) ∧ r.2.isSome ∧
        ((a.allows = false ∧ o.status = .confirmed) ∨
          (o.status = .paymentProcessing ∧ ∃ perr, a.payment X T defaultPaymentMethod = .error perr)))) ∧
    (full.getLast? = some (.completed, .initiatePayment) ↔ r.2 = none ∧ o.paymentId.isSome) := by
  cases h with
  | breakerFailRefused ha hs => simp [SagaStatus.ends, ha, hs]
  | paymentFailRefused _ hp hs => simp [SagaStatus.ends, hs, hp]
  | breakerRefused _ _ _ hpid => simp [SagaStatus.ends, hpid]
  | attached _ _ _ hpid => simp [SagaStatus.ends, hpid]
  | _ => simp [SagaStatus.ends]

/-- **The saga log of a stored order.** A saga run alone that stored an order `o`, with a saga id
new to the log and a log naming only orders the store has handed out, whatever the customer
check, the breaker and the payment service answer and whichever writes of the store are refused:
* the history of `o` is exactly the entries the run wrote, in order, all of the run's saga;
* it opens with the start of the customer check, about no order, then the stored order `o`;
* no entry but the last ends the saga;
* the last entry ends it, except when the run had to fail `o` (the breaker refused, or the payment
  service refused the start) and the store refused that write: then the run answers a fault and
  no entry ends the saga;
* the last entry completes the payment step exactly when the run answered no fault and `o` has a
  payment attached. -/
theorem saga_history_of_stored_order (a : Collaborators) (req : OrderRequest) (w : Placement)
    (hw : w.orders.Numbered) (hfresh : ∀ e ∈ w.log.entries, e.sagaId ≠ a.sagaId)
    (hknown : ∀ e ∈ w.log.entries, e.orderId ≤ w.orders.lastId) {o : Order}
    (hstored : ((Saga.placeOrder (placementEnv a) req "").run w).1.1 = some o) :
    let r := (Saga.placeOrder (placementEnv a) req "").run w
    let h := r.2.log.history o.id
    r.2.log.entries = w.log.entries ++ h ∧ (∀ e ∈ h, e.sagaId = a.sagaId) ∧
    (h.map fun e => (e.status, e.step, e.orderId)).take 2 =
      [(.started, .validateCustomer, 0), (.stepDone, .persistOrder, o.id)] ∧
    (∀ e ∈ h.dropLast, e.status.ends = false) ∧
    ((∃ e, h.getLast? = some e ∧ e.status.ends = true) ∨
      ((∀ e ∈ h, e.status.ends = false) ∧ r.1.2.isSome ∧
        ((a.allows = false ∧ o.status = .confirmed) ∨
          (o.status = .paymentProcessing ∧
            ∃ perr, a.payment o.id o.total "CREDIT_CARD" = .error perr)))) ∧
    (h.getLast?.map SagaEntry.tag = some (.completed, .initiatePayment) ↔
      r.1.2 = none ∧ o.paymentId.isSome) := by
  have hrun := placing_placeOrder (a := a) hw req w ⟨rfl, rfl, rfl, rfl⟩
  dsimp only
  generalize (Saga.placeOrder (placementEnv a) req "").run w = res at hrun hstored ⊢
  obtain ⟨⟨ro, rf⟩, w'⟩ := res
  dsimp only at hrun hstored ⊢
  subst hstored
  rcases hrun with ⟨f, -, hr, -⟩ | ⟨-, hplaced⟩
  · cases hr
  unfold Placed at hplaced
  cases hc : a.customerValid req.customerId with
  | false =>
    rw [hc] at hplaced
    cases hplaced.2.1
  | true =>
    rw [hc] at hplaced
    obtain ⟨-, o', cs', es, ho', hX, hT, -, -, hl, hes, hend⟩ := hplaced
    cases ho'
    set X := (w.orders.create (draftOf req) w.clock).1.id
    -- the entries the run wrote: the two that open it, then those of its `Ending`
    set run := [sagaEntry a.sagaId 0 .started .validateCustomer "" w.clock,
      sagaEntry a.sagaId X .stepDone .persistOrder "" w.clock] ++ es with hrun
    have hlog : w'.log.entries = w.log.entries ++ run := by simp [hl, run]
    have hsaga : ∀ e ∈ run, e.sagaId = a.sagaId := by
      intro e he
      simp only [run, List.mem_append, List.mem_cons, List.not_mem_nil, or_false] at he
      rcases he with (rfl | rfl) | he
      · rfl
      · rfl
      · exact (hes e he).1
    have hhist : w'.log.history o.id = run := by
      show SagaLog.history ⟨w'.log.entries⟩ o.id = run
      rw [hlog, hX]
      refine history_of_new_saga (fun e he => ⟨?_, hfresh e he⟩) hsaga
        ⟨sagaEntry a.sagaId X .stepDone .persistOrder "" w.clock, by simp [run], rfl⟩
      -- the log names only orders up to the last id, and the new order has the next one
      have := hknown e he
      simp only [X, OrderStore.create]
      omega
    have htags : run.map SagaEntry.tag =
        [(SagaStatus.started, SagaStep.validateCustomer), (.stepDone, .persistOrder)] ++
          es.map SagaEntry.tag := by
      simp [run, sagaEntry, SagaEntry.tag]
    rw [← hX, ← hT] at hend
    obtain ⟨hmid, hlast, hdone⟩ := hend.opened_tags
    rw [← htags] at hmid hlast hdone
    rw [hhist]
    refine ⟨hlog, hsaga, by simp [run, sagaEntry, hX], fun e he => ?_, ?_, ?_⟩
    · exact hmid e.tag (List.map_dropLast ▸ List.mem_map_of_mem he)
    · rcases hlast with ⟨t, ht, hend⟩ | ⟨hnone, hfault, hwhy⟩
      · rw [List.getLast?_map, Option.map_eq_some_iff] at ht
        obtain ⟨e, he, rfl⟩ := ht
        exact .inl ⟨e, he, hend⟩
      · exact .inr ⟨fun e he => hnone e.tag (List.mem_map_of_mem he), hfault, hwhy⟩
    · rw [← List.getLast?_map]
      exact hdone

/-- A valid customer orders a pen, the payment service declines it, and the store refuses the third
write, the one failing the order. The run answers a fault, the order stays stored waiting for its
payment, and its history is the customer check, the stored order and its confirmation: no entry
ends the saga. -/
theorem refused_failure_leaves_saga_open :
    let a : Collaborators := ⟨fun _ => true, true, fun _ _ _ => .error (.note "card declined"),
      fun n => if n = 2 then some (.note "disk full") else none, "saga#1"⟩
    let r := (Saga.placeOrder (placementEnv a)
      ⟨1, some [⟨0, "Pen", "", "", 1, ⟨500, 2⟩, ⟨500, 2⟩⟩], ""⟩ "").run
        ⟨OrderStore.empty, Instant.zero, 0, [], SagaLog.empty⟩
    r.1.1.map (fun o => (o.id, o.status)) = some (1, .paymentProcessing) ∧ r.1.2.isSome ∧
    (r.2.log.history 1).map SagaEntry.tag =
      [(.started, .validateCustomer), (.stepDone, .persistOrder), (.stepDone, .confirmOrder)] := by
  decide

/-- On that run every entry of the stored order's history is the run's own. -/
theorem saga_history_of_refused_failure :
    let a : Collaborators := ⟨fun _ => true, true, fun _ _ _ => .error (.note "card declined"),
      fun n => if n = 2 then some (.note "disk full") else none, "saga#1"⟩
    let r := (Saga.placeOrder (placementEnv a)
      ⟨1, some [⟨0, "Pen", "", "", 1, ⟨500, 2⟩, ⟨500, 2⟩⟩], ""⟩ "").run
        ⟨OrderStore.empty, Instant.zero, 0, [], SagaLog.empty⟩
    ∃ o, r.1.1 = some o ∧ ∀ e ∈ r.2.log.history o.id, e.sagaId = "saga#1" := by
  intro a r
  obtain ⟨o, ho⟩ := Option.isSome_iff_exists.mp (show r.1.1.isSome by decide)
  exact ⟨o, ho, (saga_history_of_stored_order a _ _ OrderStore.numbered_empty
    (by simp [SagaLog.empty]) (by simp [SagaLog.empty]) ho).2.1⟩

end Fulfillment
