import Fulfillment.Proofs.Payments.Api

/-!
# Creating a payment again

A gateway that creates a payment for an order sends the creation; when the payment service
refuses it with 409, since the order has a payment, the gateway looks that payment up and comes
back with it. This module follows creations for one order one after another, with any amounts
and methods, through the client breaker and over a link that is up, to the payment service and
its store (`creations_store_one_payment`).

One creation does one of four things (`Gateway.createPayment_run_of_shut`,
`Gateway.createPayment_run_of_untaken`, `Gateway.createPayment_run_of_existing`,
`Gateway.createPayment_run_of_new`): refused by an open breaker, it changes nothing; with an
amount the service does not take, it is refused with 400 and only counted; for an order with a
payment, it is refused with 409 and ends as the lookup of that payment; otherwise it stores the
payment and comes back with it. The answers it gets are those of `Payments.Api`, and only a
failure can open the breaker, so a breaker that starts closed stays closed until the order has
its payment.

Creations one after another are then refused until the first amount the service takes, which
stores the payment, and every later one finds it (`Gateway.createPayments_run_cases`). The store
keeps one payment per order, and every creation that comes back with a payment comes back with
the order's one payment as its JSON reads.
-/

namespace Fulfillment.PaymentStore

variable {s t : PaymentStore} {p q : Payment} {now : Instant}

/-- After the first create for an order, the lookup by order finds the payment it stored. -/
theorem findByOrder_create (hs : s.Keyed) (h : s.create p now = .ok (q, t)) :
    t.findByOrder p.orderId = .ok q := by
  obtain ⟨ht, -, -, -, -, -⟩ := create_payments h
  refine (hs.create h).findByOrder_eq_ok_iff.mpr ⟨q.id, ?_, ?_, rfl⟩
  · rw [lookup_create h, if_pos rfl]
  · exact ht ▸ List.mem_append_right _ (List.mem_singleton_self _)

theorem create_amount (h : s.create p now = .ok (q, t)) : q.amount = p.amount := by
  obtain ⟨-, rfl, -⟩ := create_eq_ok h
  rfl

/-- With one payment per order, an order has one payment or none. -/
theorem OnePerOrder.countP_orderId (ho : s.OnePerOrder) (o : Int) :
    s.payments.countP (·.orderId == o) = if s.payments.any (·.orderId == o) then 1 else 0 := by
  have hle : s.payments.countP (·.orderId == o) ≤ 1 := by
    have h := List.nodup_iff_count_le_one.mp ho.orders o
    rwa [List.count, List.countP_map] at h
  split
  · next h => exact le_antisymm hle (List.countP_pos_iff.mpr (List.any_eq_true.mp h))
  · next h =>
    exact List.countP_eq_zero.mpr fun x hx => List.any_eq_false.mp (Bool.not_eq_true _ ▸ h) x hx

end Fulfillment.PaymentStore

namespace Fulfillment.Http

/-! ## Client breakers -/

namespace System

variable (s : System) (t : Service) (b : Breaker)

/-- Replacing the breaker of a service takes effect, unless the service has none, when the
default one stays. -/
theorem clientOf_setClient :
    (s.setClient t b).clientOf t = b ∨ (s.setClient t b).clientOf t = s.clientOf t := by
  unfold setClient clientOf
  dsimp only
  induction s.clients with
  | nil => exact .inr rfl
  | cons c cs ih =>
    by_cases hc : c.1 = t
    · subst hc
      left
      simp
    · simpa [hc] using ih

/-- A breaker that keeps its state keeps it through the replacement. -/
theorem state_clientOf_setClient (h : b.state = (s.clientOf t).state) :
    ((s.setClient t b).clientOf t).state = (s.clientOf t).state := by
  rcases clientOf_setClient s t b with h' | h' <;> rw [h']
  exact h

variable {s t}

/-- A closed breaker that admits a call stays closed. -/
theorem admitted_closed (h : (s.clientOf t).state = .closed) :
    ((s.admitted t).clientOf t).state = .closed := by
  refine (state_clientOf_setClient s t _ ?_).trans h
  rw [gobreaker_before_of_closed h, h]
  exact Breaker.atNow_state_of_closed h

/-- A closed breaker that records a success stays closed. -/
theorem recorded_success_closed (h : (s.clientOf t).state = .closed) (g : Nat) :
    ((s.recorded t g true).clientOf t).state = .closed :=
  (state_clientOf_setClient s t _ ((gobreaker_after_success_state h _ g).trans h.symm)).trans h

end System

section Call

variable {α : Type} {deliver : Deliver} {decode : Json → Except String α} {zero : α}
  {target : Service} {method path : String} {body : Option Json} {s : System}
  {a : Option (Int × Body)} {g : Nat}

/-- An admitted call whose sending changes nothing gets the same answer when it is sent again, so
it ends on that answer. -/
theorem call_run_of_steady (hg : (gobreaker.before s.wall (s.clientOf target)).1 = .ok g)
    (h : (send deliver target (callRequest method path body)).run (s.admitted target) =
      (a, s.admitted target)) :
    (call deliver decode zero target method path body).run s =
      (judge decode zero method path a, (s.admitted target).recorded target g
        (ClientBreaker.succeeded (judge decode zero method path a).error)) := by
  cases hf : (judge decode zero method path a).isFailure
  · exact call_run_of_kept hg h hf
  · exact call_run_of_resent hg h h hf

/-- A call sent again after a failure, and then refused with an answer from 400 to 499, ends on
the refusal, which the breaker records as a success. -/
theorem call_run_of_resent_refusal {s₁ s₂ : System} {first : Option (Int × Body)} {code : Int}
    {b : Body} (hg : (gobreaker.before s.wall (s.clientOf target)).1 = .ok g)
    (h₁ : (send deliver target (callRequest method path body)).run (s.admitted target) =
      (first, s₁))
    (hf : (judge decode zero method path first).isFailure = true)
    (h₂ : (send deliver target (callRequest method path body)).run s₁ = (some (code, b), s₂))
    (h4 : 400 ≤ code) (h5 : code < 500) :
    ∃ f, (call deliver decode zero target method path body).run s =
      (.refused code f, s₂.recorded target g true) := by
  rw [call_run_of_resent hg h₁ h₂ hf, judge_of_refusal h4 h5]
  exact ⟨_, rfl⟩

theorem judge_of_undecoded {code : Int} {j : Json} {e : String} (h2 : 200 ≤ code)
    (h3 : code < 300) (hd : decode j = .error e) :
    judge decode zero method path (some (code, .json j)) =
      .failed (.note (method ++ " " ++ path ++ ": " ++ e)) := by
  simp only [judge, if_neg (show ¬500 ≤ code by omega), if_neg (show ¬400 ≤ code by omega),
    show (decide (200 ≤ code) && decide (code < 300)) = true by simp [h2, h3], ↓reduceIte, hd]

/-- A lookup answered with a body gets the value the body reads as, and nothing when it reads as
none. -/
theorem lookupOf_judge_eq_ok {entity : Entity} {op : String} {code : Int} {j : Json} {v : α}
    (h2 : 200 ≤ code) (h3 : code < 300) :
    Gateway.lookupOf entity op (judge decode zero method path (some (code, .json j))) = .ok v ↔
      decode j = .ok v := by
  cases hd : decode j with
  | ok w => simp [judge_of_decoded h2 h3 hd, Gateway.lookupOf]
  | error e => simp [judge_of_undecoded h2 h3 hd, Gateway.lookupOf]

end Call

namespace Gateway

/-! ## What a creation does with what its call comes back with -/

section Outcomes

variable {deliver : Deliver} {orderId : Int} {amount : Decimal} {method : String}
  {s s₁ : System}

theorem createPayment_run_of_answered {p : Payment}
    (h : (call deliver Payment.decode Payment.blank .payment "POST" "/api/v1/payments"
      (some (paymentRequestJson orderId amount method))).run s = (.answered p, s₁)) :
    (createPayment deliver orderId amount method).run s = (.ok p, s₁) := by
  simp only [createPayment, StateT.run_bind, h]
  rfl

/-- A creation refused with 409 ends as the lookup of the order's payment ends. -/
theorem createPayment_run_of_conflict {f : Fault}
    (h : (call deliver Payment.decode Payment.blank .payment "POST" "/api/v1/payments"
      (some (paymentRequestJson orderId amount method))).run s = (.refused 409 f, s₁)) :
    ((createPayment deliver orderId amount method).run s).2 =
        ((fetchPayment deliver orderId).run s₁).2 ∧
      ∀ p, ((createPayment deliver orderId amount method).run s).1 = .ok p ↔
        ((fetchPayment deliver orderId).run s₁).1 = .ok p := by
  simp only [createPayment, StateT.run_bind, h, id_bind_eq]
  obtain ⟨r, s₂⟩ := (fetchPayment deliver orderId).run s₁
  cases r with
  | ok q => exact ⟨rfl, fun _ => Iff.rfl⟩
  | error e => exact ⟨rfl, fun _ => ⟨nofun, nofun⟩⟩

theorem createPayment_run_of_refused {code : Int} {f : Fault} (hc : code ≠ 409)
    (h : (call deliver Payment.decode Payment.blank .payment "POST" "/api/v1/payments"
      (some (paymentRequestJson orderId amount method))).run s = (.refused code f, s₁)) :
    ∃ e, (createPayment deliver orderId amount method).run s = (.error e, s₁) := by
  simp only [createPayment, StateT.run_bind, h, id_bind_eq]
  exact ⟨_, rfl⟩

theorem createPayment_run_of_failed {f : Fault}
    (h : (call deliver Payment.decode Payment.blank .payment "POST" "/api/v1/payments"
      (some (paymentRequestJson orderId amount method))).run s = (.failed f, s₁)) :
    ∃ e, (createPayment deliver orderId amount method).run s = (.error e, s₁) := by
  simp only [createPayment, StateT.run_bind, h, id_bind_eq]
  exact ⟨_, rfl⟩

/-- A creation the breaker refuses fails and changes only the breaker. -/
theorem createPayment_run_of_shut {r : Refusal}
    (hr : (gobreaker.before s.wall (s.clientOf .payment)).1 = .error r) :
    ∃ e, (createPayment deliver orderId amount method).run s = (.error e, s.admitted .payment) :=
  createPayment_run_of_failed (call_run_of_shut hr)

end Outcomes

/-! ## One creation against the payment service -/

section Creation

variable {orderId : Int} (h0 : 0 < orderId) (h1 : orderId < Int.pow 2 63) (amount : Decimal)
  (method : String) {s : System} (hup : s.links.payment = .up) {g : Nat}
  (hg : (gobreaker.before s.wall (s.clientOf .payment)).1 = .ok g)

theorem fetchPayment_run_eq (s : System) :
    (fetchPayment deliver orderId).run s =
      (paymentOf orderId ((call deliver Payment.decode Payment.blank .payment "GET"
        ("/api/v1/payments/order/" ++ toString orderId) none).run s).1,
        ((call deliver Payment.decode Payment.blank .payment "GET"
          ("/api/v1/payments/order/" ++ toString orderId) none).run s).2) := rfl

include h0 h1 hup hg in
/-- An admitted lookup of a stored payment gets it exactly as its JSON reads. -/
theorem fetchPayment_run_of_admitted {q : Payment}
    (hq : s.payments.findByOrder orderId = .ok q) :
    ∀ p, ((fetchPayment deliver orderId).run s).1 = .ok p ↔ Payment.decode q.toJson = .ok p := by
  have hsend := send_lookup (s := s.admitted .payment) h0 h1 hup
  rw [show (s.admitted .payment).payments = s.payments from rfl, hq] at hsend
  dsimp only at hsend
  rw [fetchPayment_run_eq, call_run_of_steady hg hsend]
  intro p
  dsimp only [paymentOf]
  exact lookupOf_judge_eq_ok (by decide) (by decide)

include h0 h1 hup in
/-- Looking up a stored payment changes no payment, and what it gets is that payment as its JSON
reads, whatever the breaker does. -/
theorem fetchPayment_run_of_stored {q : Payment} (hq : s.payments.findByOrder orderId = .ok q) :
    ((fetchPayment deliver orderId).run s).2.payments = s.payments ∧
      ((fetchPayment deliver orderId).run s).2.links = s.links ∧
      ∀ p, ((fetchPayment deliver orderId).run s).1 = .ok p → Payment.decode q.toJson = .ok p := by
  rcases hb : (gobreaker.before s.wall (s.clientOf .payment)).1 with r | g
  · rw [fetchPayment_run_eq, call_run_of_shut hb]
    exact ⟨rfl, rfl, nofun⟩
  · have hsend := send_lookup (s := s.admitted .payment) h0 h1 hup
    rw [show (s.admitted .payment).payments = s.payments from rfl, hq] at hsend
    dsimp only at hsend
    refine ⟨?_, ?_, fun p => (fetchPayment_run_of_admitted h0 h1 hup hb hq p).mp⟩ <;>
      rw [fetchPayment_run_eq, call_run_of_steady hb hsend] <;> rfl

include h0 h1 in
/-- A creation refused with 409 by a service that stores a payment for the order ends as the
lookup of that payment: when it comes back with a payment, it is that one as its JSON reads, and
it changes no payment. -/
theorem createPayment_run_of_conflict_stored {s₀ s₁ : System} {f : Fault} {q : Payment}
    (hcall : (call deliver Payment.decode Payment.blank .payment "POST" "/api/v1/payments"
      (some (paymentRequestJson orderId amount method))).run s₀ = (.refused 409 f, s₁))
    (hup₁ : s₁.links.payment = .up) (hq : s₁.payments.findByOrder orderId = .ok q) :
    ((createPayment deliver orderId amount method).run s₀).2.payments = s₁.payments ∧
      ((createPayment deliver orderId amount method).run s₀).2.links = s₁.links ∧
      ∀ p, ((createPayment deliver orderId amount method).run s₀).1 = .ok p →
        Payment.decode q.toJson = .ok p := by
  obtain ⟨hstate, hres⟩ := createPayment_run_of_conflict hcall
  obtain ⟨hp, hl, hr⟩ := fetchPayment_run_of_stored h0 h1 hup₁ hq
  exact ⟨by rw [hstate, hp], by rw [hstate, hl], fun p h => hr p ((hres p).mp h)⟩

include h0 h1 hup hg in
/-- A creation with an amount the service does not take is refused, and the breaker only counts
it as a success. -/
theorem createPayment_run_of_untaken (h : takesAmount amount = false) :
    ∃ e, (createPayment deliver orderId amount method).run s =
      (.error e, (s.admitted .payment).recorded .payment g true) := by
  obtain ⟨b, hsend⟩ := send_creation_refused (s := s.admitted .payment) h0 h1
    method hup h
  obtain ⟨f, hcall⟩ : ∃ f, (call deliver Payment.decode Payment.blank .payment "POST"
      "/api/v1/payments" (some (paymentRequestJson orderId amount method))).run s =
      (.refused 400 f, (s.admitted .payment).recorded .payment g true) :=
    call_run_of_refusal hg hsend (by decide) (by decide)
  exact createPayment_run_of_refused (by decide) hcall

include h0 h1 hup hg in
/-- A creation for an order that has a payment is refused with 409 and ends as the lookup of that
payment, once the breaker has recorded the refusal: it changes no payment, and when it comes
back with a payment it is that one as its JSON reads. -/
theorem createPayment_run_of_existing (h : takesAmount amount = true) {q : Payment}
    (hq : s.payments.findByOrder orderId = .ok q) :
    ((createPayment deliver orderId amount method).run s).2.payments = s.payments ∧
      ((createPayment deliver orderId amount method).run s).2.links = s.links ∧
      (∀ p, ((createPayment deliver orderId amount method).run s).1 = .ok p ↔
        ((fetchPayment deliver orderId).run
          ((s.admitted .payment).recorded .payment g true)).1 = .ok p) ∧
      ∀ p, ((createPayment deliver orderId amount method).run s).1 = .ok p →
        Payment.decode q.toJson = .ok p := by
  obtain ⟨b, hsend⟩ := send_creation_conflict (s := s.admitted .payment) h0 h1
    method hup h hq
  obtain ⟨f, hcall⟩ : ∃ f, (call deliver Payment.decode Payment.blank .payment "POST"
      "/api/v1/payments" (some (paymentRequestJson orderId amount method))).run s =
      (.refused 409 f, (s.admitted .payment).recorded .payment g true) :=
    call_run_of_refusal hg hsend (by decide) (by decide)
  obtain ⟨hp, hl, hr⟩ := createPayment_run_of_conflict_stored h0 h1 amount method hcall hup hq
  exact ⟨hp, hl, (createPayment_run_of_conflict hcall).2, hr⟩

include h0 h1 hup in
/-- With the breaker closed, a creation for an order that has a payment comes back with a payment
exactly when the lookup of the order's payment does, with the same one. -/
theorem createPayment_run_of_existing_closed (hc : (s.clientOf .payment).state = .closed)
    (h : takesAmount amount = true) {q : Payment}
    (hq : s.payments.findByOrder orderId = .ok q) (p : Payment) :
    ((createPayment deliver orderId amount method).run s).1 = .ok p ↔
      ((fetchPayment deliver orderId).run s).1 = .ok p := by
  have hg := before_of_closed hc
  -- the lookup after the refusal meets a breaker that is still closed
  have hc₁ := System.recorded_success_closed (System.admitted_closed hc) (s.generationOf .payment)
  obtain ⟨-, -, hcreate, -⟩ := createPayment_run_of_existing h0 h1 amount method hup hg h hq
  rw [hcreate, fetchPayment_run_of_admitted
    (s := (s.admitted .payment).recorded .payment (s.generationOf .payment) true) h0 h1 hup
    (before_of_closed hc₁) hq,
    fetchPayment_run_of_admitted h0 h1 hup hg hq]

include h0 h1 hup hg in
/-- The first creation for an order, with an amount the service takes, stores the payment; the
creation comes back with it as its JSON reads. When that JSON does not read, the creation is sent
again, refused with 409, and ends as the lookup that follows. -/
theorem createPayment_run_of_new {d : Decimal} (hd : Decimal.ofText amount.toText = .ok d)
    (hpos : d.isPositive = true) (hs : s.payments.Keyed) {f : Fault}
    (hnone : s.payments.findByOrder orderId = .error f) :
    ∃ q t, s.payments.create (Payment.create orderId d method) s.clock = .ok (q, t) ∧
      ((createPayment deliver orderId amount method).run s).2.payments = t ∧
      ((createPayment deliver orderId amount method).run s).2.links = s.links ∧
      ∀ p, ((createPayment deliver orderId amount method).run s).1 = .ok p →
        Payment.decode q.toJson = .ok p := by
  obtain ⟨q, t, hc, hsend⟩ := send_creation_stored (s := s.admitted .payment)
    h0 h1 method hup hd hpos hs hnone
  refine ⟨q, t, hc, ?_⟩
  cases hdec : Payment.decode q.toJson with
  | ok p =>
    have hjudge : judge Payment.decode Payment.blank "POST" "/api/v1/payments"
        (some (201, .json q.toJson)) = .answered p := judge_of_decoded (by decide) (by decide) hdec
    have hcall := call_run_of_kept hg hsend (by rw [hjudge]; rfl)
    rw [hjudge] at hcall
    rw [createPayment_run_of_answered hcall]
    exact ⟨rfl, rfl, fun _ h => by cases h; rfl⟩
  | error e =>
    -- the answer does not read: sent again, the creation meets the payment it stored
    have hq : t.findByOrder orderId = .ok q := PaymentStore.findByOrder_create hs hc
    obtain ⟨b, hsend₂⟩ := send_creation_conflict 
      (s := { s.admitted .payment with payments := t }) h0 h1 method hup
      (takesAmount_eq_true.mpr ⟨d, hd, hpos⟩) hq
    obtain ⟨f, hcall⟩ : ∃ f, (call deliver Payment.decode Payment.blank .payment "POST"
        "/api/v1/payments" (some (paymentRequestJson orderId amount method))).run s =
        (.refused 409 f, { s.admitted .payment with payments := t }.recorded .payment g true) :=
      call_run_of_resent_refusal hg hsend
        (by rw [judge_of_undecoded (by decide) (by decide) hdec]; rfl) hsend₂ (by decide) (by decide)
    rw [← hdec]
    exact createPayment_run_of_conflict_stored h0 h1 amount method hcall hup hq

include h0 h1 hup in
/-- Once the order has a payment, a creation changes no payment, and when it comes back with a
payment it is that one, as its JSON reads. -/
theorem createPayment_run_of_paid {q : Payment} (hq : s.payments.findByOrder orderId = .ok q) :
    ((createPayment deliver orderId amount method).run s).2.payments = s.payments ∧
      ((createPayment deliver orderId amount method).run s).2.links = s.links ∧
      ∀ p, ((createPayment deliver orderId amount method).run s).1 = .ok p →
        Payment.decode q.toJson = .ok p := by
  rcases hb : (gobreaker.before s.wall (s.clientOf .payment)).1 with r | g
  · obtain ⟨e, he⟩ : ∃ e, (createPayment deliver orderId amount method).run s =
        (.error e, s.admitted .payment) := createPayment_run_of_shut hb
    rw [he]
    exact ⟨rfl, rfl, nofun⟩
  · cases h : takesAmount amount with
    | false =>
      obtain ⟨e, he⟩ := createPayment_run_of_untaken h0 h1 amount method hup hb h
      rw [he]
      exact ⟨rfl, rfl, nofun⟩
    | true =>
      obtain ⟨hp, hl, -, hr⟩ := createPayment_run_of_existing h0 h1 amount method hup hb h hq
      exact ⟨hp, hl, hr⟩

end Creation

/-! ## Creations one after another -/

/-- Creations for one order one after another, each with its amount and method, with what each
came back with. -/
def createPayments (deliver : Deliver) (orderId : Int) (asks : List (Decimal × String)) :
    SystemM (List (Except Fault Payment)) :=
  asks.mapM fun a => createPayment deliver orderId a.1 a.2

theorem createPayments_run_cons (deliver : Deliver) (orderId : Int) (a : Decimal × String)
    (asks : List (Decimal × String)) (s : System) :
    (createPayments deliver orderId (a :: asks)).run s =
      (((createPayment deliver orderId a.1 a.2).run s).1 ::
        ((createPayments deliver orderId asks).run
          ((createPayment deliver orderId a.1 a.2).run s).2).1,
        ((createPayments deliver orderId asks).run
          ((createPayment deliver orderId a.1 a.2).run s).2).2) := by
  simp only [createPayments, List.mapM_cons, StateT.run_bind, StateT.run_pure]
  rfl

section Runs

variable {orderId : Int} (h0 : 0 < orderId) (h1 : orderId < Int.pow 2 63)
include h0 h1

/-- Once the order has a payment, creations change no payment, and each that comes back with a
payment comes back with that one, as its JSON reads. -/
theorem createPayments_run_of_paid (asks : List (Decimal × String)) {s : System}
    (hup : s.links.payment = .up) {q : Payment} (hq : s.payments.findByOrder orderId = .ok q) :
    ((createPayments deliver orderId asks).run s).2.payments = s.payments ∧
      ∀ p, .ok p ∈ ((createPayments deliver orderId asks).run s).1 →
        Payment.decode q.toJson = .ok p := by
  induction asks generalizing s with
  | nil => exact ⟨rfl, fun _ h => by cases h⟩
  | cons a asks ih =>
    obtain ⟨hp, hl, hr⟩ := createPayment_run_of_paid h0 h1 a.1 a.2 hup hq
    -- the rest starts from the same payments, over the same links
    obtain ⟨hp', hr'⟩ := ih (by rw [hl]; exact hup) (by rw [hp]; exact hq)
    rw [createPayments_run_cons]
    refine ⟨hp'.trans hp, fun p hmem => ?_⟩
    rcases List.mem_cons.mp hmem with h | h
    · exact hr p h.symm
    · exact hr' p h

/-- From a state where the order has no payment and the breaker is closed, creations are refused
until the first with an amount the service takes, which stores the payment it asks for; from
then on each that comes back with a payment comes back with that one. When no amount is taken,
no payment is stored and none comes back. -/
theorem createPayments_run_of_unpaid (asks : List (Decimal × String)) {s : System}
    (hup : s.links.payment = .up) (hclosed : (s.clientOf .payment).state = .closed)
    (hone : s.payments.OnePerOrder) (hnone : ∀ x ∈ s.payments.payments, x.orderId ≠ orderId) :
    ((∀ a ∈ asks, takesAmount a.1 = false) ∧
        ((createPayments deliver orderId asks).run s).2.payments = s.payments ∧
        ∀ p, .ok p ∉ ((createPayments deliver orderId asks).run s).1) ∨
      ∃ pre a post, asks = pre ++ a :: post ∧ (∀ b ∈ pre, takesAmount b.1 = false) ∧
        ∃ d q t, Decimal.ofText a.1.toText = .ok d ∧ d.isPositive = true ∧
          s.payments.create (Payment.create orderId d a.2) s.clock = .ok (q, t) ∧
          ((createPayments deliver orderId asks).run s).2.payments = t ∧
          ∀ p, .ok p ∈ ((createPayments deliver orderId asks).run s).1 →
            Payment.decode q.toJson = .ok p := by
  induction asks generalizing s with
  | nil => exact .inl ⟨nofun, rfl, fun _ h => by cases h⟩
  | cons a asks ih =>
    have hg := before_of_closed hclosed
    rw [createPayments_run_cons]
    cases h : takesAmount a.1 with
    | false =>
      obtain ⟨e, he⟩ := createPayment_run_of_untaken h0 h1 a.1 a.2 hup hg h
      rw [he]
      -- the refusal counts as a success: the rest starts from the same payments, breaker closed
      have hclosed₁ :=
        System.recorded_success_closed (System.admitted_closed hclosed) (s.generationOf .payment)
      rcases ih (s := (s.admitted .payment).recorded .payment (s.generationOf .payment) true)
          hup hclosed₁ hone hnone with
        ⟨hall, hp, hres⟩ | ⟨pre, b, post, hasks, hpre, d, q, t, hd, hpos, hc, hp, hres⟩
      · refine .inl ⟨?_, hp, fun p hmem => ?_⟩
        · intro x hx
          rcases List.mem_cons.mp hx with rfl | hx
          · exact h
          · exact hall x hx
        · rcases List.mem_cons.mp hmem with h' | h'
          · cases h'
          · exact hres p h'
      · refine .inr ⟨a :: pre, b, post, by rw [hasks]; rfl, ?_, d, q, t, hd, hpos, hc, hp,
          fun p hmem => ?_⟩
        · intro x hx
          rcases List.mem_cons.mp hx with rfl | hx
          · exact h
          · exact hpre x hx
        · rcases List.mem_cons.mp hmem with h' | h'
          · cases h'
          · exact hres p h'
    | true =>
      -- the first amount taken stores the payment; the rest find it there
      obtain ⟨d, hd, hpos⟩ := takesAmount_eq_true.mp h
      obtain ⟨q, t, hc, hp, hl, hr⟩ := createPayment_run_of_new h0 h1 a.1 a.2 hup hg hd hpos
        hone.toKeyed (hone.findByOrder_eq_error.mpr ⟨rfl, hnone⟩)
      obtain ⟨hp', hr'⟩ := createPayments_run_of_paid h0 h1 asks (by rw [hl]; exact hup)
        (by rw [hp]; exact PaymentStore.findByOrder_create hone.toKeyed hc)
      refine .inr ⟨[], a, asks, rfl, nofun, d, q, t, hd, hpos, hc, hp'.trans hp, fun p hmem => ?_⟩
      rcases List.mem_cons.mp hmem with h' | h'
      · exact hr p h'.symm
      · exact hr' p h'

/-- What creations one after another do, from a store that keeps one payment per order, with the
breaker closed. Either they change no payment, the order having had one or no amount being taken,
and each that comes back with a payment comes back with the order's own; or the order had none,
the first amount taken stores the payment it asks for, and each that comes back with a payment
comes back with that one. -/
theorem createPayments_run_cases (asks : List (Decimal × String)) {s : System}
    (hup : s.links.payment = .up) (hclosed : (s.clientOf .payment).state = .closed)
    (hone : s.payments.OnePerOrder) :
    (((createPayments deliver orderId asks).run s).2.payments = s.payments ∧
        (s.payments.payments.any (·.orderId == orderId) || asks.any (takesAmount ·.1)) =
          s.payments.payments.any (·.orderId == orderId) ∧
        ∀ p, .ok p ∈ ((createPayments deliver orderId asks).run s).1 →
          ∃ q ∈ s.payments.payments, q.orderId = orderId ∧ Payment.decode q.toJson = .ok p) ∨
      (s.payments.payments.any (·.orderId == orderId) = false ∧
        ∃ pre a post, asks = pre ++ a :: post ∧ (∀ b ∈ pre, takesAmount b.1 = false) ∧
          ∃ d q t, Decimal.ofText a.1.toText = .ok d ∧ d.isPositive = true ∧
            s.payments.create (Payment.create orderId d a.2) s.clock = .ok (q, t) ∧
            ((createPayments deliver orderId asks).run s).2.payments = t ∧
            ∀ p, .ok p ∈ ((createPayments deliver orderId asks).run s).1 →
              Payment.decode q.toJson = .ok p) := by
  cases had : s.payments.payments.any (·.orderId == orderId) with
  | true =>
    obtain ⟨x, hx, hxo⟩ := List.any_eq_true.mp had
    have hxo : x.orderId = orderId := by simpa using hxo
    obtain ⟨hp, hr⟩ := createPayments_run_of_paid h0 h1 asks hup
      (hone.findByOrder_eq_ok.mpr ⟨hx, hxo⟩)
    exact .inl ⟨hp, rfl, fun p hmem => ⟨x, hx, hxo, hr p hmem⟩⟩
  | false =>
    have hnone : ∀ x ∈ s.payments.payments, x.orderId ≠ orderId := fun x hx hxo => by
      simpa [hxo] using List.any_eq_false.mp had x hx
    rcases createPayments_run_of_unpaid h0 h1 asks hup hclosed hone hnone with
      ⟨hall, hp, hres⟩ | ⟨pre, a, post, hasks, hpre, d, q, t, hd, hpos, hc, hp, hres⟩
    · have hany : asks.any (takesAmount ·.1) = false :=
        List.any_eq_false.mpr fun a ha => by simp [hall a ha]
      exact .inl ⟨hp, by rw [hany]; rfl, fun p hmem => absurd hmem (hres p)⟩
    · exact .inr ⟨rfl, pre, a, post, hasks, hpre, d, q, t, hd, hpos, hc, hp, hres⟩

/-- After creations one after another, the store keeps one payment per order and has gained
payments of the order only: exactly one when the order had one or some amount was taken, none
otherwise. A payment of the order it did not have is the one the first amount taken asked for. -/
theorem createPayments_run_store (asks : List (Decimal × String)) {s : System}
    (hup : s.links.payment = .up) (hclosed : (s.clientOf .payment).state = .closed)
    (hone : s.payments.OnePerOrder) :
    ((createPayments deliver orderId asks).run s).2.payments.OnePerOrder ∧
      (∃ new, ((createPayments deliver orderId asks).run s).2.payments.payments =
        s.payments.payments ++ new ∧ ∀ q ∈ new, q.orderId = orderId) ∧
      ((createPayments deliver orderId asks).run s).2.payments.payments.countP
          (·.orderId == orderId) =
        (if s.payments.payments.any (·.orderId == orderId) || asks.any (takesAmount ·.1)
          then 1 else 0) ∧
      ∀ q ∈ ((createPayments deliver orderId asks).run s).2.payments.payments,
        q.orderId = orderId → q ∈ s.payments.payments ∨
          ∃ pre a post, asks = pre ++ a :: post ∧ (∀ b ∈ pre, takesAmount b.1 = false) ∧
            takesAmount a.1 = true ∧ Decimal.ofText a.1.toText = .ok q.amount := by
  rcases createPayments_run_cases h0 h1 asks hup hclosed hone with
    ⟨hp, hany, -⟩ | ⟨had, pre, a, post, hasks, hpre, d, q, t, hd, hpos, hc, hp, -⟩
  · rw [hp, hany, hone.countP_orderId]
    exact ⟨hone, ⟨[], by simp, fun _ h => by cases h⟩, rfl, fun q hq _ => .inl hq⟩
  · -- the payments gained are the one the first amount taken stored
    obtain ⟨ht, -, -, hqo, -, -⟩ := PaymentStore.create_payments hc
    have hqo : q.orderId = orderId := hqo
    have htake : takesAmount a.1 = true := takesAmount_eq_true.mpr ⟨d, hd, hpos⟩
    have hone' := hone.create hc
    rw [hp]
    refine ⟨hone', ⟨[q], ht, by simpa using hqo⟩, ?_, fun q' hq' _ => ?_⟩
    · have hasks : asks.any (takesAmount ·.1) = true :=
        List.any_eq_true.mpr ⟨a, by simp [hasks], htake⟩
      have hstored : t.payments.any (·.orderId == orderId) = true :=
        List.any_eq_true.mpr ⟨q, by simp [ht], by simpa using hqo⟩
      rw [hone'.countP_orderId, had, hasks, hstored]
      rfl
    · rw [ht] at hq'
      rcases List.mem_append.mp hq' with h | h
      · exact .inl h
      · obtain rfl := List.mem_singleton.mp h
        exact .inr ⟨pre, a, post, hasks, hpre, htake,
          by rw [hd, PaymentStore.create_amount hc]; rfl⟩

/-- Each creation that comes back with a payment comes back with a stored payment of the order,
as its JSON reads. -/
theorem createPayments_run_results (asks : List (Decimal × String)) {s : System}
    (hup : s.links.payment = .up) (hclosed : (s.clientOf .payment).state = .closed)
    (hone : s.payments.OnePerOrder) :
    ∀ p, .ok p ∈ ((createPayments deliver orderId asks).run s).1 →
      ∃ q ∈ ((createPayments deliver orderId asks).run s).2.payments.payments,
        q.orderId = orderId ∧ Payment.decode q.toJson = .ok p := by
  rcases createPayments_run_cases h0 h1 asks hup hclosed hone with
    ⟨hp, -, hres⟩ | ⟨-, _, _, _, -, -, _, q, t, -, -, hc, hp, hres⟩
  · rw [hp]
    exact hres
  · obtain ⟨ht, -, -, hqo, -⟩ := PaymentStore.create_payments hc
    exact fun p hmem => ⟨q, by simp [hp, ht], hqo, hres p hmem⟩

end Runs

end Gateway

open Gateway in
/-- **Creating a payment again gives back the first.** Creations for one order one after another,
with any amounts and methods, against the payment service over a link that is up, with the
client breaker closed, from a store that keeps one payment per order:
* the store still keeps one payment per order, and has gained payments of this order only;
* the order has exactly one payment when it had one or some amount was taken, none otherwise;
* every creation that comes back with a payment comes back with the order's stored payment, as
  its JSON reads, so all of them with the same one;
* a payment the order did not have before is the one the first amount taken asked for;
* once the order has a payment, a creation with an amount the service takes is refused with 409
  and comes back with what the lookup of the order's payment comes back with. -/
theorem creations_store_one_payment (s : System) (orderId : Int) (asks : List (Decimal × String))
    (h0 : 0 < orderId) (h1 : orderId < Int.pow 2 63) (hup : s.links.payment = .up)
    (hclosed : (s.clientOf .payment).state = .closed) (hone : s.payments.OnePerOrder) :
    let r := (createPayments deliver orderId asks).run s
    r.2.payments.OnePerOrder ∧
      (∃ new, r.2.payments.payments = s.payments.payments ++ new ∧
        ∀ q ∈ new, q.orderId = orderId) ∧
      r.2.payments.payments.countP (·.orderId == orderId) =
        (if s.payments.payments.any (·.orderId == orderId) || asks.any (takesAmount ·.1)
          then 1 else 0) ∧
      (∀ p, .ok p ∈ r.1 → ∃ q ∈ r.2.payments.payments, q.orderId = orderId ∧
        Payment.decode q.toJson = .ok p) ∧
      (∀ p p', .ok p ∈ r.1 → .ok p' ∈ r.1 → p = p') ∧
      (∀ q ∈ r.2.payments.payments, q.orderId = orderId → q ∈ s.payments.payments ∨
        ∃ pre a post, asks = pre ++ a :: post ∧ (∀ b ∈ pre, takesAmount b.1 = false) ∧
          takesAmount a.1 = true ∧ Decimal.ofText a.1.toText = .ok q.amount) ∧
      ∀ s' : System, s'.links.payment = .up → (s'.clientOf .payment).state = .closed →
        ∀ q, s'.payments.findByOrder orderId = .ok q →
        ∀ (amount : Decimal) (method : String), takesAmount amount = true →
          (∃ b, (send deliver .payment (callRequest "POST" "/api/v1/payments"
            (some (paymentRequestJson orderId amount method)))).run s' = (some (409, b), s')) ∧
          ∀ p, ((createPayment deliver orderId amount method).run s').1 = .ok p ↔
            ((fetchPayment deliver orderId).run s').1 = .ok p := by
  intro r
  obtain ⟨hone', hnew, hcount, hfirst⟩ := createPayments_run_store h0 h1 asks hup hclosed hone
  have hres := createPayments_run_results h0 h1 asks hup hclosed hone
  refine ⟨hone', hnew, hcount, hres, fun p p' hp hp' => ?_, hfirst, ?_⟩
  · -- both read from the one payment of the order
    obtain ⟨q, hq, hqo, hdq⟩ := hres p hp
    obtain ⟨q', hq', hqo', hdq'⟩ := hres p' hp'
    obtain rfl : q = q' := List.inj_on_of_nodup_map hone'.orders hq hq' (hqo.trans hqo'.symm)
    rw [hdq] at hdq'
    exact Except.ok.inj hdq'
  · intro s' hup' hb' q hq amount method htake
    exact ⟨send_creation_conflict h0 h1 method hup' htake hq,
      createPayment_run_of_existing_closed h0 h1 amount method hup' hb' htake hq⟩

/-- From a new system, creations for order 7 with an amount that is no positive decimal and then
two that are taken leave the order with one payment. -/
theorem creations_store_one_payment_seven :
    let s := System.make Instant.zero 5 ⟨0⟩ false none
    let asks : List (Decimal × String) := [(⟨0, 0⟩, ""), (⟨1250, -2⟩, "card"), (⟨5, 0⟩, "")]
    0 < (7 : Int) ∧ (7 : Int) < Int.pow 2 63 ∧ s.links.payment = .up ∧
      (s.clientOf .payment).state = .closed ∧ s.payments.OnePerOrder ∧
      ((Gateway.createPayments deliver 7 asks).run s).2.payments.payments.countP
        (·.orderId == 7) = 1 := by
  intro s asks
  have h0 : 0 < (7 : Int) := by decide
  have h1 : (7 : Int) < Int.pow 2 63 := by decide
  have hclosed : (s.clientOf .payment).state = .closed := rfl
  obtain ⟨-, -, hcount, -⟩ :=
    creations_store_one_payment s 7 asks h0 h1 rfl hclosed PaymentStore.onePerOrder_empty
  refine ⟨h0, h1, rfl, hclosed, PaymentStore.onePerOrder_empty, ?_⟩
  rw [hcount]
  decide

end Fulfillment.Http
