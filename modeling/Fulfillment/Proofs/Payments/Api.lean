import Fulfillment.Proofs.Gateway.Answers
import Fulfillment.Proofs.Http.Routes
import Fulfillment.Proofs.Keys.Protocol
import Fulfillment.Proofs.Payments.Store

/-!
# The payment service's answers to a gateway

A gateway asks the payment service for two things: to create a payment for an order, with a
`POST` whose body is `Gateway.paymentRequestJson`, and to look the payment of an order up, with
a `GET` of `/api/v1/payments/order/<id>`. This module says what the service answers to each,
for every state of the system, when the link to it is up.

* The body is read back as the gateway wrote it (`bind_paymentRequestJson`): the order id as
  sent, the method, and the amount as `Decimal.ofText` reads the decimal's text, which needs no
  escapes in JSON (`Decimal.toText_unescaped`). A text that is no decimal is refused.
* A creation is refused with 400 unless the amount reads as a positive decimal, with 409 when the
  order has a payment, and otherwise answered with 201 and the stored payment
  (`send_creation`). A lookup answers 200 with the order's payment, or 404 when it has none
  (`send_lookup`). Neither changes anything but the payments a creation stores.
-/

namespace Fulfillment.Decimal

theorem padDigits_isDigit (n width : Nat) :
    ∀ c ∈ padDigits (toString n).toList width, c.isDigit = true := by
  intro c hc
  rcases List.mem_append.mp hc with hc | hc
  · rw [List.eq_of_mem_replicate hc]; rfl
  · exact Json.isDigit_of_mem_toString n c hc

theorem digitsWithin_isDigit (fuel n width : Nat) :
    ∀ c ∈ digitsWithin fuel n width, c.isDigit = true := by
  induction fuel generalizing n width with
  | zero => exact padDigits_isDigit n width
  | succ fuel ih =>
    intro c hc
    simp only [digitsWithin] at hc
    split at hc
    · exact padDigits_isDigit n width c hc
    · rcases List.mem_append.mp hc with hc | hc
      · exact ih _ _ c hc
      · exact ih _ _ c hc

theorem natDigits_isDigit (n : Nat) : ∀ c ∈ natDigits n, c.isDigit = true :=
  digitsWithin_isDigit _ n 0

theorem dropTrailingZeros_subset (cs : List Char) : ∀ c ∈ dropTrailingZeros cs, c ∈ cs :=
  fun _ hc => List.mem_reverse.mp ((List.dropWhile_sublist _).subset (List.mem_reverse.mp hc))

/-- Digits before the point and digits after it, trailing zeros dropped. -/
theorem number_chars {ip fr : List Char} {c : Char}
    (hc : c ∈ if dropTrailingZeros fr = [] then ip else ip ++ '.' :: dropTrailingZeros fr)
    (hip : ∀ c ∈ ip, c.isDigit = true) (hfr : ∀ c ∈ fr, c.isDigit = true) :
    c.isDigit = true ∨ c = '-' ∨ c = '.' := by
  split_ifs at hc
  · exact .inl (hip c hc)
  · rcases List.mem_append.mp hc with hc | hc
    · exact .inl (hip c hc)
    · rcases List.mem_cons.mp hc with rfl | hc
      · exact .inr (.inr rfl)
      · exact .inl (hfr c (dropTrailingZeros_subset fr c hc))

/-- The characters of a decimal's text: digits, a minus sign and a point. -/
theorem toText_chars (d : Decimal) :
    ∀ c ∈ d.toText.toList, c.isDigit = true ∨ c = '-' ∨ c = '.' := by
  have hdig := natDigits_isDigit d.coeff.natAbs
  have hzeros : ∀ n, ∀ c ∈ List.replicate n '0', c.isDigit = true := fun n c h => by
    rw [List.eq_of_mem_replicate h]; rfl
  -- the two ways the digits split around the point when the exponent is negative
  have hcut : ∀ n, (∀ c ∈ (natDigits d.coeff.natAbs).take n, c.isDigit = true) ∧
      ∀ c ∈ (natDigits d.coeff.natAbs).drop n, c.isDigit = true := fun n =>
    ⟨fun c h => hdig c (List.mem_of_mem_take h), fun c h => hdig c (List.mem_of_mem_drop h)⟩
  have hpad : ∀ n, ∀ c ∈ List.replicate n '0' ++ natDigits d.coeff.natAbs, c.isDigit = true :=
    fun n c h => (List.mem_append.mp h).elim (hzeros n c) (hdig c)
  have hzero : ∀ c ∈ ['0'], c.isDigit = true := by simp
  intro c hc
  unfold toText at hc
  split_ifs at hc with hexp hzero hneg hneg
  · simp only [show "0".toList = ['0'] from rfl, List.mem_singleton] at hc
    exact .inl (hc ▸ rfl)
  · simp only [String.toList_ofList, List.mem_cons, List.mem_append] at hc
    rcases hc with rfl | hc | hc
    · exact .inr (.inl rfl)
    · exact .inl (hdig c hc)
    · exact .inl (hzeros _ c hc)
  · simp only [String.toList_ofList, List.mem_append] at hc
    exact .inl (hc.elim (hdig c) (hzeros _ c))
  · dsimp only at hc
    split at hc
    all_goals
      simp only [String.toList_ofList, List.mem_cons] at hc
      rcases hc with rfl | hc
      · exact .inr (.inl rfl)
    · exact number_chars hc (hcut _).1 (hcut _).2
    · exact number_chars hc hzero (hpad _)
  · dsimp only at hc
    split at hc
    · exact number_chars (by simpa using hc) (hcut _).1 (hcut _).2
    · exact number_chars (by simpa using hc) hzero (hpad _)

theorem digitsWithin_ne_nil (fuel n width : Nat) : digitsWithin fuel n width ≠ [] := by
  have hpad : ∀ n width : Nat, padDigits (toString n).toList width ≠ [] := fun n width => by
    simp [padDigits]
  induction fuel generalizing n width with
  | zero => exact hpad n width
  | succ fuel ih =>
    simp only [digitsWithin]
    split
    · exact hpad n width
    · simp [ih]

/-- A decimal's text is never empty. -/
theorem toText_ne_nil (d : Decimal) : d.toText.toList ≠ [] := by
  have hdig : natDigits d.coeff.natAbs ≠ [] := digitsWithin_ne_nil _ _ _
  unfold toText
  split_ifs with hexp hzero hneg hneg
  · simp
  · simp
  · simp [hdig]
  · simp
  · dsimp only
    split
    · rename_i hk
      have : 0 < (natDigits d.coeff.natAbs).length - d.exp.natAbs := by omega
      split_ifs <;> simp
      exact ⟨by omega, hdig⟩
    · split_ifs <;> simp

/-- A printable character other than a quote and a backslash is written as itself. -/
theorem escapeChar_printable {c : Char} (h1 : 0x20 ≤ c.toNat) (h2 : c ≠ '"') (h3 : c ≠ '\\') :
    Json.escapeChar c = [c] := by
  unfold Json.escapeChar
  split
  · exact absurd rfl h2
  · exact absurd rfl h3
  · simp at h1
  · simp at h1
  · simp at h1
  · rw [if_neg (by omega)]

/-- A decimal's text needs no escapes in a JSON string. -/
theorem toText_unescaped (d : Decimal) : d.toText.toList.flatMap Json.escapeChar = d.toText.toList := by
  have h : ∀ c ∈ d.toText.toList, Json.escapeChar c = [c] := by
    intro c hc
    have hn : 45 ≤ c.toNat ∧ c.toNat ≤ 57 := by
      rcases toText_chars d c hc with h | rfl | rfl
      · have : 48 ≤ c.toNat ∧ c.toNat ≤ 57 := by
          simpa [Char.isDigit, UInt32.le_iff_toNat_le] using h
        omega
      · decide
      · decide
    exact escapeChar_printable (by omega) (by rintro rfl; simp at hn) (by rintro rfl; simp at hn)
  rw [List.flatMap_congr h (g := fun c => [c]), List.flatMap_singleton']

/-- A decimal member written as a JSON string is read as the decimal's text. -/
theorem decimalSource_str_toText (d : Decimal) :
    Json.decimalSource (Json.str d.toText) = d.toText := by
  have hne := toText_ne_nil d
  have hlen : 0 < d.toText.toList.length := List.length_pos_iff.mpr hne
  simp only [Json.decimalSource, Json.written, Json.str, Json.compact, toText_unescaped,
    String.ofList_toList, String.toList_append, show "\"".toList = ['"'] from rfl]
  rw [if_pos ⟨by simp; omega, by simp, List.getLast?_concat⟩]
  simp

end Fulfillment.Decimal

namespace Fulfillment

open Json

/-! ## Reading a creation request -/

theorem readInt64?_toString {n : Int} (h0 : 0 ≤ n) (h : n < Int.pow 2 63) :
    Number.readInt64? (toString n) = some n := by
  unfold Number.readInt64?
  rw [Number.readInt_toString h0 h]

theorem readIntField_int {n : Int} (h0 : 0 ≤ n) (h : n < Int.pow 2 63) (e : String) (place : Place)
    (cur : Int) (s : Option Mismatch) : (readIntField e place (Json.int n) cur).run s = .ok (n, s) := by
  unfold readIntField
  simp only [Json.int, readInt64?_toString h0 h]
  rfl

theorem readTextField_str (t e : String) (place : Place) (cur : String) (s : Option Mismatch) :
    (readTextField e place (Json.str t) cur).run s = .ok (t, s) := rfl

theorem readDecimalField_str (d : Decimal) (place : Place) (cur : Decimal) :
    (readDecimalField place (Json.str d.toText) cur).run none =
      match Decimal.ofText d.toText with
      | .ok v => .ok (v, none)
      | .error e => .error ("error decoding string '" ++ d.toText ++ "': " ++ e) := by
  have hs := Decimal.decimalSource_str_toText d
  unfold Json.str at hs ⊢
  unfold readDecimalField
  dsimp only
  rw [hs]
  cases Decimal.ofText d.toText <;> rfl

theorem except_ok_bind {ε α β : Type} (a : α) (f : α → Except ε β) : (Except.ok a >>= f) = f a := rfl

theorem decode_request {orderId : Int} (h0 : 0 ≤ orderId) (h1 : orderId < Int.pow 2 63)
    (amount : Decimal) (method : String) (sp : Span) :
    PaymentRequest.decode (.object (("order_id", Json.int orderId) :: ("amount", .str amount.toText) ::
        if method.isEmpty then [] else [("payment_method", .str method)]) sp) =
      match Decimal.ofText amount.toText with
      | .ok d => .ok ⟨orderId, d, method⟩
      | .error e => .error ("error decoding string '" ++ amount.toText ++ "': " ++ e) := by
  have e1 : Text.foldEq "order_id" "order_id" = true := by decide
  have e2 : Text.foldEq "order_id" "amount" = false := by decide
  have e3 : Text.foldEq "amount" "amount" = true := by decide
  have e4 : Text.foldEq "order_id" "payment_method" = false := by decide
  have e5 : Text.foldEq "amount" "payment_method" = false := by decide
  have e6 : Text.foldEq "payment_method" "payment_method" = true := by decide
  unfold PaymentRequest.decode decodeModel decodeRecord readRecord
  cases hm : method.isEmpty
  · simp only [Bool.false_eq_true, ↓reduceIte, List.foldlM_cons, List.foldlM_nil, PaymentRequest.fields, List.find?_cons, e1, e2, e3, e4,
      e5, e6]
    simp only [StateT.run_bind, readIntField_int h0 h1, except_ok_bind, StateT.run_pure, pure_bind,
      readDecimalField_str]
    cases hd : Decimal.ofText amount.toText
    · rfl
    · simp only [except_ok_bind, pure_bind, readTextField_str]
      rfl
  · simp only [↓reduceIte, List.foldlM_cons, List.foldlM_nil, PaymentRequest.fields, List.find?_cons, e1, e2, e3]
    simp only [StateT.run_bind, readIntField_int h0 h1, except_ok_bind, StateT.run_pure, pure_bind,
      readDecimalField_str]
    have hm' : method = "" := by simpa using hm
    cases hd : Decimal.ofText amount.toText
    · rfl
    · subst hm'
      rfl


namespace Http

/-- The payment service binds a gateway's creation request to the order id as sent and the
method, with the amount read from the decimal's text; a text that is no decimal is refused. -/
theorem bind_paymentRequestJson {orderId : Int} (h0 : 0 < orderId) (h1 : orderId < Int.pow 2 63)
    (amount : Decimal) (method : String) :
    paymentBinding.bind
        (Payload.ofText (Gateway.paymentRequestJson orderId amount method).compact).firstValue =
      match Decimal.ofText amount.toText with
      | .ok d => .ok ⟨orderId, d, method⟩
      | .error e =>
        .error (.invalid ("invalid request: error decoding string '" ++ amount.toText ++ "': " ++ e)) := by
  have hv : ∀ x ∈ ("order_id", Json.int orderId) :: ("amount", Json.str amount.toText) ::
      (if method.isEmpty then [] else [("payment_method", Json.str method)]), ReadsBack x.2 := by
    intro x hx
    split at hx <;> simp only [List.mem_cons, List.not_mem_nil, or_false] at hx
    all_goals
      rcases hx with rfl | rfl | rfl
      · exact readsBack_int h0.le
      all_goals exact readsBack_str _
  have hread := readFirst_compact_obj _ _ hv
  simp only [Gateway.paymentRequestJson, List.cons_append, List.nil_append, Payload.ofText,
    Payload.firstValue, hread, Binding.bind, paymentBinding, decode_request h0.le h1]
  have hrules : ∀ d, verdict "CreatePaymentRequest"
      (PaymentRequest.bindingRules ⟨orderId, d, method⟩) = none := fun d => by
    simp [verdict, PaymentRequest.bindingRules, FieldRules.broken, Rule.holds, FieldValue.size,
      h0, h0.ne']
  cases Decimal.ofText amount.toText with
  | ok d => simp [hrules]
  | error e => rfl

/-! ## What the handlers answer -/

/-- The request a gateway sends to create a payment for an order. -/
theorem creation_body (orderId : Int) (amount : Decimal) (method : String) :
    (callRequest "POST" "/api/v1/payments" (some (Gateway.paymentRequestJson orderId amount method))).body =
      Payload.ofText (Gateway.paymentRequestJson orderId amount method).compact := rfl

/-- What the creation handler does with a gateway's request: it refuses an amount that is no
positive decimal, refuses an order that has a payment, and otherwise stores a new payment and
answers with it. -/
theorem Payments.create_run {orderId : Int} (h0 : 0 < orderId) (h1 : orderId < Int.pow 2 63)
    (amount : Decimal) (method : String) (s : System) :
    (Payments.create (callRequest "POST" "/api/v1/payments"
        (some (Gateway.paymentRequestJson orderId amount method))) []).run s =
      match Decimal.ofText amount.toText with
      | .error e => (failure (.invalid ("invalid request: error decoding string '" ++
          amount.toText ++ "': " ++ e)) s.clock, s)
      | .ok d =>
        if d.isPositive then
          match s.payments.create (Payment.create orderId d method) s.clock with
          | .ok (q, t) => (.ofJson 201 q.toJson, { s with payments := t })
          | .error f => (failure (.within "create payment" f) s.clock, s)
        else (failure (.invalid "amount must be greater than 0") s.clock, s) := by
  unfold Payments.create withBody
  rw [creation_body, bind_paymentRequestJson h0 h1]
  cases Decimal.ofText amount.toText with
  | error e => rfl
  | ok d =>
    simp only [PaymentService.create, PaymentRequest.check, if_neg (not_le.mpr h0)]
    by_cases hd : d.isPositive = true
    · simp only [hd, Bool.not_true, Bool.false_eq_true, if_false, if_true]
      cases hc : s.payments.create (Payment.create orderId d method) s.clock with
      | ok r =>
        obtain ⟨q, t⟩ := r
        simp [paymentRepo, hc, answer, now]
        rfl
      | error f =>
        simp [paymentRepo, hc, answer, now]
        rfl
    · simp [hd, answer, now]
      rfl

/-- The id a lookup's path names is read as the order id that was written into it. -/
theorem pathId_toString {orderId : Int} (h0 : 0 < orderId) (h1 : orderId < Int.pow 2 63)
    (name : String) : pathId name (PathText.ofText (toString orderId)) = .ok orderId := by
  unfold pathId
  rw [PathText.text?_ofText]
  dsimp only
  rw [Number.readInt_toString h0.le h1]
  exact if_pos h0

/-- The lookup handler answers with the order's payment, or with the fault of its absence, and
changes nothing. -/
theorem Payments.byOrder_run {orderId : Int} (h0 : 0 < orderId) (h1 : orderId < Int.pow 2 63)
    (req : Request) (s : System) :
    (Payments.byOrder req [("orderId", PathText.ofText (toString orderId))]).run s =
      (match s.payments.findByOrder orderId with
       | .ok q => .ofJson 200 q.toJson
       | .error f => failure f s.clock, s) := by
  have hget : Params.get [("orderId", PathText.ofText (toString orderId))] "orderId" =
      PathText.ofText (toString orderId) := rfl
  unfold Payments.byOrder withId
  rw [hget, pathId_toString h0 h1]
  cases hf : s.payments.findByOrder orderId <;> simp [paymentRepo, hf, answer, now] <;> rfl

/-- Whether the payment service takes an amount a gateway sends: its text reads as a positive
decimal. -/
def takesAmount (amount : Decimal) : Bool :=
  match Decimal.ofText amount.toText with
  | .ok d => d.isPositive
  | .error _ => false

theorem takesAmount_eq_true {amount : Decimal} :
    takesAmount amount = true ↔ ∃ d, Decimal.ofText amount.toText = .ok d ∧ d.isPositive = true := by
  unfold takesAmount
  cases Decimal.ofText amount.toText <;> simp

/-! ## What a gateway gets back -/

/-- Over a link that is up, a gateway's creation request gets the creation handler's answer. -/
theorem send_creation {orderId : Int} (amount : Decimal) (method : String) {s : System}
    (hup : s.links.payment = .up) :
    (send deliver .payment (callRequest "POST" "/api/v1/payments"
        (some (Gateway.paymentRequestJson orderId amount method)))).run s =
      (some ((((Payments.create (callRequest "POST" "/api/v1/payments"
          (some (Gateway.paymentRequestJson orderId amount method))) []).run s).1.status : Int),
        ((Payments.create (callRequest "POST" "/api/v1/payments"
          (some (Gateway.paymentRequestJson orderId amount method))) []).run s).1.body),
        ((Payments.create (callRequest "POST" "/api/v1/payments"
          (some (Gateway.paymentRequestJson orderId amount method))) []).run s).2) := by
  unfold send
  simp only [StateT.run_bind, StateT.run_get, pure_bind, Links.get, hup, deliver, serveWithin,
    Service.router]
  rw [show (callRequest "POST" "/api/v1/payments"
    (some (Gateway.paymentRequestJson orderId amount method))).method = "POST" from rfl,
    show (callRequest "POST" "/api/v1/payments"
    (some (Gateway.paymentRequestJson orderId amount method))).target =
      RequestUri.ofPath "/api/v1/payments" from rfl, Payments.dispatch_create]
  -- the handler's run, mapped to the answer: `rfl` alone unfolds the handler first
  simp only [StateT.run_map, StateT.run_pure]
  rfl

/-- Over a link that is up, a gateway's lookup gets the order's payment, or the fault of its
absence, and changes nothing. -/
theorem send_lookup {orderId : Int} (h0 : 0 < orderId) (h1 : orderId < Int.pow 2 63) {s : System}
    (hup : s.links.payment = .up) :
    (send deliver .payment
        (callRequest "GET" ("/api/v1/payments/order/" ++ toString orderId) none)).run s =
      (some (match s.payments.findByOrder orderId with
        | .ok q => (200, .json q.toJson)
        | .error f => (((failure f s.clock).status : Int), (failure f s.clock).body)), s) := by
  unfold send
  simp only [StateT.run_bind, StateT.run_get, pure_bind, Links.get, hup, deliver, serveWithin,
    Service.router]
  rw [show (callRequest "GET" ("/api/v1/payments/order/" ++ toString orderId) none).method = "GET"
    from rfl, show (callRequest "GET" ("/api/v1/payments/order/" ++ toString orderId) none).target =
      RequestUri.ofPath ("/api/v1/payments/order/" ++ toString orderId) from rfl,
    Payments.dispatch_byOrder h0.le]
  simp only [StateT.run_map, Payments.byOrder_run h0 h1]
  cases s.payments.findByOrder orderId <;> rfl

section Creation

variable {orderId : Int} (h0 : 0 < orderId) (h1 : orderId < Int.pow 2 63) {amount : Decimal}
  (method : String) {s : System} (hup : s.links.payment = .up)
include h0 h1 hup

/-- An amount the service does not take is refused with 400, and nothing changes. -/
theorem send_creation_refused (h : takesAmount amount = false) :
    ∃ b, (send deliver .payment (callRequest "POST" "/api/v1/payments"
      (some (Gateway.paymentRequestJson orderId amount method)))).run s = (some (400, b), s) := by
  rw [send_creation amount method hup, Payments.create_run h0 h1]
  unfold takesAmount at h
  cases hd : Decimal.ofText amount.toText with
  | error e => exact ⟨_, rfl⟩
  | ok d =>
    rw [hd] at h
    simp only [h, Bool.false_eq_true, ↓reduceIte]
    exact ⟨_, rfl⟩

/-- A creation for an order that has a payment is refused with 409, and nothing changes. -/
theorem send_creation_conflict (h : takesAmount amount = true) {q : Payment}
    (hq : s.payments.findByOrder orderId = .ok q) :
    ∃ b, (send deliver .payment (callRequest "POST" "/api/v1/payments"
      (some (Gateway.paymentRequestJson orderId amount method)))).run s = (some (409, b), s) := by
  obtain ⟨d, hd, hpos⟩ := takesAmount_eq_true.mp h
  -- the lookup went through the index, which then has the order
  obtain ⟨id, hid, -, -⟩ := PaymentStore.findByOrder_eq_ok hq
  have hc : s.payments.create (Payment.create orderId d method) s.clock =
      .error (PaymentStore.alreadyPaid orderId) :=
    PaymentStore.create_eq_error.mpr ⟨rfl, by simp [Payment.create, hid]⟩
  rw [send_creation amount method hup, Payments.create_run h0 h1, hd]
  simp only [hpos, ↓reduceIte, hc]
  exact ⟨_, rfl⟩

/-- A creation for an order without a payment, with an amount the service takes, stores the
payment and answers 201 with it. -/
theorem send_creation_stored {d : Decimal} (hd : Decimal.ofText amount.toText = .ok d)
    (hpos : d.isPositive = true) (hs : s.payments.Keyed) {f : Fault}
    (hnone : s.payments.findByOrder orderId = .error f) :
    ∃ q t, s.payments.create (Payment.create orderId d method) s.clock = .ok (q, t) ∧
      (send deliver .payment (callRequest "POST" "/api/v1/payments"
        (some (Gateway.paymentRequestJson orderId amount method)))).run s =
        (some (201, .json q.toJson), { s with payments := t }) := by
  cases hc : s.payments.create (Payment.create orderId d method) s.clock with
  | error e =>
    -- a refused create needs the order in the index, and the lookup found it missing there
    have hsome := (PaymentStore.create_eq_error.mp hc).2
    simp [Payment.create, (hs.findByOrder_eq_error.mp hnone).2] at hsome
  | ok r =>
    obtain ⟨q, t⟩ := r
    refine ⟨q, t, rfl, ?_⟩
    rw [send_creation amount method hup, Payments.create_run h0 h1, hd]
    simp only [hpos, ↓reduceIte, hc]
    rfl

end Creation

end Http

end Fulfillment
