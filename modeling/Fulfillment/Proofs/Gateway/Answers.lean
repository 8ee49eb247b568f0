import Fulfillment.Http.Gateway
import Fulfillment.Proofs.Breaker.Ratio

/-!
# What gateways make of the answers they get

A gateway call asks the target's client breaker first; a closed breaker admits it and counts the
request (`System.admitted`). The call then sends its request, and sends it once more when the
answer fails: no answer at all, a status of 500 or more, or a 2xx body that cannot be read. The
answer it ends on (`lastAnswer`) is what it reads (`call_outcome`), and the breaker records
whether the call succeeded (`System.recorded`). An answer from 400 to 499 to the first sending
settles the call and is recorded as a success (`call_run_of_refusal`); no answer or a 5xx answer
sends it again, and a second such answer is recorded as one failure (`call_run_of_transient`).

Customer and payment lookups report "not found" exactly when the call ends on a 404 and report
every other failure as the service being unavailable; the customer check holds exactly when the
call ends on a 2xx answer whose body is `true` (`gateway_reads_answers`).
-/

namespace Fulfillment.Http

namespace System

/-- The system once the client breaker of `target` has admitted a call. -/
def admitted (s : System) (target : Service) : System :=
  s.setClient target (gobreaker.before s.wall (s.clientOf target)).2

/-- The generation of counts a call to `target` is admitted in. -/
def generationOf (s : System) (target : Service) : Nat :=
  ((s.clientOf target).atNow s.wall).generation

/-- The system once the client breaker of `target` has recorded whether a call of generation `g`
succeeded. -/
def recorded (s : System) (target : Service) (g : Nat) (success : Bool) : System :=
  s.setClient target (gobreaker.after s.wall g success (s.clientOf target))

end System

/-- No answer, or an answer with a status of 500 or more: a failure whatever the call asks for. -/
def Transient (a : Option (Int × Body)) : Prop :=
  a = none ∨ ∃ code body, a = some (code, body) ∧ 500 ≤ code

/-- The answer a call ends on, from the answer to its first sending and the answer a second
sending would get. -/
def lastAnswer {α : Type} (decode : Json → Except String α) (zero : α) (method path : String)
    (first second : Option (Int × Body)) : Option (Int × Body) :=
  if (judge decode zero method path first).isFailure then second else first

theorem id_bind_eq {β γ : Type} (x : β) (f : β → Id γ) : (x >>= f : Id γ) = f x := rfl

theorem unavailable_ne_missing (op : String) (f : Fault) (entity : Entity) :
    unavailable op f ≠ .missing entity := by
  unfold unavailable
  split <;> nofun

theorem missing_isA_unavailable (entity : Entity) :
    (Fault.missing entity).isA .serviceUnavailable = false := rfl

/-! ## Reading one answer -/

section Judge

variable {α : Type} {decode : Json → Except String α} {zero : α} {method path : String}

/-- A call fails on a transient answer with a plain note, which no breaker takes for a marked
answer. -/
theorem judge_failed_of_transient {a : Option (Int × Body)} (h : Transient a) :
    ∃ text, judge decode zero method path a = .failed (.note text) := by
  rcases h with rfl | ⟨code, body, rfl, hc⟩
  · exact ⟨_, rfl⟩
  · exact ⟨method ++ " " ++ path ++ " returned status " ++ toString code,
      by simp only [judge, if_pos hc]⟩

theorem judge_isFailure_of_transient {a : Option (Int × Body)} (h : Transient a) :
    (judge decode zero method path a).isFailure = true := by
  obtain ⟨text, hf⟩ : ∃ text, judge decode zero method path a = .failed (.note text) :=
    judge_failed_of_transient h
  rw [hf]
  rfl

theorem judge_of_refusal {code : Int} {body : Body} (h4 : 400 ≤ code) (h5 : code < 500) :
    judge decode zero method path (some (code, body)) = .refused code
      (.note (method ++ " " ++ path ++ " returned status " ++ toString code ++ ": " ++
        body.content)) := by
  simp only [judge, if_neg (show ¬500 ≤ code by omega), if_pos h4]

theorem judge_eq_refused {a : Option (Int × Body)} {code : Int} {f : Fault}
    (h : judge decode zero method path a = .refused code f) :
    ∃ body, a = some (code, body) ∧ 400 ≤ code ∧ code < 500 := by
  unfold judge at h
  split at h
  · cases h
  · next c body =>
    split at h
    · cases h
    · split at h
      · cases h
        exact ⟨body, rfl, by omega, by omega⟩
      -- below 400 every answer is read as a value or fails
      · split at h
        · split at h
          · split at h <;> cases h
          · cases h
        · cases h

theorem judge_refused_404_iff {a : Option (Int × Body)} :
    (∃ f, judge decode zero method path a = .refused 404 f) ↔ ∃ body, a = some (404, body) := by
  constructor
  · rintro ⟨f, h⟩
    obtain ⟨body, rfl, -⟩ := judge_eq_refused h
    exact ⟨body, rfl⟩
  · rintro ⟨body, rfl⟩
    exact ⟨_, judge_of_refusal (by decide) (by decide)⟩

theorem judge_of_decoded {code : Int} {j : Json} {v : α} (h2 : 200 ≤ code) (h3 : code < 300)
    (hd : decode j = .ok v) :
    judge decode zero method path (some (code, .json j)) = .answered v := by
  simp only [judge, if_neg (show ¬500 ≤ code by omega), if_neg (show ¬400 ≤ code by omega),
    show (decide (200 ≤ code) && decide (code < 300)) = true by simp [h2, h3], ↓reduceIte, hd]

/-- A value other than the zero value comes only from a 2xx answer whose body reads as it. -/
theorem judge_eq_answered {a : Option (Int × Body)} {v : α}
    (h : judge decode zero method path a = .answered v) (hv : v ≠ zero) :
    ∃ code j, a = some (code, .json j) ∧ 200 ≤ code ∧ code < 300 ∧ decode j = .ok v := by
  unfold judge at h
  split at h
  · cases h
  · next c body =>
    split at h
    · cases h
    · split at h
      · cases h
      · split at h
        · next j =>
          split at h
          · next h23 =>
            split at h
            · next w hw =>
              cases h
              simp only [Bool.and_eq_true, decide_eq_true_eq] at h23
              exact ⟨c, j, rfl, h23.1, h23.2, hw⟩
            · cases h
          · cases h
            exact absurd rfl hv
        · cases h
          exact absurd rfl hv

end Judge

/-! ## A call and its sendings -/

section Call

variable {α : Type} {deliver : Deliver} {decode : Json → Except String α} {zero : α}
  {target : Service} {method path : String} {body : Option Json}
  {s s₁ s₂ : System} {first second : Option (Int × Body)} {g : Nat}

theorem resty_lawful : resty.Lawful := ⟨fun _ _ => rfl, fun _ _ _ => rfl⟩

theorem exchange_run_of_kept {lib : RetryLib} (hlib : lib.Lawful)
    (h₁ : (send deliver target (callRequest method path body)).run s = (first, s₁))
    (hk : (judge decode zero method path first).isFailure = false) :
    (exchange lib deliver decode zero target method path body).run s =
      (judge decode zero method path first, s₁) := by
  simp only [exchange, hlib.succ, StateT.run_bind, h₁, id_bind_eq, hk, Bool.false_eq_true,
    if_false]
  rfl

theorem exchange_run_of_resent {lib : RetryLib} (hlib : lib.Lawful)
    (h₁ : (send deliver target (callRequest method path body)).run s = (first, s₁))
    (h₂ : (send deliver target (callRequest method path body)).run s₁ = (second, s₂))
    (hf : (judge decode zero method path first).isFailure = true) :
    (exchange lib deliver decode zero target method path body).run s =
      (judge decode zero method path second, s₂) := by
  simp only [exchange, hlib.succ, hlib.zero, StateT.run_bind, h₁, id_bind_eq, hf, if_true, h₂]
  rfl

/-- A call is refused by the breaker of its target, or admitted in a generation of counts: then
it is its exchange from the state in which the breaker admitted it, recorded as a success or a
failure in that generation. -/
theorem call_run_eq (s : System) :
    (call deliver decode zero target method path body).run s =
      match (gobreaker.before s.wall (s.clientOf target)).1 with
      | .error r => (.failed (ClientBreaker.refusal target.name r), s.admitted target)
      | .ok g =>
        (((exchange resty deliver decode zero target method path body).run (s.admitted target)).1,
          ((exchange resty deliver decode zero target method path body).run (s.admitted target)).2.recorded
            target g (ClientBreaker.succeeded
              ((exchange resty deliver decode zero target method path body).run
                (s.admitted target)).1.error)) := by
  rcases h : gobreaker.before s.wall (s.clientOf target) with ⟨r | g, b⟩ <;>
    simp only [call, ClientBreaker.run, wallTime, StateT.run_bind, StateT.run_pure, StateT.run_get,
      StateT.run_modify, pure_bind, System.admitted, h] <;> rfl

theorem call_run_of_shut {r : Refusal}
    (hr : (gobreaker.before s.wall (s.clientOf target)).1 = .error r) :
    (call deliver decode zero target method path body).run s =
      (.failed (ClientBreaker.refusal target.name r), s.admitted target) := by
  rw [call_run_eq, hr]

theorem call_run_of_admitted
    (hg : (gobreaker.before s.wall (s.clientOf target)).1 = .ok g) :
    (call deliver decode zero target method path body).run s =
      (((exchange resty deliver decode zero target method path body).run (s.admitted target)).1,
        ((exchange resty deliver decode zero target method path body).run (s.admitted target)).2.recorded
          target g (ClientBreaker.succeeded
            ((exchange resty deliver decode zero target method path body).run
              (s.admitted target)).1.error)) := by
  rw [call_run_eq, hg]

/-- A closed breaker admits every call, in the generation it is in at the moment. -/
theorem before_of_closed (hc : (s.clientOf target).state = .closed) :
    (gobreaker.before s.wall (s.clientOf target)).1 = .ok (s.generationOf target) := by
  rw [gobreaker_before_of_closed hc]
  rfl

theorem call_run_of_kept (hg : (gobreaker.before s.wall (s.clientOf target)).1 = .ok g)
    (h₁ : (send deliver target (callRequest method path body)).run (s.admitted target) =
      (first, s₁))
    (hk : (judge decode zero method path first).isFailure = false) :
    (call deliver decode zero target method path body).run s =
      (judge decode zero method path first, s₁.recorded target g
        (ClientBreaker.succeeded (judge decode zero method path first).error)) := by
  rw [call_run_of_admitted hg, exchange_run_of_kept resty_lawful h₁ hk]

theorem call_run_of_resent (hg : (gobreaker.before s.wall (s.clientOf target)).1 = .ok g)
    (h₁ : (send deliver target (callRequest method path body)).run (s.admitted target) =
      (first, s₁))
    (h₂ : (send deliver target (callRequest method path body)).run s₁ = (second, s₂))
    (hf : (judge decode zero method path first).isFailure = true) :
    (call deliver decode zero target method path body).run s =
      (judge decode zero method path second, s₂.recorded target g
        (ClientBreaker.succeeded (judge decode zero method path second).error)) := by
  rw [call_run_of_admitted hg, exchange_run_of_resent resty_lawful h₁ h₂ hf]

/-- What an admitted call comes back with is what it makes of the answer it ends on. -/
theorem call_outcome (hg : (gobreaker.before s.wall (s.clientOf target)).1 = .ok g)
    (h₁ : (send deliver target (callRequest method path body)).run (s.admitted target) =
      (first, s₁))
    (h₂ : (send deliver target (callRequest method path body)).run s₁ = (second, s₂)) :
    ((call deliver decode zero target method path body).run s).1 =
      judge decode zero method path (lastAnswer decode zero method path first second) := by
  cases hf : (judge decode zero method path first).isFailure
  · rw [call_run_of_kept hg h₁ hf, lastAnswer, hf, if_neg Bool.false_ne_true]
  · rw [call_run_of_resent hg h₁ h₂ hf, lastAnswer, hf, if_pos rfl]

/-- An answer from 400 to 499 settles a call: it is not sent again, and the breaker records a
success. -/
theorem call_run_of_refusal {code : Int} {b : Body}
    (hg : (gobreaker.before s.wall (s.clientOf target)).1 = .ok g)
    (h₁ : (send deliver target (callRequest method path body)).run (s.admitted target) =
      (some (code, b), s₁))
    (h4 : 400 ≤ code) (h5 : code < 500) :
    ∃ f, (call deliver decode zero target method path body).run s =
      (.refused code f, s₁.recorded target g true) := by
  rw [call_run_of_kept hg h₁ (by rw [judge_of_refusal h4 h5]; rfl), judge_of_refusal h4 h5]
  exact ⟨_, rfl⟩

/-- A call that gets no answer or a 5xx answer is sent again; when that fails the same way, the
breaker records one failure. -/
theorem call_run_of_transient (hg : (gobreaker.before s.wall (s.clientOf target)).1 = .ok g)
    (h₁ : (send deliver target (callRequest method path body)).run (s.admitted target) =
      (first, s₁))
    (h₂ : (send deliver target (callRequest method path body)).run s₁ = (second, s₂))
    (ht₁ : Transient first) (ht₂ : Transient second) :
    ∃ f, (call deliver decode zero target method path body).run s =
      (.failed f, s₂.recorded target g false) := by
  obtain ⟨text, hf₂⟩ : ∃ text, judge decode zero method path second = .failed (.note text) :=
    judge_failed_of_transient ht₂
  rw [call_run_of_resent hg h₁ h₂ (judge_isFailure_of_transient ht₁), hf₂]
  exact ⟨_, rfl⟩

end Call

/-! ## Lookups and the customer check -/

namespace Gateway

variable {α : Type} {entity : Entity} {op : String}

theorem lookupOf_eq_missing_iff (o : Outcome α) :
    lookupOf entity op o = .error (.missing entity) ↔ ∃ f, o = .refused 404 f := by
  cases o with
  | answered v => simp [lookupOf]
  | refused code f =>
    by_cases hc : code = 404
    · subst hc
      simp [lookupOf]
    · simp [lookupOf, hc, unavailable_ne_missing]
  | failed f => simp [lookupOf, unavailable_ne_missing]

theorem lookupOf_error_cases {o : Outcome α} {e : Fault} (h : lookupOf entity op o = .error e) :
    e = .missing entity ∨ ∃ f, e = unavailable op f := by
  cases o with
  | answered v => cases h
  | refused code f =>
    by_cases hc : code = 404
    · subst hc
      simp only [lookupOf, Except.error.injEq] at h
      exact .inl h.symm
    · simp only [lookupOf, Except.error.injEq] at h
      exact .inr ⟨f, h.symm⟩
  | failed f =>
    simp only [lookupOf, Except.error.injEq] at h
    exact .inr ⟨f, h.symm⟩

/-- Every failure of a lookup but "not found" says that the service is unavailable. -/
theorem lookupOf_error_isA {o : Outcome α} {e : Fault} (h : lookupOf entity op o = .error e) :
    e.isA .serviceUnavailable = true ↔ e ≠ .missing entity := by
  rcases lookupOf_error_cases h with rfl | ⟨f, rfl⟩
  · simp [missing_isA_unavailable]
  · exact ⟨fun _ => unavailable_ne_missing op f entity, fun _ => unavailable_isA op f⟩

/-- A lookup whose call ends on `a` reports "not found" exactly when `a` is a 404. -/
theorem lookupOf_judge_missing_iff {decode : Json → Except String α} {zero : α}
    {method path : String} {a : Option (Int × Body)} :
    lookupOf entity op (judge decode zero method path a) = .error (.missing entity) ↔
      ∃ body, a = some (404, body) :=
  (lookupOf_eq_missing_iff _).trans judge_refused_404_iff

theorem decodeFlag_eq_true_iff (j : Json) : decodeFlag j = .ok true ↔ j = .bool true := by
  cases j <;> simp [decodeFlag]

theorem customerExists_run (deliver : Deliver) (id : Int) (s : System) :
    ((customerExists deliver id).run s).1 = true ↔
      ((call deliver decodeFlag false .customer "GET"
        ("/api/v1/customers/" ++ toString id ++ "/exists") none).run s).1 = .answered true := by
  simp only [customerExists, StateT.run_bind, id_bind_eq]
  cases ((call deliver decodeFlag false .customer "GET"
        ("/api/v1/customers/" ++ toString id ++ "/exists") none).run s).1 with
  | answered b =>
    simp only [Outcome.answered.injEq]
    rfl
  | refused code f =>
    simp only [reduceCtorEq, iff_false]
    exact Bool.false_ne_true
  | failed f =>
    simp only [reduceCtorEq, iff_false]
    exact Bool.false_ne_true

/-- The customer check reads `true` exactly from a 2xx answer whose body is `true`. -/
theorem judge_flag_true_iff {method path : String} {a : Option (Int × Body)} :
    judge decodeFlag false method path a = .answered true ↔
      ∃ code, a = some (code, .json (.bool true)) ∧ 200 ≤ code ∧ code < 300 := by
  constructor
  · intro h
    obtain ⟨code, j, rfl, h2, h3, hd⟩ := judge_eq_answered h Bool.noConfusion
    rw [decodeFlag_eq_true_iff] at hd
    exact ⟨code, by rw [hd], h2, h3⟩
  · rintro ⟨code, rfl, h2, h3⟩
    exact judge_of_decoded h2 h3 rfl

theorem fetchCustomer_run (deliver : Deliver) (id : Int) (s : System) :
    ((fetchCustomer deliver id).run s).1 = customerOf id
      ((call deliver Customer.decode Customer.blank .customer "GET"
        ("/api/v1/customers/" ++ toString id) none).run s).1 := rfl

theorem fetchPayment_run (deliver : Deliver) (orderId : Int) (s : System) :
    ((fetchPayment deliver orderId).run s).1 = paymentOf orderId
      ((call deliver Payment.decode Payment.blank .payment "GET"
        ("/api/v1/payments/order/" ++ toString orderId) none).run s).1 := rfl

end Gateway

/-- **Gateways read answers as the services mean them.** Take the answers the two sendings of a
call would get once the target's closed client breaker has admitted it. An answer from 400 to 499
to the first sending settles the call, and the breaker records a success; no answer or a 5xx
answer to it sends the call once more, and the same to both sendings is recorded as one failure.
Customer and payment lookups report "not found" exactly when the call ends on a 404, and every
other failure as the service being unavailable; the customer check holds exactly when the call
ends on a 2xx answer whose body is `true`. -/
theorem gateway_reads_answers (deliver : Deliver) (s : System) :
    (∀ {α : Type} (decode : Json → Except String α) (zero : α) (target : Service)
        (method path : String) (body : Option Json) (s₁ : System) (code : Int) (b : Body),
      (s.clientOf target).state = .closed →
      (send deliver target (callRequest method path body)).run (s.admitted target) =
        (some (code, b), s₁) →
      400 ≤ code → code < 500 →
      ∃ f, (call deliver decode zero target method path body).run s =
        (.refused code f, s₁.recorded target (s.generationOf target) true)) ∧
    (∀ {α : Type} (decode : Json → Except String α) (zero : α) (target : Service)
        (method path : String) (body : Option Json) (first second : Option (Int × Body))
        (s₁ s₂ : System),
      (s.clientOf target).state = .closed →
      (send deliver target (callRequest method path body)).run (s.admitted target) =
        (first, s₁) →
      (send deliver target (callRequest method path body)).run s₁ = (second, s₂) →
      Transient first →
      (call deliver decode zero target method path body).run s =
        (judge decode zero method path second, s₂.recorded target (s.generationOf target)
          (ClientBreaker.succeeded (judge decode zero method path second).error)) ∧
      (Transient second → ∃ f, (call deliver decode zero target method path body).run s =
        (.failed f, s₂.recorded target (s.generationOf target) false))) ∧
    (∀ (id : Int) (first second : Option (Int × Body)) (s₁ s₂ : System),
      let path := "/api/v1/customers/" ++ toString id
      (s.clientOf .customer).state = .closed →
      (send deliver .customer (callRequest "GET" path none)).run (s.admitted .customer) =
        (first, s₁) →
      (send deliver .customer (callRequest "GET" path none)).run s₁ = (second, s₂) →
      (((Gateway.fetchCustomer deliver id).run s).1 = .error (.missing .customer) ↔
        ∃ b, lastAnswer Customer.decode Customer.blank "GET" path first second = some (404, b)) ∧
      ∀ e, ((Gateway.fetchCustomer deliver id).run s).1 = .error e →
        (e.isA .serviceUnavailable = true ↔ e ≠ .missing .customer)) ∧
    (∀ (orderId : Int) (first second : Option (Int × Body)) (s₁ s₂ : System),
      let path := "/api/v1/payments/order/" ++ toString orderId
      (s.clientOf .payment).state = .closed →
      (send deliver .payment (callRequest "GET" path none)).run (s.admitted .payment) =
        (first, s₁) →
      (send deliver .payment (callRequest "GET" path none)).run s₁ = (second, s₂) →
      (((Gateway.fetchPayment deliver orderId).run s).1 = .error (.missing .payment) ↔
        ∃ b, lastAnswer Payment.decode Payment.blank "GET" path first second = some (404, b)) ∧
      ∀ e, ((Gateway.fetchPayment deliver orderId).run s).1 = .error e →
        (e.isA .serviceUnavailable = true ↔ e ≠ .missing .payment)) ∧
    (∀ (id : Int) (first second : Option (Int × Body)) (s₁ s₂ : System),
      let path := "/api/v1/customers/" ++ toString id ++ "/exists"
      (s.clientOf .customer).state = .closed →
      (send deliver .customer (callRequest "GET" path none)).run (s.admitted .customer) =
        (first, s₁) →
      (send deliver .customer (callRequest "GET" path none)).run s₁ = (second, s₂) →
      (((Gateway.customerExists deliver id).run s).1 = true ↔
        ∃ code, lastAnswer decodeFlag false "GET" path first second =
          some (code, .json (.bool true)) ∧ 200 ≤ code ∧ code < 300)) := by
  refine ⟨?refusal, ?transient, ?customer, ?payment, ?check⟩
  case refusal =>
    intro α decode zero target method path body s₁ code b hc h₁ h4 h5
    exact call_run_of_refusal (before_of_closed hc) h₁ h4 h5
  case transient =>
    intro α decode zero target method path body first second s₁ s₂ hc h₁ h₂ ht₁
    have hg := before_of_closed hc
    exact ⟨call_run_of_resent hg h₁ h₂ (judge_isFailure_of_transient ht₁),
      fun ht₂ => call_run_of_transient hg h₁ h₂ ht₁ ht₂⟩
  case customer =>
    intro id first second s₁ s₂
    dsimp only
    intro hc h₁ h₂
    rw [Gateway.fetchCustomer_run, call_outcome (before_of_closed hc) h₁ h₂]
    exact ⟨Gateway.lookupOf_judge_missing_iff, fun e he => Gateway.lookupOf_error_isA he⟩
  case payment =>
    intro orderId first second s₁ s₂
    dsimp only
    intro hc h₁ h₂
    rw [Gateway.fetchPayment_run, call_outcome (before_of_closed hc) h₁ h₂]
    exact ⟨Gateway.lookupOf_judge_missing_iff, fun e he => Gateway.lookupOf_error_isA he⟩
  case check =>
    intro id first second s₁ s₂
    dsimp only
    intro hc h₁ h₂
    rw [Gateway.customerExists_run, call_outcome (before_of_closed hc) h₁ h₂]
    exact Gateway.judge_flag_true_iff

/-- Over a link that answers every call with 404, a customer lookup reports that the customer is
not there. -/
theorem customer_lookup_not_found_over_404 :
    let s : System := { (default : System) with links := ⟨.fixed 404, .up, .up⟩ }
    ((Gateway.fetchCustomer (fun _ _ => pure none) 7).run s).1 = .error (.missing .customer) := by
  intro s
  exact ((gateway_reads_answers (fun _ _ => pure none) s).2.2.1 7 (some (404, .none))
    (some (404, .none)) (s.admitted .customer) (s.admitted .customer) rfl rfl rfl).1.mpr
    ⟨.none, rfl⟩

end Fulfillment.Http
