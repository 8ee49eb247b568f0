import Mathlib.Data.List.Induction
import Fulfillment.Breaker.Counting

/-!
# The counting breaker along a run of calls

A breaker is asked whether a call may go ahead (`allow`) and told how calls went (`success`,
`failure`), each at whatever the clock reads then; the clock may move forward or back between
calls. A call *resets* the breaker when it is a success, or an `allow` that finds the breaker
open with more than the cool-down passed since it opened (`resets`).

Along every run of calls from a new breaker (`counting_breaker_laws`):

* the breaker is open exactly when the number of failures recorded since the last reset
  (`sinceReset`) reaches the threshold;
* the count it keeps is that number wrapped to 64 bits, so the two agree until 2 ^ 63 failures in
  a row, and then the count of a breaker that stays open turns negative
  (`failure_count_wraps`);
* while it is open, it opened at the clock reading of the failure that brought the number to the
  threshold, the threshold-th failure since the last reset, whatever failures came after.

One call keeps these laws (`Laws.after`), so every run does (`laws_run`).
-/

namespace Fulfillment

namespace CountingBreaker

/-- A call to a breaker, with the clock reading it is made at. -/
inductive Call where
  | allow (now : Instant)
  | success
  | failure (now : Instant)
  deriving DecidableEq, Repr

/-- The breaker after a call. -/
def after (b : CountingBreaker) : Call → CountingBreaker
  | .allow now => (b.allow now).2
  | .success => b.recordSuccess
  | .failure now => b.recordFailure now

/-- The breaker after a run of calls. -/
def run (b : CountingBreaker) (cs : List Call) : CountingBreaker := cs.foldl after b

/-- Whether a call resets the breaker it is made on: a success, or an `allow` that finds the
breaker open with more than the cool-down passed since it opened. -/
def resets (b : CountingBreaker) : Call → Bool
  | .allow now => b.isOpen && decide (b.coolDown.ns < (now.since b.openedAt).ns)
  | .success => true
  | .failure _ => false

/-- The calls after the last reset of a run from `b`, following on from `acc`. -/
def sinceResetFrom (b : CountingBreaker) (acc : List Call) : List Call → List Call
  | [] => acc
  | c :: cs => sinceResetFrom (b.after c) (if b.resets c then [] else acc ++ [c]) cs

/-- The calls of a run from `b` made after its last reset; all of them when none resets. -/
def sinceReset (b : CountingBreaker) (cs : List Call) : List Call := b.sinceResetFrom [] cs

/-- The clock readings of the failures among some calls, in order. -/
def failureTimes (cs : List Call) : List Instant :=
  cs.filterMap fun
    | .failure now => some now
    | _ => none

/-! ## One call -/

section Call

variable (b : CountingBreaker) (now : Instant)

@[simp] theorem reset_failures : b.reset.failures = 0 := rfl

@[simp] theorem reset_isOpen : b.reset.isOpen = false := rfl

@[simp] theorem reset_threshold : b.reset.threshold = b.threshold := rfl

@[simp] theorem reset_coolDown : b.reset.coolDown = b.coolDown := rfl

@[simp] theorem recordFailure_threshold : (b.recordFailure now).threshold = b.threshold := by
  simp only [recordFailure]
  split <;> rfl

@[simp] theorem recordFailure_coolDown : (b.recordFailure now).coolDown = b.coolDown := by
  simp only [recordFailure]
  split <;> rfl

theorem recordFailure_isOpen :
    (b.recordFailure now).isOpen =
      (b.isOpen || decide ((b.threshold : Int) ≤ wrapInt64 (b.failures + 1))) := by
  simp only [recordFailure]
  split
  · next h => simp_all
  · next h => cases hb : b.isOpen <;> simp_all

/-- A failure moves the opening moment only when it opens the breaker. -/
theorem recordFailure_openedAt :
    (b.recordFailure now).openedAt =
      if b.isOpen = false ∧ (b.threshold : Int) ≤ wrapInt64 (b.failures + 1) then now
      else b.openedAt := by
  simp only [recordFailure]
  split
  · next h => simp_all
  · next h =>
    rw [if_neg]
    rintro ⟨h1, h2⟩
    simp_all

/-- An `allow` that does not reset leaves the breaker as it was. -/
theorem after_allow_of_not_resets (h : b.resets (.allow now) = false) :
    b.after (.allow now) = b := by
  simp only [resets, Bool.and_eq_false_iff, decide_eq_false_iff_not] at h
  simp only [after, allow]
  split
  · rfl
  · rw [if_neg (h.resolve_left (by simpa using ‹¬(!b.isOpen) = true›))]

/-- A call that resets leaves the breaker closed with no failures counted, unless it is a success
on a closed breaker whose count is negative, which it leaves as it is. -/
theorem after_of_resets {c : Call} (h : b.resets c = true) (hf : b.isOpen = true ∨ 0 ≤ b.failures) :
    (b.after c).isOpen = false ∧ (b.after c).failures = 0 := by
  cases c with
  | allow now =>
    simp only [resets, Bool.and_eq_true, decide_eq_true_eq] at h
    simp [after, allow, h.1, h.2]
  | success =>
    simp only [after, recordSuccess]
    split
    · simp
    · next hb =>
      simp only [Bool.or_eq_true, decide_eq_true_eq, not_or, Bool.not_eq_true] at hb
      refine ⟨hb.1, ?_⟩
      have := hf.resolve_left (by simp [hb.1])
      omega
  | failure now => simp [resets] at h

@[simp] theorem after_threshold (c : Call) : (b.after c).threshold = b.threshold := by
  cases c with
  | allow now =>
    simp only [after, allow]
    split
    · rfl
    · split <;> rfl
  | success =>
    simp only [after, recordSuccess]
    split <;> rfl
  | failure now => exact recordFailure_threshold b now

@[simp] theorem after_coolDown (c : Call) : (b.after c).coolDown = b.coolDown := by
  cases c with
  | allow now =>
    simp only [after, allow]
    split
    · rfl
    · split <;> rfl
  | success =>
    simp only [after, recordSuccess]
    split <;> rfl
  | failure now => exact recordFailure_coolDown b now

/-- An `allow` refuses exactly when the breaker is open and no more than the cool-down has passed
since it opened, as far as the clock reading minus the opening moment, cut to 64 bits, tells. -/
theorem allow_eq_false_iff :
    (b.allow now).1 = false ↔ b.isOpen = true ∧ (now.since b.openedAt).ns ≤ b.coolDown.ns := by
  simp only [allow]
  split
  · next h => simp_all
  · next h =>
    split
    · next hc => simp only [Bool.true_eq_false, false_iff]; omega
    · next hc => simp_all

/-- An `allow` that lets a call through an open breaker closes it and clears its count. -/
theorem allow_closes (h : b.isOpen = true) (ht : (b.allow now).1 = true) :
    (b.allow now).2.isOpen = false ∧ (b.allow now).2.failures = 0 := by
  simp only [allow, h, Bool.not_true, Bool.false_eq_true, if_false] at ht ⊢
  split
  · simp
  · next hc => simp [hc] at ht

/-- The snapshot shows the opening moment exactly while the breaker is open. -/
theorem snapshot_openedAt :
    b.snapshot.field? "opened_at" = if b.isOpen then some (.str b.openedAt.toText) else none := by
  cases h : b.isOpen <;> simp [snapshot, Json.obj, Json.field?, h]

end Call

/-! ## Runs -/

theorem run_snoc (b : CountingBreaker) (cs : List Call) (c : Call) :
    b.run (cs ++ [c]) = (b.run cs).after c := by
  simp [run]

theorem run_append (b : CountingBreaker) (cs cs' : List Call) :
    b.run (cs ++ cs') = (b.run cs).run cs' := by
  simp [run]

theorem sinceResetFrom_snoc (b : CountingBreaker) (acc cs : List Call) (c : Call) :
    b.sinceResetFrom acc (cs ++ [c]) =
      if (b.run cs).resets c then [] else b.sinceResetFrom acc cs ++ [c] := by
  induction cs generalizing b acc with
  | nil => rfl
  | cons c' cs ih => exact ih (b.after c') _

theorem sinceReset_snoc (b : CountingBreaker) (cs : List Call) (c : Call) :
    b.sinceReset (cs ++ [c]) = if (b.run cs).resets c then [] else b.sinceReset cs ++ [c] :=
  sinceResetFrom_snoc b [] cs c

@[simp] theorem failureTimes_append (cs cs' : List Call) :
    failureTimes (cs ++ cs') = failureTimes cs ++ failureTimes cs' :=
  List.filterMap_append

@[simp] theorem failureTimes_allow (now : Instant) : failureTimes [.allow now] = [] := rfl

@[simp] theorem failureTimes_failure (now : Instant) : failureTimes [.failure now] = [now] := rfl

/-- The laws of a breaker `s` whose failures since its last reset were recorded at the clock
readings `ts`: its threshold is a positive 64-bit integer, it is open exactly when those failures
reach the threshold, its count is their number wrapped to 64 bits, and while open it opened at the
threshold-th of them. -/
structure Laws (s : CountingBreaker) (ts : List Instant) : Prop where
  threshold : 1 ≤ s.threshold ∧ (s.threshold : Int) < Int.pow 2 63
  isOpen : s.isOpen = true ↔ s.threshold ≤ ts.length
  failures : s.failures = wrapInt64 ts.length
  openedAt : s.isOpen = true → ts[s.threshold - 1]? = some s.openedAt

/-- A new breaker keeps the laws with no failures: its threshold is positive, it is closed and
counts nothing. -/
theorem laws_make (name : String) (threshold : Int) (coolDown : Duration) :
    Laws (make name threshold coolDown) [] where
  threshold := by
    have := wrapInt64_lt threshold
    rw [int_pow_two_63] at this ⊢
    simp only [make, defaultThreshold]
    split <;> omega
  isOpen := by
    simp only [make, defaultThreshold, Bool.false_eq_true, false_iff, List.length_nil]
    split <;> omega
  failures := rfl
  openedAt := by simp [make]

/-- A breaker that keeps the laws and is closed counts exactly its failures, fewer than the
threshold. -/
theorem Laws.failures_of_closed {s : CountingBreaker} {ts : List Instant} (h : Laws s ts)
    (hs : s.isOpen = false) : s.failures = ts.length ∧ ts.length < s.threshold := by
  have hlt : ts.length < s.threshold := by
    have := mt h.isOpen.mpr (by simp [hs])
    omega
  have hT := h.threshold.2
  rw [int_pow_two_63] at hT
  refine ⟨?_, hlt⟩
  rw [h.failures, Duration.wrapInt64_of_fits] <;> rw [int_pow_two_63] <;> omega

/-- A failure adds its moment to the failures since the reset: the one that reaches the
threshold opens the breaker, and the moment it opened at stays while more fail. -/
theorem Laws.recordFailure {s : CountingBreaker} {ts : List Instant} (h : Laws s ts)
    (now : Instant) : Laws (s.recordFailure now) (ts ++ [now]) := by
  have hcount : (s.recordFailure now).failures = wrapInt64 (ts ++ [now]).length := by
    rw [recordFailure_failures, h.failures, wrapInt64_wrapInt64_add]
    simp
  -- whether this failure opens the breaker is read off the true number, below 2 ^ 63 while closed
  have hopens : s.isOpen = false →
      ((s.threshold : Int) ≤ wrapInt64 (s.failures + 1) ↔ s.threshold ≤ ts.length + 1) := by
    intro hs
    obtain ⟨hf, hlt⟩ := h.failures_of_closed hs
    have hT := h.threshold.2
    rw [int_pow_two_63] at hT
    rw [hf, Duration.wrapInt64_of_fits]
    · omega
    all_goals rw [int_pow_two_63]; omega
  refine ⟨by simpa [recordFailure_threshold] using h.threshold, ?_, hcount, fun ho => ?_⟩
  · simp only [recordFailure_isOpen, recordFailure_threshold, Bool.or_eq_true,
      decide_eq_true_eq, List.length_append, List.length_singleton]
    cases hs : s.isOpen
    case true =>
      have := h.isOpen.mp hs
      simp only [true_or, true_iff]
      omega
    case false =>
      simp only [Bool.false_eq_true, false_or]
      exact hopens hs
  · simp only [recordFailure_isOpen, recordFailure_threshold, recordFailure_openedAt,
      Bool.or_eq_true, decide_eq_true_eq] at ho ⊢
    cases hs : s.isOpen
    case true =>
      -- already open: the opening failure is among the earlier ones
      have hle : s.threshold ≤ ts.length := h.isOpen.mp hs
      have := h.threshold.1
      rw [if_neg (by simp), List.getElem?_append_left (by omega)]
      exact h.openedAt hs
    case false =>
      -- this failure opens the breaker, so it is the threshold-th since the reset
      have hlt := (h.failures_of_closed hs).2
      have hT' : s.threshold ≤ ts.length + 1 :=
        (hopens hs).mp (ho.resolve_left (by simp [hs]))
      rw [if_pos ⟨rfl, (hopens hs).mpr hT'⟩, List.getElem?_append_right (by omega)]
      simp [show s.threshold - 1 - ts.length = 0 by omega]

/-- **One call keeps the laws.** A reset closes the breaker and starts the count afresh; an
`allow` that does not reset changes nothing; a failure counts one more, and opens the breaker,
at its own clock reading, exactly when the number since the reset reaches the threshold. -/
theorem Laws.after {s : CountingBreaker} {ts : List Instant} (h : Laws s ts) (c : Call) :
    Laws (s.after c) (if s.resets c then [] else ts ++ failureTimes [c]) := by
  cases hr : s.resets c
  case true =>
    rw [if_pos rfl]
    -- a closed breaker counts no more than it saw, so a success clears it too
    have hf : s.isOpen = true ∨ 0 ≤ s.failures := by
      cases hs : s.isOpen
      · exact .inr (by rw [(h.failures_of_closed hs).1]; omega)
      · exact .inl rfl
    obtain ⟨hc, h0⟩ := after_of_resets s hr hf
    refine ⟨by simpa using h.threshold, ?_, by rw [h0, List.length_nil]; rfl, by simp [hc]⟩
    have := h.threshold.1
    simp only [hc, after_threshold, Bool.false_eq_true, false_iff, List.length_nil]
    omega
  case false =>
    simp only [Bool.false_eq_true, if_false]
    cases c with
    | allow now =>
      rw [after_allow_of_not_resets s now hr, failureTimes_allow, List.append_nil]
      exact h
    | success => simp [resets] at hr
    | failure now =>
      rw [failureTimes_failure]
      exact h.recordFailure now

/-- Every run from a new breaker keeps the laws, with the failures since its last reset. -/
theorem laws_run (name : String) (threshold : Int) (coolDown : Duration) (cs : List Call) :
    Laws ((make name threshold coolDown).run cs)
      (failureTimes ((make name threshold coolDown).sinceReset cs)) := by
  induction cs using List.reverseRecOn with
  | nil => exact laws_make name threshold coolDown
  | append_singleton cs c ih =>
    rw [run_snoc, sinceReset_snoc]
    have h := ih.after c
    split at h
    · next hr => rw [if_pos hr]; exact h
    · next hr => rw [if_neg hr, failureTimes_append]; exact h

theorem run_threshold (b : CountingBreaker) (cs : List Call) :
    (b.run cs).threshold = b.threshold := by
  induction cs using List.reverseRecOn with
  | nil => rfl
  | append_singleton cs c ih => rw [run_snoc, after_threshold, ih]

theorem run_coolDown (b : CountingBreaker) (cs : List Call) :
    (b.run cs).coolDown = b.coolDown := by
  induction cs using List.reverseRecOn with
  | nil => rfl
  | append_singleton cs c ih => rw [run_snoc, after_coolDown, ih]

theorem make_coolDown_pos (name : String) (threshold : Int) (coolDown : Duration) :
    0 < (make name threshold coolDown).coolDown.ns := by
  simp only [make, Duration.orDefault]
  split
  · simp [defaultCoolDown, Duration.ofSeconds]
  · omega

/-- **The laws of a counting breaker.** Make a breaker with any threshold `T` and cool-down `C`
(a value that is not positive falls back to the default, so `T ≥ 1` and `C > 0`), then make any
calls at any clock readings. Afterwards:

1. it is open exactly when the number of failures recorded since the last reset reaches `T`, a
   reset being a success or an `allow` that found the breaker open with more than `C` passed
   since it opened;
2. its count of consecutive failures is that number wrapped to 64 bits;
3. while it is open, it opened at the clock reading of the failure that brought the number to
   `T`, the `T`-th failure since the last reset; a further failure leaves that moment, and the
   snapshot shows the moment exactly while the breaker is open;
4. an `allow` at any clock reading refuses exactly when the breaker is open and the reading
   minus the opening moment (cut to 64 bits) is at most `C`, and one that lets a call through
   an open breaker leaves it closed with no failures counted. -/
theorem counting_breaker_laws (name : String) (threshold : Int) (coolDown : Duration)
    (cs : List Call) :
    let b := make name threshold coolDown
    let b' := b.run cs
    1 ≤ b'.threshold ∧ 0 < b'.coolDown.ns ∧ b'.threshold = b.threshold ∧
      b'.coolDown = b.coolDown ∧
    (b'.isOpen = true ↔ b'.threshold ≤ (failureTimes (b.sinceReset cs)).length) ∧
    b'.failures = wrapInt64 (failureTimes (b.sinceReset cs)).length ∧
    (b'.isOpen = true →
      (failureTimes (b.sinceReset cs))[b'.threshold - 1]? = some b'.openedAt ∧
      ∀ now, (b'.recordFailure now).openedAt = b'.openedAt) ∧
    b'.snapshot.field? "opened_at" = (if b'.isOpen then some (.str b'.openedAt.toText) else none) ∧
    ∀ now, ((b'.allow now).1 = false ↔
        b'.isOpen = true ∧ (now.since b'.openedAt).ns ≤ b'.coolDown.ns) ∧
      (b'.isOpen = true → (b'.allow now).1 = true →
        (b'.allow now).2.isOpen = false ∧ (b'.allow now).2.failures = 0) := by
  intro b b'
  have h := laws_run name threshold coolDown cs
  refine ⟨h.threshold.1, ?_, run_threshold b cs, run_coolDown b cs, h.isOpen, h.failures,
    fun ho => ⟨h.openedAt ho, fun now => ?_⟩, snapshot_openedAt b',
    fun now => ⟨allow_eq_false_iff b' now, allow_closes b' now⟩⟩
  · rw [run_coolDown]
    exact make_coolDown_pos name threshold coolDown
  · rw [recordFailure_openedAt, if_neg (by simp [ho])]

/-- Failures that never reset the breaker are all counted since the reset. -/
theorem sinceResetFrom_failures (b : CountingBreaker) (acc : List Call) (n : Nat) (t : Instant) :
    b.sinceResetFrom acc (List.replicate n (.failure t)) = acc ++ List.replicate n (.failure t) := by
  induction n generalizing b acc with
  | zero => simp [sinceResetFrom]
  | succ n ih =>
    rw [List.replicate_succ, sinceResetFrom, ih]
    simp [resets]

theorem failureTimes_replicate (n : Nat) (t : Instant) :
    failureTimes (List.replicate n (.failure t)) = List.replicate n t := by
  induction n with
  | zero => rfl
  | succ n ih => rw [List.replicate_succ, List.replicate_succ, ← ih]; rfl

/-- A run of `n` failures from a new breaker opens it exactly when `n` reaches the threshold, and
leaves `n` wrapped to 64 bits as its count. -/
theorem run_failures (name : String) (threshold : Int) (coolDown : Duration) (t : Instant)
    (n : Nat) :
    let b := (make name threshold coolDown).run (List.replicate n (.failure t))
    (b.isOpen = true ↔ b.threshold ≤ n) ∧ b.failures = wrapInt64 n := by
  have h := laws_run name threshold coolDown (List.replicate n (.failure t))
  rw [sinceReset, sinceResetFrom_failures, List.nil_append, failureTimes_replicate] at h
  exact ⟨by rw [h.isOpen, List.length_replicate], by rw [h.failures, List.length_replicate]⟩

/-- After 2 ^ 63 failures in a row the breaker is open, and its count has wrapped around to the
lowest 64-bit integer: below the threshold, and not the number of failures. -/
theorem failure_count_wraps :
    let b := (make "payment" 1 (Duration.ofSeconds 1)).run
      (List.replicate 9223372036854775808 (.failure Instant.zero))
    b.isOpen = true ∧ b.failures = -9223372036854775808 ∧ b.failures < b.threshold := by
  obtain ⟨ho, hf⟩ :=
    run_failures "payment" 1 (Duration.ofSeconds 1) Instant.zero 9223372036854775808
  dsimp only at ho hf ⊢
  have hT : ((make "payment" 1 (Duration.ofSeconds 1)).run
      (List.replicate 9223372036854775808 (.failure Instant.zero))).threshold = 1 := by
    rw [run_threshold]
    rfl
  have hw : wrapInt64 (9223372036854775808 : Nat) = -9223372036854775808 := by
    unfold wrapInt64
    rw [int_pow_two_63, int_pow_two_64]
    omega
  rw [hT] at ho
  rw [hf, hT, hw]
  exact ⟨ho.mpr (by omega), rfl, by omega⟩

-- Two failures open a breaker of threshold 2 at the second; an `allow` exactly a cool-down later
-- still refuses, one a nanosecond after that lets the call through.
example :
    let t := Instant.start.add (Duration.ofSeconds 5)
    let b := (make "payment" 2 (Duration.ofSeconds 1)).run [.failure Instant.start, .failure t]
    b.isOpen = true ∧ b.openedAt = t ∧ (b.allow (t.add (Duration.ofSeconds 1))).1 = false ∧
      (b.allow (t.add ⟨1000000001⟩)).1 = true := by
  decide

end CountingBreaker

end Fulfillment
