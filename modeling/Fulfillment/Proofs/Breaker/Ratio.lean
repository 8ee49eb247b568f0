import Fulfillment.Breaker.Ratio

/-!
# Calls through a client breaker

`gobreaker`, the library the system runs, keeps the documented behaviour of a closed and an open
breaker (`gobreaker_lawful`). Everything after that holds of any library that keeps it.

Calls go one after another through a new client breaker (`ClientBreaker.callAll`), each at its
moment with the error its function returns. A call *trips* the breaker (`TripsAt`) when its
function fails and, with the counts of every call up to it kept as the library keeps them in 32
bits, there have been at least three requests and at least 60 % of them failed.

While all calls fall within the first 15 s of the breaker, every call up to and including the
first that trips it runs and its caller gets the call's own result, with the answer inside a
permanent mark handed back without the mark; from then on no call runs, and each gets a fault
saying the service is unavailable (`guarded_calls_trip`). The counts wrap: after 2 ^ 32 calls
that succeed, three failures trip the breaker, though they are far from 60 % of the calls made
(`wrapped_counts_trip_early`).
-/

namespace Fulfillment

/-! ## The library the system runs -/

namespace Breaker

variable {b : Breaker} {now : Instant}

theorem atNow_closed (hs : b.state = .closed) (hc : b.current now = true) : b.atNow now = b := by
  simp [atNow, hs, hc]

theorem atNow_opened {e : Instant} (hs : b.state = .opened) (he : b.expiry = some e)
    (hle : now.ns ≤ e.ns) : b.atNow now = b := by
  simp [atNow, hs, he, hle]

/-- A closed breaker is closed at every moment, in the same generation or a new one. -/
theorem atNow_state_of_closed (hs : b.state = .closed) : (b.atNow now).state = .closed := by
  simp only [atNow, hs]
  split
  · simp [toNewGeneration, hs]
  · exact hs

end Breaker

/-- gobreaker admits every request to a closed breaker and counts it. -/
theorem gobreaker_before_of_closed {b : Breaker} (hs : b.state = .closed) (now : Instant) :
    gobreaker.before now b =
      (.ok (b.atNow now).generation, { b.atNow now with counts := (b.atNow now).counts.onRequest }) := by
  simp [gobreaker, Breaker.atNow_state_of_closed hs]

/-- A success recorded on a closed breaker leaves it closed. -/
theorem gobreaker_after_success_state {b : Breaker} (hs : b.state = .closed) (now : Instant)
    (g : Nat) : (gobreaker.after now g true b).state = .closed := by
  simp only [gobreaker, Breaker.atNow_state_of_closed hs]
  split <;> simp [Breaker.atNow_state_of_closed hs]

/-- gobreaker keeps the documented behaviour of a closed and an open breaker. -/
theorem gobreaker_lawful : gobreaker.Lawful id where
  make st now hi ht := by
    simp [gobreaker, Breaker.toNewGeneration, Int.not_le.mpr hi, Int.not_le.mpr ht, hi]
  before_closed now b hs hc := by
    dsimp only [id] at hs hc ⊢
    simp [gobreaker, Breaker.atNow_closed hs hc, hs]
  before_opened now b e hs he hle := by
    dsimp only [id] at hs he ⊢
    simp [gobreaker, Breaker.atNow_opened hs he hle, hs]
  after_success now b hs hc := by
    dsimp only [id] at hs hc ⊢
    simp [gobreaker, Breaker.atNow_closed hs hc, hs]
  after_failure now b hs hc := by
    dsimp only [id] at hs hc ⊢
    simp only [gobreaker, Breaker.atNow_closed hs hc, ne_eq, not_true_eq_false, if_false,
      Bool.false_eq_true, hs]
    split
    · simp [Breaker.setState, Breaker.toNewGeneration]
    · rfl

namespace ClientBreaker

variable {S : Type}

/-! ## Calls one after another -/

/-- One call at a moment, with the error its function returns, through the breaker `s`: whether
it ran and what its caller got, and the breaker after. -/
def callAt (lib : BreakerLib S) (name : String) (s : S) (c : Instant × Option Fault) :
    (Bool × Option Fault) × S :=
  match (run lib name (pure c.1) get set (pure ((), c.2)) : StateM S _).run s with
  | (.error f, s') => ((false, some f), s')
  | (.ok (_, e), s') => ((true, e), s')

/-- What the calls of a run see through one breaker. -/
def callAll (lib : BreakerLib S) (name : String) : S → List (Instant × Option Fault) →
    List (Bool × Option Fault)
  | _, [] => []
  | s, c :: cs => (callAt lib name s c).1 :: callAll lib name (callAt lib name s c).2 cs

/-- The breaker after a run of calls. -/
def afterAll (lib : BreakerLib S) (name : String) (s : S) (cs : List (Instant × Option Fault)) :
    S :=
  cs.foldl (fun s c => (callAt lib name s c).2) s

/-- The calls of a run whose function failed. -/
def failures (cs : List (Instant × Option Fault)) : Nat := cs.countP fun c => !succeeded c.2

end ClientBreaker

open ClientBreaker in
/-- The `k`-th call of a run (from 0) trips the breaker: its function fails, and with the counts
of every call up to it kept in 32 bits there are at least three requests and at least 60 % of
them failed. -/
def TripsAt (cs : List (Instant × Option Fault)) (k : Nat) : Prop :=
  (∃ c, cs[k]? = some c ∧ succeeded c.2 = false) ∧ 3 ≤ (k + 1) % UInt32.size ∧
    3 * ((k + 1) % UInt32.size) ≤ 5 * (failures (cs.take (k + 1)) % UInt32.size)

namespace ClientBreaker

variable {S : Type} {lib : BreakerLib S} {name : String}

theorem callAt_eq (lib : BreakerLib S) (name : String) (s : S) (t : Instant) (e : Option Fault) :
    callAt lib name s (t, e) =
      match lib.before t s with
      | (.error r, s') => ((false, some (refusal name r)), s')
      | (.ok g, s') => ((true, handed e), lib.after t g (succeeded e) s') := by
  rcases hb : lib.before t s with ⟨r | g, s'⟩ <;> simp [callAt, run, hb] <;> rfl

/-! ## One call -/

/-- The breaker of a client breaker `name` made at `t₀`: closed, with `n` requests and `f`
failures counted in 32 bits, its generation ending 15 s after `t₀`. -/
structure Closed (view : S → Breaker) (t₀ : Instant) (s : S) (n f : Nat) : Prop where
  state : (view s).state = .closed
  rule : (view s).settings.readyToTrip = readyToTrip
  timeout : (view s).settings.timeout = Duration.ofSeconds 30
  expiry : (view s).expiry = some (t₀.add (Duration.ofSeconds 15))
  requests : (view s).counts.requests.toNat = n % UInt32.size
  failed : (view s).counts.totalFailures.toNat = f % UInt32.size

/-- The breaker is open until some moment no earlier than 15 s after `t₀`. -/
structure Opened (view : S → Breaker) (t₀ : Instant) (s : S) : Prop where
  state : (view s).state = .opened
  expiry : ∃ e, (view s).expiry = some e ∧ (t₀.add (Duration.ofSeconds 15)).ns ≤ e.ns

variable {view : S → Breaker} {t₀ t : Instant} {s : S} {n f : Nat}

/-- A moment within the first 15 s after `t₀`. -/
def Within (t₀ t : Instant) : Prop := t₀.ns ≤ t.ns ∧ t.ns ≤ (t₀.add (Duration.ofSeconds 15)).ns

theorem within_self (t : Instant) : Within t t := by
  refine ⟨Int.le_refl t.ns, ?_⟩
  simp only [Instant.add, Duration.ofSeconds]
  omega

@[simp] theorem succeeded_none : succeeded none = true := rfl

@[simp] theorem succeeded_note (text : String) : succeeded (some (.note text)) = false := rfl

theorem toNat_succ (x : UInt32) {k : Nat} (h : x.toNat = k % UInt32.size) :
    (x + 1).toNat = (k + 1) % UInt32.size := by
  have hsize : UInt32.size = 4294967296 := rfl
  rw [UInt32.toNat_add, h, UInt32.toNat_one, hsize]
  omega

theorem Closed.current (h : Closed view t₀ s n f) (ht : Within t₀ t) :
    (view s).current t = true := by
  simp [Breaker.current, h.expiry, ht.2]

theorem closed_make (hlib : lib.Lawful view) (t₀ : Instant) :
    Closed view t₀ (lib.make (settings name) t₀) 0 0 := by
  obtain ⟨hrule, htime, hs, hc, he⟩ :=
    hlib.make (settings name) t₀ (by simp [settings, Duration.ofSeconds])
      (by simp [settings, Duration.ofSeconds])
  exact ⟨hs, hrule, htime, he, by simp [hc, Counts.zero], by simp [hc, Counts.zero]⟩

/-- Whether `n` requests with `f` failures, counted in 32 bits, call for opening. -/
def ripe (n f : Nat) : Bool :=
  3 ≤ n % UInt32.size && 3 * (n % UInt32.size) ≤ 5 * (f % UInt32.size)

/-- A closed breaker admits a call at a moment within the first 15 s, counts it in its
generation, and the call runs and hands back its own result. -/
theorem Closed.admit (hlib : lib.Lawful view) (h : Closed view t₀ s n f) (name : String)
    (ht : Within t₀ t) (e : Option Fault) :
    ∃ s', Closed view t₀ s' (n + 1) f ∧ callAt lib name s (t, e) =
      ((true, handed e), lib.after t (view s').generation (succeeded e) s') := by
  obtain ⟨hg, hv⟩ := hlib.before_closed t s h.state (h.current ht)
  refine ⟨(lib.before t s).2, ⟨?_, ?_, ?_, ?_, ?_, ?_⟩, ?_⟩
  · simp [hv, h.state]
  · simp [hv, h.rule]
  · simp [hv, h.timeout]
  · simp [hv, h.expiry]
  · simpa [hv, Counts.onRequest] using toNat_succ _ h.requests
  · simp [hv, Counts.onRequest, h.failed]
  · have hb : lib.before t s = (.ok (view s).generation, (lib.before t s).2) := Prod.ext hg rfl
    rw [callAt_eq, hb, hv]

theorem Closed.succeed (hlib : lib.Lawful view) (h : Closed view t₀ s n f) (ht : Within t₀ t) :
    Closed view t₀ (lib.after t (view s).generation true s) n f := by
  have hv := hlib.after_success t s h.state (h.current ht)
  exact ⟨by simp [hv, h.state], by simp [hv, h.rule], by simp [hv, h.timeout],
    by simp [hv, h.expiry], by simp [hv, Counts.onSuccess, h.requests],
    by simp [hv, Counts.onSuccess, h.failed]⟩

/-- A failure recorded on a closed breaker at a moment within the first 15 s opens it when the
counts with it call for that, and is counted otherwise. -/
theorem Closed.fail (hlib : lib.Lawful view) (h : Closed view t₀ s n f) (ht : Within t₀ t) :
    if ripe n (f + 1) then Opened view t₀ (lib.after t (view s).generation false s)
    else Closed view t₀ (lib.after t (view s).generation false s) n (f + 1) := by
  have hv := hlib.after_failure t s h.state (h.current ht)
  have hfail := toNat_succ _ h.failed
  have hrule : (view s).settings.readyToTrip (view s).counts.onFailure = ripe n (f + 1) := by
    simp [h.rule, readyToTrip, ripe, Counts.onFailure, h.requests, hfail]
  rw [hrule] at hv
  cases hripe : ripe n (f + 1)
  · rw [hripe, if_neg Bool.false_ne_true] at hv
    exact ⟨by simp [hv, h.state], by simp [hv, h.rule], by simp [hv, h.timeout],
      by simp [hv, h.expiry], by simp [hv, Counts.onFailure, h.requests],
      by simpa [hv, Counts.onFailure] using hfail⟩
  · rw [hripe, if_pos rfl] at hv
    -- it stays open for 30 s from a moment no earlier than `t₀`, past the first 15 s
    refine ⟨by simp [hv], t.add (view s).settings.timeout, by simp [hv], ?_⟩
    have ht₀ := ht.1
    simp only [h.timeout, Instant.add, Duration.ofSeconds] at ht₀ ⊢
    omega

/-- A call at a moment within the first 15 s through a closed breaker runs and hands back its own
result. It is counted as a request, and as a failure when it failed; a failure opens the breaker
when the counts with it call for that. -/
theorem Closed.call (hlib : lib.Lawful view) (h : Closed view t₀ s n f) (name : String)
    {c : Instant × Option Fault} (ht : Within t₀ c.1) :
    (callAt lib name s c).1 = (true, handed c.2) ∧
      if succeeded c.2 then Closed view t₀ (callAt lib name s c).2 (n + 1) f
      else if ripe (n + 1) (f + 1) then Opened view t₀ (callAt lib name s c).2
      else Closed view t₀ (callAt lib name s c).2 (n + 1) (f + 1) := by
  obtain ⟨t, e⟩ := c
  obtain ⟨s', hs', hcall⟩ := h.admit hlib name ht e
  rw [hcall]
  refine ⟨rfl, ?_⟩
  cases succeeded e
  · exact hs'.fail hlib ht
  · exact hs'.succeed hlib ht

/-- A call at a moment within the first 15 s through the open breaker does not run: its caller
gets the refusal, and the breaker stays as it is. -/
theorem Opened.call (hlib : lib.Lawful view) (h : Opened view t₀ s) (name : String)
    {c : Instant × Option Fault} (ht : Within t₀ c.1) :
    (callAt lib name s c).1 = (false, some (refusal name .openState)) ∧
      Opened view t₀ (callAt lib name s c).2 := by
  obtain ⟨t, e⟩ := c
  obtain ⟨x, hx, hle⟩ := h.expiry
  obtain ⟨hg, hv⟩ := hlib.before_opened t s x h.state hx (Int.le_trans ht.2 hle)
  have hb : lib.before t s = (.error .openState, (lib.before t s).2) := Prod.ext hg rfl
  rw [callAt_eq, hb]
  exact ⟨rfl, ⟨by rw [hv]; exact h.state, ⟨x, by rw [hv]; exact hx, hle⟩⟩⟩

/-! ## A run, prefix by prefix -/

variable (lib name)

@[simp] theorem afterAll_nil (s : S) : afterAll lib name s [] = s := rfl

theorem afterAll_take_succ (s : S) {cs : List (Instant × Option Fault)} {i : Nat}
    (hi : i < cs.length) :
    afterAll lib name s (cs.take (i + 1)) =
      (callAt lib name (afterAll lib name s (cs.take i)) cs[i]).2 := by
  simp only [afterAll]
  rw [List.take_add_one, List.getElem?_eq_getElem hi, Option.toList_some, List.foldl_append]
  rfl

/-- The `i`-th call sees the breaker as the calls before it left it. -/
theorem callAll_getElem? (s : S) (cs : List (Instant × Option Fault)) (i : Nat) :
    (callAll lib name s cs)[i]? =
      cs[i]?.map fun c => (callAt lib name (afterAll lib name s (cs.take i)) c).1 := by
  induction cs generalizing s i with
  | nil => rfl
  | cons c cs ih =>
    cases i with
    | zero => rfl
    | succ i => simp [callAll, afterAll, ih]

theorem length_callAll (s : S) (cs : List (Instant × Option Fault)) :
    (callAll lib name s cs).length = cs.length := by
  induction cs generalizing s with
  | nil => rfl
  | cons c cs ih => simp [callAll, ih]

variable {lib name}

theorem failures_take_succ {cs : List (Instant × Option Fault)} {i : Nat} (hi : i < cs.length) :
    failures (cs.take (i + 1)) = failures (cs.take i) + if succeeded cs[i].2 then 0 else 1 := by
  simp only [failures]
  rw [List.take_add_one, List.getElem?_eq_getElem hi, Option.toList_some, List.countP_append]
  cases h : succeeded cs[i].2 <;> simp [h]

/-- A call trips the breaker exactly when it fails and the counts with it call for opening. -/
theorem tripsAt_iff {cs : List (Instant × Option Fault)} {j : Nat} (hj : j < cs.length) :
    TripsAt cs j ↔ succeeded cs[j].2 = false ∧ ripe (j + 1) (failures (cs.take j) + 1) = true := by
  unfold TripsAt
  rw [List.getElem?_eq_getElem hj, failures_take_succ hj]
  cases hs : succeeded cs[j].2 <;> simp [ripe, hs]

variable {view : S → Breaker} {t₀ : Instant} {cs : List (Instant × Option Fault)}

/-- Before the first trip a new client breaker is closed, with every call so far counted as a
request and every failure so far as a failure. -/
theorem afterAll_closed (hlib : lib.Lawful view) (name : String)
    (hwithin : ∀ c ∈ cs, Within t₀ c.1) :
    ∀ j ≤ cs.length, (∀ k < j, ¬TripsAt cs k) →
      Closed view t₀ (afterAll lib name (lib.make (settings name) t₀) (cs.take j)) j
        (failures (cs.take j)) := by
  intro j
  induction j with
  | zero => intro _ _; exact closed_make hlib t₀
  | succ j ih =>
    intro hj hnone
    have hlt : j < cs.length := by omega
    have hbefore := ih (by omega) fun k hk => hnone k (by omega)
    have hcall := (hbefore.call hlib name (hwithin _ (List.getElem_mem hlt))).2
    rw [afterAll_take_succ _ _ _ hlt, failures_take_succ hlt]
    cases hs : succeeded cs[j].2
    · -- the `j`-th call fails without tripping the breaker, so it is counted
      have hquiet : ripe (j + 1) (failures (cs.take j) + 1) = false := by
        simpa [tripsAt_iff hlt, hs] using hnone j (by omega)
      simpa [hs, hquiet] using hcall
    · simpa [hs] using hcall

/-- From the first trip on a new client breaker is open. -/
theorem afterAll_opened (hlib : lib.Lawful view) (name : String)
    (hwithin : ∀ c ∈ cs, Within t₀ c.1) :
    ∀ j ≤ cs.length, (∃ k < j, TripsAt cs k) →
      Opened view t₀ (afterAll lib name (lib.make (settings name) t₀) (cs.take j)) := by
  intro j
  induction j with
  | zero => rintro _ ⟨k, hk, -⟩; omega
  | succ j ih =>
    intro hj htrip
    have hlt : j < cs.length := by omega
    have ht := hwithin _ (List.getElem_mem hlt)
    rw [afterAll_take_succ _ _ _ hlt]
    by_cases hearlier : ∃ k < j, TripsAt cs k
    · exact ((ih (by omega) hearlier).call hlib name ht).2
    · -- the first trip is the `j`-th call itself
      obtain ⟨k, hk, hkt⟩ := htrip
      have hkj : k = j := by
        have : ¬k < j := fun h => hearlier ⟨k, h, hkt⟩
        omega
      subst hkj
      obtain ⟨hfail, hripe⟩ := (tripsAt_iff hlt).mp hkt
      have hclosed := afterAll_closed hlib name hwithin k (by omega)
        (fun k' hk' h => hearlier ⟨k', hk', h⟩)
      simpa [hfail, hripe] using (hclosed.call hlib name ht).2

theorem refusal_message (name : String) :
    (refusal name .openState).message = "circuit breaker " ++ name ++ " is open: service unavailable" := by
  have hwords : " is open" ++ (": " ++ "service unavailable") = " is open: service unavailable" := by
    decide +kernel
  show "circuit breaker " ++ name ++ " is open" ++ ": " ++ "service unavailable" = _
  rw [String.append_assoc, String.append_assoc, String.append_assoc, hwords]
  exact String.append_assoc.symm

end ClientBreaker

open ClientBreaker in
/-- **Calls through a new client breaker.** Take any breaker library that keeps gobreaker's
documented behaviour of a closed and an open breaker, and calls one after another through a new
client breaker, all within its first 15 s. Every call gets an answer. Up to and including the
first call that trips the breaker, each call runs and its caller gets the call's own result, the
answer inside a permanent mark without the mark; from the call after it on, no call runs, and each
caller gets `circuit breaker <name> is open: service unavailable`, a fault saying the service is
unavailable. -/
theorem guarded_calls_trip {S : Type} (lib : BreakerLib S) (view : S → Breaker)
    (hlib : lib.Lawful view) (name : String) (t₀ : Instant) (cs : List (Instant × Option Fault))
    (hwithin : ∀ c ∈ cs, Within t₀ c.1) :
    let outs := callAll lib name (lib.make (settings name) t₀) cs
    outs.length = cs.length ∧
    ∀ i (hi : i < cs.length),
      ((∀ k < i, ¬TripsAt cs k) → outs[i]? = some (true, handed cs[i].2)) ∧
      ((∃ k < i, TripsAt cs k) → ∃ f, outs[i]? = some (false, some f) ∧
        f.isA .serviceUnavailable = true ∧
        f.message = "circuit breaker " ++ name ++ " is open: service unavailable") := by
  intro outs
  refine ⟨length_callAll _ _ _ cs, fun i hi => ⟨fun hnone => ?_, fun htrip => ?_⟩⟩
  · have hclosed := afterAll_closed hlib name hwithin i (by omega) hnone
    rw [callAll_getElem?, List.getElem?_eq_getElem hi, Option.map_some,
      (hclosed.call hlib name (hwithin _ (List.getElem_mem hi))).1]
  · have hopen := afterAll_opened hlib name hwithin i (by omega) htrip
    rw [callAll_getElem?, List.getElem?_eq_getElem hi, Option.map_some,
      (hopen.call hlib name (hwithin _ (List.getElem_mem hi))).1]
    exact ⟨_, rfl, by simp [refusal, Fault.isA, Fault.classes], refusal_message name⟩

/-- A permanent answer and three failures within the same moment through a new client breaker
kept by gobreaker: the answer comes back without its mark, the third failure trips the breaker,
and the call after it does not run. -/
theorem permanent_answer_then_trip :
    let cs : List (Instant × Option Fault) :=
      [(Instant.wall, some (.permanent (.note "remote said no"))),
        (Instant.wall, some (.note "remote failure")), (Instant.wall, some (.note "remote failure")),
        (Instant.wall, none)]
    let outs := ClientBreaker.callAll gobreaker "payment-service"
      (gobreaker.make (ClientBreaker.settings "payment-service") Instant.wall) cs
    gobreaker.Lawful id ∧ (∀ c ∈ cs, ClientBreaker.Within Instant.wall c.1) ∧ TripsAt cs 2 ∧
      outs[0]? = some (true, some (.note "remote said no")) ∧
      ∃ f, outs[3]? = some (false, some f) ∧ f.isA .serviceUnavailable = true ∧
        f.message = "circuit breaker " ++ "payment-service" ++ " is open: service unavailable" := by
  intro cs outs
  have hwithin : ∀ c ∈ cs, ClientBreaker.Within Instant.wall c.1 := by
    simp [cs, ClientBreaker.within_self]
  have htrip : TripsAt cs 2 := ⟨⟨_, rfl, rfl⟩, by decide, by decide⟩
  have hrun := guarded_calls_trip gobreaker id gobreaker_lawful "payment-service" Instant.wall cs
    hwithin
  refine ⟨gobreaker_lawful, hwithin, htrip, ?_, (hrun.2 3 (by decide)).2 ⟨2, by decide, htrip⟩⟩
  rw [(hrun.2 0 (by decide)).1 fun k hk => absurd hk (Nat.not_lt_zero k)]
  rfl

/-- After 2 ^ 32 calls that succeed, three failures and one more call within the same moment
through a new client breaker kept by gobreaker: by the true counts no failure comes near 60 % of
the calls made, yet the counts have wrapped to three requests, all failed, and the last call does
not run. -/
theorem wrapped_counts_trip_early :
    let cs : List (Instant × Option Fault) :=
      List.replicate UInt32.size (Instant.wall, none) ++
        List.replicate 3 (Instant.wall, some (.note "remote failure")) ++ [(Instant.wall, none)]
    (∀ k < cs.length, ¬3 * (k + 1) ≤ 5 * ClientBreaker.failures (cs.take (k + 1))) ∧
      (ClientBreaker.callAll gobreaker "payment-service"
        (gobreaker.make (ClientBreaker.settings "payment-service") Instant.wall) cs)[UInt32.size + 3]? =
        some (false, some (ClientBreaker.refusal "payment-service" .openState)) := by
  intro cs
  have hwithin : ∀ c ∈ cs, ClientBreaker.Within Instant.wall c.1 := by
    intro c hc
    simp only [cs, List.mem_append, List.mem_replicate, List.mem_singleton] at hc
    rcases hc with (⟨-, rfl⟩ | ⟨-, rfl⟩) | rfl <;> exact ClientBreaker.within_self _
  have hfail : ∀ j, ClientBreaker.failures (cs.take j) ≤ 3 := fun j =>
    calc ClientBreaker.failures (cs.take j)
      _ ≤ ClientBreaker.failures cs := (List.take_sublist j cs).countP_le
      _ = 3 := by simp [cs, ClientBreaker.failures, List.countP_replicate]
  have hhead : ∀ j ≤ UInt32.size, ClientBreaker.failures (cs.take j) = 0 := by
    intro j hj
    simp [cs, ClientBreaker.failures, List.take_append_of_le_length, hj, List.countP_replicate]
  refine ⟨fun k _ hk => ?_, ?_⟩
  · -- a failure is among the first `UInt32.size` calls only when it is not there at all
    by_cases hsmall : k + 1 ≤ UInt32.size
    · rw [hhead _ hsmall] at hk
      omega
    · have := hfail (k + 1)
      have hsize : UInt32.size = 4294967296 := rfl
      omega
  · have hlen : cs.length = UInt32.size + 4 := by simp [cs]
    have hlast : cs[UInt32.size + 3]? = some (Instant.wall, none) := by
      simp [cs]
    have htrip : TripsAt cs (UInt32.size + 2) := by
      refine ⟨⟨(Instant.wall, some (.note "remote failure")), ?_, rfl⟩, by decide, ?_⟩
      · simp [cs]
      · have hthree : ClientBreaker.failures (cs.take (UInt32.size + 2 + 1)) = 3 := by
          have h3 : UInt32.size + 2 + 1 - UInt32.size = 3 := by omega
          simp [cs, ClientBreaker.failures, List.take_append, List.countP_replicate, h3]
        simp only [ClientBreaker.failures] at hthree ⊢
        rw [hthree]
        decide
    have hopen := ClientBreaker.afterAll_opened gobreaker_lawful "payment-service" hwithin
      (UInt32.size + 3) (by omega) ⟨UInt32.size + 2, by omega, htrip⟩
    rw [ClientBreaker.callAll_getElem?, hlast, Option.map_some,
      (hopen.call gobreaker_lawful "payment-service" (ClientBreaker.within_self Instant.wall)).1]

end Fulfillment
