import Mathlib.Data.List.Induction
import Mathlib.Data.List.Nodup
import Mathlib.Data.List.Perm.Subperm
import Fulfillment.Store.Keys

/-!
# The idempotency key protocol

Sagas that carry one idempotency key share it through the key store: a saga claims the key,
stores its order and binds the key to it, or lets the key go when it stored nothing; a saga
that finds the key taken is refused while the key is in progress, and reads the order back once
the key is bound. This module says what that protocol is, apart from any program that runs it.

What happens to the key is a log of `KeyEvent`s under the threads that caused them. The key
moves through four phases (`KeyPhase`): free, held by a claimant, held by a claimant that stored
an order, and bound to that order. A log `Follows` the protocol when every event was one its
phase allowed and every thread claimed before it did anything else. What such a log says of
each phase is `follows_shows`; from it, at most one order is ever stored
(`Follows.stored_le_one`), only the thread that stored it pays for it, and only once
(`Follows.paid_le_one`), and every claim saw one of three things (`Follows.claimSaw`): a free
key, when nothing was stored and every earlier claimant let go; a key in progress at another
thread that had neither bound nor let it go; or the key bound to the stored order.

The key store closes the module: it keeps the laws of Redis while it works
(`KeyStore.redis_lawful`), and a claim that finds the key bound reads the order's id back
(`readClaimed_toString`, from `readInt_toString`).
-/

namespace Fulfillment

/-- What happens to an idempotency key: a claim that found the key holding `seen`, an order
stored, the key bound to a value (the text of an order's id), the key let go, a payment started
for an order. -/
inductive KeyEvent where
  | claimed (seen : Option String)
  | stored (orderId : Int)
  | bound (value : String)
  | released
  | paid (orderId : Int)
  deriving DecidableEq

namespace KeyEvent

/-- The order an event stores, if it stores one. -/
def storedId? : KeyEvent → Option Int
  | stored n => some n
  | _ => none

/-- Whether an event starts a payment. -/
def isPaid : KeyEvent → Bool
  | paid _ => true
  | _ => false

end KeyEvent

/-- Where a key stands: free, held by thread `h`, held by `h` after it stored order `n`, or
bound to order `n` that `h` stored. -/
inductive KeyPhase where
  | free
  | held (h : Nat)
  | stored (h : Nat) (n : Int)
  | bound (h : Nat) (n : Int)
  deriving DecidableEq

namespace KeyPhase

/-- What the key store holds under the key in a phase. -/
def value : KeyPhase → Option String
  | free => none
  | held _ => some IdempotencyStore.pendingMarker
  | stored _ _ => some IdempotencyStore.pendingMarker
  | bound _ n => some (toString n)

/-- The phase after an event. -/
def next : KeyPhase → Nat × KeyEvent → KeyPhase
  | free, (j, .claimed _) => held j
  | held _, (_, .released) => free
  | held h, (_, .stored n) => stored h n
  | stored h n, (_, .bound _) => bound h n
  | p, _ => p

/-- The events a phase allows: a claim sees what the store holds; only the holder stores an
order, binds the key to what it stored, lets go of a key under which it stored nothing, and
pays for the order the key is bound to. -/
def Allows : KeyPhase → Nat × KeyEvent → Prop
  | p, (_, .claimed seen) => seen = p.value
  | p, (j, .stored _) => p = held j
  | p, (j, .bound v) => ∃ n, p = stored j n ∧ v = toString n
  | p, (j, .released) => p = held j
  | p, (j, .paid n) => p = bound j n

/-- The thread that holds the key. -/
def holder : KeyPhase → Option Nat
  | free => none
  | held h => some h
  | stored h _ => some h
  | bound h _ => some h

/-- No thread but the holder moves a held key. -/
theorem next_of_ne {p : KeyPhase} {i j : Nat} {e : KeyEvent} (hi : p.holder = some i)
    (hj : j ≠ i) (ha : p.Allows (j, e)) : p.next (j, e) = p := by
  cases p <;> cases e <;> simp_all [holder, Allows, next]

/-- No event but letting go frees a key that is taken. -/
theorem released_of_next_free {p : KeyPhase} {e : Nat × KeyEvent} (hp : p ≠ free)
    (hn : p.next e = free) : e.2 = .released := by
  obtain ⟨j, ev⟩ := e
  cases p <;> cases ev <;> simp_all [next]

end KeyPhase

/-- The phase a log leaves the key in, from a free key. -/
def phaseOf (log : List (Nat × KeyEvent)) : KeyPhase := log.foldl KeyPhase.next .free

/-- The events of thread `j`, in order. -/
def eventsOf (log : List (Nat × KeyEvent)) (j : Nat) : List KeyEvent :=
  (log.filter (·.1 == j)).map (·.2)

/-- The ids of the orders a log stored, in order. -/
def storedIds (log : List (Nat × KeyEvent)) : List Int := log.filterMap (·.2.storedId?)

/-- How often a log lets the key go. -/
def releases (log : List (Nat × KeyEvent)) : Nat := log.countP (·.2 == .released)

@[simp] theorem releases_append (L L' : List (Nat × KeyEvent)) :
    releases (L ++ L') = releases L + releases L' :=
  List.countP_append ..

/-- An event that may follow log `L`: its phase allows it, and a thread claims before anything
else it logs. -/
def Admits (L : List (Nat × KeyEvent)) (e : Nat × KeyEvent) : Prop :=
  (phaseOf L).Allows e ∧ ∀ seen, e.2 = .claimed seen → ∀ x ∈ L, x.1 ≠ e.1

/-- A log of the protocol: every event was admitted by the log before it. -/
def Follows (log : List (Nat × KeyEvent)) : Prop :=
  ∀ L e L', log = L ++ e :: L' → Admits L e

section Logs

variable {log L L' : List (Nat × KeyEvent)} {e : Nat × KeyEvent}

@[simp] theorem phaseOf_nil : phaseOf [] = .free := rfl

@[simp] theorem phaseOf_snoc : phaseOf (log ++ [e]) = (phaseOf log).next e := by
  simp [phaseOf]

@[simp] theorem eventsOf_snoc (j : Nat) :
    eventsOf (log ++ [e]) j = if e.1 = j then eventsOf log j ++ [e.2] else eventsOf log j := by
  by_cases h : e.1 = j <;> simp [eventsOf, h]

@[simp] theorem storedIds_snoc :
    storedIds (log ++ [e]) = storedIds log ++ e.2.storedId?.toList := by
  cases h : e.2.storedId? <;> simp [storedIds, h]

theorem eventsOf_eq_nil {j : Nat} : eventsOf log j = [] ↔ ∀ x ∈ log, x.1 ≠ j := by
  simp [eventsOf, List.filter_eq_nil_iff]

theorem mem_eventsOf {j : Nat} {ev : KeyEvent} : ev ∈ eventsOf log j ↔ (j, ev) ∈ log := by
  simp [eventsOf]

theorem mem_storedIds {j : Nat} {n : Int} (h : (j, .stored n) ∈ log) : n ∈ storedIds log :=
  List.mem_filterMap.mpr ⟨_, h, rfl⟩

theorem follows_nil : Follows [] := by
  intro L e L' h
  simp at h

theorem Follows.admits (h : Follows (L ++ e :: L')) : Admits L e := h L e L' rfl

theorem Follows.prefix (h : Follows (L ++ L')) : Follows L := by
  intro M e M' heq
  exact h M e (M' ++ L') (by rw [heq, List.append_assoc, List.cons_append])

/-- An admitted event keeps a log following the protocol. -/
theorem Follows.snoc (h : Follows log) (he : Admits log e) : Follows (log ++ [e]) := by
  intro M x M' heq
  rcases List.eq_nil_or_concat M' with rfl | ⟨M'', y, rfl⟩
  · obtain ⟨rfl, hx⟩ := List.append_inj' heq rfl
    cases hx
    exact he
  · rw [List.concat_eq_append, ← List.cons_append, ← List.append_assoc] at heq
    exact h M x M'' (List.append_inj_left' heq rfl)

end Logs

/-! ## What a log that follows the protocol says of each phase -/

/-- What log `L` shows of the key in a phase. A free key: every thread that claimed it let it
go, and no order was stored. A held key: its holder claimed it and has neither let it go nor
bound it, and the rest is as for a free key. A key with an order stored: its holder claimed it,
stored that order and no other, and has neither let it go nor bound it. A bound key: its holder
stored the order, the only one, and bound the key to it. -/
def Shows (L : List (Nat × KeyEvent)) : KeyPhase → Prop
  | .free =>
      (∀ h, (h, .claimed none) ∈ L → (h, .released) ∈ L) ∧ ∀ h n, (h, .stored n) ∉ L
  | .held h =>
      (h, .claimed none) ∈ L ∧ (h, .released) ∉ L ∧ (∀ v, (h, .bound v) ∉ L) ∧
      (∀ h', h' ≠ h → (h', .claimed none) ∈ L → (h', .released) ∈ L) ∧
      ∀ h' n, (h', .stored n) ∉ L
  | .stored h n =>
      (h, .claimed none) ∈ L ∧ (h, .released) ∉ L ∧ (∀ v, (h, .bound v) ∉ L) ∧
      ∀ h' n', (h', .stored n') ∈ L ↔ h' = h ∧ n' = n
  | .bound h n =>
      (h, .bound (toString n)) ∈ L ∧ ∀ h' n', (h', .stored n') ∈ L ↔ h' = h ∧ n' = n

/-- One admitted event keeps what the log shows. -/
theorem Shows.next {L : List (Nat × KeyEvent)} {p : KeyPhase} {e : Nat × KeyEvent}
    (h : Shows L p) (ha : p.Allows e)
    (hc : ∀ seen, e.2 = .claimed seen → ∀ x ∈ L, x.1 ≠ e.1) :
    Shows (L ++ [e]) (p.next e) := by
  obtain ⟨j, ev⟩ := e
  -- every phase against every event: the events a phase forbids fall to `ha`, and what is left
  -- is which memberships the new event adds
  cases p <;> cases ev <;>
    simp only [KeyPhase.Allows, KeyPhase.value, reduceCtorEq, KeyPhase.held.injEq,
      KeyPhase.stored.injEq, KeyPhase.bound.injEq] at ha <;>
    simp only [Shows, KeyPhase.next, List.mem_append, List.mem_singleton,
      Prod.mk.injEq] at h ⊢ <;>
    grind

theorem follows_shows {log : List (Nat × KeyEvent)} (h : Follows log) :
    Shows log (phaseOf log) := by
  induction log using List.reverseRecOn with
  | nil => simp [Shows]
  | append_singleton L e ih =>
    obtain ⟨ha, hc⟩ := h L e [] rfl
    rw [phaseOf_snoc]
    exact (ih h.prefix).next ha hc

section Consequences

variable {log : List (Nat × KeyEvent)}

theorem Follows.stored_unique (h : Follows log) {j j' : Nat} {n n' : Int}
    (h₁ : (j, .stored n) ∈ log) (h₂ : (j', .stored n') ∈ log) : j = j' ∧ n = n' := by
  have hs := follows_shows h
  cases hp : phaseOf log with
  | free => rw [hp] at hs; exact absurd h₁ (hs.2 j n)
  | held h => rw [hp] at hs; exact absurd h₁ (hs.2.2.2.2 j n)
  | stored h m =>
    rw [hp] at hs
    obtain ⟨rfl, rfl⟩ := (hs.2.2.2 j n).mp h₁
    obtain ⟨rfl, rfl⟩ := (hs.2.2.2 j' n').mp h₂
    exact ⟨rfl, rfl⟩
  | bound h m =>
    rw [hp] at hs
    obtain ⟨rfl, rfl⟩ := (hs.2 j n).mp h₁
    obtain ⟨rfl, rfl⟩ := (hs.2 j' n').mp h₂
    exact ⟨rfl, rfl⟩

/-- **At most one order is stored under a key.** -/
theorem Follows.stored_le_one (h : Follows log) : (storedIds log).length ≤ 1 := by
  induction log using List.reverseRecOn with
  | nil => simp [storedIds]
  | append_singleton L e ih =>
    obtain ⟨ha, -⟩ := h L e [] rfl
    obtain ⟨j, ev⟩ := e
    rw [storedIds_snoc]
    cases ev with
    | stored n =>
      -- only a holder that stored nothing stores, so nothing was stored before
      have hs : Shows L (phaseOf L) := follows_shows h.prefix
      rw [show phaseOf L = .held j from ha] at hs
      have hnil : storedIds L = [] := by
        refine List.filterMap_eq_nil_iff.mpr fun x hx => ?_
        obtain ⟨h', ev'⟩ := x
        cases ev' with
        | stored n' => exact absurd hx (hs.2.2.2.2 h' n')
        | _ => rfl
      simp [hnil, KeyEvent.storedId?]
    | _ => simpa [KeyEvent.storedId?] using ih h.prefix

/-- A payment is started only by the thread that stored the order, for that order. -/
theorem Follows.stored_of_paid (h : Follows log) {j : Nat} {n : Int} (hp : (j, .paid n) ∈ log) :
    (j, .stored n) ∈ log := by
  obtain ⟨L, L', rfl⟩ := List.append_of_mem hp
  obtain ⟨ha, -⟩ := h.admits
  have hs : Shows L (phaseOf L) := follows_shows h.prefix
  rw [show phaseOf L = .bound j n from ha] at hs
  exact List.mem_append_left _ ((hs.2 j n).mpr ⟨rfl, rfl⟩)

/-- What a claim by thread `j` that found the key holding `seen` tells of the log before it:
a free key, when every earlier claimant let it go and no order was stored; a key in progress,
when another thread claimed it and has neither let it go nor bound it; or the key bound to an
order that a thread stored. -/
def ClaimSaw (L : List (Nat × KeyEvent)) (j : Nat) : Option String → Prop
  | none =>
      (∀ h, (h, .claimed none) ∈ L → (h, .released) ∈ L) ∧ ∀ h n, (h, .stored n) ∉ L
  | some v => (v = IdempotencyStore.pendingMarker ∧ ∃ h, h ≠ j ∧ (h, .claimed none) ∈ L ∧
        (h, .released) ∉ L ∧ ∀ v', (h, .bound v') ∉ L) ∨
      ∃ h n, v = toString n ∧ (h, .stored n) ∈ L ∧ (h, .bound (toString n)) ∈ L

/-- **What every claim saw.** -/
theorem Follows.claimSaw {L L' : List (Nat × KeyEvent)} {j : Nat} {seen : Option String}
    (h : Follows (L ++ (j, .claimed seen) :: L')) : ClaimSaw L j seen := by
  obtain ⟨ha, hc⟩ := h.admits
  have hfirst : ∀ x ∈ L, x.1 ≠ j := hc seen rfl
  have hs : Shows L (phaseOf L) := follows_shows h.prefix
  simp only [KeyPhase.Allows] at ha
  subst ha
  -- the phase the claim found decides what it saw
  cases hp : phaseOf L with
  | free => rw [hp] at hs; exact hs
  | held h =>
    rw [hp] at hs
    exact .inl ⟨rfl, h, fun he => hfirst _ hs.1 he, hs.1, hs.2.1, hs.2.2.1⟩
  | stored h n =>
    rw [hp] at hs
    exact .inl ⟨rfl, h, fun he => hfirst _ hs.1 he, hs.1, hs.2.1, hs.2.2.1⟩
  | bound h n =>
    rw [hp] at hs
    exact .inr ⟨h, n, rfl, (hs.2 h n).mpr ⟨rfl, rfl⟩, hs.1⟩

end Consequences

/-! ## The events of one call -/

/-- The events one saga logs, up to any point of its run: nothing; a claim that found the key
taken; a claim that took it, then either letting it go, or storing an order, binding the key
to it and paying for it. -/
inductive CallLog : List KeyEvent → Prop
  | idle : CallLog []
  | saw (v : String) : CallLog [.claimed (some v)]
  | took : CallLog [.claimed none]
  | released : CallLog [.claimed none, .released]
  | stored (n : Int) : CallLog [.claimed none, .stored n]
  | bound (n : Int) : CallLog [.claimed none, .stored n, .bound (toString n)]
  | paid (n : Int) : CallLog [.claimed none, .stored n, .bound (toString n), .paid n]

theorem CallLog.not_stored_of_released {evs : List KeyEvent} (h : CallLog evs)
    (hr : .released ∈ evs) (n : Int) : .stored n ∉ evs := by
  cases h <;> simp_all

theorem CallLog.count_released_le {evs : List KeyEvent} (h : CallLog evs) :
    evs.count .released ≤ 1 := by
  cases h <;> simp

/-- Each thread lets the key go at most once, so threads below `n` let it go at most `n`
times. -/
theorem releases_le {log : List (Nat × KeyEvent)} (hc : ∀ j, CallLog (eventsOf log j)) {n : Nat}
    (hn : ∀ x ∈ log, x.1 < n) : releases log ≤ n := by
  have hnodup : ((log.filter (·.2 == .released)).map (·.1)).Nodup := by
    refine List.nodup_iff_count_le_one.mpr fun j => ?_
    calc ((log.filter (·.2 == .released)).map (·.1)).count j
        = (eventsOf log j).count .released := by
          simp only [eventsOf, List.count, List.countP_map, List.countP_filter]
          congr 1
          funext x
          simp [Bool.and_comm]
      _ ≤ 1 := (hc j).count_released_le
  have hsub : (log.filter (·.2 == .released)).map (·.1) ⊆ List.range n := by
    intro j hj
    obtain ⟨x, hx, rfl⟩ := List.mem_map.mp hj
    exact List.mem_range.mpr (hn x (List.mem_filter.mp hx).1)
  calc releases log = ((log.filter (·.2 == .released)).map (·.1)).length := by
        simp [releases, List.countP_eq_length_filter]
    _ ≤ (List.range n).length := (hnodup.subperm hsub).length_le
    _ = n := List.length_range

theorem CallLog.paid_le_one {evs : List KeyEvent} (h : CallLog evs) :
    (evs.filter (·.isPaid)).length ≤ 1 := by
  cases h <;> simp [KeyEvent.isPaid]

/-- **The payment is started at most once in all**: only by the thread that stored the order,
and by it once. -/
theorem Follows.paid_le_one {log : List (Nat × KeyEvent)} (h : Follows log)
    (hc : ∀ j, CallLog (eventsOf log j)) : (log.filter (·.2.isPaid)).length ≤ 1 := by
  by_cases hp : ∃ x ∈ log, x.2.isPaid = true
  · obtain ⟨⟨j, ev⟩, hx, hpaid⟩ := hp
    cases ev with
    | paid n =>
      -- every payment is started by the one thread that stored an order
      have hj : ∀ x ∈ log, x.2.isPaid = true → x.1 = j := by
        rintro ⟨j', ev'⟩ hx' hp'
        cases ev' with
        | paid n' => exact (h.stored_unique (h.stored_of_paid hx') (h.stored_of_paid hx)).1
        | _ => cases hp'
      have heq : log.filter (·.2.isPaid) = (log.filter (·.1 == j)).filter (·.2.isPaid) := by
        rw [List.filter_filter]
        refine List.filter_congr fun x hx' => ?_
        by_cases hpx : x.2.isPaid = true
        · simp [hpx, hj x hx' hpx]
        · simp [hpx]
      calc (log.filter (·.2.isPaid)).length
          = ((eventsOf log j).filter (·.isPaid)).length := by
            rw [heq, eventsOf, List.filter_map, List.length_map]
            rfl
        _ ≤ 1 := (hc j).paid_le_one
    | _ => cases hpaid
  · rw [List.filter_eq_nil_iff.mpr fun x hx hpx => hp ⟨x, hx, hpx⟩]
    simp

/-! ## The key store -/

namespace Number

theorem digitValue_of_isDigit {c : Char} (h : c.isDigit = true) : digitValue c = c.toNat - 48 := by
  have h' : '0' ≤ c ∧ c ≤ '9' := by
    simp only [Char.isDigit, Bool.and_eq_true, decide_eq_true_eq] at h
    exact ⟨h.1, h.2⟩
  simp [digitValue, h']

theorem toNat_of_isDigit {c : Char} (h : c.isDigit = true) : 48 ≤ c.toNat ∧ c.toNat ≤ 57 := by
  simp only [Char.isDigit, Bool.and_eq_true, decide_eq_true_eq] at h
  exact ⟨h.1, h.2⟩

theorem le_ofDigitChars (cs : List Char) (n : Nat) : n ≤ Nat.ofDigitChars 10 cs n := by
  rw [Nat.ofDigitChars_eq_ofDigitChars_zero]
  have : 1 ≤ 10 ^ cs.length := Nat.one_le_pow _ _ (by decide)
  calc n = 1 * n := (Nat.one_mul n).symm
    _ ≤ 10 ^ cs.length * n := Nat.mul_le_mul_right n this
    _ ≤ _ := Nat.le_add_right _ _

/-- Decimal digits read into their value, as long as it stays within the bound. -/
theorem accumulate_digits (maxVal : Nat) (seen : Bool) {cs : List Char}
    (hd : ∀ c ∈ cs, c.isDigit = true) {n : Nat} (h : Nat.ofDigitChars 10 cs n ≤ maxVal) :
    accumulate 10 maxVal false cs n seen = .inl (some (Nat.ofDigitChars 10 cs n, seen)) := by
  induction cs generalizing n with
  | nil => simp [accumulate]
  | cons c cs ih =>
    have hc := hd c (List.mem_cons_self ..)
    have hdig := toNat_of_isDigit hc
    rw [Nat.ofDigitChars_cons] at h ⊢
    -- the magnitude only grows, so the bound on the whole covers every prefix
    have hle := le_ofDigitChars cs (10 * n + (c.toNat - '0'.toNat))
    have h0 : '0'.toNat = 48 := rfl
    rw [h0] at h hle ⊢
    simp only [accumulate, Bool.false_eq_true, and_false, if_false, digitValue_of_isDigit hc]
    rw [if_neg (by omega), if_neg (by omega), Nat.mul_comm n 10]
    exact ih (fun c' hc' => hd c' (List.mem_cons_of_mem _ hc')) h

/-- **A non-negative 64-bit integer reads back from its decimal text.** -/
theorem readInt_toString {n : Int} (h0 : 0 ≤ n) (h : n < Int.pow 2 63) :
    readInt (toString n) 10 64 = .value n := by
  obtain ⟨m, rfl⟩ := Int.eq_ofNat_of_zero_le h0
  have hm : m < 9223372036854775808 := by
    have : (m : Int) < 9223372036854775808 := h
    omega
  have hcs : (toString (m : Int)).toList = Nat.toDigits 10 m := Nat.toList_repr
  have hd : ∀ c ∈ Nat.toDigits 10 m, c.isDigit = true := fun c hc =>
    Nat.isDigit_of_mem_toDigits (by decide) (by decide) hc
  obtain ⟨c, r, hcr⟩ : ∃ c r, Nat.toDigits 10 m = c :: r :=
    List.exists_cons_of_ne_nil Nat.toDigits_ne_nil
  -- the text starts with a digit, so it has no sign
  have hc := toNat_of_isDigit (hd c (by rw [hcr]; exact List.mem_cons_self ..))
  have hplus : c ≠ '+' := fun he => by subst he; simp at hc
  have hminus : c ≠ '-' := fun he => by subst he; simp at hc
  have hacc := accumulate_digits (Nat.pow 2 64 - 1) false hd (n := 0)
    (by rw [Nat.ofDigitChars_ten_toDigits]; show m ≤ 18446744073709551615; omega)
  rw [Nat.ofDigitChars_ten_toDigits, hcr, show Nat.pow 2 64 - 1 = 18446744073709551615 from rfl]
    at hacc
  unfold readInt readNat
  simp only [hcs, hcr, reduceCtorEq, if_false]
  simp [hplus, hminus]
  simp only [hacc]
  simp [show ¬ 9223372036854775808 ≤ m by omega]

end Number

namespace KeyStore

variable {s : KeyStore} {key : String}

theorem lookup_write (value k : String) :
    (s.write key value).lookup k = if k = key then some value else s.lookup k := by
  by_cases hk : k = key
  · subst hk
    have hnone : (s.entries.filter (·.key != k)).find? (·.key == k) = none := by
      simp [List.find?_eq_none]
    simp [lookup, write, List.find?_append, hnone]
  · have hf : (s.entries.filter (·.key != key)).find? (·.key == k) = s.entries.find? (·.key == k) := by
      rw [List.find?_filter]
      congr 1
      funext e
      by_cases he : e.key = k <;> simp [he, hk]
    simp [lookup, write, List.find?_append, hf, hk, Ne.symm hk]

theorem lookup_forget (k : String) :
    (s.forget key).lookup k = if k = key then none else s.lookup k := by
  by_cases hk : k = key
  · subst hk
    simp [lookup, forget, List.find?_eq_none]
  · have hf : (s.entries.filter (·.key != key)).find? (·.key == k) = s.entries.find? (·.key == k) := by
      rw [List.find?_filter]
      congr 1
      funext e
      by_cases he : e.key = k <;> simp [he, hk]
    simp [lookup, forget, hf, hk]

theorem command_of_works {α : Type} (hf : s.failure = "") (answer : α × KeyStore) :
    s.command answer = (.ok answer.1, answer.2) := by
  simp [command, hf]

/-- **The store keeps the laws of Redis** while it works. -/
theorem redis_lawful : redis.Lawful lookup (·.failure = "") where
  setNX_absent r k v hf hnone := by
    simp only [redis, hnone, command_of_works hf]
    exact ⟨trivial, hf, lookup_write v⟩
  setNX_present r k v w hf hsome := by
    simp [redis, hsome, command_of_works hf]
  get r k hf := by
    simp [redis, command_of_works hf]
  set r k v hf := by
    simp only [redis, command_of_works hf]
    exact ⟨trivial, hf, lookup_write v⟩
  del r k hf := by
    simp only [redis, command_of_works hf]
    exact ⟨trivial, hf, lookup_forget⟩

end KeyStore

namespace IdempotencyStore

theorem inProgress_isA (key : String) : (inProgress key).isA .alreadyExists = true := rfl

theorem readClaimed_pending (key : String) : readClaimed key pendingMarker = .error (inProgress key) := rfl

theorem toString_ne_pendingMarker {n : Int} (h0 : 0 ≤ n) : toString n ≠ pendingMarker := by
  obtain ⟨m, rfl⟩ := Int.eq_ofNat_of_zero_le h0
  intro heq
  -- the marker starts with a letter, a number's text with a digit
  have hl : Nat.toDigits 10 m = pendingMarker.toList := by
    rw [← heq]
    exact Nat.toList_repr.symm
  have hp : 'p' ∈ Nat.toDigits 10 m := by
    rw [hl]
    decide
  exact absurd (Nat.isDigit_of_mem_toDigits (by decide) (by decide) hp) (by decide)

/-- A claim that finds the key bound to an order reads the order's id back. -/
theorem readClaimed_toString (key : String) {n : Int} (h0 : 0 ≤ n) (h63 : n < Int.pow 2 63) :
    readClaimed key (toString n) = .ok n := by
  -- the text of an id is `Int.repr` once unfolded
  have hne : n.repr ≠ pendingMarker := toString_ne_pendingMarker h0
  have hr : Number.readInt n.repr 10 64 = .value n := Number.readInt_toString h0 h63
  simp [readClaimed, hne, hr]

end IdempotencyStore

end Fulfillment
