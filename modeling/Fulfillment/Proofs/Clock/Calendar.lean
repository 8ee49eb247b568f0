import Mathlib
import Fulfillment.Clock.Instant

/-!
# The civil calendar of instants

`Instant.civilOfDays` turns a count of days since 1970-01-01 into a year, a month and a day of the
proleptic Gregorian calendar, and `Instant.daysOfCivil` counts the days of a date. Both work in
eras of 400 years (146097 days) whose years begin on the 1st of March, so that the leap day is
the last day of its year.

Every count of days gives a real date, with a month from 1 to 12 and a day within the month,
and counting the days of that date gives the count back (`civilOfDays_spec`).

The proof splits a day of an era into centuries, four-year spans, years and the day within the
year (`EraDay`); the year of era the calendar computes by its divisions is then read off the
split (`yoe_of_eraDay`), and the month and day follow from the day within the year.
-/

namespace Fulfillment.Instant

/-- A date with a month from 1 to 12 and a day within that month. -/
def ValidDate (y : Int) (m d : Nat) : Prop := 1 ≤ m ∧ m ≤ 12 ∧ 1 ≤ d ∧ d ≤ monthLength y m

theorem leapYear_iff (y : Int) :
    leapYear y = true ↔ y % 4 = 0 ∧ (y % 100 ≠ 0 ∨ y % 400 = 0) := by
  simp [leapYear]

theorem monthLength_le (y : Int) (m : Nat) : monthLength y m ≤ 31 := by
  unfold monthLength
  split_ifs <;> omega

/-- Day `doe` of an era (from its first 1st of March) is day `j` of year `r` of four-year span `k`
of century `c`. Only the last year of a span has a 366th day (`j = 365`), and the last span of a
century has one only in the era's last century. -/
structure EraDay (doe c k r j : Int) : Prop where
  c_bounds : 0 ≤ c ∧ c ≤ 3
  k_bounds : 0 ≤ k ∧ k ≤ 24
  r_bounds : 0 ≤ r ∧ r ≤ 3
  j_bounds : 0 ≤ j ∧ j ≤ 365
  leap_day : j = 365 → r = 3 ∧ (k < 24 ∨ c = 3)
  eq : doe = 36524 * c + 1461 * k + 365 * r + j

/-- Every day of an era splits into century, span, year and day. -/
theorem eraDay_exists {doe : Int} (h0 : 0 ≤ doe) (h1 : doe ≤ 146096) :
    ∃ c k r j, EraDay doe c k r j := by
  -- the last century and the last span of a century take the days that overflow them
  obtain ⟨c, hc⟩ : ∃ c, c = min (doe / 36524) 3 := ⟨_, rfl⟩
  obtain ⟨k, hk⟩ : ∃ k, k = min ((doe - 36524 * c) / 1461) 24 := ⟨_, rfl⟩
  obtain ⟨r, hr⟩ : ∃ r, r = min ((doe - 36524 * c - 1461 * k) / 365) 3 := ⟨_, rfl⟩
  exact ⟨c, k, r, doe - 36524 * c - 1461 * k - 365 * r, by constructor <;> omega⟩

/-- The calendar's year of era, `(doe - doe/1460 + doe/36524 - doe/146096) / 365`, is the year
of the split. -/
theorem yoe_of_eraDay {doe c k r j : Int} (h : EraDay doe c k r j) :
    (doe - doe / 1460 + doe / 36524 - doe / 146096) / 365 = 100 * c + 4 * k + r := by
  obtain ⟨hc, hk, hr, hj, hj', rfl⟩ := h
  by_cases hl : j = 365
  · -- a leap day: the four-year correction has already counted it
    obtain ⟨rfl, hk'⟩ := hj' hl
    subst hl
    rcases hk' with hk' | rfl
    · have e1 : (36524 * c + 1461 * k + 365 * 3 + 365) / 1460 = 25 * c + k + 1 := by omega
      have e2 : (36524 * c + 1461 * k + 365 * 3 + 365) / 36524 = c := by omega
      have e3 : (36524 * c + 1461 * k + 365 * 3 + 365) / 146096 = 0 := by omega
      omega
    · by_cases h24 : k = 24
      · -- the last day of the era
        subst h24
        norm_num
      · have e1 : (36524 * 3 + 1461 * k + 365 * 3 + 365) / 1460 = 25 * 3 + k + 1 := by omega
        have e2 : (36524 * 3 + 1461 * k + 365 * 3 + 365) / 36524 = 3 := by omega
        have e3 : (36524 * 3 + 1461 * k + 365 * 3 + 365) / 146096 = 0 := by omega
        omega
  · have e2 : (36524 * c + 1461 * k + 365 * r + j) / 36524 = c := by omega
    have e3 : (36524 * c + 1461 * k + 365 * r + j) / 146096 = 0 := by omega
    by_cases hb : 1460 ≤ 24 * c + k + 365 * r + j
    · have e1 : (36524 * c + 1461 * k + 365 * r + j) / 1460 = 25 * c + k + 1 := by omega
      omega
    · have e1 : (36524 * c + 1461 * k + 365 * r + j) / 1460 = 25 * c + k := by omega
      omega

/-- **Every count of days is a date.** The date `civilOfDays` gives has a month from 1 to 12 and
a day within the month, and `daysOfCivil` counts it back to the same day. -/
theorem civilOfDays_spec (days : Int) :
    ValidDate (civilOfDays days).1 (civilOfDays days).2.1 (civilOfDays days).2.2 ∧
    daysOfCivil (civilOfDays days).1 (civilOfDays days).2.1 (civilOfDays days).2.2 = days := by
  obtain ⟨c, k, r, j, h⟩ : ∃ c k r j, EraDay ((days + 719468) % 146097) c k r j :=
    eraDay_exists (by omega) (by omega)
  have hyoe := yoe_of_eraDay h
  obtain ⟨hc, hk, hr, hj, hj', heq⟩ := h
  -- the arithmetic facts are proved before `hyoe` is used, which would slow `omega` down
  have hdoe : days + 719468 - (days + 719468) / 146097 * 146097 = (days + 719468) % 146097 := by
    clear hyoe; omega
  have h4 : (100 * c + 4 * k + r) / 4 = 25 * c + k := by clear hyoe; omega
  have h100 : (100 * c + 4 * k + r) / 100 = c := by clear hyoe; omega
  have hdoy : (days + 719468) % 146097 -
      (365 * (100 * c + 4 * k + r) + (100 * c + 4 * k + r) / 4 - (100 * c + 4 * k + r) / 100) =
        j := by
    clear hyoe; omega
  have hdays : days =
      146097 * ((days + 719468) / 146097) + 36524 * c + 1461 * k + 365 * r + j - 719468 := by
    clear hyoe; omega
  simp only [civilOfDays]
  rw [hdoe, hyoe, hdoy]
  clear hyoe hdoe hdoy heq
  generalize (days + 719468) / 146097 = era at hdays ⊢
  subst hdays
  -- the month of a year that starts in March, and its bounds
  have hmp0 : 0 ≤ (5 * j + 2) / 153 := by omega
  have hmp1 : (5 * j + 2) / 153 ≤ 11 := by omega
  have hd0 : 153 * ((5 * j + 2) / 153) ≤ 5 * j + 2 := by omega
  have hd1 : 5 * j + 2 < 153 * ((5 * j + 2) / 153) + 153 := by omega
  generalize (5 * j + 2) / 153 = mp at hmp0 hmp1 hd0 hd1 ⊢
  have hera : (100 * c + 4 * k + r + era * 400) / 400 = era := by omega
  by_cases hlt : mp < 10
  · -- March to December: the year of era itself
    have hm : ¬(mp + 3 ≤ 2) := by omega
    simp only [if_pos hlt, if_neg hm, add_zero]
    constructor
    · refine ⟨by omega, by omega, by omega, ?_⟩
      simp only [monthLength, beq_iff_eq, Bool.or_eq_true]
      split_ifs <;> omega
    · simp only [daysOfCivil]
      have e : ((mp + 3).toNat : Int) = mp + 3 := Int.toNat_of_nonneg (by omega)
      have ed : (((j - (153 * mp + 2) / 5 + 1).toNat : Nat) : Int) = j - (153 * mp + 2) / 5 + 1 :=
        Int.toNat_of_nonneg (by omega)
      have hn : ¬((mp + 3).toNat ≤ 2) := by omega
      simp only [if_neg hn, e, ed]
      rw [hera, if_pos (by omega)]
      omega
  · -- January and February: the next year, whose February may have a 29th
    have hm : mp - 9 ≤ 2 := by omega
    simp only [if_neg hlt, if_pos hm]
    constructor
    · refine ⟨by omega, by omega, by omega, ?_⟩
      simp only [monthLength, beq_iff_eq, Bool.or_eq_true, leapYear_iff]
      split_ifs <;> omega
    · simp only [daysOfCivil]
      have e : ((mp - 9).toNat : Int) = mp - 9 := Int.toNat_of_nonneg (by omega)
      have ed : (((j - (153 * mp + 2) / 5 + 1).toNat : Nat) : Int) = j - (153 * mp + 2) / 5 + 1 :=
        Int.toNat_of_nonneg (by omega)
      have hn : (mp - 9).toNat ≤ 2 := by omega
      have hy : 100 * c + 4 * k + r + era * 400 + 1 - 1 = 100 * c + 4 * k + r + era * 400 := by
        omega
      simp only [if_pos hn, e, ed, hy]
      rw [hera, if_neg (by omega)]
      omega

end Fulfillment.Instant
