import Fulfillment.Proofs.Clock.Calendar

/-!
# Instants read back from their text

`Instant.toText` writes an instant as RFC 3339 text in UTC: a four-digit year, two-digit month,
day, hour, minute and second, the fraction of a second without its trailing zeros (none at all
when it is zero), and `Z`. `Instant.ofText?` reads such text back. For every instant whose year
has four digits, reading its text gives the instant back (`ofText?_toText`).

The reader takes each field as a run of digits (`digitsOf_padded`), the fraction with its
trailing zeros put back (`fractionNanos_trimmed`), and checks the date, which the calendar makes
valid (`civilOfDays_spec`); `ofText?_fields` reads the text of any valid fields.
-/

namespace Fulfillment.Instant

/-- `digitsOf` adds up digits the way `Nat.ofDigitChars` does. -/
theorem foldl_digits (ds : List Char) :
    ds.foldl (fun acc c => 10 * acc + (c.toNat - 48)) 0 = Nat.ofDigitChars 10 ds 0 := rfl

theorem padded_toList (n k : Nat) :
    (padded n k).toList =
      List.replicate (n - (Nat.toDigits 10 k).length) '0' ++ Nat.toDigits 10 k := by
  simp [padded, Nat.toString_eq_repr, Nat.toList_repr, ← String.length_toList]

theorem padded_length {n k : Nat} (hn : 0 < n) (hk : k < 10 ^ n) :
    (padded n k).toList.length = n := by
  have hlen : (Nat.toDigits 10 k).length ≤ n := (Nat.length_toDigits_le_iff (by decide) hn).mpr hk
  rw [padded_toList]
  simp only [List.length_append, List.length_replicate]
  omega

theorem padded_isDigit (n k : Nat) : ∀ c ∈ (padded n k).toList, c.isDigit = true := by
  intro c hc
  rw [padded_toList] at hc
  rcases List.mem_append.mp hc with h | h
  · rw [List.eq_of_mem_replicate h]
    rfl
  · exact Nat.isDigit_of_mem_toDigits (by decide) (by decide) h

/-- A number of at most `n` digits written with `n` digits reads back, with what follows. -/
theorem digitsOf_padded {n k : Nat} (rest : List Char) (hn : 0 < n) (hk : k < 10 ^ n) :
    digitsOf n ((padded n k).toList ++ rest) = some (k, rest) := by
  have hp := padded_length hn hk
  unfold digitsOf
  rw [List.take_left' hp, List.drop_left' hp,
    if_pos (by simp [hp, List.all_eq_true.mpr (padded_isDigit n k)])]
  rw [foldl_digits, padded_toList, Nat.ofDigitChars_append, Nat.ofDigitChars_replicate_zero,
    Nat.mul_zero, Nat.ofDigitChars_toDigits (by decide) (by decide)]

/-- A list is what is left when its trailing zeros are dropped, followed by those zeros. -/
theorem trailing_zeros (l : List Char) :
    l = (l.reverse.dropWhile (· = '0')).reverse ++
      List.replicate (l.reverse.takeWhile (· = '0')).length '0' := by
  have h := List.takeWhile_append_dropWhile (p := fun c : Char => decide (c = '0')) (l := l.reverse)
  have hz : l.reverse.takeWhile (· = '0') =
      List.replicate (l.reverse.takeWhile (· = '0')).length '0' :=
    List.eq_replicate_iff.mpr ⟨rfl, fun c hc => by simpa using List.mem_takeWhile_imp hc⟩
  calc l = l.reverse.reverse := (List.reverse_reverse l).symm
    _ = (l.reverse.takeWhile (· = '0') ++ l.reverse.dropWhile (· = '0')).reverse := by rw [h]
    _ = _ := by
      rw [List.reverse_append]
      congr 1
      conv_lhs => rw [hz]
      rw [List.reverse_replicate]

/-- Nine digits with their trailing zeros dropped, padded back to nine with zeros. -/
theorem trimmed_take {l : List Char} (hl : l.length = 9) :
    ((l.reverse.dropWhile (· = '0')).reverse ++ List.replicate 9 '0').take 9 = l := by
  have h := trailing_zeros l
  have hlen : (l.reverse.dropWhile (· = '0')).reverse.length +
      (l.reverse.takeWhile (· = '0')).length = 9 := by
    rw [← hl]
    conv_rhs => rw [h]
    simp
  rw [List.take_append, List.take_of_length_le (by omega), List.take_replicate]
  conv_rhs => rw [h]
  congr 2
  omega

/-- The written fraction of a second, nine digits without their trailing zeros, reads back. -/
theorem fractionNanos_trimmed {frac : Nat} (h0 : frac ≠ 0) (h1 : frac < 1000000000) :
    fractionNanos (((padded 9 frac).toList.reverse.dropWhile (· = '0')).reverse) = some frac := by
  have hl := padded_length (k := frac) (by decide : 0 < 9) (by norm_num; omega)
  have hread := digitsOf_padded (k := frac) [] (by decide : 0 < 9) (by norm_num; omega)
  rw [List.append_nil] at hread
  have hsub : ∀ c ∈ ((padded 9 frac).toList.reverse.dropWhile (· = '0')).reverse,
      c.isDigit = true :=
    fun c hc => padded_isDigit 9 frac c (List.mem_reverse.mp
      ((List.dropWhile_sublist _).subset (List.mem_reverse.mp hc)))
  -- a fraction of zeros only would be zero
  have hne : ((padded 9 frac).toList.reverse.dropWhile (· = '0')).reverse ≠ [] := by
    intro he
    have hz := trimmed_take hl
    rw [he, List.nil_append, List.take_replicate] at hz
    rw [← hz] at hread
    have hzero : digitsOf 9 (List.replicate 9 '0') = some (0, []) := by decide
    rw [min_self, hzero] at hread
    exact h0 (Prod.mk.inj (Option.some.inj hread)).1.symm
  have hempty :
      (((padded 9 frac).toList.reverse.dropWhile (· = '0')).reverse).isEmpty = false :=
    Bool.eq_false_iff.mpr fun h => hne (List.isEmpty_iff.mp h)
  unfold fractionNanos
  rw [hempty, List.all_eq_true.mpr hsub, if_neg (by decide), trimmed_take hl, hread]
  rfl

/-- The text of valid fields reads back as the instant they name. -/
theorem ofText?_fields {y mo d h mi s frac : Nat} (hy : y < 10000) (hmo : 1 ≤ mo ∧ mo ≤ 12)
    (hd : 1 ≤ d ∧ d ≤ monthLength y mo) (hh : h ≤ 23) (hmi : mi ≤ 59) (hs : s ≤ 59)
    (hf : frac < 1000000000) :
    ofText? (padded 4 y ++ "-" ++ padded 2 mo ++ "-" ++ padded 2 d ++ "T" ++ padded 2 h ++ ":" ++
        padded 2 mi ++ ":" ++ padded 2 s ++
        (if frac = 0 then "" else
          "." ++ String.ofList ((padded 9 frac).toList.reverse.dropWhile (· = '0')).reverse) ++
        "Z") =
      some ⟨daysOfCivil y mo d * nanosPerDay + (h * 3600 + mi * 60 + s) * nanosPerSecond + frac⟩ := by
  have hb : ∀ {α β : Type} (a : α) (f : α → Option β), (some a >>= f) = f a := fun _ _ => rfl
  have hd31 := monthLength_le y mo
  have hrange : ¬((decide (mo < 1) || decide (mo > 12) || decide (d < 1) ||
      decide (d > monthLength y mo) || decide (h > 23) || decide (mi > 59) ||
      decide (s > 59)) = true) := by
    simp only [Bool.or_eq_true, decide_eq_true_eq]
    omega
  unfold ofText?
  simp only [String.toList_append, List.append_assoc]
  rw [show "-".toList = ['-'] from rfl, show ":".toList = [':'] from rfl,
    show "T".toList = ['T'] from rfl, show "Z".toList = ['Z'] from rfl]
  -- the fields, one after another, each followed by its separator
  rw [digitsOf_padded _ (by decide) (by omega)]
  simp only [hb, List.singleton_append, List.head?_cons, List.tail_cons, beq_self_eq_true,
    ↓reduceIte]
  rw [digitsOf_padded _ (by decide) (by omega)]
  simp only [hb, List.head?_cons, List.tail_cons, beq_self_eq_true, ↓reduceIte]
  rw [digitsOf_padded _ (by decide) (by omega)]
  simp only [hb, List.head?_cons, List.tail_cons, beq_self_eq_true, Bool.true_or, ↓reduceIte]
  rw [digitsOf_padded _ (by decide) (by omega)]
  simp only [hb, List.head?_cons, List.tail_cons, beq_self_eq_true, ↓reduceIte]
  rw [digitsOf_padded _ (by decide) (by omega)]
  simp only [hb, List.head?_cons, List.tail_cons, beq_self_eq_true, ↓reduceIte]
  rw [digitsOf_padded _ (by decide) (by omega)]
  simp only [hb]
  -- the fraction: none when it is zero, else a point and its digits
  by_cases hf0 : frac = 0
  · have hZ : (some 'Z' == some '.') = false := rfl
    simp only [if_pos hf0, String.toList_empty, List.nil_append, List.head?_cons, hZ,
      Bool.false_eq_true, ↓reduceIte, if_neg hrange]
    subst hf0
    simp
  · have hsub : ∀ c ∈ ((padded 9 frac).toList.reverse.dropWhile (· = '0')).reverse,
        c.isDigit = true :=
      fun c hc => padded_isDigit 9 frac c (List.mem_reverse.mp
        ((List.dropWhile_sublist _).subset (List.mem_reverse.mp hc)))
    have htake : (((padded 9 frac).toList.reverse.dropWhile (· = '0')).reverse ++
        ['Z']).takeWhile Char.isDigit =
          ((padded 9 frac).toList.reverse.dropWhile (· = '0')).reverse := by
      rw [List.takeWhile_append_of_pos hsub,
        show List.takeWhile Char.isDigit ['Z'] = [] from rfl, List.append_nil]
    rw [if_neg hf0, String.toList_append]
    simp only [String.toList_ofList, show ".".toList = ['.'] from rfl, List.cons_append]
    simp only [List.head?_cons, List.tail_cons, beq_self_eq_true, ↓reduceIte, List.nil_append,
      htake, fractionNanos_trimmed hf0 hf, Option.map_some, List.drop_left, hb, if_neg hrange]
    simp

/-- **An instant reads back from its text.** For an instant whose year has four digits, reading
the RFC 3339 text `toText` writes gives the same instant. -/
theorem ofText?_toText (t : Instant) (hw : t.writable = true) : ofText? t.toText = some t := by
  obtain ⟨⟨y, m, d⟩, hc⟩ : ∃ c, civilOfDays (t.ns / nanosPerDay) = c := ⟨_, rfl⟩
  have hspec := civilOfDays_spec (t.ns / nanosPerDay)
  rw [hc] at hspec
  obtain ⟨⟨hm1, hm12, hd1, hdm⟩, hdays⟩ := hspec
  have hy : 0 ≤ y ∧ y ≤ 9999 := by simpa [writable, year, hc] using hw
  have hyn : ((y.toNat : Nat) : Int) = y := Int.toNat_of_nonneg hy.1
  have hin : 0 ≤ t.ns % nanosPerDay ∧ t.ns % nanosPerDay < nanosPerDay :=
    ⟨Int.emod_nonneg _ (by decide), Int.emod_lt_of_pos _ (by decide)⟩
  have hnd : nanosPerDay = 86400 * 1000000000 := rfl
  unfold toText
  simp only [hc]
  rw [if_neg (by omega)]
  rw [ofText?_fields (by omega) ⟨hm1, hm12⟩ ⟨hd1, by rw [hyn]; exact hdm⟩ (by omega) (by omega)
    (by omega) (by omega), hyn, hdays]
  -- the day's start and the nanoseconds within the day add back up to the instant
  cases t with
  | mk ns =>
    simp only [Option.some.injEq, Instant.mk.injEq, nanosPerSecond]
    simp only [hnd] at hin ⊢
    omega

end Fulfillment.Instant
