import Mathlib
import Fulfillment.Json.Reader

/-!
# Reading back what is written compactly

A client writes a request body with `Json.compact`, and the service reads it with `readFirst`.
This module shows that the reader gives back what was written, for the values requests are made
of: strings written with `escapeChar` (`readValue_str`), whole numbers that are not negative
(`readValue_int`), and objects whose members are such values (`readFirst_compact_obj`).

Each reader is followed through its input piece by piece: a string one escape at a time
(`readString_escapeChar`), a number as its run of digits up to a character that cannot continue
it (`readNumber_toString`), and an object one member at a time (`readMembers_member`). A member
value is `ReadsBack` when it reads back before the comma or the brace that follows it.
-/

namespace Fulfillment.Json

theorem hexValue?_digit : ∀ k, k < 10 → hexValue? (Char.ofNat (48 + k)) = some k := by
  decide

theorem hexValue?_lowerLetter : ∀ k, k < 16 → 10 ≤ k → hexValue? (Char.ofNat (87 + k)) = some k := by
  decide

/-- The four hexadecimal digits that `escapeChar` writes for a control character. -/
theorem readHex4_control {n : Nat} (h : n < 0x20) (rest : List Char) :
    readHex4 ('0' :: '0' :: Char.ofNat (48 + n / 16) ::
      (if n % 16 < 10 then Char.ofNat (48 + n % 16) else Char.ofNat (87 + n % 16)) :: rest) =
      .ok (n, rest) := by
  have hhi := hexValue?_digit (n / 16) (by omega)
  have hlo : hexValue? (if n % 16 < 10 then Char.ofNat (48 + n % 16)
      else Char.ofNat (87 + n % 16)) = some (n % 16) := by
    split
    · exact hexValue?_digit _ ‹_›
    · exact hexValue?_lowerLetter _ (by omega) (by omega)
  simp only [readHex4, hhi, hlo, show hexValue? '0' = some 0 from rfl]
  congr
  omega

theorem unicodeEscape_control {n : Nat} (h : n < 0x20) (rest : List Char) :
    unicodeEscape n rest = (Char.ofNat n, rest) := by
  have hs : isSurrogate n = false := by simp [isSurrogate]; omega
  simp [unicodeEscape, hs]

theorem readString_escapeChar (c : Char) (fuel : Nat) (rest acc : List Char) :
    readString (fuel + 1) (escapeChar c ++ rest) acc = readString fuel rest (c :: acc) := by
  unfold escapeChar
  split
  · rfl
  · rfl
  · rfl
  · rfl
  · rfl
  · next hq hb _ _ _ =>
    split
    · next hlt =>
      -- a control character is written as `\u00XX`
      simp only [List.cons_append, readString, List.nil_append]
      simp only [show ('\\' : Char) ≠ '"' by decide, if_false, if_true, readHex4_control hlt,
        unicodeEscape_control hlt, Char.ofNat_toNat]
    · next hge =>
      simp only [List.singleton_append, readString, if_neg hq, if_neg hb, if_neg hge]

theorem one_le_length_escapeChar (c : Char) : 1 ≤ (escapeChar c).length := by
  unfold escapeChar
  split <;> (try split) <;> simp

/-- A string written with `escapeChar` and closed by a quote reads back as its characters. -/
theorem readString_escaped (cs rest acc : List Char) (fuel : Nat)
    (h : (cs.flatMap escapeChar).length < fuel) :
    readString fuel (cs.flatMap escapeChar ++ '"' :: rest) acc =
      .ok (String.ofList (acc.reverse ++ cs), rest) := by
  induction cs generalizing acc fuel with
  | nil =>
    obtain ⟨f, rfl⟩ : ∃ f, fuel = f + 1 := ⟨fuel - 1, by simp at h; omega⟩
    simp [readString]
  | cons c cs ih =>
    have hc := one_le_length_escapeChar c
    simp only [List.flatMap_cons, List.length_append] at h
    obtain ⟨f, rfl⟩ : ∃ f, fuel = f + 1 := ⟨fuel - 1, by omega⟩
    rw [List.flatMap_cons, List.append_assoc, readString_escapeChar, ih _ _ (by omega)]
    simp

theorem writtenBetween_closed (body after : List Char) :
    writtenBetween (body ++ '"' :: after) after = String.ofList body := by
  have h : body.length + (after.length + 1) - after.length - 1 = body.length := by omega
  simp [writtenBetween, h]

/-- The written form of a string, quotes and all. -/
theorem toList_compact_str (s : String) :
    (Json.str s).compact.toList = '"' :: s.toList.flatMap escapeChar ++ ['"'] := by
  simp [Json.str, compact]

theorem readValue_str (s : String) (fuel depth : Nat) (rest : List Char) :
    readValue (fuel + 1) depth ((Json.str s).compact.toList ++ rest) = .ok (Json.str s, rest) := by
  rw [toList_compact_str]
  have hsp : isSpace '"' = false := rfl
  simp only [List.cons_append, List.append_assoc, readValue, List.dropWhile_cons, hsp,
    Bool.false_eq_true, ↓reduceIte, List.nil_append]
  rw [readString_escaped _ _ _ _ (by simp), if_neg (by decide), if_neg (by decide)]
  simp [writtenBetween_closed, Json.str]

/-- The first digit of a positive number is not `0`. -/
theorem toDigits_head_ne_zero {n : Nat} (h : 0 < n) :
    ∃ d ds, Nat.toDigits 10 n = d :: ds ∧ d ≠ '0' := by
  induction n using Nat.strong_induction_on with
  | _ n ih =>
    by_cases hn : n < 10
    · rw [Nat.toDigits_of_lt_base hn]
      have : ∀ k, k < 10 → 0 < k → Nat.digitChar k ≠ '0' := by decide
      exact ⟨_, [], rfl, this n hn h⟩
    · obtain ⟨d, ds, hds, hd⟩ := ih (n / 10) (by omega) (by omega)
      rw [Nat.toDigits_of_base_le (by decide) (by omega), hds]
      exact ⟨d, ds ++ _, rfl, hd⟩

theorem spanDigits_digits {ds rest : List Char} {c : Char} (hds : ∀ d ∈ ds, d.isDigit = true)
    (hc : c.isDigit = false) : spanDigits (ds ++ c :: rest) = (ds, c :: rest) := by
  simp [spanDigits, List.takeWhile_append_of_pos hds, List.dropWhile_append_of_pos hds, hc]

theorem readNumberTail_stop {c : Char} (rest : List Char) (hp : c ≠ '.') (he : c ≠ 'e')
    (hE : c ≠ 'E') : readNumberTail (c :: rest) = .ok ([], c :: rest) := by
  simp [readNumberTail, hp, he, hE]

/-- A number that starts with `0` is that `0` and its tail. -/
theorem readNumber_zero (more : List Char) {tail after : List Char}
    (h : readNumberTail more = .ok (tail, after)) :
    readNumber ('0' :: more) = .ok (String.ofList ('0' :: tail), after) := by
  simp [readNumber, h]

/-- A number that starts with another digit is its run of digits and its tail. -/
theorem readNumber_run {d : Char} (hd : d.isDigit = true) (h0 : d ≠ '0') (more : List Char)
    {tail after : List Char} (h : readNumberTail (spanDigits more).2 = .ok (tail, after)) :
    readNumber (d :: more) = .ok (String.ofList (d :: (spanDigits more).1 ++ tail), after) := by
  have hm : d ≠ '-' := by rintro rfl; cases hd
  unfold readNumber
  split
  next sign body h' =>
    -- a digit is no sign, so the body is the whole input
    split at h'
    · next r he => exact absurd (List.cons.inj he).1 hm
    · obtain ⟨rfl, rfl⟩ := Prod.mk.inj h'
      simp [h0, hd, h]

/-- The text of a natural number is made of digits. -/
theorem isDigit_of_mem_toString (n : Nat) : ∀ c ∈ (toString n).toList, c.isDigit = true :=
  fun c hc => Nat.isDigit_of_mem_toDigits (b := 10) (by decide) (by decide)
    (by simpa [Nat.toString_eq_repr, Nat.toList_repr] using hc)

/-- A natural number as `toString` writes it reads back, up to a character that cannot continue
a number. -/
theorem readNumber_toString (n : Nat) {c : Char} (rest : List Char) (hc : c.isDigit = false)
    (hp : c ≠ '.') (he : c ≠ 'e') (hE : c ≠ 'E') :
    readNumber ((toString n).toList ++ c :: rest) = .ok (toString n, c :: rest) := by
  have ht : (toString n).toList = Nat.toDigits 10 n := by
    simp [Nat.toString_eq_repr, Nat.toList_repr]
  have hdig := isDigit_of_mem_toString n
  rcases Nat.eq_zero_or_pos n with rfl | hn
  · exact readNumber_zero _ (readNumberTail_stop rest hp he hE)
  · obtain ⟨d, ds, hds, hd⟩ := toDigits_head_ne_zero hn
    rw [← ht] at hds
    rw [hds] at hdig ⊢
    have hspan : spanDigits (ds ++ c :: rest) = (ds, c :: rest) :=
      spanDigits_digits (fun x hx => hdig x (List.mem_cons_of_mem d hx)) hc
    rw [List.cons_append, readNumber_run (hdig d List.mem_cons_self) hd _
      (by rw [hspan]; exact readNumberTail_stop rest hp he hE), hspan]
    simp [← hds, Nat.toString_eq_repr, Nat.repr_eq_ofList_toDigits]

/-- A digit is no blank and opens no object, array or string. -/
theorem digit_opens_number {d : Char} (hd : d.isDigit = true) :
    isSpace d = false ∧ d ≠ '{' ∧ d ≠ '[' ∧ d ≠ '"' := by
  have h : 48 ≤ d.toNat ∧ d.toNat ≤ 57 := by
    simpa [Char.isDigit, UInt32.le_iff_toNat_le] using hd
  simp only [isSpace, Bool.or_eq_false_iff, beq_eq_false_iff_ne]
  refine ⟨⟨⟨⟨?_, ?_⟩, ?_⟩, ?_⟩, ?_, ?_, ?_⟩ <;> rintro rfl <;> simp at h

theorem toString_ofNat_int (m : Nat) : toString (m : Int) = toString m := rfl

/-- A whole number that is not negative, as `Json.int` writes it, reads back up to a character
that cannot continue it. -/
theorem readValue_int {n : Int} (h : 0 ≤ n) (fuel depth : Nat) {c : Char} (rest : List Char)
    (hc : c.isDigit = false) (hp : c ≠ '.') (he : c ≠ 'e') (hE : c ≠ 'E') :
    readValue (fuel + 1) depth ((Json.int n).compact.toList ++ c :: rest) =
      .ok (Json.int n, c :: rest) := by
  obtain ⟨m, rfl⟩ := Int.eq_ofNat_of_zero_le h
  have hread := readNumber_toString m rest hc hp he hE
  have hdig := isDigit_of_mem_toString m
  obtain ⟨d, ds, hds⟩ : ∃ d ds, (toString m).toList = d :: ds :=
    List.exists_cons_of_ne_nil (by simp [Nat.toString_eq_repr, Nat.toList_repr, Nat.toDigits_ne_nil])
  have hd : d.isDigit = true := hdig d (hds ▸ List.mem_cons_self)
  obtain ⟨hsp, hb, hk, hq⟩ := digit_opens_number hd
  simp only [Json.int, compact, toString_ofNat_int, hds, List.cons_append, readValue,
    List.dropWhile_cons, hsp, Bool.false_eq_true, ↓reduceIte, if_neg hb, if_neg hk, if_neg hq, hd,
    or_true]
  rw [← List.cons_append, ← hds, hread]

/-- A value that reads back from its compact text when a comma or a closing brace follows, as a
member of an object does. -/
def ReadsBack (v : Json) : Prop :=
  ∀ fuel depth (c : Char) rest, (c = ',' ∨ c = '}') →
    readValue (fuel + 1) depth (v.compact.toList ++ c :: rest) = .ok (v, c :: rest)

theorem readsBack_str (s : String) : ReadsBack (Json.str s) :=
  fun fuel depth _ _ _ => readValue_str s fuel depth _

theorem readsBack_int {n : Int} (h : 0 ≤ n) : ReadsBack (Json.int n) := by
  rintro fuel depth c rest (rfl | rfl) <;> exact readValue_int h fuel depth rest rfl
    (by decide) (by decide) (by decide)

theorem toList_compactMember (k : String) (v : Json) :
    (quoteString k ++ ":" ++ v.compact).toList =
      '"' :: k.toList.flatMap escapeChar ++ '"' :: ':' :: v.compact.toList := by
  simp [quoteString]

/-- One member, then a comma and more members or the closing brace. -/
theorem readMembers_member (k : String) {v : Json} (hv : ReadsBack v) (fuel depth : Nat)
    (acc : List (String × Json)) {c : Char} (hc : c = ',' ∨ c = '}') (rest : List Char) :
    readMembers (fuel + 2) depth ((quoteString k ++ ":" ++ v.compact).toList ++ c :: rest) acc =
      if c = ',' then readMembers (fuel + 1) depth rest ((k, v) :: acc)
      else .ok (.obj ((k, v) :: acc).reverse, rest) := by
  rw [toList_compactMember]
  have hq : isSpace '"' = false := rfl
  have hcolon : isSpace ':' = false := rfl
  have hcs : isSpace c = false := by rcases hc with rfl | rfl <;> rfl
  simp only [List.cons_append, List.append_assoc, readMembers, List.dropWhile_cons, hq,
    Bool.false_eq_true, ↓reduceIte, ne_eq, not_true_eq_false]
  rw [readString_escaped _ _ _ _ (by simp)]
  simp only [List.dropWhile_cons, hcolon, Bool.false_eq_true, ↓reduceIte, List.reverse_nil,
    List.nil_append, String.ofList_toList, not_true_eq_false]
  rw [hv fuel depth c rest hc]
  simp only [List.dropWhile_cons, hcs, Bool.false_eq_true, ↓reduceIte]
  rcases hc with rfl | rfl
  · rfl
  · rfl

/-- Members written compactly, each readable, and the closing brace. -/
theorem readMembers_compact (m : String × Json) (ms : List (String × Json))
    (hv : ∀ x ∈ m :: ms, ReadsBack x.2) (fuel depth : Nat) (acc : List (String × Json))
    (rest : List Char) (hf : ms.length + 1 < fuel) :
    readMembers fuel depth ((",".intercalate (compactMembers (m :: ms))).toList ++ '}' :: rest)
      acc = .ok (.obj (acc.reverse ++ m :: ms), rest) := by
  induction ms generalizing m acc fuel with
  | nil =>
    obtain ⟨f, rfl⟩ : ∃ f, fuel = f + 2 := ⟨fuel - 2, by simp at hf; omega⟩
    simp only [compactMembers, String.intercalate_singleton]
    rw [readMembers_member m.1 (hv m List.mem_cons_self) f depth acc (.inr rfl)]
    simp
  | cons m' ms ih =>
    obtain ⟨f, rfl⟩ : ∃ f, fuel = f + 2 := ⟨fuel - 2, by simp at hf; omega⟩
    have htext : (",".intercalate (compactMembers (m :: m' :: ms))).toList ++ '}' :: rest =
        (quoteString m.1 ++ ":" ++ m.2.compact).toList ++
          ',' :: ((",".intercalate (compactMembers (m' :: ms))).toList ++ '}' :: rest) := by
      simp [compactMembers, String.intercalate_cons_cons]
    rw [htext, readMembers_member m.1 (hv m List.mem_cons_self) f depth acc (.inl rfl), if_pos rfl,
      ih m' (fun x hx => hv x (List.mem_cons_of_mem m hx)) (f + 1) ((m.1, m.2) :: acc)
        (by simp at hf ⊢; omega)]
    simp

theorem toList_compact_obj (ms : List (String × Json)) :
    (Json.obj ms).compact.toList = '{' :: (",".intercalate (compactMembers ms)).toList ++ ['}'] := by
  simp [Json.obj, compact]

/-- Every member takes a character of the written members at least. -/
theorem length_le_compactMembers (m : String × Json) (ms : List (String × Json)) :
    (m :: ms).length ≤ (",".intercalate (compactMembers (m :: ms))).length := by
  have hc : ":".length = 1 := rfl
  have hk : ",".length = 1 := rfl
  induction ms generalizing m with
  | nil =>
    simp [compactMembers, quoteString]
    omega
  | cons m' ms ih =>
    have := ih m'
    simp only [compactMembers, String.intercalate_cons_cons, String.length_append] at this ⊢
    simp only [quoteString, String.length_ofList, List.length_cons, List.length_append, hc,
      hk] at this ⊢
    omega

theorem compactMembers_head (m : String × Json) (ms : List (String × Json)) :
    (",".intercalate (compactMembers (m :: ms))).toList.head? = some '"' := by
  cases ms with
  | nil => simp [compactMembers, quoteString]
  | cons m' ms => simp [compactMembers, String.intercalate_cons_cons, quoteString]

/-- An object written compactly, whose members read back, reads back with the stretch of text
it was read from. -/
theorem readValue_obj (m : String × Json) (ms : List (String × Json))
    (hv : ∀ x ∈ m :: ms, ReadsBack x.2) (fuel depth : Nat) (hd : depth < maxDepth)
    (rest : List Char) (hf : ms.length + 3 < fuel) :
    readValue fuel depth ((Json.obj (m :: ms)).compact.toList ++ rest) =
      .ok (.object (m :: ms) ⟨(Json.obj (m :: ms)).compact.toList ++ rest, rest⟩, rest) := by
  obtain ⟨f, rfl⟩ : ∃ f, fuel = f + 2 := ⟨fuel - 2, by omega⟩
  have hsp : isSpace '{' = false := rfl
  rw [toList_compact_obj]
  simp only [List.cons_append, List.append_assoc, readValue, List.dropWhile_cons, hsp,
    Bool.false_eq_true, ↓reduceIte, if_neg (Nat.not_le.mpr hd), List.nil_append]
  obtain ⟨t, ht⟩ := List.head?_eq_some_iff.mp (compactMembers_head m ms)
  have hq : isSpace '"' = false := rfl
  have hstart : readObjectStart (f + 1) (depth + 1)
      ((",".intercalate (compactMembers (m :: ms))).toList ++ '}' :: rest) =
        readMembers f (depth + 1)
          ((",".intercalate (compactMembers (m :: ms))).toList ++ '}' :: rest) [] := by
    rw [ht]
    simp [readObjectStart, hq]
  rw [hstart, readMembers_compact m ms hv f (depth + 1) [] rest (by omega)]
  rfl

/-- **A compact object reads back.** An object of readable members, written compactly, is the
first value of its text, kept with the whole text as its stretch, and nothing follows it. -/
theorem readFirst_compact_obj (m : String × Json) (ms : List (String × Json))
    (hv : ∀ x ∈ m :: ms, ReadsBack x.2) :
    readFirst (Json.obj (m :: ms)).compact =
      .ok (.object (m :: ms) ⟨(Json.obj (m :: ms)).compact.toList, []⟩, []) := by
  have hlen := length_le_compactMembers m ms
  have hall : (Json.obj (m :: ms)).compact.toList.all isSpace = false := by
    rw [toList_compact_obj]
    rfl
  have h := readValue_obj m ms hv (3 * (Json.obj (m :: ms)).compact.toList.length + 3) 0
    (by decide) [] (by rw [toList_compact_obj]; simp [← String.length_toList] at hlen ⊢; omega)
  simp only [List.append_nil] at h
  simp only [readFirst, hall, Bool.false_eq_true, ↓reduceIte, h]

end Fulfillment.Json
