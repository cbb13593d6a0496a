import PageScript.Proofs.Decimal.Shortest
import PageScript.Proofs.Json.Spelling

/-!
# Reading binary64 numbers

The text of a finite number is read as a finite number again. It need not be the same number, since
the reader rounds twice. A text has one of four forms, and each of them is digits with a point, with
an exponent, or with both.

* `Json.readsFinite_textOf` — the text of a decimal;
* `Json.exists_spellsFloat_text` — the text of a number;
* `Json.exists_readsFloatsBy` — one function for what the texts of all numbers are read as.
-/

namespace PageScript.Json

open Decimal

variable {d : Decimal} {ds : List Char} {y : Binary64}

/-- A decimal that is in the range when it is rounded. -/
def IsInRange (significand : ℕ) (e : ℤ) : Prop :=
  ∃ y, Binary64.ofDecimal? significand e = some y ∧ y.isFinite = true

/-- The characters are read as a finite number, behind a sign or not. -/
def ReadsFinite (cs : List Char) : Prop :=
  ∃ y : Binary64, y.isFinite = true ∧
    ∀ positive, ReadsFloat positive cs (if positive then y else y.neg)

/-! ### Parts of the digits of a decimal -/

/-- A short decimal has its digits in a word. -/
theorem digits_le_maxWord (hd : IsShort d) : d.digits ≤ maxWord := by
  have h := hd.digits_lt
  rw [maxWord]
  omega

/-- The first digits of a run that fits in a word fit in one. -/
theorem isLeading_of_append (ds' : List Char) (hne : ds ≠ [])
    (hds : ∀ c ∈ ds, isNumeral c = true) (hhead : ds.head? ≠ some '0')
    (hfits : Nat.ofDigitChars 10 (ds ++ ds') 0 ≤ maxWord) :
    IsLeading ds where
  ne_nil := hne
  isNumeral := hds
  noLeadingZero h := absurd h hhead
  fits := by
    rw [Nat.ofDigitChars_append] at hfits
    exact (le_ofDigitChars ds' _).trans hfits

/-- The digits of a decimal, cut behind the first one or further on. -/
theorem isLeading_take (hd : IsShort d) {k : ℕ} (hk : 0 < k) :
    IsLeading ((Nat.toDigits 10 d.digits).take k) := by
  have hne : Nat.toDigits 10 d.digits ≠ [] := Nat.toDigits_ne_nil
  refine isLeading_of_append ((Nat.toDigits 10 d.digits).drop k) ?_ ?_ ?_ ?_
  · rw [ne_eq, List.take_eq_nil_iff, not_or]
    exact ⟨Nat.ne_of_gt hk, hne⟩
  · exact fun c hc => isNumeral_of_mem_toDigits _ c (List.mem_of_mem_take hc)
  · rw [List.head?_take, if_neg (Nat.ne_of_gt hk)]
    exact head?_toDigits_ne hd.pos
  · rw [List.take_append_drop, Nat.ofDigitChars_ten_toDigits]
    exact digits_le_maxWord hd

/-- The digits of a number are numerals, from whatever place on. -/
theorem isNumeral_of_mem_drop (n k : ℕ) : ∀ c ∈ (Nat.toDigits 10 n).drop k, isNumeral c = true :=
  fun c hc => isNumeral_of_mem_toDigits n c (List.mem_of_mem_drop hc)

/-- Zeros are numerals. -/
theorem isNumeral_of_mem_replicate (k : ℕ) : ∀ c ∈ List.replicate k '0', isNumeral c = true := by
  intro c hc
  rw [List.eq_of_mem_replicate hc]
  rfl

/-- A short decimal has at most eighteen digits. -/
private theorem length_toDigits_le (hd : IsShort d) : (Nat.toDigits 10 d.digits).length ≤ 18 :=
  (Nat.length_toDigits_le_iff (by decide) (by decide)).mpr (hd.digits_lt.trans (by decide))

/-! ### The forms of a text -/

/-- An integer that is written with a point and a zero. -/
theorem readsFinite_integer (hd : IsShort d) {k : ℕ}
    (hlead : (Nat.toDigits 10 d.digits).length + k ≤ 16) :
    ReadsFinite (Nat.toDigits 10 d.digits ++ List.replicate k '0' ++ ['.', '0']) := by
  have hne : Nat.toDigits 10 d.digits ≠ [] := Nat.toDigits_ne_nil
  have hvalue : Nat.ofDigitChars 10 (Nat.toDigits 10 d.digits ++ List.replicate k '0' ++ ['0']) 0 =
      10 * (10 ^ k * d.digits) := by
    rw [Nat.ofDigitChars_append, Nat.ofDigitChars_append, Nat.ofDigitChars_ten_toDigits,
      Nat.ofDigitChars_replicate_zero]
    rfl
  -- There is room for one more zero in a significand.
  have hlt : 10 ^ k * d.digits < 10 ^ 16 := by
    have hdigits : d.digits < 10 ^ (Nat.toDigits 10 d.digits).length :=
      (Nat.length_toDigits_le_iff (by decide) Nat.length_toDigits_pos).mp le_rfl
    calc 10 ^ k * d.digits < 10 ^ k * 10 ^ (Nat.toDigits 10 d.digits).length := by gcongr
      _ = 10 ^ ((Nat.toDigits 10 d.digits).length + k) := by rw [← pow_add, add_comm]
      _ ≤ 10 ^ 16 := Nat.pow_le_pow_right (by decide) hlead
  have hfits : Nat.ofDigitChars 10 (Nat.toDigits 10 d.digits ++ List.replicate k '0' ++ ['0']) 0 ≤
      maxWord := by
    rw [hvalue, maxWord]
    omega
  have hle : 10 * (10 ^ k * d.digits) ≤ 2 ^ 64 := by omega
  obtain ⟨y, hy, hfinite⟩ := Binary64.exists_ofDecimal?_of_nonpos hle (e := -1) (by decide)
  refine ⟨y, hfinite, fun positive => readsFloat_point (isLeading_of_append _ ?_ ?_ ?_ hfits) ?_ ?_
    hfits ?_ positive⟩
  · simp [hne]
  · exact List.forall_mem_append.mpr
      ⟨isNumeral_of_mem_toDigits _, isNumeral_of_mem_replicate k⟩
  · rw [List.head?_append_of_ne_nil _ hne]
    exact head?_toDigits_ne hd.pos
  · simp
  · simp [isNumeral]
  · rw [hvalue]
    exact hy

/-- A point between two digits. -/
theorem readsFinite_mixed (hd : IsShort d) (h : IsInRange d.digits d.exponent) {k : ℕ} (hk : 0 < k)
    (hexp : d.exponent = k - (Nat.toDigits 10 d.digits).length) (hneg : d.exponent < 0) :
    ReadsFinite ((Nat.toDigits 10 d.digits).take k ++ '.' :: (Nat.toDigits 10 d.digits).drop k) := by
  obtain ⟨y, hy, hfinite⟩ := h
  refine ⟨y, hfinite, fun positive => readsFloat_point (isLeading_take hd hk) ?_
    (isNumeral_of_mem_drop _ _) ?_ ?_ positive⟩
  · rw [ne_eq, List.drop_eq_nil_iff]
    omega
  · rw [List.take_append_drop, Nat.ofDigitChars_ten_toDigits]
    exact digits_le_maxWord hd
  · rw [List.take_append_drop, Nat.ofDigitChars_ten_toDigits, List.length_drop, ← hy]
    congr 1
    omega

/-- A fraction below one. -/
theorem readsFinite_fraction (hd : IsShort d) (h : IsInRange d.digits d.exponent) {k : ℕ}
    (hexp : d.exponent = -(k + (Nat.toDigits 10 d.digits).length)) :
    ReadsFinite ('0' :: '.' :: (List.replicate k '0' ++ Nat.toDigits 10 d.digits)) := by
  obtain ⟨y, hy, hfinite⟩ := h
  have hne : Nat.toDigits 10 d.digits ≠ [] := Nat.toDigits_ne_nil
  -- The zeros in front do not change what the digits spell.
  have hvalue : Nat.ofDigitChars 10
      (['0'] ++ (List.replicate k '0' ++ Nat.toDigits 10 d.digits)) 0 = d.digits := by
    rw [Nat.ofDigitChars_append, Nat.ofDigitChars_append]
    have hzero : Nat.ofDigitChars 10 ['0'] 0 = 0 := rfl
    rw [hzero, Nat.ofDigitChars_replicate_zero, Nat.mul_zero, Nat.ofDigitChars_ten_toDigits]
  refine ⟨y, hfinite, fun positive => readsFloat_point (isLeading_toDigits (n := 0) (by decide)) ?_
    ?_ ?_ ?_ positive⟩
  · simp [hne]
  · exact List.forall_mem_append.mpr
      ⟨isNumeral_of_mem_replicate k, isNumeral_of_mem_toDigits _⟩
  · rw [Nat.toDigits_zero, hvalue]
    exact digits_le_maxWord hd
  · rw [Nat.toDigits_zero, hvalue, ← hy]
    congr 1
    simp [hexp]

/-- One digit, or one digit and a fraction, and an exponent. -/
theorem readsFinite_scientific (hd : IsShort d) (h : IsInRange d.digits d.exponent) {n : ℕ}
    (up : Bool)
    (hlead : (if up then (n : ℤ) else -n) = (Nat.toDigits 10 d.digits).length - 1 + d.exponent) :
    ReadsFinite ((Nat.toDigits 10 d.digits).take 1 ++
      ((if (Nat.toDigits 10 d.digits).length ≤ 1 then []
        else '.' :: (Nat.toDigits 10 d.digits).drop 1) ++
      'e' :: (if up then '+' else '-') :: Nat.toDigits 10 n)) := by
  obtain ⟨y, hy, hfinite⟩ := h
  refine ⟨y, hfinite, fun positive => ?_⟩
  have hn : (n : ℤ) ≤ maxExponent := by
    have hlength := length_toDigits_le hd
    have hge := hd.exponent_ge
    have hle := hd.exponent_le
    rw [maxExponent]
    cases up <;> simp only [Bool.false_eq_true, if_false, if_true] at hlead <;> omega
  have hpos : 0 < (Nat.toDigits 10 d.digits).length := Nat.length_toDigits_pos
  -- A single digit has no point behind it.
  by_cases hone : (Nat.toDigits 10 d.digits).length ≤ 1
  · have hdigits : (Nat.toDigits 10 d.digits).take 1 = Nat.toDigits 10 d.digits :=
      List.take_of_length_le hone
    have hleading := isLeading_take hd Nat.one_pos
    rw [hdigits] at hleading
    rw [if_pos hone, List.nil_append, hdigits]
    refine readsFloat_exponent hleading hn up ?_ positive
    rw [Nat.ofDigitChars_ten_toDigits, ← hy]
    congr 1
    cases up <;> simp only [Bool.false_eq_true, if_false, if_true] at hlead ⊢ <;> omega
  · rw [if_neg hone, List.cons_append]
    refine readsFloat_point_exponent (isLeading_take hd Nat.one_pos) ?_ (isNumeral_of_mem_drop _ _)
      ?_ hn up ?_ positive
    · rw [ne_eq, List.drop_eq_nil_iff]
      exact hone
    · rw [List.take_append_drop, Nat.ofDigitChars_ten_toDigits]
      exact digits_le_maxWord hd
    · rw [List.take_append_drop, Nat.ofDigitChars_ten_toDigits, List.length_drop, ← hy]
      congr 1
      cases up <;> simp only [Bool.false_eq_true, if_false, if_true] at hlead ⊢ <;> omega

/-- A short decimal in the range is read as a finite number. -/
theorem readsFinite_textOf (hd : IsShort d) (h : IsInRange d.digits d.exponent) :
    ReadsFinite (textOf d).toList := by
  have hlength : 0 < (Nat.toDigits 10 d.digits).length := Nat.length_toDigits_pos
  have hfrom : positionalFrom = -5 := rfl
  have hbelow : positionalBelow = 16 := rfl
  rw [textOf]
  simp only
  generalize hlead : ((Nat.toDigits 10 d.digits).length : ℤ) - 1 + d.exponent = lead
  -- The place of the leading digit tells the form of the text.
  by_cases hpositional : positionalFrom ≤ lead ∧ lead < positionalBelow
  · rw [if_pos hpositional]
    by_cases hinteger : 0 ≤ d.exponent
    · have hread := readsFinite_integer hd (k := d.exponent.toNat) (by omega)
      simpa [hinteger, String.toList_append] using hread
    · by_cases hmixed : 0 ≤ lead
      · have hread := readsFinite_mixed hd h (k := lead.toNat + 1) (by omega) (by omega) (by omega)
        simpa [hinteger, hmixed, String.toList_append] using hread
      · have hread := readsFinite_fraction hd h (k := (-lead).toNat - 1) (by omega)
        simpa [hinteger, hmixed, String.toList_append] using hread
  · have hread := readsFinite_scientific hd h (n := lead.natAbs) (!decide (lead < 0)) (by
      simp only [Bool.not_eq_true', decide_eq_false_iff_not]
      split_ifs <;> omega)
    have hrepr : (toString lead.natAbs).toList = Nat.toDigits 10 lead.natAbs := Nat.toList_repr
    rw [if_neg hpositional]
    by_cases hone : (Nat.toDigits 10 d.digits).length ≤ 1
    · by_cases hneg : lead < 0
      · simpa [hone, hneg, hrepr, String.toList_append] using hread
      · simpa [hone, hneg, hrepr, String.toList_append] using hread
    · by_cases hneg : lead < 0
      · simpa [hone, hneg, hrepr, String.toList_append] using hread
      · simpa [hone, hneg, hrepr, String.toList_append] using hread

/-- The zero is read as a finite number. -/
private theorem readsFinite_zero : ReadsFinite ['0', '.', '0'] := by
  obtain ⟨y, hy, hfinite⟩ := Binary64.exists_ofDecimal?_of_nonpos (Nat.zero_le (2 ^ 64))
    (e := -1) (by decide)
  exact ⟨y, hfinite, readsFloat_point (isLeading_toDigits (n := 0) (by decide)) (by simp)
    (isNumeral_of_mem_replicate 1) (by decide) hy⟩

/-- The text of a finite number spells a finite number. -/
theorem exists_spellsFloat_text {x : Binary64} (hx : x.isFinite = true) :
    ∃ y : Binary64, y.isFinite = true ∧ SpellsFloat y x.text.toList := by
  have hread : ReadsFinite
      (if x.isZero then "0.0" else textOf (shortest x.significand x.exponent)).toList := by
    cases hzero : x.isZero with
    | true => simpa using readsFinite_zero
    | false =>
      have hpos := x.significand_pos hzero
      exact readsFinite_textOf
        (isShort_shortest hpos x.significand_lt x.exponent_ge (x.exponent_le hx)).1
        (exists_ofDecimal?_shortest hpos x.significand_lt x.exponent_ge (x.exponent_le hx))
  obtain ⟨y, hy, hread⟩ := hread
  rw [Binary64.text]
  -- The sign is put in front of the text of the magnitude.
  cases hsign : x.isNegative with
  | true =>
    refine ⟨y.neg, by rwa [Binary64.isFinite_neg], ?_⟩
    simpa [hx, String.toList_append] using SpellsFloat.signed (hread false)
  | false =>
    refine ⟨y, hy, ?_⟩
    simpa [hx, String.toList_append] using SpellsFloat.unsigned (hread true)

/-- One function gives what the texts of the floating-point numbers of any value are read as, if all
of them are finite, and what they are read as is finite. -/
theorem exists_readsFloatsBy :
    ∃ f, KeepsFinite f ∧ ∀ j : Json, j.HasFiniteFloats → ReadsFloatsBy f j := by
  have hread : ∀ x : Binary64, ∃ y : Binary64,
      x.isFinite = true → y.isFinite = true ∧ SpellsFloat y x.text.toList := by
    intro x
    by_cases hx : x.isFinite = true
    · obtain ⟨y, hy⟩ := exists_spellsFloat_text hx
      exact ⟨y, fun _ => hy⟩
    · exact ⟨x, fun h => absurd h hx⟩
  choose f hf using hread
  exact ⟨f, fun x hx => (hf x hx).1, fun j hj x hx => (hf x (hj x hx)).2⟩

end PageScript.Json
