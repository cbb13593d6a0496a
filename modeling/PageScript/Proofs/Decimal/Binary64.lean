import Mathlib.Algebra.Order.Field.Power
import Mathlib.Data.Rat.Cast.Order
import Mathlib.Tactic.FieldSimp
import Mathlib.Tactic.Linarith
import Mathlib.Tactic.Positivity
import Mathlib.Tactic.NormNum
import Mathlib.Tactic.Ring
import PageScript.Decimal.Binary64

/-!
# Rounding to binary64

The exact value of a rounded ratio is as near to the ratio as the spacing of the numbers allows, and
it is finite as long as the ratio lies below the midpoint of the largest number and the next power
of two. A decimal is rounded to binary64 in two steps, which leads to a finite number if there is
room for both errors.

* `Binary64.magnitude_ofRatio` and `Binary64.isFinite_ofRatio` — a rounded ratio;
* `Binary64.magnitude_ofRatio_le`, `Binary64.le_magnitude_ofRatio` — rounding does not lead over a
  power of two;
* `Binary64.magnitude_ofRatio_le_mul` — the relative error;
* `Binary64.exists_ofDecimal?_of_nonpos`, `Binary64.exists_ofDecimal?_of_nonneg` — decimals that are
  in the range.
-/

namespace PageScript

/-! ### Rounding to natural numbers -/

variable {num den k : ℕ}

/-- Rounding goes down by at most a half, or up by at most a half. -/
theorem roundHalfEven_cases (num den : ℕ) :
    roundHalfEven num den = num / den ∧ 2 * (num % den) ≤ den ∨
      roundHalfEven num den = num / den + 1 ∧ den ≤ 2 * (num % den) := by
  simp only [roundHalfEven]
  rcases Nat.mod_two_eq_zero_or_one (num / den) with h | h <;> rw [h] <;> split_ifs <;> omega

/-- Rounding goes up by at most a half. -/
private theorem two_mul_roundHalfEven_mul_le (num den : ℕ) :
    2 * (roundHalfEven num den * den) ≤ 2 * num + den := by
  have hnum := Nat.div_add_mod' num den
  rcases roundHalfEven_cases num den with ⟨h, hrest⟩ | ⟨h, hrest⟩
  · rw [h]
    omega
  · rw [h, Nat.add_mul]
    omega

/-- Rounding does not go beyond a whole number above. -/
theorem roundHalfEven_le (hden : 0 < den) (h : num ≤ k * den) : roundHalfEven num den ≤ k := by
  have hnum := Nat.div_add_mod' num den
  have hle : num / den ≤ k := Nat.div_le_of_le_mul (by rwa [Nat.mul_comm])
  rcases roundHalfEven_cases num den with ⟨hround, hrest⟩ | ⟨hround, hrest⟩
  · rwa [hround]
  · rcases Nat.lt_or_eq_of_le hle with hlt | heq
    · rwa [hround]
    · rw [heq] at hnum
      omega

/-- Rounding does not go beyond a whole number below. -/
theorem le_roundHalfEven (hden : 0 < den) (h : k * den ≤ num) : k ≤ roundHalfEven num den := by
  have hle : k ≤ num / den := (Nat.le_div_iff_mul_le hden).mpr h
  rcases roundHalfEven_cases num den with ⟨hround, -⟩ | ⟨hround, -⟩ <;> omega

namespace Binary64

/-! ### The value of a number -/

/-- The magnitude of a finite number. -/
def magnitude (x : Binary64) : ℚ :=
  x.significand * 2 ^ x.exponent

/-- The ratio of a number has a positive denominator. -/
theorem ratio_snd_pos (x : Binary64) : 0 < x.ratio.2 := by
  rw [ratio]
  split_ifs
  · exact Nat.one_pos
  · exact Nat.pow_pos Nat.two_pos

/-- The ratio of a number is its magnitude. -/
theorem ratio_div_eq (x : Binary64) : (x.ratio.1 : ℚ) / x.ratio.2 = x.magnitude := by
  rw [ratio, magnitude]
  split_ifs with h
  · obtain ⟨n, hn⟩ := Int.eq_ofNat_of_zero_le h
    simp [hn]
  · obtain ⟨n, hn⟩ := Int.eq_ofNat_of_zero_le (show 0 ≤ -x.exponent by omega)
    rw [show x.exponent = -n by omega]
    simp [div_eq_mul_inv]

/-- A scaled ratio has a positive denominator. -/
theorem scaled_snd_pos (hden : 0 < den) (q : ℤ) : 0 < (scaled num den q).2 := by
  rw [scaled]
  split_ifs
  · exact Nat.mul_pos hden (Nat.pow_pos Nat.two_pos)
  · exact hden

/-- A ratio is scaled by a power of two. -/
theorem scaled_div_eq (num den : ℕ) (q : ℤ) :
    ((scaled num den q).1 : ℚ) / (scaled num den q).2 = num / den / 2 ^ q := by
  rw [scaled]
  split_ifs with h
  · obtain ⟨n, rfl⟩ := Int.eq_ofNat_of_zero_le h
    simp [div_div]
  · obtain ⟨n, hn⟩ := Int.eq_ofNat_of_zero_le (show 0 ≤ -q by omega)
    rw [show q = -n by omega]
    simp [div_eq_mul_inv, mul_right_comm]

/-- A whole number is below a scaled ratio just if its multiple is below the ratio. -/
theorem mul_scaled_snd_le_iff (hden : 0 < den) {q : ℤ} :
    k * (scaled num den q).2 ≤ (scaled num den q).1 ↔ (k : ℚ) * 2 ^ q ≤ num / den := by
  have hpos : (0 : ℚ) < (scaled num den q).2 := by exact_mod_cast scaled_snd_pos hden q
  rw [← le_div_iff₀ (by positivity), ← scaled_div_eq, le_div_iff₀ hpos]
  norm_cast

/-- A scaled ratio is below a whole number just if the ratio is below its multiple. -/
theorem scaled_fst_le_mul_iff (hden : 0 < den) {q : ℤ} :
    (scaled num den q).1 ≤ k * (scaled num den q).2 ↔ (num : ℚ) / den ≤ k * 2 ^ q := by
  have hpos : (0 : ℚ) < (scaled num den q).2 := by exact_mod_cast scaled_snd_pos hden q
  rw [← div_le_iff₀ (by positivity), ← scaled_div_eq, div_le_iff₀ hpos]
  norm_cast

/-! ### The fields of a number -/

variable {negative : Bool} {bits : ℕ}

/-- The bits of a number that is put together from its sign and the rest. -/
theorem toNat_ofParts (h : bits < 2 ^ 63) :
    (ofParts negative bits).bits.toNat = bits + if negative then 2 ^ 63 else 0 := by
  have hlt : bits + (if negative then 2 ^ 63 else 0) < 2 ^ 64 := by
    split_ifs <;> omega
  rw [ofParts, UInt64.toNat_ofNat']
  exact Nat.mod_eq_of_lt hlt

/-- The exponent bits of a number that is put together. -/
theorem exponentBits_ofParts (h : bits < 2 ^ 63) :
    (ofParts negative bits).exponentBits = bits / 2 ^ 52 := by
  rw [exponentBits, toNat_ofParts h]
  change (_ / 2 ^ 52) % 2 ^ 11 = _
  split_ifs <;> omega

/-- The fraction bits of a number that is put together. -/
theorem fractionBits_ofParts (h : bits < 2 ^ 63) :
    (ofParts negative bits).fractionBits = bits % 2 ^ 52 := by
  rw [fractionBits, toNat_ofParts h]
  change _ % 2 ^ 52 = _
  split_ifs <;> omega

/-- Infinity has all exponent bits set and no fraction. -/
theorem infinityBits_eq : infinityBits = 2047 * 2 ^ 52 :=
  rfl

/-- A number whose bits are below those of infinity is finite. -/
theorem isFinite_ofParts (h : bits < infinityBits) : (ofParts negative bits).isFinite = true := by
  rw [infinityBits_eq] at h
  simp only [isFinite, exponentBits_ofParts (show bits < 2 ^ 63 by omega), ne_eq, decide_eq_true_eq]
  omega

/-- The sign does not change the exponent bits. -/
theorem exponentBits_neg (x : Binary64) : x.neg.exponentBits = x.exponentBits := by
  have hlt : x.bits.toNat % 2 ^ 63 < 2 ^ 63 := Nat.mod_lt _ (Nat.pow_pos Nat.two_pos)
  refine (exponentBits_ofParts hlt).trans ?_
  change x.bits.toNat % 2 ^ 63 / 2 ^ 52 = x.bits.toNat / 2 ^ 52 % 2 ^ 11
  omega

/-- The sign does not change whether a number is finite. -/
theorem isFinite_neg (x : Binary64) : x.neg.isFinite = x.isFinite := by
  rw [isFinite, isFinite, exponentBits_neg]

/-- Zero is finite. -/
theorem isFinite_of_isZero {x : Binary64} (h : x.isZero = true) : x.isFinite = true := by
  have hzero : x.bits.toNat % 2 ^ 63 = 0 := of_decide_eq_true h
  refine decide_eq_true ?_
  change x.bits.toNat / 2 ^ 52 % 2 ^ 11 ≠ 2047
  omega

/-- A significand on top of an exponent stands for their product. A significand that has been
rounded up to the next power of two carries over into the exponent. -/
theorem magnitude_ofParts {e m : ℕ} (hnormal : e = 0 ∨ 2 ^ 52 ≤ m) (hm : m ≤ 2 ^ 53)
    (hbits : e * 2 ^ 52 + m < infinityBits) :
    (ofParts negative (e * 2 ^ 52 + m)).magnitude = m * 2 ^ ((e : ℤ) - 1074) := by
  rw [infinityBits_eq] at hbits
  have hlt : e * 2 ^ 52 + m < 2 ^ 63 := by omega
  rw [magnitude, significand, exponent, exponentBits_ofParts hlt, fractionBits_ofParts hlt]
  -- The number is subnormal, normal, or rounded up to the next power of two. That one has no
  -- fraction, and its exponent is one more.
  rcases Nat.lt_or_eq_of_le hm with hm | rfl
  · rcases Nat.lt_or_ge m (2 ^ 52) with hsub | hnorm
    · obtain rfl : e = 0 := by omega
      have hexp : (0 * 2 ^ 52 + m) / 2 ^ 52 = 0 := by omega
      have hfrac : (0 * 2 ^ 52 + m) % 2 ^ 52 = m := by omega
      rw [hexp, hfrac]
      norm_num
    · have hexp : (e * 2 ^ 52 + m) / 2 ^ 52 = e + 1 := by omega
      have hfrac : (e * 2 ^ 52 + m) % 2 ^ 52 + Nat.pow 2 52 = m := by
        change _ + 2 ^ 52 = _
        omega
      rw [hexp, if_neg (by omega), hfrac]
      congr 2
      omega
  · have hexp : (e * 2 ^ 52 + 2 ^ 53) / 2 ^ 52 = e + 2 := by omega
    have hfrac : (e * 2 ^ 52 + 2 ^ 53) % 2 ^ 52 = 0 := by omega
    have hpower : ((max (e + 2) 1 : ℕ) : ℤ) - 1075 = ((e : ℤ) - 1074) + 1 := by omega
    rw [hexp, hfrac, if_neg (by omega), hpower, zpow_add_one₀ two_ne_zero]
    push_cast [Nat.pow_eq]
    ring

/-! ### The exponent of a ratio -/

/-- But for the least exponent, a positive ratio gets the one with which its significand has
fifty-three bits. -/
theorem exists_exponentFor_eq (hnum : 0 < num) (hden : 0 < den) :
    ∃ e : ℤ, exponentFor num den = max (-1074) e ∧ 2 ^ 52 * 2 ^ e ≤ (num : ℚ) / den ∧
      (num : ℚ) / den < 2 ^ 53 * 2 ^ e := by
  have hden' : (0 : ℚ) < den := by exact_mod_cast hden
  have hlow : (2 : ℚ) ^ num.log2 ≤ num := by exact_mod_cast Nat.log2_self_le hnum.ne'
  have hhigh : (num : ℚ) < 2 ^ (num.log2 + 1) := by exact_mod_cast Nat.lt_log2_self
  have hlow' : (2 : ℚ) ^ den.log2 ≤ den := by exact_mod_cast Nat.log2_self_le hden.ne'
  have hhigh' : (den : ℚ) ≤ 2 ^ (den.log2 + 1) := by exact_mod_cast Nat.lt_log2_self.le
  rw [exponentFor]
  -- The logarithms of the two parts leave two exponents, and the test decides between them.
  generalize hleast : (num.log2 : ℤ) - den.log2 - 53 = least
  have hupper : (num : ℚ) / den < 2 ^ 53 * 2 ^ (least + 1) := by
    have hpower : (2 : ℚ) ^ (num.log2 + 1) = 2 ^ 53 * 2 ^ (least + 1) * 2 ^ den.log2 := by
      rw [← zpow_natCast, ← zpow_natCast 2 53, ← zpow_natCast 2 den.log2,
        ← zpow_add₀ two_ne_zero, ← zpow_add₀ two_ne_zero]
      congr 1
      omega
    rw [div_lt_iff₀ hden']
    calc (num : ℚ) < 2 ^ (num.log2 + 1) := hhigh
      _ = 2 ^ 53 * 2 ^ (least + 1) * 2 ^ den.log2 := hpower
      _ ≤ 2 ^ 53 * 2 ^ (least + 1) * den := by gcongr
  have hlower : 2 ^ 52 * 2 ^ least ≤ (num : ℚ) / den := by
    have hpower : (2 : ℚ) ^ num.log2 = 2 ^ 52 * 2 ^ least * 2 ^ (den.log2 + 1) := by
      rw [← zpow_natCast, ← zpow_natCast 2 52, ← zpow_natCast 2 (den.log2 + 1),
        ← zpow_add₀ two_ne_zero, ← zpow_add₀ two_ne_zero]
      congr 1
      omega
    rw [le_div_iff₀ hden']
    calc 2 ^ 52 * 2 ^ least * (den : ℚ) ≤ 2 ^ 52 * 2 ^ least * 2 ^ (den.log2 + 1) := by gcongr
      _ = 2 ^ num.log2 := hpower.symm
      _ ≤ num := hlow
  have htest : Nat.pow 2 53 * (scaled num den least).2 ≤ (scaled num den least).1 ↔
      2 ^ 53 * 2 ^ least ≤ (num : ℚ) / den := by
    rw [mul_scaled_snd_le_iff hden]
    norm_cast
  by_cases h : Nat.pow 2 53 * (scaled num den least).2 ≤ (scaled num den least).1
  · refine ⟨least + 1, by simp [h], ?_, hupper⟩
    calc (2 : ℚ) ^ 52 * 2 ^ (least + 1) = 2 ^ 53 * 2 ^ least := by
          rw [zpow_add_one₀ two_ne_zero]
          ring
      _ ≤ (num : ℚ) / den := htest.mp h
  · exact ⟨least, by simp [h], hlower, not_le.mp (mt htest.mpr h)⟩

/-- The exponent is not below that of the smallest numbers. -/
private theorem exponentFor_ge (num den : ℕ) : -1074 ≤ exponentFor num den :=
  le_max_left _ _

/-- With its exponent a ratio has at most fifty-three bits before the point. -/
private theorem div_lt_of_exponentFor (hnum : 0 < num) (hden : 0 < den) :
    (num : ℚ) / den < 2 ^ 53 * 2 ^ exponentFor num den := by
  obtain ⟨e, he, -, hupper⟩ := exists_exponentFor_eq hnum hden
  refine hupper.trans_le ?_
  rw [he]
  gcongr
  · norm_num
  · exact le_max_right _ _

/-- With its exponent a ratio has fifty-three bits before the point, unless it is one of the
smallest. -/
theorem exponentFor_eq_or_le_div (hnum : 0 < num) (hden : 0 < den) :
    exponentFor num den = -1074 ∨ 2 ^ 52 * 2 ^ exponentFor num den ≤ (num : ℚ) / den := by
  obtain ⟨e, he, hlower, -⟩ := exists_exponentFor_eq hnum hden
  rcases max_choice (-1074) e with h | h
  · exact .inl (he.trans h)
  · rw [he, h]
    exact .inr hlower

/-! ### The significand of a ratio -/

/-- What a ratio is rounded to, in units of the power of two that its exponent gives. -/
def significandFor (num den : ℕ) : ℕ :=
  roundHalfEven (scaled num den (exponentFor num den)).1 (scaled num den (exponentFor num den)).2

/-- Rounding adds at most half a unit in the last place. -/
theorem significandFor_mul_le (num : ℕ) (hden : 0 < den) :
    (significandFor num den : ℚ) * 2 ^ exponentFor num den ≤
      num / den + 2 ^ exponentFor num den / 2 := by
  rw [significandFor]
  generalize exponentFor num den = q
  have hpos : (0 : ℚ) < (scaled num den q).2 := by exact_mod_cast scaled_snd_pos hden q
  have hround : (2 : ℚ) * (roundHalfEven (scaled num den q).1 (scaled num den q).2 *
      (scaled num den q).2) ≤ 2 * (scaled num den q).1 + (scaled num den q).2 := by
    exact_mod_cast two_mul_roundHalfEven_mul_le _ _
  have hdiv : (roundHalfEven (scaled num den q).1 (scaled num den q).2 : ℚ) ≤
      num / den / 2 ^ q + 1 / 2 := by
    rw [← scaled_div_eq, div_add_div _ _ hpos.ne' two_ne_zero, le_div_iff₀ (by positivity)]
    linarith
  calc _ ≤ ((num : ℚ) / den / 2 ^ q + 1 / 2) * 2 ^ q := by gcongr
    _ = num / den + 2 ^ q / 2 := by
      field_simp

/-- A ratio below a multiple of the unit is not rounded beyond it. -/
theorem significandFor_le (hden : 0 < den) (h : (num : ℚ) / den ≤ k * 2 ^ exponentFor num den) :
    significandFor num den ≤ k :=
  roundHalfEven_le (scaled_snd_pos hden _) ((scaled_fst_le_mul_iff hden).mpr h)

/-- A ratio above a multiple of the unit is not rounded beyond it. -/
theorem le_significandFor (hden : 0 < den) (h : k * 2 ^ exponentFor num den ≤ (num : ℚ) / den) :
    k ≤ significandFor num den :=
  le_roundHalfEven (scaled_snd_pos hden _) ((mul_scaled_snd_le_iff hden).mpr h)

/-- A significand has at most fifty-three bits, or is the next power of two. -/
theorem significandFor_le_two_pow (hnum : 0 < num) (hden : 0 < den) :
    significandFor num den ≤ 2 ^ 53 :=
  significandFor_le hden (by exact_mod_cast (div_lt_of_exponentFor hnum hden).le)

/-- A significand has fifty-three bits, unless the number is one of the smallest. -/
theorem exponentFor_eq_or_le_significandFor (hnum : 0 < num) (hden : 0 < den) :
    exponentFor num den = -1074 ∨ 2 ^ 52 ≤ significandFor num den :=
  (exponentFor_eq_or_le_div hnum hden).imp_right fun h =>
    le_significandFor hden (by exact_mod_cast h)

/-! ### Rounded ratios -/

/-- The midpoint of the largest finite number and the next power of two. -/
def overflow : ℚ :=
  (2 ^ 53 - 1 / 2) * 2 ^ (971 : ℤ)

/-- A ratio that does not overflow has an exponent in the range. -/
private theorem exponentFor_le_of_lt_overflow (hnum : 0 < num) (hden : 0 < den)
    (h : (num : ℚ) / den < overflow) : exponentFor num den ≤ 971 := by
  by_contra hlt
  have hle : (2 : ℚ) ^ 52 * 2 ^ exponentFor num den ≤ num / den :=
    (exponentFor_eq_or_le_div hnum hden).resolve_left (by omega)
  have hpower : (2 : ℚ) ^ (971 + 1 : ℤ) ≤ 2 ^ exponentFor num den :=
    zpow_le_zpow_right₀ one_le_two (by omega)
  have hpos : (0 : ℚ) < 2 ^ (971 : ℤ) := by positivity
  rw [zpow_add_one₀ two_ne_zero] at hpower
  rw [overflow] at h
  -- What is left is linear in the unit of the largest numbers.
  generalize (2 : ℚ) ^ (971 : ℤ) = unit at *
  linarith

/-- The bits of a ratio that does not overflow are below those of infinity. -/
theorem ofRatio_bits_lt (hnum : 0 < num) (hden : 0 < den) (h : (num : ℚ) / den < overflow) :
    (exponentFor num den + 1074).toNat * 2 ^ 52 + significandFor num den < infinityBits := by
  rw [infinityBits_eq]
  have hle := exponentFor_le_of_lt_overflow hnum hden h
  have hm := significandFor_le_two_pow hnum hden
  rcases hle.lt_or_eq with hlt | heq
  · omega
  -- With the largest exponent the ratio is too small to be rounded up to the next power of two.
  · have hlt : (significandFor num den : ℚ) * 2 ^ (971 : ℤ) < 2 ^ 53 * 2 ^ (971 : ℤ) := by
      have hmul := significandFor_mul_le num hden
      rw [heq] at hmul
      rw [overflow] at h
      linarith
    have : significandFor num den < 2 ^ 53 := by
      exact_mod_cast lt_of_mul_lt_mul_right hlt (by positivity)
    omega

/-- A ratio that does not overflow has an exponent and a significand. -/
theorem ofRatio_eq (negative : Bool) (hnum : 0 < num) (hden : 0 < den)
    (h : (num : ℚ) / den < overflow) :
    ofRatio negative num den = ofParts negative
      ((exponentFor num den + 1074).toNat * 2 ^ 52 + significandFor num den) := by
  rw [ofRatio, if_neg hnum.ne']
  simp only
  rw [min_eq_right]
  · rfl
  · exact (ofRatio_bits_lt hnum hden h).le

/-- A ratio below the bound is rounded to a finite number. -/
theorem isFinite_ofRatio (negative : Bool) (hden : 0 < den) (h : (num : ℚ) / den < overflow) :
    (ofRatio negative num den).isFinite = true := by
  rcases Nat.eq_zero_or_pos num with rfl | hnum
  · rw [ofRatio, if_pos rfl]
    exact isFinite_ofParts (by decide)
  · rw [ofRatio_eq negative hnum hden h]
    exact isFinite_ofParts (ofRatio_bits_lt hnum hden h)

/-- The magnitude of a ratio that does not overflow is its significand times a power of two. -/
theorem magnitude_ofRatio (negative : Bool) (hnum : 0 < num) (hden : 0 < den)
    (h : (num : ℚ) / den < overflow) :
    (ofRatio negative num den).magnitude =
      significandFor num den * 2 ^ exponentFor num den := by
  have hexp : ((exponentFor num den + 1074).toNat : ℤ) - 1074 = exponentFor num den := by
    have := exponentFor_ge num den
    omega
  rw [ofRatio_eq negative hnum hden h, magnitude_ofParts _ (significandFor_le_two_pow hnum hden)
    (ofRatio_bits_lt hnum hden h), hexp]
  have := exponentFor_eq_or_le_significandFor hnum hden
  omega

variable (negative : Bool)

/-- A ratio of zero is rounded to zero. -/
theorem magnitude_ofRatio_zero (den : ℕ) : (ofRatio negative 0 den).magnitude = 0 := by
  have hbits : 0 < infinityBits := by decide
  rw [ofRatio, if_pos rfl]
  have hzero : (ofParts negative (0 * 2 ^ 52 + 0)).magnitude = _ :=
    magnitude_ofParts (.inl rfl) (Nat.zero_le _) hbits
  simpa using hzero

/-- A power of two is a multiple of any smaller one. -/
theorem exists_two_zpow_eq {q e : ℤ} (h : q ≤ e) : ∃ k : ℕ, (2 : ℚ) ^ e = k * 2 ^ q := by
  obtain ⟨k, hk⟩ := Int.eq_ofNat_of_zero_le (sub_nonneg.mpr h)
  refine ⟨2 ^ k, ?_⟩
  rw [Nat.cast_pow, Nat.cast_ofNat, ← zpow_natCast, ← hk, ← zpow_add₀ two_ne_zero, sub_add_cancel]

/-- Rounding does not lead over a power of two from below. -/
theorem magnitude_ofRatio_le (hden : 0 < den) {e : ℤ} (hleast : -1074 ≤ e)
    (hover : (num : ℚ) / den < overflow) (h : (num : ℚ) / den ≤ 2 ^ e) :
    (ofRatio negative num den).magnitude ≤ 2 ^ e := by
  rcases Nat.eq_zero_or_pos num with rfl | hnum
  · rw [magnitude_ofRatio_zero]
    positivity
  rw [magnitude_ofRatio negative hnum hden hover]
  have hpos : (0 : ℚ) < 2 ^ exponentFor num den := by positivity
  have hle : exponentFor num den ≤ e := by
    rcases exponentFor_eq_or_le_div hnum hden with heq | hlow
    · omega
    · refine (zpow_le_zpow_iff_right₀ (one_lt_two (α := ℚ))).mp ?_
      linarith
  obtain ⟨k, hpower⟩ := exists_two_zpow_eq hle
  rw [hpower] at h ⊢
  gcongr
  exact significandFor_le hden h

/-- Nor from above. -/
theorem le_magnitude_ofRatio (hnum : 0 < num) (hden : 0 < den) {e : ℤ} (hleast : -1074 ≤ e)
    (hover : (num : ℚ) / den < overflow) (h : 2 ^ e ≤ (num : ℚ) / den) :
    2 ^ e ≤ (ofRatio negative num den).magnitude := by
  rw [magnitude_ofRatio negative hnum hden hover]
  rcases le_or_gt (exponentFor num den) e with hle | hlt
  · obtain ⟨k, hpower⟩ := exists_two_zpow_eq hle
    rw [hpower] at h ⊢
    gcongr
    exact le_significandFor hden h
  -- If the unit is larger than the power, the significand has fifty-three bits.
  · have hm : 2 ^ 52 ≤ significandFor num den :=
      (exponentFor_eq_or_le_significandFor hnum hden).resolve_left (by omega)
    have hm' : (1 : ℚ) ≤ significandFor num den := by exact_mod_cast le_trans (by norm_num) hm
    calc (2 : ℚ) ^ e ≤ 1 * 2 ^ exponentFor num den := by
          rw [one_mul]
          exact zpow_le_zpow_right₀ one_le_two hlt.le
      _ ≤ significandFor num den * 2 ^ exponentFor num den := by gcongr

/-- The relative error of rounding is at most half of the distance between a power of two and the
next number, unless the ratio is too small for fifty-three bits. -/
theorem magnitude_ofRatio_le_mul (hnum : 0 < num) (hden : 0 < den)
    (hover : (num : ℚ) / den < overflow) (h : 2 ^ (-1022 : ℤ) ≤ (num : ℚ) / den) :
    (ofRatio negative num den).magnitude ≤ num / den * (1 + 1 / 2 ^ 53) := by
  have hlow : (2 : ℚ) ^ 52 * 2 ^ exponentFor num den ≤ num / den := by
    rcases exponentFor_eq_or_le_div hnum hden with heq | hlow
    · rw [heq]
      refine le_trans (le_of_eq ?_) h
      rw [← zpow_natCast, ← zpow_add₀ two_ne_zero]
      norm_num
    · exact hlow
  rw [magnitude_ofRatio negative hnum hden hover]
  have hmul := significandFor_mul_le num hden
  linarith

/-- The largest power of two in the range does not overflow. -/
theorem two_zpow_le_overflow : (2 : ℚ) ^ (1023 : ℤ) ≤ overflow := by
  rw [overflow, show (1023 : ℤ) = 52 + 971 from rfl, zpow_add₀ two_ne_zero]
  gcongr
  norm_num

/-- A power of two in the range does not overflow. -/
theorem two_zpow_lt_overflow {e : ℤ} (h : e < 1023) : (2 : ℚ) ^ e < overflow :=
  (zpow_lt_zpow_right₀ one_lt_two h).trans_le two_zpow_le_overflow

/-- The next power of two overflows. -/
theorem overflow_le_two_zpow : overflow ≤ (2 : ℚ) ^ (1024 : ℤ) := by
  rw [overflow, show (1024 : ℤ) = 53 + 971 from rfl, zpow_add₀ two_ne_zero]
  gcongr
  norm_num

/-! ### Products and quotients -/

variable {x y : Binary64}

/-- A magnitude is not negative. -/
theorem magnitude_nonneg (x : Binary64) : 0 ≤ x.magnitude := by
  rw [magnitude]
  positivity

/-- A number that is not zero has a ratio that is not zero. -/
theorem ratio_fst_pos (h : 0 < x.magnitude) : 0 < x.ratio.1 := by
  refine Nat.pos_of_ne_zero fun hzero => ?_
  rw [← ratio_div_eq, hzero, Nat.cast_zero, zero_div] at h
  exact lt_irrefl _ h

/-- A product that does not overflow is finite. -/
theorem isFinite_mul (h : x.magnitude * y.magnitude < overflow) : (x.mul y).isFinite = true := by
  refine isFinite_ofRatio _ (Nat.mul_pos x.ratio_snd_pos y.ratio_snd_pos) ?_
  rwa [Nat.cast_mul, Nat.cast_mul, mul_div_mul_comm, ratio_div_eq, ratio_div_eq]

/-- The ratio of a quotient is the quotient of the magnitudes. -/
theorem div_ratio_eq (x y : Binary64) :
    ((x.ratio.1 * y.ratio.2 : ℕ) : ℚ) / (x.ratio.2 * y.ratio.1 : ℕ) =
      x.magnitude / y.magnitude := by
  rw [← ratio_div_eq, ← ratio_div_eq, div_div_div_eq, Nat.cast_mul, Nat.cast_mul]

/-- A quotient that does not overflow is finite. -/
theorem isFinite_div (hy : 0 < y.magnitude) (h : x.magnitude / y.magnitude < overflow) :
    (x.div y).isFinite = true :=
  isFinite_ofRatio _ (Nat.mul_pos x.ratio_snd_pos (ratio_fst_pos hy)) (by rwa [div_ratio_eq])

/-- A quotient below a power of two is not rounded beyond it. -/
theorem magnitude_div_le (hy : 0 < y.magnitude) {e : ℤ} (hleast : -1074 ≤ e) (hgreatest : e < 1023)
    (h : x.magnitude / y.magnitude ≤ 2 ^ e) : (x.div y).magnitude ≤ 2 ^ e := by
  refine magnitude_ofRatio_le _ (Nat.mul_pos x.ratio_snd_pos (ratio_fst_pos hy)) hleast ?_ ?_
  · rw [div_ratio_eq]
    exact h.trans_lt (two_zpow_lt_overflow hgreatest)
  · rwa [div_ratio_eq]

/-! ### Powers of ten -/

/-- A whole number up to the largest number does not overflow. -/
private theorem natCast_lt_overflow {n : ℕ} (h : n ≤ (2 ^ 53 - 1) * 2 ^ 971) :
    (n : ℚ) < overflow := by
  have hle : (n : ℚ) ≤ ((2 ^ 53 - 1 : ℕ) : ℚ) * (2 : ℚ) ^ (971 : ℤ) := by
    have hcast : (n : ℚ) ≤ ((2 ^ 53 - 1) * 2 ^ 971 : ℕ) := by exact_mod_cast h
    rwa [Nat.cast_mul, Nat.cast_pow, Nat.cast_ofNat, ← zpow_natCast] at hcast
  refine hle.trans_lt ?_
  rw [overflow]
  gcongr
  norm_num

/-- The range ends between two powers of ten. -/
theorem overflow_near_powers_of_ten :
    10 ^ 308 ≤ (2 ^ 53 - 1) * 2 ^ 971 ∧ 2 ^ 1024 ≤ 10 ^ 309 := by
  decide +kernel

/-- A power of ten with at most three hundred and eight zeros does not overflow. -/
theorem ten_pow_lt_overflow {n : ℕ} (h : n ≤ 308) : (10 : ℚ) ^ n < overflow := by
  have hten := overflow_near_powers_of_ten.1
  exact_mod_cast natCast_lt_overflow ((pow_le_pow_right₀ (by decide : 1 ≤ 10) h).trans hten)

/-- A power of ten with more zeros overflows. -/
private theorem overflow_le_ten_pow {n : ℕ} (h : 309 ≤ n) : overflow ≤ (10 : ℚ) ^ n := by
  have htwo := overflow_near_powers_of_ten.2
  have hle : 2 ^ 1024 ≤ 10 ^ n := htwo.trans (pow_le_pow_right₀ (by decide : 1 ≤ 10) h)
  refine overflow_le_two_zpow.trans ?_
  exact_mod_cast hle

/-- A power of ten that is rounded is at least one. -/
theorem one_le_magnitude_powerOfTen {n : ℕ} (h : n ≤ 308) : 1 ≤ (powerOfTen n).magnitude := by
  have hover := ten_pow_lt_overflow h
  have hone : (1 : ℚ) ≤ 10 ^ n := one_le_pow₀ (by norm_num)
  have hpos : 0 < Nat.pow 10 n := Nat.pow_pos (by decide)
  have hle := le_magnitude_ofRatio false hpos Nat.one_pos (e := 0) (by decide)
  simp only [Nat.pow_eq, Nat.cast_pow, Nat.cast_ofNat, Nat.cast_one, div_one, zpow_zero] at hle
  exact hle hover hone

/-- A power of ten is rounded up by at most half a unit. -/
theorem magnitude_powerOfTen_le {n : ℕ} (h : n ≤ 308) :
    (powerOfTen n).magnitude ≤ 10 ^ n * (1 + 1 / 2 ^ 53) := by
  have hover := ten_pow_lt_overflow h
  have hone : (1 : ℚ) ≤ 10 ^ n := one_le_pow₀ (by norm_num)
  have hleast : (2 : ℚ) ^ (-1022 : ℤ) ≤ 1 := zpow_le_one_of_nonpos₀ one_le_two (by decide)
  have hpos : 0 < Nat.pow 10 n := Nat.pow_pos (by decide)
  have hle := magnitude_ofRatio_le_mul false hpos Nat.one_pos
  simp only [Nat.pow_eq, Nat.cast_pow, Nat.cast_ofNat, Nat.cast_one, div_one] at hle
  exact hle hover (hleast.trans hone)

/-! ### Decimals -/

/-- From the smallest power of ten in the table on there is no descent. -/
theorem descend_of_le {e : ℤ} (h : -308 ≤ e) : descend x e = (x, e) := by
  rw [descend, if_neg (by omega)]

/-- Descending makes a number no larger than a power of two that bounds it. -/
theorem descend_spec {b : ℤ} (hleast : -1074 ≤ b) (hgreatest : b < 1023) {e : ℤ} (he : e ≤ 0)
    (h : x.magnitude ≤ 2 ^ b) :
    (descend x e).1.magnitude ≤ 2 ^ b ∧ -308 ≤ (descend x e).2 ∧ (descend x e).2 ≤ 0 := by
  fun_induction descend x e with
  | case1 x e hlt hzero => exact ⟨h, (by decide : (-308 : ℤ) ≤ 0), le_refl _⟩
  | case2 x e hlt hzero ih =>
    have hone := one_le_magnitude_powerOfTen (n := 308) le_rfl
    refine ih (by omega) (magnitude_div_le (zero_lt_one.trans_le hone) hleast hgreatest ?_)
    exact (div_le_self x.magnitude_nonneg hone).trans h
  | case3 x e hge => exact ⟨h, by omega, he⟩

variable {significand : ℕ} {e : ℤ}

/-- What the two roundings of a decimal come to, once its exponent has been brought into range. -/
theorem ofDecimal?_eq {e' : ℤ} (he : e ≤ 308)
    (h : descend (ofRatio false significand 1) e = (x, e'))
    (hfinite : (if 0 ≤ e' then x.mul (powerOfTen e'.toNat)
      else x.div (powerOfTen (-e').toNat)).isFinite = true) :
    ∃ y, ofDecimal? significand e = some y ∧ y.isFinite = true := by
  refine ⟨_, ?_, hfinite⟩
  rw [ofDecimal?, if_neg (by omega)]
  simp only [h, hfinite, if_true]

/-- What a decimal is rounded to is finite. -/
theorem isFinite_of_ofDecimal?_eq_some (h : ofDecimal? significand e = some y) :
    y.isFinite = true := by
  rw [ofDecimal?] at h
  by_cases hlarge : 308 < e
  · rw [if_pos hlarge, Option.ite_none_right_eq_some] at h
    exact Option.some.inj h.2 ▸ isFinite_of_isZero h.1
  · rw [if_neg hlarge, Option.ite_none_right_eq_some] at h
    exact Option.some.inj h.2 ▸ h.1

/-- A significand of sixty-four bits divided by a power of ten is in the range. -/
theorem exists_ofDecimal?_of_nonpos (hs : significand ≤ 2 ^ 64) (he : e ≤ 0) :
    ∃ y, ofDecimal? significand e = some y ∧ y.isFinite = true := by
  have hs' : ((significand : ℕ) : ℚ) / (1 : ℕ) ≤ 2 ^ (64 : ℤ) := by
    rw [Nat.cast_one, div_one]
    exact_mod_cast hs
  have hbound : (2 : ℚ) ^ (64 : ℤ) < overflow := two_zpow_lt_overflow (by decide)
  have hx := magnitude_ofRatio_le false Nat.one_pos (by decide) (hs'.trans_lt hbound) hs'
  obtain ⟨hx, hleast, hnonpos⟩ := descend_spec (by decide) (by decide) he hx
  generalize hdescend : descend (ofRatio false significand 1) e = result at hx hleast hnonpos
  obtain ⟨x, e'⟩ := result
  refine ofDecimal?_eq (by omega) hdescend ?_
  simp only at hx hleast hnonpos
  split_ifs with h
  -- An exponent of zero is taken for a factor of one, which is rounded as any other.
  · obtain rfl : e' = 0 := le_antisymm hnonpos h
    refine isFinite_mul ?_
    have hone := magnitude_powerOfTen_le (n := 0) (by decide)
    calc x.magnitude * (powerOfTen 0).magnitude ≤ 2 ^ (64 : ℤ) * (10 ^ 0 * (1 + 1 / 2 ^ 53)) := by
          gcongr
          exact magnitude_nonneg _
      _ < 2 ^ (65 : ℤ) := by norm_num
      _ < overflow := two_zpow_lt_overflow (by decide)
  · have hone := one_le_magnitude_powerOfTen (n := (-e').toNat) (by omega)
    refine isFinite_div (zero_lt_one.trans_le hone) ?_
    exact ((div_le_self x.magnitude_nonneg hone).trans hx).trans_lt hbound

/-- A significand times a power of ten is in the range if there is room below the bound for the
errors of rounding the two factors. -/
theorem exists_ofDecimal?_of_nonneg (hs : 0 < significand) (he : 0 ≤ e)
    (h : significand * 10 ^ e * (1 + 1 / 2 ^ 53) ^ 2 < overflow) :
    ∃ y, ofDecimal? significand e = some y ∧ y.isFinite = true := by
  obtain ⟨n, rfl⟩ := Int.eq_ofNat_of_zero_le he
  have hone : (1 : ℚ) ≤ significand := by exact_mod_cast hs
  have hten : (1 : ℚ) ≤ 10 ^ n := one_le_pow₀ (by norm_num)
  rw [zpow_natCast] at h
  -- Each factor is below the bound, since neither is less than one.
  have hfactors : (10 : ℚ) ^ n ≤ significand * 10 ^ n * (1 + 1 / 2 ^ 53) ^ 2 ∧
      (significand : ℚ) ≤ significand * 10 ^ n * (1 + 1 / 2 ^ 53) ^ 2 := by
    have herror : (1 : ℚ) ≤ (1 + 1 / 2 ^ 53) ^ 2 := by norm_num
    constructor <;> nlinarith [mul_nonneg (sub_nonneg.mpr hone) (sub_nonneg.mpr hten)]
  have hn : n ≤ 308 := by
    by_contra hlt
    exact absurd ((hfactors.1.trans_lt h).trans_le (overflow_le_ten_pow (by omega))) (lt_irrefl _)
  have hs' : ((significand : ℕ) : ℚ) / (1 : ℕ) < overflow := by
    rw [Nat.cast_one, div_one]
    exact hfactors.2.trans_lt h
  have hx : (ofRatio false significand 1).magnitude ≤ significand * (1 + 1 / 2 ^ 53) := by
    have hleast : (2 : ℚ) ^ (-1022 : ℤ) ≤ 1 := zpow_le_one_of_nonpos₀ one_le_two (by decide)
    have hle := magnitude_ofRatio_le_mul false hs Nat.one_pos hs'
    rw [Nat.cast_one, div_one] at hle
    exact hle (hleast.trans hone)
  have hp := magnitude_powerOfTen_le hn
  refine ofDecimal?_eq (by omega) (descend_of_le (by omega)) ?_
  rw [if_pos he]
  refine isFinite_mul (lt_of_le_of_lt ?_ h)
  calc _ ≤ (significand : ℚ) * (1 + 1 / 2 ^ 53) * (10 ^ n * (1 + 1 / 2 ^ 53)) :=
        mul_le_mul hx hp (magnitude_nonneg _) (by positivity)
    _ = (significand : ℚ) * 10 ^ n * (1 + 1 / 2 ^ 53) ^ 2 := by ring

end Binary64

end PageScript
