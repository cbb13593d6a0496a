import PageScript.Decimal.Shortest
import PageScript.Proofs.Decimal.Binary64

/-!
# Shortest decimals are in the range

The shortest decimal of a finite number is looked for on grids, one for each number of digits. With
seventeen digits the grid is finer than the interval of the decimals that are rounded to the number,
so that one is found. It lies below the midpoint of the largest number and the next power of two,
and so it is rounded to a finite number again. The two largest numbers leave no room for the errors
of two roundings, and are looked at one by one.

* `Decimal.leadingPower_spec` — the power of ten of the leading digit;
* `Decimal.exists_hitOnGrid_eq` — seventeen digits are enough;
* `Decimal.isShort_shortest` — the size of a shortest decimal;
* `Decimal.exists_ofDecimal?_shortest` — a shortest decimal is in the range.
-/

namespace PageScript

open Decimal

/-! ### Finite numbers -/

namespace Binary64

variable {x : Binary64}

/-- The fraction has fifty-two bits. -/
theorem fractionBits_lt (x : Binary64) : x.fractionBits < 2 ^ 52 :=
  Nat.mod_lt _ (Nat.pow_pos Nat.two_pos)

/-- The significand has fifty-three bits, with the leading one. -/
theorem significand_lt (x : Binary64) : x.significand < 2 ^ 53 := by
  have h := x.fractionBits_lt
  rw [significand]
  change (if x.exponentBits = 0 then x.fractionBits else x.fractionBits + 2 ^ 52) < 2 ^ 53
  split_ifs <;> omega

/-- A number that is not zero has a digit. -/
theorem significand_pos (h : x.isZero = false) : 0 < x.significand := by
  have hbits : x.bits.toNat % 2 ^ 63 ≠ 0 := by simpa [isZero] using h
  rw [significand]
  split_ifs with hexp
  · change x.bits.toNat / 2 ^ 52 % 2 ^ 11 = 0 at hexp
    change 0 < x.bits.toNat % 2 ^ 52
    omega
  · exact Nat.add_pos_right _ (Nat.pow_pos Nat.two_pos)

/-- The exponent is at least that of the subnormal numbers. -/
theorem exponent_ge (x : Binary64) : -1074 ≤ x.exponent := by
  rw [exponent]
  omega

/-- The exponent of a finite number is at most that of the largest ones. -/
theorem exponent_le (h : x.isFinite = true) : x.exponent ≤ 971 := by
  have hne : x.exponentBits ≠ 2047 := by simpa [isFinite] using h
  have hlt : x.exponentBits < 2 ^ 11 := Nat.mod_lt _ (Nat.pow_pos Nat.two_pos)
  rw [exponent]
  omega

end Binary64

namespace Decimal

/-- The value of a decimal. -/
def valueOf (d : Decimal) : ℚ :=
  d.digits * 10 ^ d.exponent

variable {a b m : ℕ} {k q u : ℤ} {d : Decimal}

/-! ### Grids -/

/-- A negative power and the whole power that undoes it give the positive part. -/
theorem zpow_mul_pow_toNat_neg {b : ℚ} (hb : b ≠ 0) (k : ℤ) :
    b ^ k * b ^ (-k).toNat = b ^ k.toNat := by
  rw [← zpow_natCast, ← zpow_natCast, ← zpow_add₀ hb]
  congr 1
  omega

/-- The two step sizes are those of the grid and of the unit, times one factor. -/
theorem exists_steps_eq (k u : ℤ) :
    ∃ c : ℚ, 0 < c ∧ ((steps k u).1 : ℚ) = 10 ^ k * c ∧ ((steps k u).2 : ℚ) = 2 ^ u * c := by
  refine ⟨10 ^ (-k).toNat * 2 ^ (-u).toNat, by positivity, ?_, ?_⟩
  · rw [← mul_assoc, zpow_mul_pow_toNat_neg (by norm_num)]
    exact Nat.cast_mul _ _ |>.trans (by norm_num)
  · rw [mul_comm ((10 : ℚ) ^ _), ← mul_assoc, zpow_mul_pow_toNat_neg (by norm_num)]
    exact Nat.cast_mul _ _ |>.trans (by norm_num)

/-- Scaled units and scaled steps of the grid compare as the units and the steps do. -/
theorem mul_steps_snd_le_iff :
    a * (steps k u).2 ≤ b * (steps k u).1 ↔ (a : ℚ) * 2 ^ u ≤ b * 10 ^ k := by
  obtain ⟨c, hc, hgrid, hunit⟩ := exists_steps_eq k u
  rw [← Nat.cast_le (α := ℚ), Nat.cast_mul, Nat.cast_mul, hgrid, hunit, ← mul_assoc, ← mul_assoc,
    mul_le_mul_iff_left₀ hc]

/-- Scaled steps of the grid and scaled units compare as the steps and the units do. -/
theorem mul_steps_fst_le_iff :
    a * (steps k u).1 ≤ b * (steps k u).2 ↔ (a : ℚ) * 10 ^ k ≤ b * 2 ^ u := by
  obtain ⟨c, hc, hgrid, hunit⟩ := exists_steps_eq k u
  rw [← Nat.cast_le (α := ℚ), Nat.cast_mul, Nat.cast_mul, hgrid, hunit, ← mul_assoc, ← mul_assoc,
    mul_le_mul_iff_left₀ hc]

/-- The size of a unit is positive. -/
private theorem steps_snd_pos (k u : ℤ) : 0 < (steps k u).2 :=
  Nat.mul_pos (Nat.pow_pos (by decide)) (Nat.pow_pos (by decide))

/-- The size of a step of the grid is positive. -/
private theorem steps_fst_pos (k u : ℤ) : 0 < (steps k u).1 :=
  Nat.mul_pos (Nat.pow_pos (by decide)) (Nat.pow_pos (by decide))

/-! ### The leading digit -/

/-- At an exponent that is not positive the larger base has the smaller power. -/
theorem zpow_le_zpow_left_of_nonpos {b c : ℚ} (hb : 0 < b) (h : b ≤ c) {l : ℤ} (hl : l ≤ 0) :
    c ^ l ≤ b ^ l := by
  obtain ⟨n, hn⟩ := Int.eq_ofNat_of_zero_le (neg_nonneg.mpr hl)
  rw [show l = -n by omega, zpow_neg, zpow_neg, zpow_natCast, zpow_natCast]
  exact inv_anti₀ (by positivity) (pow_le_pow_left₀ hb.le h n)

/-- A power of ten is below a power of two if it is by both bounds of the decimal logarithm of
two. -/
theorem ten_zpow_le_two_zpow {a n : ℕ} (hn : n ≠ 0) (hlow : (10 : ℚ) ^ a ≤ 2 ^ n)
    (hhigh : (2 : ℚ) ^ n ≤ 10 ^ (a + 1)) {l : ℤ} (h : k * n ≤ a * l) (h' : k * n ≤ (a + 1) * l) :
    (10 : ℚ) ^ k ≤ 2 ^ l := by
  refine (pow_le_pow_iff_left₀ (by positivity) (by positivity) hn).mp ?_
  rw [← zpow_natCast, ← zpow_mul, ← zpow_natCast, zpow_comm, zpow_natCast]
  -- Which of the two bounds is of use depends on the sign of the exponent.
  rcases le_total 0 l with hl | hl
  · calc (10 : ℚ) ^ (k * n) ≤ 10 ^ (a * l) := zpow_le_zpow_right₀ (by norm_num) h
      _ = (10 ^ a) ^ l := by rw [zpow_mul, zpow_natCast]
      _ ≤ (2 ^ n) ^ l := zpow_le_zpow_left₀ hl (by positivity) hlow
  · calc (10 : ℚ) ^ (k * n) ≤ 10 ^ ((a + 1 : ℕ) * l) := zpow_le_zpow_right₀ (by norm_num) h'
      _ = (10 ^ (a + 1)) ^ l := by rw [zpow_mul, zpow_natCast]
      _ ≤ (2 ^ n) ^ l := zpow_le_zpow_left_of_nonpos (by positivity) hhigh hl

/-- A power of two is below a power of ten if it is by both bounds of the decimal logarithm of two.
-/
theorem two_zpow_le_ten_zpow {a n : ℕ} (hn : n ≠ 0) (hlow : (10 : ℚ) ^ a ≤ 2 ^ n)
    (hhigh : (2 : ℚ) ^ n ≤ 10 ^ (a + 1)) {l : ℤ} (h : a * l ≤ k * n) (h' : (a + 1) * l ≤ k * n) :
    (2 : ℚ) ^ l ≤ 10 ^ k := by
  refine (pow_le_pow_iff_left₀ (by positivity) (by positivity) hn).mp ?_
  rw [← zpow_natCast (10 ^ k), ← zpow_mul, ← zpow_natCast (2 ^ l), zpow_comm, zpow_natCast]
  rcases le_total 0 l with hl | hl
  · calc ((2 : ℚ) ^ n) ^ l ≤ (10 ^ (a + 1)) ^ l := zpow_le_zpow_left₀ hl (by positivity) hhigh
      _ = 10 ^ ((a + 1 : ℕ) * l) := by rw [zpow_mul, zpow_natCast]
      _ ≤ 10 ^ (k * n) := zpow_le_zpow_right₀ (by norm_num) h'
  · calc ((2 : ℚ) ^ n) ^ l ≤ (10 ^ a) ^ l := zpow_le_zpow_left_of_nonpos (by positivity) hlow hl
      _ = 10 ^ (a * l) := by rw [zpow_mul, zpow_natCast]
      _ ≤ 10 ^ (k * n) := zpow_le_zpow_right₀ (by norm_num) h

/-- The power of ten that a binary logarithm suggests is off by less than two. -/
theorem guess_near {l : ℤ} (hleast : -1074 ≤ l) (hgreatest : l ≤ 1023) :
    (10 : ℚ) ^ (l * 30103 / 100000 - 1) ≤ 2 ^ l ∧
      (2 : ℚ) ^ (l + 1) ≤ 10 ^ (l * 30103 / 100000 + 2) := by
  have hpowers : 10 ^ 30102 ≤ 2 ^ 100000 ∧ 2 ^ 100000 ≤ 10 ^ (30102 + 1) := by decide +kernel
  have hlow : (10 : ℚ) ^ 30102 ≤ 2 ^ 100000 := by exact_mod_cast hpowers.1
  have hhigh : (2 : ℚ) ^ 100000 ≤ 10 ^ (30102 + 1) := by exact_mod_cast hpowers.2
  constructor
  · exact ten_zpow_le_two_zpow (by decide) hlow hhigh (by omega) (by omega)
  · exact two_zpow_le_ten_zpow (by decide) hlow hhigh (by omega) (by omega)

/-- The bounds of a number by its binary logarithm. -/
theorem two_zpow_log2_le (hm : 0 < m) (q : ℤ) :
    (2 : ℚ) ^ ((m.log2 : ℤ) + q) ≤ m * 2 ^ q ∧ (m : ℚ) * 2 ^ q < 2 ^ ((m.log2 : ℤ) + q + 1) := by
  have hlow : (2 : ℚ) ^ m.log2 ≤ m := by exact_mod_cast Nat.log2_self_le hm.ne'
  have hhigh : (m : ℚ) < 2 ^ (m.log2 + 1) := by exact_mod_cast Nat.lt_log2_self
  rw [add_right_comm, zpow_add₀ two_ne_zero, zpow_add₀ two_ne_zero, zpow_natCast,
    ← Nat.cast_add_one, zpow_natCast]
  exact ⟨by gcongr, by gcongr⟩

/-- The power of ten of the leading digit is the largest one that is not above the number. -/
theorem leadingPower_spec (hm : 0 < m) (hleast : -1074 ≤ (m.log2 : ℤ) + q)
    (hgreatest : (m.log2 : ℤ) + q ≤ 1023) :
    (10 : ℚ) ^ leadingPower m q ≤ m * 2 ^ q ∧ (m : ℚ) * 2 ^ q < 10 ^ (leadingPower m q + 1) := by
  have hreaches (k : ℤ) : (steps k q).1 ≤ m * (steps k q).2 ↔ (10 : ℚ) ^ k ≤ m * 2 ^ q := by
    simpa using mul_steps_fst_le_iff (a := 1) (b := m) (k := k) (u := q)
  obtain ⟨hlow, hhigh⟩ := two_zpow_log2_le hm q
  obtain ⟨hguess, hguess'⟩ := guess_near hleast hgreatest
  simp only [leadingPower, decide_eq_true_eq, hreaches]
  generalize ((m.log2 : ℤ) + q) * 30103 / 100000 = guess at *
  split_ifs with h h'
  · exact ⟨h, (hhigh.trans_le hguess').trans_eq (by congr 1; omega)⟩
  · exact ⟨h', not_le.mp h⟩
  · exact ⟨hguess.trans hlow, by rw [sub_add_cancel]; exact not_le.mp h'⟩

/-- The leading digit of a finite number lies in the range of the table. -/
theorem leadingPower_bounds (hleast : -1074 ≤ (m.log2 : ℤ) + q)
    (hgreatest : (m.log2 : ℤ) + q ≤ 1023) :
    -330 ≤ leadingPower m q ∧ leadingPower m q ≤ 310 := by
  simp only [leadingPower]
  split_ifs <;> omega

/-! ### Hits -/

/-- A point of the grid lies in the interval. -/
def isInside (r : Rounding) (u k : ℤ) (n : ℕ) : Bool :=
  if r.closed then
    r.lower * (steps k u).2 ≤ n * (steps k u).1 && n * (steps k u).1 ≤ r.upper * (steps k u).2
  else
    r.lower * (steps k u).2 < n * (steps k u).1 && n * (steps k u).1 < r.upper * (steps k u).2

variable {r : Rounding}

/-- A point that is inside lies in the interval, whether the ends count or not. -/
theorem le_of_isInside {n : ℕ} (h : isInside r u k n = true) :
    r.lower * 2 ^ u ≤ (n : ℚ) * 10 ^ k ∧ (n : ℚ) * 10 ^ k ≤ r.upper * 2 ^ u := by
  rw [← mul_steps_snd_le_iff, ← mul_steps_fst_le_iff]
  rw [isInside] at h
  split_ifs at h <;> simp only [Bool.and_eq_true, decide_eq_true_eq] at h <;> omega

/-- A point next to the number that is not in the interval is beyond an end of it. -/
theorem le_of_not_isInside {n : ℕ} (h : isInside r u k n = false) :
    n * (steps k u).1 ≤ r.lower * (steps k u).2 ∨ r.upper * (steps k u).2 ≤ n * (steps k u).1 := by
  rw [isInside] at h
  split_ifs at h <;> simp only [Bool.and_eq_false_iff, decide_eq_false_iff_not] at h <;> omega

/-- The neighbours of the number on the grid are tested, and one that lies in the interval is the
hit. -/
theorem hitOnGrid_cases (r : Rounding) (u k : ℤ) :
    (∃ n, isInside r u k n = true ∧ hitOnGrid r u k = some ⟨n, k⟩) ∨
      hitOnGrid r u k = none ∧ isInside r u k (r.value * (steps k u).2 / (steps k u).1) = false ∧
        isInside r u k (r.value * (steps k u).2 / (steps k u).1 + 1) = false := by
  simp only [hitOnGrid]
  generalize hlow : r.value * (steps k u).2 / (steps k u).1 = low
  -- Both neighbours are inside, or the lower one, or the upper one, or neither.
  split
  · rename_i hinside hinside'
    change isInside r u k low = true at hinside
    change isInside r u k (low + 1) = true at hinside'
    refine .inl ⟨_, ?_, rfl⟩
    split_ifs
    · exact hinside
    · exact hinside'
    · rcases Nat.mod_two_eq_zero_or_one low with h | h <;> rw [h] <;> assumption
  · rename_i hlow _
    exact .inl ⟨_, hlow, rfl⟩
  · rename_i _ hhigh
    exact .inl ⟨_, hhigh, rfl⟩
  · rename_i hlow hhigh
    exact .inr ⟨rfl, hlow, hhigh⟩

/-- The interval is as wide as one unit, and below a power of two as wide as three quarters of
it. -/
theorem exists_width_eq (hm : 0 < m) (q : ℤ) :
    ∃ w, (roundingOf m q).upper = (roundingOf m q).lower + w ∧ (w = 4 ∨ w = 3 ∧ m = 2 ^ 52) := by
  rw [roundingOf]
  change ∃ w, 4 * m + 2 = (if m = 2 ^ 52 ∧ _ then _ else _) + w ∧ _
  split_ifs with h
  · exact ⟨3, by omega, .inr ⟨rfl, h.1⟩⟩
  · exact ⟨4, by omega, .inl rfl⟩

/-- Seventeen digits are enough: a grid that is as fine as the last of them has a hit. -/
theorem exists_hitOnGrid_eq (hm : 0 < m) (hm' : m < 2 ^ 53)
    (h : 10 ^ 16 * (10 : ℚ) ^ k ≤ m * 2 ^ q) :
    ∃ n, isInside (roundingOf m q) (q - 2) k n = true ∧
      hitOnGrid (roundingOf m q) (q - 2) k = some ⟨n, k⟩ := by
  refine (hitOnGrid_cases _ _ _).resolve_right fun ⟨_, hlow, hhigh⟩ => ?_
  have hfine : 10 ^ 16 * (steps k (q - 2)).1 ≤ 4 * m * (steps k (q - 2)).2 := by
    rw [mul_steps_fst_le_iff, zpow_sub₀ two_ne_zero]
    push_cast
    linarith
  obtain ⟨w, hw, hwidth⟩ := exists_width_eq hm q
  have hvalue : (roundingOf m q).value = 4 * m := rfl
  have hupper : (roundingOf m q).upper = 4 * m + 2 := rfl
  have hfloor := Nat.div_mul_le_self ((roundingOf m q).value * (steps k (q - 2)).2)
    (steps k (q - 2)).1
  have hceil := Nat.lt_div_mul_add (a := (roundingOf m q).value * (steps k (q - 2)).2)
    (steps_fst_pos k (q - 2))
  replace hlow := le_of_not_isInside hlow
  replace hhigh := le_of_not_isInside hhigh
  have hunit := steps_snd_pos k (q - 2)
  rw [hvalue] at hlow hhigh hfloor hceil
  rw [Nat.add_one_mul] at hhigh
  generalize 4 * m * (steps k (q - 2)).2 / (steps k (q - 2)).1 * (steps k (q - 2)).1 = low at *
  generalize (steps k (q - 2)).1 = grid at *
  generalize (steps k (q - 2)).2 = unit at *
  -- The number lies between its neighbours, so that these are beyond the two ends.
  have hbelow : low ≤ (roundingOf m q).lower * unit := by
    refine hlow.resolve_right (Nat.not_le.mpr (hfloor.trans_lt ?_))
    rw [hupper]
    exact Nat.mul_lt_mul_of_pos_right (by omega) hunit
  have habove : (roundingOf m q).upper * unit ≤ low + grid := by
    refine hhigh.resolve_left (Nat.not_le.mpr (lt_of_le_of_lt ?_ hceil))
    exact Nat.mul_le_mul_right unit (by omega)
  have hwide : w * unit ≤ grid := by
    rw [hw, Nat.add_mul] at habove
    omega
  have hbound : 10 ^ 16 * w ≤ 4 * m := by
    refine Nat.le_of_mul_le_mul_right ?_ hunit
    rw [Nat.mul_assoc]
    exact (Nat.mul_le_mul_left _ hwide).trans hfine
  omega

/-! ### Shortest decimals -/

/-- Without its zeros at the end a decimal has the same value. -/
private theorem valueOf_stripZeros (d : Decimal) (fuel : ℕ) :
    valueOf (stripZeros d fuel) = valueOf d := by
  induction fuel generalizing d with
  | zero => rfl
  | succ fuel ih =>
    rw [stripZeros]
    split_ifs with h
    · rw [ih, valueOf, valueOf, zpow_add_one₀ (by norm_num)]
      have hdigits : (d.digits : ℚ) = (d.digits / 10 : ℕ) * 10 := by
        exact_mod_cast (Nat.div_mul_cancel (Nat.dvd_of_mod_eq_zero h.2)).symm
      rw [hdigits]
      ring
    · rfl

/-- Without its zeros at the end a decimal has no more digits. -/
private theorem digits_stripZeros_le (d : Decimal) (fuel : ℕ) :
    (stripZeros d fuel).digits ≤ d.digits := by
  induction fuel generalizing d with
  | zero => exact le_refl _
  | succ fuel ih =>
    rw [stripZeros]
    split_ifs
    · exact (ih _).trans (Nat.div_le_self _ _)
    · exact le_refl _

/-- The upper end of the interval is half a unit above the number. -/
theorem upper_mul_eq (m : ℕ) (q : ℤ) :
    ((roundingOf m q).upper : ℚ) * 2 ^ (q - 2) = (m + 1 / 2) * 2 ^ q := by
  rw [roundingOf, zpow_sub₀ two_ne_zero]
  push_cast
  ring

/-- The exponent grows by one at most with each zero that is taken away. -/
private theorem exponent_stripZeros_bounds (d : Decimal) (fuel : ℕ) :
    d.exponent ≤ (stripZeros d fuel).exponent ∧
      (stripZeros d fuel).exponent ≤ d.exponent + fuel := by
  induction fuel generalizing d with
  | zero => simp [stripZeros]
  | succ fuel ih =>
    rw [stripZeros]
    split_ifs
    · have h := ih ⟨d.digits / 10, d.exponent + 1⟩
      simp only at h
      omega
    · omega

/-- A hit on one of the grids that are tried has at most eighteen digits. -/
theorem digits_lt_of_isInside {n j : ℕ} {top : ℤ} (hm : 0 < m)
    (htop : (m : ℚ) * 2 ^ q < 10 ^ (top + 1)) (hj : j ≤ 16)
    (h : isInside (roundingOf m q) (q - 2) (top - j) n = true) : n < 15 * 10 ^ 16 := by
  have hone : (1 : ℚ) ≤ m := by exact_mod_cast hm
  have hpos : (0 : ℚ) < 10 ^ (top - j) := by positivity
  -- Half a unit is at most half of the number, so the point is below one and a half of it.
  have hlt : (n : ℚ) * 10 ^ (top - j) < 15 * 10 ^ j * 10 ^ (top - j) := by
    calc (n : ℚ) * 10 ^ (top - j) ≤ (m + 1 / 2) * 2 ^ q := by
          rw [← upper_mul_eq]
          exact (le_of_isInside h).2
      _ ≤ 3 / 2 * m * 2 ^ q := by
        gcongr
        linarith
      _ = 3 / 2 * (m * 2 ^ q) := mul_assoc _ _ _
      _ < 3 / 2 * 10 ^ (top + 1) := by gcongr
      _ = 15 * 10 ^ j * 10 ^ (top - j) := by
        rw [zpow_add_one₀ (by norm_num), zpow_sub₀ (by norm_num), zpow_natCast]
        field_simp
        norm_num
  have hdigits : n < 15 * 10 ^ j := by exact_mod_cast lt_of_mul_lt_mul_right hlt hpos.le
  exact hdigits.trans_le (Nat.mul_le_mul_left 15 (Nat.pow_le_pow_right (by decide) hj))

/-- A grid with a hit is found. -/
theorem exists_shortest_eq (hm : 0 < m) (hm' : m < 2 ^ 53) (hq : -1074 ≤ q) (hq' : q ≤ 971) :
    ∃ n k, isInside (roundingOf m q) (q - 2) k n = true ∧ n < 15 * 10 ^ 16 ∧ -400 ≤ k ∧ k ≤ 400 ∧
      shortest m q = stripZeros ⟨n, k⟩ 20 := by
  have hlog : m.log2 < 53 := (Nat.log2_lt hm.ne').mpr hm'
  obtain ⟨htop, htop'⟩ := leadingPower_spec (m := m) (q := q) hm (by omega) (by omega)
  have hbounds := leadingPower_bounds (m := m) (q := q) (by omega) (by omega)
  rw [shortest]
  split
  -- The first grid with a hit has the decimal.
  · rename_i d hfind
    obtain ⟨j, hj, hhit⟩ := List.exists_of_findSome?_eq_some hfind
    have hj : j ≤ 16 := Nat.le_of_lt_succ (List.mem_range.mp hj)
    rcases hitOnGrid_cases (roundingOf m q) (q - 2) (leadingPower m q - j) with
      ⟨n, hn, hsome⟩ | ⟨hnone, -⟩
    · obtain rfl := Option.some.inj (hhit.symm.trans hsome)
      exact ⟨n, _, hn, digits_lt_of_isInside hm htop' hj hn, by omega, by omega, rfl⟩
    · rw [hnone] at hhit
      cases hhit
  -- The last grid is as fine as seventeen digits.
  · rename_i hfind
    have hfine : 10 ^ 16 * (10 : ℚ) ^ (leadingPower m q - (16 : ℕ)) ≤ m * 2 ^ q := by
      rwa [zpow_sub₀ (by norm_num), zpow_natCast, mul_div_cancel₀ _ (by norm_num)]
    obtain ⟨n, -, hsome⟩ := exists_hitOnGrid_eq hm hm' hfine
    have hnone := List.findSome?_eq_none_iff.mp hfind 16 (List.mem_range.mpr (by decide))
    rw [hnone] at hsome
    cases hsome

/-- A positive decimal of at most eighteen digits and an exponent of few digits. -/
structure IsShort (d : Decimal) : Prop where
  pos : 0 < d.digits
  digits_lt : d.digits < 15 * 10 ^ 16
  exponent_ge : -400 ≤ d.exponent
  exponent_le : d.exponent ≤ 420

/-- The shortest decimal of a number is short, and lies at most in the middle between the number and
the next one. -/
theorem isShort_shortest (hm : 0 < m) (hm' : m < 2 ^ 53) (hq : -1074 ≤ q) (hq' : q ≤ 971) :
    IsShort (shortest m q) ∧ valueOf (shortest m q) ≤ (m + 1 / 2) * 2 ^ q := by
  obtain ⟨n, k, hn, hdigits, hk, hk', heq⟩ := exists_shortest_eq hm hm' hq hq'
  obtain ⟨hlower, hupper⟩ := le_of_isInside hn
  have hvalue : valueOf (shortest m q) = n * 10 ^ k := by rw [heq, valueOf_stripZeros, valueOf]
  -- The interval does not reach down to zero.
  have hpositive : (0 : ℚ) < (roundingOf m q).lower := by
    obtain ⟨w, hw, hwidth⟩ := exists_width_eq hm q
    have hupper : (roundingOf m q).upper = 4 * m + 2 := rfl
    have hlower : 0 < (roundingOf m q).lower := by omega
    exact_mod_cast hlower
  have hpos : 0 < (shortest m q).digits := by
    refine Nat.pos_of_ne_zero fun hzero => ?_
    have hpos : (0 : ℚ) < (roundingOf m q).lower * 2 ^ (q - 2) := by positivity
    rw [valueOf, hzero, Nat.cast_zero, zero_mul] at hvalue
    linarith
  rw [← hvalue, upper_mul_eq] at hupper
  rw [heq] at hpos hupper ⊢
  obtain ⟨hexp, hexp'⟩ : k ≤ (stripZeros ⟨n, k⟩ 20).exponent ∧ _ :=
    exponent_stripZeros_bounds ⟨n, k⟩ 20
  simp only at hexp'
  exact ⟨⟨hpos, (digits_stripZeros_le _ _).trans_lt hdigits, by omega, by omega⟩, hupper⟩

/-! ### Back to binary64 -/

/-- The shortest decimals of the two largest numbers leave no room for errors of rounding. -/
theorem exists_ofDecimal?_shortest_largest (h : m = 2 ^ 53 - 1 ∨ m = 2 ^ 53 - 2) :
    ∃ y, Binary64.ofDecimal? (shortest m 971).digits (shortest m 971).exponent = some y ∧
      y.isFinite = true := by
  rcases h with rfl | rfl
  · have hshortest : shortest (2 ^ 53 - 1) 971 = ⟨17976931348623157, 292⟩ := by decide +kernel
    rw [hshortest]
    exact Binary64.ofDecimal?_eq (by decide) (Binary64.descend_of_le (by decide))
      (by decide +kernel)
  · have hshortest : shortest (2 ^ 53 - 2) 971 = ⟨17976931348623155, 292⟩ := by decide +kernel
    rw [hshortest]
    exact Binary64.ofDecimal?_eq (by decide) (Binary64.descend_of_le (by decide))
      (by decide +kernel)

/-- Apart from these there is room for the errors of rounding two factors. -/
theorem mul_error_lt_overflow (hm : m < 2 ^ 53) (hq : q ≤ 971)
    (h : ¬ (q = 971 ∧ (m = 2 ^ 53 - 1 ∨ m = 2 ^ 53 - 2))) :
    ((m : ℚ) + 1 / 2) * 2 ^ q * (1 + 1 / 2 ^ 53) ^ 2 < Binary64.overflow := by
  rw [Binary64.overflow]
  -- Below the greatest exponent there is room for a factor of two. At that exponent the two numbers
  -- that are left out leave room for two units and a half.
  rcases hq.lt_or_eq with hlt | rfl
  · have hm' : (m : ℚ) + 1 ≤ 2 ^ 53 := by exact_mod_cast hm
    calc ((m : ℚ) + 1 / 2) * 2 ^ q * (1 + 1 / 2 ^ 53) ^ 2
        ≤ (2 ^ 53 - 1 / 2) * 2 ^ (970 : ℤ) * (1 + 1 / 2 ^ 53) ^ 2 := by
          gcongr
          · linarith
          · norm_num
          · omega
      _ = (2 ^ 53 - 1 / 2) * (1 + 1 / 2 ^ 53) ^ 2 * 2 ^ (970 : ℤ) := by ring
      _ < (2 ^ 53 - 1 / 2) * 2 * 2 ^ (970 : ℤ) :=
        mul_lt_mul_of_pos_right (by norm_num) (by positivity)
      _ = (2 ^ 53 - 1 / 2) * 2 ^ (970 + 1 : ℤ) := by
        rw [zpow_add_one₀ two_ne_zero]
        ring
  · have hm' : m + 3 ≤ 2 ^ 53 := by omega
    have hm'' : (m : ℚ) + 3 ≤ 2 ^ 53 := by exact_mod_cast hm'
    calc ((m : ℚ) + 1 / 2) * 2 ^ (971 : ℤ) * (1 + 1 / 2 ^ 53) ^ 2
        ≤ (2 ^ 53 - 5 / 2) * 2 ^ (971 : ℤ) * (1 + 1 / 2 ^ 53) ^ 2 := by
          gcongr
          linarith
      _ = (2 ^ 53 - 5 / 2) * (1 + 1 / 2 ^ 53) ^ 2 * 2 ^ (971 : ℤ) := by ring
      _ < (2 ^ 53 - 1 / 2) * 2 ^ (971 : ℤ) :=
        mul_lt_mul_of_pos_right (by norm_num) (by positivity)

/-- The shortest decimal of a number is in the range when it is rounded again. -/
theorem exists_ofDecimal?_shortest (hm : 0 < m) (hm' : m < 2 ^ 53) (hq : -1074 ≤ q)
    (hq' : q ≤ 971) :
    ∃ y, Binary64.ofDecimal? (shortest m q).digits (shortest m q).exponent = some y ∧
      y.isFinite = true := by
  obtain ⟨hshort, hvalue⟩ := isShort_shortest hm hm' hq hq'
  -- A decimal with digits behind the point is no larger than its digits are as a natural number.
  rcases le_total (shortest m q).exponent 0 with hexp | hexp
  · exact Binary64.exists_ofDecimal?_of_nonpos (hshort.digits_lt.le.trans (by norm_num)) hexp
  by_cases hlargest : q = 971 ∧ (m = 2 ^ 53 - 1 ∨ m = 2 ^ 53 - 2)
  · obtain ⟨rfl, hlargest⟩ := hlargest
    exact exists_ofDecimal?_shortest_largest hlargest
  · refine Binary64.exists_ofDecimal?_of_nonneg hshort.pos hexp ?_
    refine lt_of_le_of_lt ?_ (mul_error_lt_overflow hm' hq' hlargest)
    rw [valueOf] at hvalue
    gcongr

end Decimal

end PageScript
