import PageScript.Text.Digit
import PageScript.Proofs.Text.Blank

/-!
# Decimal digits read back

A number is written by its ASCII digits, and an integer by a minus sign in front of them if it is
negative. Both read back as the same number.

* `natOfDigits?_repr` and `intOfDigits?_repr` — natural numbers and integers read back;
* `natOfDigits?_zeros_append` — zeros in front make no difference;
* `isDigit_of_mem_repr` — the digits of a natural number are decimal digits.
-/

namespace PageScript.Text

/-- A digit has the value of its place. -/
private theorem digitValue?_of_isDigit {c : Char} (h : c.isDigit = true) :
    digitValue? c = some (c.toNat - '0'.toNat) := by
  have h : '0' ≤ c ∧ c ≤ '9' := by
    simpa [Char.isDigit, Char.le_def] using h
  rw [digitValue?, if_pos h]

/-- An ASCII digit is a decimal digit. -/
theorem isDigit_of_isDigit {c : Char} (h : c.isDigit = true) : isDigit c = true := by
  have hrange : 0x30 ≤ c.toNat ∧ c.toNat ≤ 0x39 := by
    simpa [Char.isDigit, UInt32.le_iff_toNat_le] using h
  rw [isDigit, digitRanges, Ranges.covers]
  simp [hrange]

/-- Reading digits is evaluating them in base ten. -/
theorem foldlM_digitValue? {cs : List Char} (h : ∀ c ∈ cs, c.isDigit = true) (n : Nat) :
    cs.foldlM (fun n c => (digitValue? c).map (n * 10 + ·)) n =
      some (Nat.ofDigitChars 10 cs n) := by
  induction cs generalizing n with
  | nil => simp
  | cons c cs ih =>
    rw [List.foldlM_cons, digitValue?_of_isDigit (h c (by simp)), Nat.ofDigitChars_cons]
    rw [Nat.mul_comm 10 n]
    exact ih (fun c hc => h c (by simp [hc])) _

/-- A number is written in digits. -/
theorem isDigit_of_mem_toDigits {n : Nat} : ∀ c ∈ Nat.toDigits 10 n, c.isDigit = true :=
  fun _ => Nat.isDigit_of_mem_toDigits (by decide) (by decide)

/-- A number that is shown is written in digits. -/
theorem isDigit_of_mem_repr {n : Nat} : ∀ c ∈ n.repr.toList, isDigit c = true := by
  intro c hc
  rw [Nat.toList_repr] at hc
  exact isDigit_of_isDigit (isDigit_of_mem_toDigits c hc)

/-- Digits are read as the number they spell. -/
private theorem natOfDigits?_of_isDigit {cs : List Char} (hne : cs ≠ [])
    (h : ∀ c ∈ cs, c.isDigit = true) :
    natOfDigits? cs = some (Nat.ofDigitChars 10 cs 0) := by
  cases cs with
  | nil => exact absurd rfl hne
  | cons c cs => exact foldlM_digitValue? h 0

/-- Zeros in front of digits make no difference to the number. -/
theorem ofDigitChars_zeros_append (zeros : Nat) (cs : List Char) :
    Nat.ofDigitChars 10 (List.replicate zeros '0' ++ cs) 0 = Nat.ofDigitChars 10 cs 0 := by
  induction zeros with
  | zero => rfl
  | succ zeros ih =>
    rw [List.replicate_succ, List.cons_append, Nat.ofDigitChars_cons]
    exact ih

/-- A number that is shown with zeros in front is written in digits. -/
theorem isDigit_of_mem_zeros_append {zeros n : Nat} :
    ∀ c ∈ List.replicate zeros '0' ++ n.repr.toList, c.isDigit = true := by
  intro c hc
  rcases List.mem_append.mp hc with hc | hc
  · rw [List.eq_of_mem_replicate hc]
    decide
  · rw [Nat.toList_repr] at hc
    exact isDigit_of_mem_toDigits c hc

/-- A natural number reads back, with zeros in front or without. -/
theorem natOfDigits?_zeros_append (zeros n : Nat) :
    natOfDigits? (List.replicate zeros '0' ++ n.repr.toList) = some n := by
  rw [natOfDigits?_of_isDigit (by simp) isDigit_of_mem_zeros_append, ofDigitChars_zeros_append,
    Nat.toList_repr, Nat.ofDigitChars_ten_toDigits]

/-- A number is read back from what it is shown as. -/
theorem natOfDigits?_repr (n : Nat) : natOfDigits? n.repr.toList = some n :=
  natOfDigits?_zeros_append 0 n

/-- Digits begin with no sign. -/
theorem intOfDigits?_of_isDigit {cs : List Char} (h : ∀ c ∈ cs, c.isDigit = true) :
    intOfDigits? cs = (natOfDigits? cs).map Int.ofNat := by
  unfold intOfDigits?
  split
  · exact absurd (h '-' (by simp)) (by decide)
  · exact absurd (h '+' (by simp)) (by decide)
  · rfl

/-- A number is read back with zeros in front. -/
theorem intOfDigits?_zeros_append (zeros n : Nat) :
    intOfDigits? (List.replicate zeros '0' ++ n.repr.toList) = some (n : Int) := by
  rw [intOfDigits?_of_isDigit isDigit_of_mem_zeros_append, natOfDigits?_zeros_append]
  rfl

/-- A natural number reads back as an integer. -/
theorem intOfDigits?_repr_nat (n : Nat) : intOfDigits? n.repr.toList = some (n : Int) :=
  intOfDigits?_zeros_append 0 n

/-- An integer is read back from what it is shown as. -/
theorem intOfDigits?_repr (n : Int) : intOfDigits? n.repr.toList = some n := by
  rw [Int.repr_eq_if]
  split_ifs with hn
  · rw [intOfDigits?_repr_nat, Int.toNat_of_nonneg hn]
  · have hminus : ("-" ++ (-n).toNat.repr).toList = '-' :: (-n).toNat.repr.toList := by
      simp [String.toList_append]
    rw [hminus, intOfDigits?, natOfDigits?_repr]
    change some (-(((-n).toNat : Nat) : Int)) = some n
    rw [Int.toNat_of_nonneg (by omega), Int.neg_neg]

end PageScript.Text
