import PageScript.Proofs.Text.Blank
import PageScript.Text.LowerCase

/-!
# Lower case

Lowering leaves alone what has been lowered: the tables map no code point to one that they map to a
third. The one character that is lowered to two, and the capital sigma, which is lowered by what
stands around it, are told apart.

* `lowerOne_lowerOne` — a lowered character is left alone;
* `lowerCase_lowerCase` — so is a lowered text;
* `not_isBlank_of_mem_lowerCase` — lowering a text without white space leaves it without;
* `lowerCase_eq_flatMap_iff` — when a text is lowered character by character.
-/

namespace PageScript.Text

/-! ### Code points -/

/-- A code point is lowered to itself or by the offset of a run that holds it. -/
theorem lowerCode_cases (n : Nat) (runs : List (Nat × Nat × Nat × Int)) :
    lowerCode n runs = n ∨
      ∃ first last step offset, (first, last, step, offset) ∈ runs ∧ first ≤ n ∧ n ≤ last ∧
        (n - first) % step = 0 ∧ lowerCode n runs = (n + offset).toNat := by
  induction runs with
  | nil => exact .inl rfl
  | cons run rest ih =>
    obtain ⟨first, last, step, offset⟩ := run
    rw [lowerCode]
    split_ifs with hfirst hlast
    · exact .inl rfl
    · exact .inr ⟨first, last, step, offset, .head _, Nat.not_lt.mp hfirst, hlast.1, hlast.2, rfl⟩
    · rcases ih with h | ⟨first', last', step', offset', hmem, h⟩
      · exact .inl h
      · exact .inr ⟨first', last', step', offset', .tail _ hmem, h⟩

/-- Code points that only they themselves are lowered to: white space, the colon, the underscore,
`İ`, the dot above, and the final sigma. -/
def solitaryCodes : List Nat :=
  blankCodes ++ [0x3A, 0x5F, 0x130, 0x307, 0x3C2]

/-- No run of upper-case code points is lowered to a solitary one. The comparisons are those that
the kernel computes. -/
theorem lowerRuns_disjoint_solitaryCodes : (lowerRuns.all fun (first, last, _, offset) =>
    solitaryCodes.all fun n =>
      Nat.blt n (first + offset).toNat || Nat.blt (last + offset).toNat n) = true := by
  decide

/-- A code that stands alone comes from itself only. -/
private theorem eq_of_lowerCode_mem_solitaryCodes {n : Nat}
    (h : lowerCode n lowerRuns ∈ solitaryCodes) :
    lowerCode n lowerRuns = n := by
  rcases lowerCode_cases n lowerRuns with
    hself | ⟨first, last, step, offset, hrun, hfirst, hlast, -, hcode⟩
  · exact hself
  · have hdisjoint := List.all_eq_true.mp
      (List.all_eq_true.mp lowerRuns_disjoint_solitaryCodes _ hrun) _ h
    simp only [Bool.or_eq_true, Nat.blt_eq, hcode] at hdisjoint
    omega

/-- Whether some runs hold none of the code points from `a` to `b`. If `sparse`, only every second
one of these counts, from `a` on. -/
def misses : List (Nat × Nat × Nat × Int) → Nat → Nat → Bool → Bool
  | [], _, _, _ => true
  | (first, last, step, _) :: rest, a, b, sparse =>
    Nat.blt b first ||
      ((Nat.blt last a || (sparse && Nat.beq step 2 && Nat.beq ((a + first) % 2) 1)) &&
        misses rest a b sparse)

/-- Codes that the runs miss are left as they are. -/
private theorem lowerCode_eq_self_of_misses {runs : List (Nat × Nat × Nat × Int)} {a b n : Nat}
    {sparse : Bool} (h : misses runs a b sparse = true) (ha : a ≤ n) (hb : n ≤ b)
    (hsparse : sparse = true → n % 2 = a % 2) : lowerCode n runs = n := by
  induction runs with
  | nil => rfl
  | cons run rest ih =>
    obtain ⟨first, last, step, offset⟩ := run
    simp only [misses, Bool.or_eq_true, Bool.and_eq_true, Nat.blt_eq, Nat.beq_eq] at h
    rw [lowerCode]
    split_ifs with hfirst hlast
    · rfl
    · -- The code point is in the range of the run, but at an odd distance from its first one.
      rcases h with hlt | ⟨hlt | ⟨⟨hs, rfl⟩, hodd⟩, -⟩
      · omega
      · omega
      · have := hsparse hs
        omega
    · rcases h with hlt | ⟨-, h⟩
      · omega
      · exact ih h

/-- Runs that end before `a` need not be looked at. -/
theorem lowerCode_eq_self_of_misses_dropWhile {runs : List (Nat × Nat × Nat × Int)} {a b n : Nat}
    {sparse : Bool} (h : misses (runs.dropWhile fun run => Nat.blt run.2.1 a) a b sparse = true)
    (ha : a ≤ n) (hb : n ≤ b) (hsparse : sparse = true → n % 2 = a % 2) :
    lowerCode n runs = n := by
  induction runs with
  | nil => rfl
  | cons run rest ih =>
    obtain ⟨first, last, step, offset⟩ := run
    rw [List.dropWhile_cons] at h
    -- A run that ends before the range is not looked at: no code of the range is in it.
    split at h
    · next hblt =>
      have hlast : last < a := by simpa using hblt
      rw [lowerCode]
      split_ifs with hfirst hrun
      · rfl
      · omega
      · exact ih h
    · exact lowerCode_eq_self_of_misses h ha hb hsparse

/-- No run holds a code point that another one is lowered to. -/
theorem misses_lowerRuns : (lowerRuns.all fun (first, last, step, offset) =>
    misses (lowerRuns.dropWhile fun run => Nat.blt run.2.1 (first + offset).toNat)
      (first + offset).toNat (last + offset).toNat (Nat.beq step 2 || Nat.beq first last)) =
        true := by
  decide +kernel

/-- Runs are lowered to code points of characters. -/
theorem isValidChar_lowerRuns : ∀ run ∈ lowerRuns, 0 ≤ (run.1 : Int) + run.2.2.2 ∧
    ((run.2.1 : Int) + run.2.2.2 < 0xD800 ∨
      0xDFFF < (run.1 : Int) + run.2.2.2 ∧ (run.2.1 : Int) + run.2.2.2 < 0x110000) := by
  decide +kernel

/-- Lowering a code twice is lowering it once. -/
theorem lowerCode_lowerCode (n : Nat) :
    lowerCode (lowerCode n lowerRuns) lowerRuns = lowerCode n lowerRuns := by
  rcases lowerCode_cases n lowerRuns with
    hself | ⟨first, last, step, offset, hrun, hfirst, hlast, hstep, hcode⟩
  · rw [hself, hself]
  · have hpos : 0 ≤ (first : Int) + offset := (isValidChar_lowerRuns _ hrun).1
    have hmisses := List.all_eq_true.mp misses_lowerRuns _ hrun
    rw [hcode]
    refine lowerCode_eq_self_of_misses_dropWhile hmisses (by omega) (by omega) fun hsparse => ?_
    simp only [Bool.or_eq_true, Nat.beq_eq] at hsparse
    rcases hsparse with hs | hs
    · rw [hs] at hstep
      omega
    · omega

/-! ### Characters -/

/-- The lower-case form of a character that is lowered to one. -/
def lowerOne (c : Char) : Char :=
  Char.ofNat (lowerCode c.toNat lowerRuns)

/-- Every character but the dotted capital is lowered to one. -/
theorem lowerChar_of_ne {c : Char} (h : c ≠ 'İ') : lowerChar c = [lowerOne c] := by
  rw [lowerChar, if_neg h, lowerOne]

/-- A character is lowered by its code. -/
theorem toNat_lowerOne (c : Char) : (lowerOne c).toNat = lowerCode c.toNat lowerRuns := by
  have hvalid : (lowerCode c.toNat lowerRuns).isValidChar := by
    rcases lowerCode_cases c.toNat lowerRuns with
      hself | ⟨first, last, step, offset, hrun, hfirst, hlast, -, hcode⟩
    · rw [hself]
      exact c.valid
    · have := isValidChar_lowerRuns _ hrun
      dsimp only at this
      rw [hcode, Nat.isValidChar]
      omega
  rw [lowerOne, Char.ofNat, dif_pos hvalid]
  rfl

/-- Lowering a character twice is lowering it once. -/
theorem lowerOne_lowerOne (c : Char) : lowerOne (lowerOne c) = lowerOne c := by
  rw [lowerOne, toNat_lowerOne, lowerCode_lowerCode]
  rfl

/-- A character that is lowered to a solitary one is that character. -/
theorem eq_of_lowerOne_mem_solitaryCodes {c : Char} (h : (lowerOne c).toNat ∈ solitaryCodes) :
    lowerOne c = c := by
  rw [toNat_lowerOne] at h
  rw [lowerOne, eq_of_lowerCode_mem_solitaryCodes h, Char.ofNat_toNat]

/-- A solitary character comes of no other one, the dot above of `İ` apart. -/
theorem eq_of_mem_lowerChar {c d : Char} (h : d ∈ lowerChar c) (hd : d.toNat ∈ solitaryCodes) :
    d = c ∨ c = 'İ' ∧ d = Char.ofNat 0x307 := by
  by_cases hc : c = 'İ'
  · subst hc
    right
    refine ⟨rfl, ?_⟩
    rcases List.mem_cons.mp h with rfl | h
    · exact absurd hd (by decide)
    · exact List.mem_singleton.mp h
  · rw [lowerChar_of_ne hc, List.mem_singleton] at h
    subst h
    exact .inl (eq_of_lowerOne_mem_solitaryCodes hd)

/-- A character that is no blank is lowered to none. -/
theorem not_isBlank_of_mem_lowerChar {c d : Char} (h : isBlank c = false) (hd : d ∈ lowerChar c) :
    isBlank d = false := by
  rw [← Bool.not_eq_true]
  intro hblank
  have hmem : d.toNat ∈ solitaryCodes := List.mem_append_left _ ((isBlank_iff d).mp hblank)
  rcases eq_of_mem_lowerChar hd hmem with rfl | ⟨-, rfl⟩
  · rw [h] at hblank
    cases hblank
  · revert hblank
    decide

/-- A character that is in lower case, or has no case. -/
def IsLowered (c : Char) : Prop :=
  lowerChar c = [c]

instance (c : Char) : Decidable (IsLowered c) :=
  inferInstanceAs (Decidable (_ = _))

/-- What a character is lowered to is lowered already. -/
theorem isLowered_of_mem_lowerChar {c d : Char} (h : d ∈ lowerChar c) : IsLowered d := by
  by_cases hc : c = 'İ'
  · subst hc
    obtain rfl | rfl : d = 'i' ∨ d = Char.ofNat 0x307 := by simpa [lowerChar] using h
    · decide
    · decide
  · rw [lowerChar_of_ne hc, List.mem_singleton] at h
    subst h
    have hne : lowerOne c ≠ 'İ' := by
      intro hdotted
      have hmem : (lowerOne c).toNat ∈ solitaryCodes := by
        rw [hdotted]
        decide
      exact hc ((eq_of_lowerOne_mem_solitaryCodes hmem).symm.trans hdotted)
    rw [IsLowered, lowerChar_of_ne hne, lowerOne_lowerOne]

/-- Both small sigmas are lowered already. -/
private theorem isLowered_sigma : IsLowered 'σ' ∧ IsLowered 'ς' := by
  decide

/-- A blank is lowered already. -/
theorem isLowered_of_isBlank {c : Char} (h : isBlank c = true) : IsLowered c := by
  have hcodes : ∀ n ∈ blankCodes, lowerCode n lowerRuns = n ∧ n ≠ 0x130 := by decide +kernel
  obtain ⟨hcode, hne⟩ := hcodes _ ((isBlank_iff c).mp h)
  have hdotted : c ≠ 'İ' := by
    rintro rfl
    exact hne rfl
  rw [IsLowered, lowerChar_of_ne hdotted, lowerOne, hcode, Char.ofNat_toNat]

/-- A colon is lowered already. -/
theorem isLowered_colon : IsLowered ':' := by
  decide

/-- A capital sigma alone is lowered to the one within words. -/
theorem lowerChar_sigma : lowerChar 'Σ' = ['σ'] := by
  decide

/-- What is lowered already is no capital sigma. -/
theorem IsLowered.ne_sigma {c : Char} (h : IsLowered c) : c ≠ 'Σ' := by
  rintro rfl
  rw [IsLowered, lowerChar_sigma] at h
  revert h
  decide

/-! ### Texts -/

variable {before cs : List Char} {c d : Char}

/-- Every character but the capital sigma is lowered without looking around. -/
theorem lowerAfter_cons_of_ne (h : c ≠ 'Σ') :
    lowerAfter before (c :: cs) = lowerChar c ++ lowerAfter (c :: before) cs := by
  rw [lowerAfter, if_neg h]

/-- A character of a lowered text comes of one of its characters, or is a final sigma that comes of
a capital one. -/
theorem exists_of_mem_lowerAfter (h : d ∈ lowerAfter before cs) :
    ∃ c ∈ cs, d ∈ lowerChar c ∨ c = 'Σ' ∧ d = 'ς' := by
  induction cs generalizing before with
  | nil => cases h
  | cons c rest ih =>
    rw [lowerAfter, List.mem_append] at h
    rcases h with h | h
    · refine ⟨c, by simp, ?_⟩
      split_ifs at h with hsigma hfinal
      · exact .inr ⟨hsigma, List.mem_singleton.mp h⟩
      · rw [hsigma, lowerChar_sigma]
        exact .inl h
      · exact .inl h
    · obtain ⟨c', hmem, hc'⟩ := ih h
      exact ⟨c', by simp [hmem], hc'⟩

/-- Lowering a text without white space gives a text without white space. -/
theorem not_isBlank_of_mem_lowerCase (h : ∀ c ∈ cs, isBlank c = false) :
    ∀ d ∈ lowerCase cs, isBlank d = false := by
  intro d hd
  obtain ⟨c, hc, hlower | ⟨-, rfl⟩⟩ := exists_of_mem_lowerAfter hd
  · exact not_isBlank_of_mem_lowerChar (h c hc) hlower
  · decide

/-- A text in lower case is lowered already. -/
theorem isLowered_of_mem_lowerCase (h : d ∈ lowerCase cs) : IsLowered d := by
  obtain ⟨c, -, hlower | ⟨-, rfl⟩⟩ := exists_of_mem_lowerAfter h
  · exact isLowered_of_mem_lowerChar hlower
  · exact isLowered_sigma.2

/-- A text in lower case is left alone. -/
theorem lowerCase_eq_self (h : ∀ c ∈ cs, IsLowered c) : lowerCase cs = cs := by
  have hafter : ∀ before, lowerAfter before cs = cs := by
    induction cs with
    | nil => exact fun before => rfl
    | cons c rest ih =>
      intro before
      obtain ⟨hc, hrest⟩ := List.forall_mem_cons.mp h
      rw [lowerAfter_cons_of_ne hc.ne_sigma, hc, ih hrest]
      rfl
  exact hafter []

/-- What is in lower case stays in a text. -/
theorem mem_lowerAfter_of_isLowered (hlower : IsLowered c) (h : c ∈ cs) :
    c ∈ lowerAfter before cs := by
  induction cs generalizing before with
  | nil => cases h
  | cons d rest ih =>
    rw [lowerAfter, List.mem_append]
    rcases List.mem_cons.mp h with rfl | h
    · left
      rw [if_neg hlower.ne_sigma, hlower]
      exact List.mem_singleton_self c
    · exact .inr (ih h)

/-- Lowering a text twice is lowering it once. -/
theorem lowerCase_lowerCase (cs : List Char) : lowerCase (lowerCase cs) = lowerCase cs :=
  lowerCase_eq_self fun _ => isLowered_of_mem_lowerCase

/-- No character is lowered to nothing. -/
theorem lowerChar_ne_nil (c : Char) : lowerChar c ≠ [] := by
  rw [lowerChar]
  split_ifs <;> simp

/-- No text is lowered to nothing. -/
theorem lowerAfter_ne_nil (h : cs ≠ []) : lowerAfter before cs ≠ [] := by
  obtain ⟨c, rest, rfl⟩ := List.exists_cons_of_ne_nil h
  rw [lowerAfter]
  refine List.append_ne_nil_of_left_ne_nil ?_ _
  split_ifs
  · simp
  · simp
  · exact lowerChar_ne_nil c

/-- The last character of a lowered text comes of the last one of the text. -/
theorem exists_of_mem_getLast?_lowerAfter (h : d ∈ (lowerAfter before cs).getLast?) :
    ∃ c ∈ cs.getLast?, d ∈ lowerChar c ∨ d = 'ς' := by
  induction cs generalizing before with
  | nil => cases h
  | cons c rest ih =>
    by_cases hrest : rest = []
    · subst hrest
      obtain ⟨c', hc', hlower | ⟨-, hfinal⟩⟩ := exists_of_mem_lowerAfter (List.mem_of_getLast? h)
      · exact ⟨c, by simp, .inl (List.mem_singleton.mp hc' ▸ hlower)⟩
      · exact ⟨c, by simp, .inr hfinal⟩
    · rw [lowerAfter, List.getLast?_append_of_ne_nil _ (lowerAfter_ne_nil hrest)] at h
      rw [List.getLast?_cons_of_ne_nil hrest]
      exact ih h

/-- A text that ends with what is lowered already ends so in lower case. -/
theorem getLast?_lowerAfter_of_isLowered (hlower : IsLowered c) (h : cs.getLast? = some c) :
    (lowerAfter before cs).getLast? = some c := by
  obtain ⟨front, rfl⟩ := List.getLast?_eq_some_iff.mp h
  induction front generalizing before with
  | nil => simp [lowerAfter_cons_of_ne hlower.ne_sigma, lowerAfter, show lowerChar c = [c] from hlower]
  | cons d rest ih =>
    have hne : rest ++ [c] ≠ [] := by simp
    rw [List.cons_append, lowerAfter, List.getLast?_append_of_ne_nil _ (lowerAfter_ne_nil hne)]
    exact ih (by simp)

/-! ### Final sigmas -/

/-- A capital sigma stands at the end of a word: a character with a case stands before it, and none
after it. The characters of `before` stand before the text, nearest first. -/
def HasFinalSigma (before cs : List Char) : Prop :=
  ∃ front back, cs = front ++ 'Σ' :: back ∧ startsCased (front.reverse ++ before) = true ∧
    startsCased back = false

/-- A capital sigma ends a word at the first character, or further on. -/
private theorem hasFinalSigma_cons :
    HasFinalSigma before (c :: cs) ↔
      (c = 'Σ' ∧ startsCased before = true ∧ startsCased cs = false) ∨
        HasFinalSigma (c :: before) cs := by
  constructor
  · rintro ⟨front, back, heq, hbefore, hback⟩
    cases front with
    | nil =>
      obtain ⟨rfl, rfl⟩ := List.cons.inj heq
      exact .inl ⟨rfl, hbefore, hback⟩
    | cons first front =>
      obtain ⟨rfl, rfl⟩ := List.cons.inj heq
      exact .inr ⟨front, back, rfl, by simpa using hbefore, hback⟩
  · rintro (⟨rfl, hbefore, hback⟩ | ⟨front, back, rfl, hbefore, hback⟩)
    · exact ⟨[], cs, rfl, hbefore, hback⟩
    · exact ⟨c :: front, back, rfl, by simpa using hbefore, hback⟩

/-- A text is lowered character by character unless it has a final sigma. -/
theorem lowerAfter_eq_flatMap_iff :
    lowerAfter before cs = cs.flatMap lowerChar ↔ ¬ HasFinalSigma before cs := by
  induction cs generalizing before with
  | nil => simp [lowerAfter, HasFinalSigma]
  | cons c rest ih =>
    rw [hasFinalSigma_cons, List.flatMap_cons, not_or]
    by_cases hc : c = 'Σ'
    · subst hc
      rw [lowerAfter, if_pos rfl, lowerChar_sigma, ← ih, List.singleton_append,
        List.singleton_append, List.cons.injEq]
      refine and_congr ?_ Iff.rfl
      cases startsCased before <;> cases startsCased rest <;> simp
    · rw [lowerAfter_cons_of_ne hc, List.append_cancel_left_eq, ih]
      simp [hc]

/-- Lowering a text is lowering its characters just if no capital sigma ends a word. -/
theorem lowerCase_eq_flatMap_iff (cs : List Char) :
    lowerCase cs = cs.flatMap lowerChar ↔ ¬ HasFinalSigma [] cs :=
  lowerAfter_eq_flatMap_iff

end PageScript.Text
