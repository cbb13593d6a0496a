import PageScript.Proofs.Text.LowerCase
import PageScript.Text.Alphanumeric

/-!
# Alphanumeric characters in lower case

A character that is lowered to another one has a case, and so has the other one; and every character
with a case is alphanumeric. So lowering a text character by character leaves the places of its
alphanumeric characters as they are.

* `isAlphanumeric_of_isCased` — a character with a case is alphanumeric;
* `isAlphanumeric_lowerOne` — lowering a character keeps it alphanumeric or not;
* `not_isAlphanumeric_of_isBlank` — white space is not alphanumeric.
-/

namespace PageScript.Text

/-! ### Ranges within ranges -/

variable {ranges : Ranges} {a b first last step n : Nat}

/-- The ranges from the first one on that does not end before a code point. -/
def Ranges.reaching (ranges : Ranges) (n : Nat) : Ranges :=
  ranges.dropWhile fun range => Nat.blt range.2 n

/-- Whether the first range that does not end before `b` holds all code points from `a` to `b`. -/
def Ranges.spans (ranges : Ranges) (a b : Nat) : Bool :=
  match ranges.reaching b with
  | [] => false
  | (first, _) :: _ => Nat.ble first a

/-- Whether the ranges hold every `step`-th code point from `first` to `last`. -/
def Ranges.holdsRun (ranges : Ranges) (first last step : Nat) : Bool :=
  ranges.spans first last ||
    (List.range' first ((last - first) / step + 1) step).all ranges.covers

/-- Whether each of the ranges lies in one of the others. Both are searched once, in order. -/
def Ranges.liesIn : Ranges → Ranges → Bool
  | [], _ => true
  | (a, b) :: more, others =>
    match others.reaching b with
    | [] => false
    | (first, last) :: rest => Nat.ble first a && liesIn more ((first, last) :: rest)

/-- Whether no range begins before the one that it follows, the first one not before `start`. -/
def Ranges.ascendsFrom : Nat → Ranges → Bool
  | _, [] => true
  | start, (first, _) :: rest => Nat.ble start first && ascendsFrom first rest

/-- The ranges that reach a code are among the ranges, and the first of them ends at it or behind
it. -/
theorem Ranges.le_of_reaching {rest : Ranges} (h : ranges.reaching n = (first, last) :: rest) :
    n ≤ last ∧ (first, last) :: rest ⊆ ranges := by
  have hstop : Nat.blt last n = false :=
    not_of_mem_head?_dropWhile ranges (first, last) (Option.mem_def.mpr (congrArg List.head? h))
  refine ⟨?_, h ▸ (List.dropWhile_sublist _).subset⟩
  rw [← Nat.not_lt, ← Nat.blt_eq, hstop]
  exact Bool.false_ne_true

/-- A stretch that is spanned lies in one range. -/
private theorem Ranges.exists_mem_of_spans (h : ranges.spans a b = true) :
    ∃ range ∈ ranges, range.1 ≤ a ∧ b ≤ range.2 := by
  rw [spans] at h
  split at h
  · cases h
  · next first last rest heq =>
    obtain ⟨hle, hsubset⟩ := le_of_reaching heq
    exact ⟨(first, last), hsubset (.head _), Nat.le_of_ble_eq_true h, hle⟩

/-- Ranges that lie in others do so one by one. -/
private theorem Ranges.exists_mem_of_liesIn {others : Ranges} (h : ranges.liesIn others = true) :
    ∀ range ∈ ranges, ∃ other ∈ others, other.1 ≤ range.1 ∧ range.2 ≤ other.2 := by
  induction ranges generalizing others with
  | nil => exact List.forall_mem_nil _
  | cons range more ih =>
    obtain ⟨a, b⟩ := range
    rw [liesIn] at h
    split at h
    · cases h
    · next first last rest heq =>
      obtain ⟨hle, hsubset⟩ := le_of_reaching heq
      rw [Bool.and_eq_true, Nat.ble_eq] at h
      refine List.forall_mem_cons.mpr ⟨⟨_, hsubset (.head _), h.1, hle⟩, fun range hmem => ?_⟩
      obtain ⟨other, hother, hwithin⟩ := ih h.2 range hmem
      exact ⟨other, hsubset hother, hwithin⟩

/-- A code that is covered lies in a range. -/
private theorem Ranges.exists_mem_of_covers (h : ranges.covers n = true) :
    ∃ range ∈ ranges, range.1 ≤ n ∧ n ≤ range.2 := by
  induction ranges with
  | nil => cases h
  | cons range rest ih =>
    obtain ⟨a, b⟩ := range
    rw [covers] at h
    split_ifs at h with hlow
    rcases Bool.or_eq_true_iff.mp h with hle | h
    · exact ⟨(a, b), .head _, by simpa using hlow, of_decide_eq_true hle⟩
    · obtain ⟨range, hmem, hrange⟩ := ih h
      exact ⟨range, .tail _ hmem, hrange⟩

/-- In ascending ranges none starts before the first one may. -/
private theorem Ranges.le_of_ascendsFrom {start : Nat} (h : ranges.ascendsFrom start = true) :
    ∀ range ∈ ranges, start ≤ range.1 := by
  induction ranges generalizing start with
  | nil => exact List.forall_mem_nil _
  | cons range rest ih =>
    obtain ⟨first, last⟩ := range
    simp only [ascendsFrom, Bool.and_eq_true, Nat.ble_eq] at h
    exact List.forall_mem_cons.mpr ⟨h.1, fun range hmem => h.1.trans (ih h.2 range hmem)⟩

/-- In ascending ranges the search for a code point does not stop too early. -/
theorem Ranges.covers_of_mem {start : Nat} (h : ranges.ascendsFrom start = true)
    {range : Nat × Nat} (hmem : range ∈ ranges) (hfirst : range.1 ≤ n) (hlast : n ≤ range.2) :
    ranges.covers n = true := by
  induction ranges generalizing start with
  | nil => cases hmem
  | cons head rest ih =>
    obtain ⟨a, b⟩ := head
    simp only [ascendsFrom, Bool.and_eq_true, Nat.ble_eq] at h
    rcases List.mem_cons.mp hmem with rfl | hmem
    · rw [covers, if_neg (Nat.not_lt.mpr hfirst), decide_eq_true hlast, Bool.true_or]
    · have hlow : a ≤ n := (le_of_ascendsFrom h.2 range hmem).trans hfirst
      rw [covers, if_neg (Nat.not_lt.mpr hlow), ih h.2 hmem, Bool.or_true]

/-- A run with a step that ascending ranges hold has each of its codes covered. -/
theorem Ranges.covers_of_holdsRun {start : Nat} (hascends : ranges.ascendsFrom start = true)
    (h : ranges.holdsRun first last step = true) (hfirst : first ≤ n) (hlast : n ≤ last)
    (hstep : (n - first) % step = 0) : ranges.covers n = true := by
  rw [holdsRun, Bool.or_eq_true] at h
  rcases h with h | h
  · obtain ⟨range, hmem, hle, hge⟩ := exists_mem_of_spans h
    exact covers_of_mem hascends hmem (hle.trans hfirst) (hlast.trans hge)
  · refine List.all_eq_true.mp h n (List.mem_range'.mpr ⟨(n - first) / step, ?_, ?_⟩)
    · exact Nat.lt_succ_of_le (Nat.div_le_div_right (Nat.sub_le_sub_right hlast first))
    · have := Nat.div_add_mod (n - first) step
      omega

/-! ### Characters with a case -/

/-- The ranges of the letters with case ascend. -/
theorem ascendsFrom_casedRanges : Ranges.ascendsFrom 0 casedRanges = true := by
  decide

/-- The ranges of the alphanumeric characters ascend. -/
private theorem ascendsFrom_alphanumericRanges :
    Ranges.ascendsFrom 0 alphanumericRanges = true := by
  decide +kernel

/-- Every letter with case is among the alphanumeric characters. -/
private theorem liesIn_casedRanges : casedRanges.liesIn alphanumericRanges = true := by
  decide

/-- The runs of upper-case code points have a case, and so does what they are lowered to. -/
theorem holdsRun_lowerRuns : (lowerRuns.all fun (first, last, step, offset) =>
    casedRanges.holdsRun first last step &&
      casedRanges.holdsRun (first + offset).toNat (last + offset).toNat step) = true := by
  decide +kernel

/-- A code point that is lowered to another one has a case, and so has that one. -/
theorem covers_of_lowerCode_ne (h : lowerCode n lowerRuns ≠ n) :
    casedRanges.covers n = true ∧ casedRanges.covers (lowerCode n lowerRuns) = true := by
  rcases lowerCode_cases n lowerRuns with
    hself | ⟨first, last, step, offset, hrun, hfirst, hlast, hstep, hcode⟩
  · exact absurd hself h
  · have hpos : 0 ≤ (first : Int) + offset := (isValidChar_lowerRuns _ hrun).1
    have hholds := List.all_eq_true.mp holdsRun_lowerRuns _ hrun
    simp only [Bool.and_eq_true] at hholds
    refine ⟨Ranges.covers_of_holdsRun ascendsFrom_casedRanges hholds.1 hfirst hlast hstep, ?_⟩
    have hdistance : (n + offset).toNat - (first + offset).toNat = n - first := by omega
    rw [hcode]
    exact Ranges.covers_of_holdsRun ascendsFrom_casedRanges hholds.2 (by omega) (by omega)
      (by rw [hdistance, hstep])

/-- A character with case is alphanumeric. -/
theorem isAlphanumeric_of_isCased {c : Char} (h : isCased c = true) : isAlphanumeric c = true := by
  obtain ⟨range, hmem, hfirst, hlast⟩ := Ranges.exists_mem_of_covers h
  obtain ⟨other, hother, hle, hge⟩ := Ranges.exists_mem_of_liesIn liesIn_casedRanges range hmem
  exact Ranges.covers_of_mem ascendsFrom_alphanumericRanges hother (hle.trans hfirst)
    (hlast.trans hge)

/-- Lowering a character keeps it alphanumeric or not. -/
theorem isAlphanumeric_lowerOne (c : Char) : isAlphanumeric (lowerOne c) = isAlphanumeric c := by
  by_cases h : lowerCode c.toNat lowerRuns = c.toNat
  · rw [lowerOne, h, Char.ofNat_toNat]
  -- A character that is changed has a case, before and after, and so it is alphanumeric.
  · obtain ⟨hupper, hlower⟩ := covers_of_lowerCode_ne h
    rw [← toNat_lowerOne] at hlower
    rw [isAlphanumeric_of_isCased hupper, isAlphanumeric_of_isCased hlower]

/-- A blank is not alphanumeric. -/
theorem not_isAlphanumeric_of_isBlank {c : Char} (h : isBlank c = true) :
    isAlphanumeric c = false := by
  have hcodes : ∀ n ∈ blankCodes, alphanumericRanges.covers n = false := by decide +kernel
  exact hcodes _ ((isBlank_iff c).mp h)

end PageScript.Text
