import Mathlib.Data.List.DropRight
import Mathlib.Data.List.TakeDrop
import Mathlib.Data.List.TakeWhile
import Mathlib.Tactic.SplitIfs
import PageScript.Text.Blank
import PageScript.Text.Digit
import PageScript.Text.WordChar

/-!
# Runs and white space

A text is read run by run: characters of one kind, and a rest that does not begin with that kind.
The kinds that matter to a command line never hold white space, so a run of one of them ends where
the white space begins.

The module proves:

* `run_append_inj` — a text has one run of a kind at its front;
* `not_isBlank_of_isDigit`, `not_isBlank_of_isWordChar` — digits and word characters are not white
  space;
* `trimStart_eq_self`, `trimEnd_eq_self`, `trimEnd_append` — what trimming does to a text whose ends
  are known;
* `trimStart_trimEnd` — the ends are trimmed in either order.
-/

namespace PageScript.Text

/-! ### Runs -/

section Runs

variable {α : Type} {p : α → Bool} {run rest : List α}

/-- A run is taken as far as it goes. -/
theorem takeWhile_run (hrun : ∀ c ∈ run, p c = true) (hrest : ∀ c ∈ rest.head?, p c = false) :
    (run ++ rest).takeWhile p = run := by
  rw [List.takeWhile_append_of_pos hrun]
  cases rest with
  | nil => simp
  | cons c cs => simp [hrest c (by simp)]

/-- What is left behind a run is the rest. -/
theorem dropWhile_run (hrun : ∀ c ∈ run, p c = true) (hrest : ∀ c ∈ rest.head?, p c = false) :
    (run ++ rest).dropWhile p = rest := by
  rw [List.dropWhile_append_of_pos hrun]
  cases rest with
  | nil => simp
  | cons c cs => simp [hrest c (by simp)]

/-- A run is split off as far as it goes. -/
theorem span_run (hrun : ∀ c ∈ run, p c = true) (hrest : ∀ c ∈ rest.head?, p c = false) :
    (run ++ rest).span p = (run, rest) := by
  rw [List.span_eq_takeWhile_dropWhile, takeWhile_run hrun hrest, dropWhile_run hrun hrest]

/-- Two ways to cut a text into a run of a kind and a rest that does not begin with that kind
agree. -/
theorem run_append_inj {run' rest' : List α} (h : run ++ rest = run' ++ rest')
    (hrun : ∀ c ∈ run, p c = true) (hrest : ∀ c ∈ rest.head?, p c = false)
    (hrun' : ∀ c ∈ run', p c = true) (hrest' : ∀ c ∈ rest'.head?, p c = false) :
    run = run' ∧ rest = rest' := by
  constructor
  · rw [← takeWhile_run hrun hrest, h, takeWhile_run hrun' hrest']
  · rw [← dropWhile_run hrun hrest, h, dropWhile_run hrun' hrest']

/-- What is left after dropping a run of a kind does not begin with that kind. -/
theorem not_of_mem_head?_dropWhile (l : List α) :
    ∀ c ∈ (l.dropWhile p).head?, p c = false := by
  intro c hc
  have h := List.head?_dropWhile_not p l
  rw [Option.mem_def] at hc
  simpa [hc] using h

end Runs

/-! ### White space among the other classes -/

/-- The code points of white space. -/
def blankCodes : List Nat :=
  [0x09, 0x0A, 0x0B, 0x0C, 0x0D, 0x20, 0x85, 0xA0, 0x1680, 0x2000, 0x2001, 0x2002, 0x2003, 0x2004,
    0x2005, 0x2006, 0x2007, 0x2008, 0x2009, 0x200A, 0x2028, 0x2029, 0x202F, 0x205F, 0x3000]

/-- The blanks are those of the table. -/
theorem isBlank_iff (c : Char) : isBlank c = true ↔ c.toNat ∈ blankCodes := by
  simp only [isBlank, blankCodes, Bool.or_eq_true, Bool.and_eq_true, decide_eq_true_eq,
    List.mem_cons, List.not_mem_nil, or_false]
  omega

/-- A class given by ranges that cover no code point of white space holds no white space. -/
theorem not_isBlank_of_covers {ranges : Ranges} (h : ∀ n ∈ blankCodes, ranges.covers n = false)
    {c : Char} (hc : ranges.covers c.toNat = true) : isBlank c = false := by
  rw [← Bool.not_eq_true, isBlank_iff]
  intro hmem
  rw [h _ hmem] at hc
  cases hc

/-- A text without white space, as far as it can be computed. -/
theorem not_isBlank_of_all {cs : List Char} (h : cs.all (!isBlank ·) = true) :
    ∀ c ∈ cs, isBlank c = false := by
  simpa using h

/-- A digit is no blank. -/
theorem not_isBlank_of_isDigit {c : Char} (h : isDigit c = true) : isBlank c = false :=
  not_isBlank_of_covers (by decide) h

/-- A character of a word is no blank. -/
theorem not_isBlank_of_isWordChar {c : Char} (h : isWordChar c = true) : isBlank c = false :=
  not_isBlank_of_covers (by decide +kernel) h

/-- A quote is no blank. -/
theorem not_isBlank_quote : isBlank '"' = false := by
  decide

/-! ### Trimming -/

/-- A text that starts with no blank is left as it is. -/
theorem trimStart_eq_self {cs : List Char} (h : ∀ c ∈ cs.head?, isBlank c = false) :
    trimStart cs = cs := by
  have hnone : ∀ c ∈ ([] : List Char), isBlank c = true := by simp
  exact dropWhile_run hnone h

/-- The blanks at the end are dropped from the right. -/
theorem trimEnd_eq_rdropWhile (cs : List Char) : trimEnd cs = cs.rdropWhile isBlank := rfl

/-- A text without the blanks at its end is the front of it. -/
theorem trimEnd_prefix_self (cs : List Char) : trimEnd cs <+: cs :=
  List.rdropWhile_prefix isBlank cs

/-- Without the blanks at its end a text starts as before. -/
theorem mem_head?_of_mem_head?_trimEnd {cs : List Char} {c : Char} (h : c ∈ (trimEnd cs).head?) :
    c ∈ cs.head? := by
  obtain ⟨dropped, hdropped⟩ := trimEnd_prefix_self cs
  rw [← hdropped, List.head?_append, h]
  rfl

/-- A text that ends with no blank is left as it is. -/
theorem trimEnd_eq_self {cs : List Char} (h : ∀ c ∈ cs.getLast?, isBlank c = false) :
    trimEnd cs = cs := by
  rw [trimEnd_eq_rdropWhile, List.rdropWhile_eq_self_iff]
  intro hne
  rw [h _ (List.getLast?_eq_some_getLast hne)]
  simp

/-- A text that ends with no blank is left as it is behind any character. -/
theorem trimEnd_cons_eq_self {cs : List Char} (hne : cs ≠ [])
    (h : ∀ c ∈ cs.getLast?, isBlank c = false) (c : Char) : trimEnd (c :: cs) = c :: cs := by
  apply trimEnd_eq_self
  rwa [List.getLast?_cons_of_ne_nil hne]

/-- White space is only dropped behind the last character that is none. -/
theorem trimEnd_append {front : List Char} (h : ∀ c ∈ front.getLast?, isBlank c = false)
    (back : List Char) :
    trimEnd (front ++ back) = front ++ trimEnd back := by
  induction back using List.reverseRecOn with
  | nil => simpa [trimEnd] using trimEnd_eq_self h
  | append_singleton back c ih =>
    rw [trimEnd_eq_rdropWhile, trimEnd_eq_rdropWhile, ← List.append_assoc] at *
    by_cases hc : isBlank c = true
    · rw [List.rdropWhile_concat_pos _ _ _ hc, List.rdropWhile_concat_pos _ _ _ hc]
      exact ih
    · rw [List.rdropWhile_concat_neg _ _ _ hc, List.rdropWhile_concat_neg _ _ _ hc]
      simp

/-- What is trimmed at its end does not end in white space. -/
theorem not_isBlank_of_mem_getLast?_trimEnd (cs : List Char) :
    ∀ c ∈ (trimEnd cs).getLast?, isBlank c = false := by
  intro c hc
  rw [trimEnd, List.getLast?_reverse] at hc
  exact not_of_mem_head?_dropWhile _ c hc

/-- Blanks behind a text are trimmed. -/
theorem trimEnd_append_of_isBlank (cs : List Char) {back : List Char}
    (h : ∀ c ∈ back, isBlank c = true) : trimEnd (cs ++ back) = trimEnd cs := by
  have hback : ∀ c ∈ back.reverse, isBlank c = true := by simpa using h
  rw [trimEnd, List.reverse_append, List.dropWhile_append_of_pos hback, trimEnd]

/-- It makes no difference which end is trimmed first. -/
theorem trimStart_trimEnd (cs : List Char) : trimStart (trimEnd cs) = trim cs := by
  -- Only what stands behind the white space at the front has an end to be trimmed.
  have hlead : ∀ c ∈ cs.takeWhile isBlank, isBlank c = true := fun c hc =>
    List.mem_takeWhile_imp hc
  have hcore : ∀ c ∈ (trimStart cs).head?, isBlank c = false := not_of_mem_head?_dropWhile cs
  have hcut : cs = cs.takeWhile isBlank ++ trimStart cs := List.takeWhile_append_dropWhile.symm
  generalize cs.takeWhile isBlank = lead at hlead hcut
  rw [trim]
  generalize trimStart cs = core at hcore hcut ⊢
  subst hcut
  cases core with
  | nil =>
    have hall : trimEnd (lead ++ []) = [] := by
      rw [List.append_nil, ← List.nil_append lead, trimEnd_append_of_isBlank [] hlead]
      rfl
    rw [hall]
    rfl
  | cons c rest =>
    have hc : isBlank c = false := by simpa using hcore
    have hfront : ∀ front, ∀ d ∈ (front ++ [c]).getLast?, isBlank d = false := by simp [hc]
    have hall : trimEnd (lead ++ c :: rest) = lead ++ ([c] ++ trimEnd rest) := by
      rw [List.append_cons, trimEnd_append (hfront lead), List.append_assoc]
    have hrest : trimEnd (c :: rest) = [c] ++ trimEnd rest := trimEnd_append (hfront []) rest
    rw [hall, hrest]
    exact dropWhile_run hlead (by simpa using hc)

/-- A trimmed text starts with no blank. -/
theorem not_isBlank_of_mem_head?_trim (cs : List Char) :
    ∀ c ∈ (trim cs).head?, isBlank c = false := by
  rw [← trimStart_trimEnd]
  exact not_of_mem_head?_dropWhile _

/-- A trimmed text ends with no blank. -/
theorem not_isBlank_of_mem_getLast?_trim (cs : List Char) :
    ∀ c ∈ (trim cs).getLast?, isBlank c = false :=
  not_isBlank_of_mem_getLast?_trimEnd _

/-- Trimming drops white space at the ends, and nothing else. -/
theorem exists_eq_append_trim (cs : List Char) :
    ∃ front back, cs = front ++ (trim cs ++ back) ∧ (∀ c ∈ front, isBlank c = true) ∧
      ∀ c ∈ back, isBlank c = true := by
  have hend : trimStart cs =
      trim cs ++ ((trimStart cs).reverse.takeWhile isBlank).reverse := by
    rw [trim, trimEnd, ← List.reverse_append, List.takeWhile_append_dropWhile,
      List.reverse_reverse]
  refine ⟨cs.takeWhile isBlank, ((trimStart cs).reverse.takeWhile isBlank).reverse, ?_,
    fun c hc => List.mem_takeWhile_imp hc,
    fun c hc => List.mem_takeWhile_imp (List.mem_reverse.mp hc)⟩
  rw [← hend, trimStart, List.takeWhile_append_dropWhile]

/-- A text without blanks at its ends is left as it is. -/
theorem trim_eq_self {cs : List Char} (hhead : ∀ c ∈ cs.head?, isBlank c = false)
    (hlast : ∀ c ∈ cs.getLast?, isBlank c = false) : trim cs = cs := by
  rw [trim, trimStart_eq_self hhead, trimEnd_eq_self hlast]

/-- Blanks in front of a text are trimmed. -/
theorem trim_append_of_isBlank {front : List Char} (h : ∀ c ∈ front, isBlank c = true)
    (cs : List Char) : trim (front ++ cs) = trim cs := by
  rw [trim, trimStart, List.dropWhile_append_of_pos h]
  rfl

end PageScript.Text
