import PageScript.Grammar.Table
import PageScript.Proofs.Line.NormalForm

/-!
# Lines that fit a pattern

A line fits a form when it is written from arguments of the form's classes, each after a run of
white space. That is said here without saying how a line is read: `Form.Fits` allows every way to
cut the line. Reading finds only ways to fit (`fits_of_mem_fillings`), and it finds every way in
which no argument begins with white space (`mem_fillings_of_fits`).
-/

namespace PageScript.Grammar

open Text

/-- A run of white space in front of an argument. -/
def IsGap (gap : List Char) : Prop :=
  gap ≠ [] ∧ ∀ c ∈ gap, isBlank c = true

/-- A single space is a gap. -/
theorem isGap_space : IsGap [' '] :=
  ⟨by simp, List.forall_mem_singleton.mpr (by decide)⟩

/-- A text is written from arguments of these classes, each after a run of white space; `last` is
the class of the argument that may be left out. -/
inductive Form.Fits : List Slot → Option Slot → List Char → Assignment → Prop
  | done : Fits [] none [] []
  | absent {last : Slot} : Fits [] (some last) [] [none]
  | present {last : Slot} {gap argument : List Char} (hgap : IsGap gap)
      (hargument : last.accepts argument = true) :
      Fits [] (some last) (gap ++ argument) [some argument]
  | needed {slot : Slot} {slots : List Slot} {last : Option Slot} {gap argument rest : List Char}
      {values : Assignment} (hgap : IsGap gap) (hargument : slot.accepts argument = true)
      (hrest : Fits slots last rest values) :
      Fits (slot :: slots) last (gap ++ (argument ++ rest)) (some argument :: values)

/-- What follows the verb is written from the arguments of one of the forms. The arguments of the
forms before and after that one are left out. -/
def Pattern.FitsArguments (p : Pattern) (cs : List Char) (values : Assignment) : Prop :=
  ∃ before form after own, p.forms = before ++ form :: after ∧
    Form.Fits form.needed form.last cs own ∧
    values = placed (Form.sizes before) own (Form.sizes after)

/-- A whole line is written from the verb and arguments. -/
def Pattern.Fits (p : Pattern) (line : List Char) (values : Assignment) : Prop :=
  ∃ cs, line = p.verb.toList ++ cs ∧ p.FitsArguments cs values

/-! ### Arguments of a class -/

namespace Slot

/-- A quoted text is a body without quotes between two of them. -/
theorem isQuoted_iff {cs : List Char} :
    isQuoted cs = true ↔ ∃ body, '"' ∉ body ∧ cs = '"' :: (body ++ ['"']) := by
  constructor
  · intro h
    unfold isQuoted at h
    split at h
    -- The text behind the first quote ends in a quote and holds no other.
    · next rest =>
      obtain ⟨hlast, hbody⟩ : rest.getLast? = some '"' ∧ ∀ c ∈ rest.dropLast, ¬c = '"' := by
        simpa using h
      refine ⟨rest.dropLast, fun hmem => hbody _ hmem rfl, ?_⟩
      rw [List.dropLast_append_getLast? _ hlast]
    · cases h
  · rintro ⟨body, hbody, rfl⟩
    simp only [isQuoted, List.getLast?_append, List.getLast?_singleton, Option.some_or,
      List.dropLast_concat, decide_true, Bool.true_and, List.all_eq_true, decide_eq_true_eq]
    rintro c hc rfl
    exact hbody hc

/-- A selector is quoted and not empty, or has no blank. -/
theorem accepts_selector_iff {cs : List Char} :
    accepts .selector cs = true ↔
      (∃ body, body ≠ [] ∧ '"' ∉ body ∧ cs = '"' :: (body ++ ['"'])) ∨
        (cs ≠ [] ∧ ∀ c ∈ cs, isBlank c = false) := by
  simp only [accepts, Bool.or_eq_true, Bool.and_eq_true, isQuoted_iff, decide_eq_true_eq]
  constructor
  · rintro (⟨⟨body, hbody, rfl⟩, hlength⟩ | hbare)
    -- An empty body would make the argument two quotes, which is too short.
    · refine .inl ⟨body, ?_, hbody, rfl⟩
      rintro rfl
      simp at hlength
    · exact .inr (by simpa using hbare)
  · rintro (⟨body, hne, hbody, rfl⟩ | hbare)
    · refine .inl ⟨⟨body, hbody, rfl⟩, ?_⟩
      have := List.length_pos_iff.mpr hne
      simp
      omega
    · exact .inr (by simpa using hbare)

/-- A word has no blank. -/
theorem accepts_word_iff {cs : List Char} :
    accepts .word cs = true ↔ cs ≠ [] ∧ ∀ c ∈ cs, isBlank c = false := by
  simp [accepts]

/-- A qualified name has only its own characters. -/
theorem accepts_qualifiedName_iff {cs : List Char} :
    accepts .qualifiedName cs = true ↔ cs ≠ [] ∧ ∀ c ∈ cs, isQualifiedNameChar c = true := by
  simp [accepts]

/-- A name has only its own characters. -/
theorem accepts_name_iff {cs : List Char} :
    accepts .name cs = true ↔ cs ≠ [] ∧ ∀ c ∈ cs, isNameChar c = true := by
  simp [accepts]

/-- A text is all that is left of a line. -/
theorem accepts_text_iff {cs : List Char} :
    accepts .text cs = true ↔ cs ≠ [] ∧ ∀ c ∈ cs, c ≠ '\n' := by
  simp [accepts]

/-- One of some words is any of them. -/
theorem accepts_oneOf_iff {words : List String} {cs : List Char} :
    accepts (.oneOf words) cs = true ↔ ∃ word ∈ words, cs = word.toList := by
  simp [accepts]

/-- A text without quotes is a run of characters that are none. -/
theorem forall_ne_quote {body : List Char} (h : '"' ∉ body) :
    ∀ c ∈ body, decide (c ≠ '"') = true := by
  intro c hc
  rw [decide_eq_true_eq]
  rintro rfl
  exact h hc

/-- A quoted argument starts a text just if its closing quote is the first one after the opening
one. -/
theorem mem_quotedStart_iff {cs argument rest : List Char} :
    (argument, rest) ∈ quotedStart cs ↔
      ∃ body, '"' ∉ body ∧ argument = '"' :: (body ++ ['"']) ∧ cs = argument ++ rest := by
  unfold quotedStart
  split
  · next cs =>
    -- The body is the run up to the next quote, so there is one way to split it off.
    rw [List.span_eq_takeWhile_dropWhile]
    constructor
    · intro h
      split at h
      · next body tail hspan =>
        obtain ⟨hbody, htail⟩ := Prod.mk.inj hspan
        obtain ⟨rfl, rfl⟩ := Prod.mk.inj (List.mem_singleton.mp h)
        refine ⟨body, ?_, rfl, ?_⟩
        · rw [← hbody]
          intro hmem
          simpa using List.mem_takeWhile_imp hmem
        · have := List.takeWhile_append_dropWhile (p := (· ≠ '"')) (l := cs)
          rw [hbody, htail] at this
          simp [← this]
      · cases h
    · rintro ⟨body, hbody, rfl, hcs⟩
      have hcs : cs = body ++ '"' :: rest := by simpa using hcs
      rw [hcs, takeWhile_run (forall_ne_quote hbody) (by simp),
        dropWhile_run (forall_ne_quote hbody) (by simp)]
      simp
  · next hquote =>
    constructor
    · intro h
      cases h
    · rintro ⟨body, -, rfl, hcs⟩
      exact absurd hcs (hquote _)

/-- A run starts a text just if it is as long as it can be. -/
theorem mem_runStart_iff {p : Char → Bool} {cs argument rest : List Char} :
    (argument, rest) ∈ runStart p cs ↔
      argument ≠ [] ∧ (∀ c ∈ argument, p c = true) ∧ (∀ c ∈ rest.head?, p c = false) ∧
        cs = argument ++ rest := by
  unfold runStart
  rw [List.span_eq_takeWhile_dropWhile]
  -- A run has one way to start a text, and none if it is empty.
  constructor
  · intro h
    split at h
    · cases h
    · next run tail hrun hspan =>
      obtain ⟨rfl, rfl⟩ := Prod.mk.inj (List.mem_singleton.mp h)
      obtain ⟨rfl, rfl⟩ := Prod.mk.inj hspan
      refine ⟨?_, fun c => List.mem_takeWhile_imp, not_of_mem_head?_dropWhile cs,
        List.takeWhile_append_dropWhile.symm⟩
      exact hrun
  · rintro ⟨hne, hrun, hrest, rfl⟩
    rw [takeWhile_run hrun hrest, dropWhile_run hrun hrest]
    split
    · next h => exact absurd (Prod.mk.inj h).1 hne
    · next h => simpa using h

/-- A number is a run of digits. -/
theorem isNumber_iff {cs : List Char} :
    isNumber cs = true ↔ cs ≠ [] ∧ ∀ c ∈ cs, isDigit c = true := by
  simp [isNumber]

/-- An integer is a number, or a minus sign and a number. -/
theorem isInteger_iff {cs : List Char} :
    isInteger cs = true ↔
      isNumber cs = true ∨ ∃ digits, isNumber digits = true ∧ cs = '-' :: digits := by
  unfold isInteger
  split
  · next digits =>
    -- A minus sign is no digit, so the two alternatives exclude each other.
    have hminus : isNumber ('-' :: digits) = false := by
      have : isDigit '-' = false := by decide
      simp [isNumber, this]
    simp [hminus]
  · next hminus =>
    constructor
    · exact .inl
    · rintro (h | ⟨digits, -, rfl⟩)
      · exact h
      · exact absurd rfl (hminus digits)

/-- A minus sign is no digit, so no run of digits starts there. -/
private theorem runStart_isDigit_minus (cs : List Char) : runStart isDigit ('-' :: cs) = [] := by
  have hminus : isDigit '-' = false := by decide
  simp [runStart, hminus]

/-- An integer is a run of digits, with a minus sign before it or none. -/
theorem mem_splits_integer_iff {cs argument rest : List Char} :
    (argument, rest) ∈ splits .integer cs ↔
      (argument, rest) ∈ runStart isDigit cs ∨
        ∃ digits tail, argument = '-' :: digits ∧ cs = '-' :: tail ∧
          (digits, rest) ∈ runStart isDigit tail := by
  -- Splitting looks for a minus sign first; without one only digits are left.
  by_cases hcs : ∃ tail, cs = '-' :: tail
  · obtain ⟨tail, rfl⟩ := hcs
    rw [splits, runStart_isDigit_minus]
    simp only [List.mem_map, Prod.mk.injEq, List.not_mem_nil, false_or]
    constructor
    · rintro ⟨⟨digits, rest'⟩, hmem, rfl, rfl⟩
      exact ⟨digits, tail, rfl, rfl, hmem⟩
    · rintro ⟨digits, tail', rfl, heq, hmem⟩
      obtain rfl := (List.cons.inj heq).2
      exact ⟨_, hmem, rfl, rfl⟩
  · rw [splits]
    swap
    · exact fun tail htail => hcs ⟨tail, htail⟩
    refine ⟨.inl, ?_⟩
    rintro (h | ⟨digits, tail, -, rfl, -⟩)
    · exact h
    · exact absurd ⟨tail, rfl⟩ hcs

/-- One of some words starts a text just if the text starts with it. -/
theorem mem_splits_oneOf_iff {words : List String} {cs argument rest : List Char} :
    (argument, rest) ∈ splits (.oneOf words) cs ↔
      (∃ word ∈ words, argument = word.toList) ∧ cs = argument ++ rest := by
  rw [splits]
  simp only [List.mem_map, List.mem_filter, Prod.mk.injEq, List.isPrefixOf_iff_prefix]
  constructor
  · rintro ⟨word, ⟨hmem, tail, rfl⟩, rfl, rfl⟩
    exact ⟨⟨word, hmem, rfl⟩, by simp⟩
  · rintro ⟨⟨word, hmem, rfl⟩, rfl⟩
    exact ⟨word, ⟨hmem, rest, rfl⟩, rfl, by simp⟩

/-- What is split off as an argument belongs to the class, and nothing gets lost. -/
theorem accepts_of_mem_splits {slot : Slot} {cs argument rest : List Char}
    (h : (argument, rest) ∈ slot.splits cs) :
    cs = argument ++ rest ∧ slot.accepts argument = true := by
  cases slot with
  | selector =>
    rw [splits, List.mem_append, List.mem_filter, mem_quotedStart_iff, mem_runStart_iff] at h
    rw [accepts_selector_iff]
    rcases h with ⟨⟨body, hbody, rfl, rfl⟩, hlength⟩ | ⟨hne, hrun, -, rfl⟩
    · refine ⟨rfl, .inl ⟨body, ?_, hbody, rfl⟩⟩
      rintro rfl
      simp at hlength
    · exact ⟨rfl, .inr ⟨hne, by simpa using hrun⟩⟩
  | quoted =>
    rw [splits, mem_quotedStart_iff] at h
    obtain ⟨body, hbody, rfl, rfl⟩ := h
    exact ⟨rfl, isQuoted_iff.mpr ⟨body, hbody, rfl⟩⟩
  | integer =>
    rw [mem_splits_integer_iff] at h
    rw [accepts, isInteger_iff, isNumber_iff]
    rcases h with h | ⟨digits, tail, rfl, rfl, h⟩
    · obtain ⟨hne, hrun, -, rfl⟩ := mem_runStart_iff.mp h
      exact ⟨rfl, .inl ⟨hne, hrun⟩⟩
    · obtain ⟨hne, hrun, -, rfl⟩ := mem_runStart_iff.mp h
      exact ⟨rfl, .inr ⟨digits, isNumber_iff.mpr ⟨hne, hrun⟩, rfl⟩⟩
  | oneOf words =>
    obtain ⟨⟨word, hmem, rfl⟩, rfl⟩ := mem_splits_oneOf_iff.mp h
    exact ⟨rfl, accepts_oneOf_iff.mpr ⟨word, hmem, rfl⟩⟩
  -- All other classes split off the longest run of their characters.
  | _ =>
    rw [splits, mem_runStart_iff] at h
    obtain ⟨hne, hrun, -, rfl⟩ := h
    exact ⟨rfl, by simpa [accepts, isNumber, hne] using hrun⟩

/-- A character of a qualified name is no blank. -/
theorem not_isBlank_of_isQualifiedNameChar {c : Char} (h : isQualifiedNameChar c = true) :
    isBlank c = false := by
  simp only [isQualifiedNameChar, Bool.or_eq_true, decide_eq_true_eq] at h
  rcases h with (h | rfl) | rfl
  · exact not_isBlank_of_isWordChar h
  · decide
  · decide

/-- A character of a name is no blank. -/
theorem not_isBlank_of_isNameChar {c : Char} (h : isNameChar c = true) : isBlank c = false := by
  simp only [isNameChar, Bool.or_eq_true, decide_eq_true_eq] at h
  rcases h with h | rfl
  · exact not_isBlank_of_isWordChar h
  · decide

/-- An argument that white space or the end follows is split off; one that is any text, only if the
end follows. -/
theorem mem_splits_of_accepts {slot : Slot} {argument rest : List Char}
    (h : slot.accepts argument = true) (hrest : ∀ c ∈ rest.head?, isBlank c = true)
    (htext : slot = .text → rest = []) : (argument, rest) ∈ slot.splits (argument ++ rest) := by
  -- A run of characters that are no white space ends where the argument does.
  have hstop : ∀ {p : Char → Bool}, (∀ c, p c = true → isBlank c = false) →
      ∀ c ∈ rest.head?, p c = false := by
    intro p hp c hc
    rw [← Bool.not_eq_true]
    intro hpc
    have := hp c hpc
    rw [hrest c hc] at this
    cases this
  have hblank : ∀ c ∈ rest.head?, (!isBlank c) = false := by simpa using hrest
  cases slot with
  | selector =>
    rw [splits, List.mem_append, List.mem_filter, mem_quotedStart_iff, mem_runStart_iff]
    rcases accepts_selector_iff.mp h with ⟨body, hne, hbody, rfl⟩ | ⟨hne, hbare⟩
    · have := List.length_pos_iff.mpr hne
      exact .inl ⟨⟨body, hbody, rfl, rfl⟩, by simp; omega⟩
    · exact .inr ⟨hne, by simpa using hbare, hblank, rfl⟩
  | quoted =>
    obtain ⟨body, hbody, rfl⟩ := isQuoted_iff.mp h
    exact mem_quotedStart_iff.mpr ⟨body, hbody, rfl, rfl⟩
  | integer =>
    have hdigits := hstop fun c => not_isBlank_of_isDigit
    rw [mem_splits_integer_iff]
    rcases isInteger_iff.mp h with h | ⟨digits, h, rfl⟩
    · obtain ⟨hne, hrun⟩ := isNumber_iff.mp h
      exact .inl (mem_runStart_iff.mpr ⟨hne, hrun, hdigits, rfl⟩)
    · obtain ⟨hne, hrun⟩ := isNumber_iff.mp h
      exact .inr ⟨digits, _, rfl, rfl, mem_runStart_iff.mpr ⟨hne, hrun, hdigits, rfl⟩⟩
  | oneOf words =>
    exact mem_splits_oneOf_iff.mpr ⟨accepts_oneOf_iff.mp h, rfl⟩
  | text =>
    obtain rfl := htext rfl
    obtain ⟨hne, hrun⟩ := accepts_text_iff.mp h
    exact mem_runStart_iff.mpr ⟨hne, by simpa using hrun, by simp, rfl⟩
  | word =>
    obtain ⟨hne, hrun⟩ := accepts_word_iff.mp h
    exact mem_runStart_iff.mpr ⟨hne, by simpa using hrun, hblank, rfl⟩
  | number =>
    obtain ⟨hne, hrun⟩ := isNumber_iff.mp h
    exact mem_runStart_iff.mpr ⟨hne, hrun, hstop fun c => not_isBlank_of_isDigit, rfl⟩
  | qualifiedName =>
    obtain ⟨hne, hrun⟩ := accepts_qualifiedName_iff.mp h
    exact mem_runStart_iff.mpr
      ⟨hne, hrun, hstop fun c => not_isBlank_of_isQualifiedNameChar, rfl⟩
  | name =>
    obtain ⟨hne, hrun⟩ := accepts_name_iff.mp h
    exact mem_runStart_iff.mpr ⟨hne, hrun, hstop fun c => not_isBlank_of_isNameChar, rfl⟩

/-- The arguments of the class hold no white space. -/
def isSolid : Slot → Bool
  | .word | .number | .integer | .qualifiedName | .name => true
  | .oneOf words => words.all fun word => !word.toList.isEmpty && word.toList.all (!isBlank ·)
  | .selector | .quoted | .text => false

/-- The arguments of the class do not begin with white space. -/
def isClosed (slot : Slot) : Bool :=
  slot.isSolid || slot = .selector || slot = .quoted

/-- An argument of a solid slot has no blank anywhere. -/
theorem not_isBlank_of_isSolid {slot : Slot} (hslot : slot.isSolid = true) {argument : List Char}
    (h : slot.accepts argument = true) : argument ≠ [] ∧ ∀ c ∈ argument, isBlank c = false := by
  cases slot with
  | word => exact accepts_word_iff.mp h
  | number =>
    obtain ⟨hne, hrun⟩ := isNumber_iff.mp h
    exact ⟨hne, fun c hc => not_isBlank_of_isDigit (hrun c hc)⟩
  | integer =>
    rcases isInteger_iff.mp h with h | ⟨digits, h, rfl⟩
    · obtain ⟨hne, hrun⟩ := isNumber_iff.mp h
      exact ⟨hne, fun c hc => not_isBlank_of_isDigit (hrun c hc)⟩
    · refine ⟨by simp, fun c hc => ?_⟩
      rcases List.mem_cons.mp hc with rfl | hc
      · decide
      · exact not_isBlank_of_isDigit ((isNumber_iff.mp h).2 c hc)
  | qualifiedName =>
    obtain ⟨hne, hrun⟩ := accepts_qualifiedName_iff.mp h
    exact ⟨hne, fun c hc => not_isBlank_of_isQualifiedNameChar (hrun c hc)⟩
  | name =>
    obtain ⟨hne, hrun⟩ := accepts_name_iff.mp h
    exact ⟨hne, fun c hc => not_isBlank_of_isNameChar (hrun c hc)⟩
  | oneOf words =>
    obtain ⟨word, hmem, rfl⟩ := accepts_oneOf_iff.mp h
    simpa using List.all_eq_true.mp hslot word hmem
  -- The other slots are not solid: what is quoted may have blanks, and a text too.
  | selector => cases hslot
  | quoted => cases hslot
  | text => cases hslot

/-- An argument of a closed slot starts with no blank. -/
theorem not_isBlank_of_isClosed {slot : Slot} (hslot : slot.isClosed = true)
    {argument : List Char} (h : slot.accepts argument = true) :
    argument ≠ [] ∧ ∀ c ∈ argument.head?, isBlank c = false := by
  -- Either no character is white space, or the first one is a quote.
  have hsolid : (argument ≠ [] ∧ ∀ c ∈ argument, isBlank c = false) →
      argument ≠ [] ∧ ∀ c ∈ argument.head?, isBlank c = false :=
    fun ⟨hne, hrun⟩ => ⟨hne, fun c hc => hrun c (List.mem_of_mem_head? hc)⟩
  simp only [isClosed, Bool.or_eq_true, decide_eq_true_eq] at hslot
  rcases hslot with (hslot | rfl) | rfl
  · exact hsolid (not_isBlank_of_isSolid hslot h)
  · rcases accepts_selector_iff.mp h with ⟨body, -, -, rfl⟩ | hbare
    · simpa using not_isBlank_quote
    · exact hsolid hbare
  · obtain ⟨body, -, rfl⟩ := isQuoted_iff.mp h
    simpa using not_isBlank_quote

end Slot

/-! ### Arguments of a form -/

namespace Form

/-- What starts with no blank still does when something follows. -/
theorem head?_append_of_ne_nil {argument : List Char} (hne : argument ≠ [])
    (h : ∀ c ∈ argument.head?, isBlank c = false) (rest : List Char) :
    ∀ c ∈ (argument ++ rest).head?, isBlank c = false := by
  obtain ⟨d, argument, rfl⟩ := List.exists_cons_of_ne_nil hne
  simpa using h

/-- What comes after a gap is found just if the gap ends there. -/
theorem afterGap?_eq_some_iff {cs rest : List Char} :
    afterGap? cs = some rest ↔
      (∃ gap, IsGap gap ∧ cs = gap ++ rest) ∧ ∀ c ∈ rest.head?, isBlank c = false := by
  constructor
  · intro h
    cases cs with
    | nil => cases h
    | cons c cs =>
      rw [afterGap?] at h
      split_ifs at h with hc
      obtain rfl := Option.some.inj h
      refine ⟨⟨c :: cs.takeWhile isBlank, ⟨by simp, ?_⟩, ?_⟩, not_of_mem_head?_dropWhile cs⟩
      · intro d hd
        rcases List.mem_cons.mp hd with rfl | hd
        · exact hc
        · exact List.mem_takeWhile_imp hd
      · rw [List.cons_append, trimStart, List.takeWhile_append_dropWhile]
  -- The gap cannot be a part of the run only: what follows it is no white space.
  · rintro ⟨⟨gap, ⟨hne, hblank⟩, rfl⟩, hrest⟩
    obtain ⟨c, gap, rfl⟩ := List.exists_cons_of_ne_nil hne
    rw [List.cons_append, afterGap?, if_pos (hblank c (by simp)), trimStart,
      dropWhile_run (fun d hd => hblank d (by simp [hd])) hrest]

/-- What is read as the arguments of a form fits the form. -/
theorem fits_of_mem_fillings {slots : List Slot} {last : Option Slot} {cs : List Char}
    {values : Assignment} (h : values ∈ fillings slots last cs) : Fits slots last cs values := by
  -- The recursion of the reader is on the classes that are still needed.
  induction slots generalizing cs values with
  | nil =>
    cases last with
    | none =>
      rw [fillings] at h
      split_ifs at h with hcs
      · rw [List.mem_singleton.mp h, List.isEmpty_iff.mp hcs]
        exact .done
      · cases h
    | some last =>
      rw [fillings, List.mem_append] at h
      rcases h with h | h
      · split at h
        · cases h
        · next rest hafter =>
          obtain ⟨⟨gap, hgap, rfl⟩, -⟩ := afterGap?_eq_some_iff.mp hafter
          obtain ⟨⟨argument, tail⟩, hsplit, rfl⟩ := List.mem_map.mp h
          obtain ⟨hsplit, htail⟩ := List.mem_filter.mp hsplit
          obtain ⟨rfl, hargument⟩ := Slot.accepts_of_mem_splits hsplit
          obtain rfl : tail = [] := List.isEmpty_iff.mp htail
          rw [List.append_nil]
          exact .present hgap hargument
      · split_ifs at h with hcs
        · rw [List.mem_singleton.mp h, List.isEmpty_iff.mp hcs]
          exact .absent
        · cases h
  | cons slot slots ih =>
    rw [fillings] at h
    split at h
    · cases h
    · next rest hafter =>
      obtain ⟨⟨gap, hgap, rfl⟩, -⟩ := afterGap?_eq_some_iff.mp hafter
      obtain ⟨⟨argument, tail⟩, hsplit, h⟩ := List.mem_flatMap.mp h
      obtain ⟨values, htail, rfl⟩ := List.mem_map.mp h
      obtain ⟨rfl, hargument⟩ := Slot.accepts_of_mem_splits hsplit
      exact .needed hgap hargument (ih htail)

/-- What follows an argument is nothing or begins with white space. -/
theorem Fits.isBlank_of_mem_head? {slots : List Slot} {last : Option Slot} {cs : List Char}
    {values : Assignment} (h : Fits slots last cs values) : ∀ c ∈ cs.head?, isBlank c = true := by
  have hgap : ∀ {gap rest : List Char}, IsGap gap →
      ∀ c ∈ (gap ++ rest).head?, isBlank c = true := by
    rintro gap rest ⟨hne, hblank⟩
    obtain ⟨d, gap, rfl⟩ := List.exists_cons_of_ne_nil hne
    simpa using hblank d (by simp)
  cases h with
  | done => simp
  | absent => simp
  | present h => exact hgap h
  | needed h => exact hgap h

/-- A way to fit a form is found when no argument begins with white space. -/
theorem mem_fillings_of_fits {slots : List Slot} {last : Option Slot} {cs : List Char}
    {values : Assignment} (h : Fits slots last cs values)
    (hslots : ∀ slot ∈ slots ++ last.toList, slot.isClosed = true) :
    values ∈ fillings slots last cs := by
  -- The induction is on the way to fit. An argument that does not begin with white space is found
  -- where its gap ends.
  induction h with
  | done => simp [fillings]
  | absent => simp [fillings]
  | @present last gap argument hgap hargument =>
    have hclosed := hslots last (by simp)
    obtain ⟨-, hhead⟩ := Slot.not_isBlank_of_isClosed hclosed hargument
    have hsplit : (argument, []) ∈ last.splits (argument ++ []) :=
      Slot.mem_splits_of_accepts hargument (by simp) fun _ => rfl
    rw [fillings, afterGap?_eq_some_iff.mpr ⟨⟨gap, hgap, rfl⟩, hhead⟩, List.mem_append]
    rw [List.append_nil] at hsplit
    exact .inl (List.mem_map.mpr ⟨_, List.mem_filter.mpr ⟨hsplit, rfl⟩, rfl⟩)
  | @needed slot slots last gap argument rest values hgap hargument hrest ih =>
    have hclosed := hslots slot (by simp)
    obtain ⟨hne, hhead⟩ := Slot.not_isBlank_of_isClosed hclosed hargument
    have hhead := head?_append_of_ne_nil hne hhead rest
    -- The next gap, or the end of the line, follows the argument.
    have hsplit := Slot.mem_splits_of_accepts hargument hrest.isBlank_of_mem_head?
      (by rintro rfl; cases hclosed)
    rw [fillings, afterGap?_eq_some_iff.mpr ⟨⟨gap, hgap, rfl⟩, hhead⟩]
    refine List.mem_flatMap.mpr ⟨_, hsplit, List.mem_map.mpr ⟨values, ?_, rfl⟩⟩
    exact ih fun slot hslot => hslots slot (by simp at hslot ⊢; tauto)

end Form

end PageScript.Grammar
