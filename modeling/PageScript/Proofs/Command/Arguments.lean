import PageScript.Command.Display
import PageScript.Proofs.Grammar.Reading
import PageScript.Proofs.Text.Digit

/-!
# Arguments that read back

What is assigned to the arguments of a form is found argument by argument: after one space, an
argument of a class is cut off in front of the white space that follows it, and it is read back as
the text it was written for.

* `Form.assigns_singleton_iff` — a form with one argument;
* `Form.assigns_solid_iff` — an argument without white space is read as it is;
* `Form.assigns_inQuotes_iff` — a text in quotes is read back if it holds no quote;
* `Form.assigns_selector_iff` — a selector is read back exactly if it is an `IsSelectorText`.
-/

namespace PageScript.Grammar

open Text Line

/-! ### Quotes around a text -/

/-- Quotes that are put around a text are stripped again. -/
theorem stripQuotes_quoted (body : List Char) : stripQuotes ('"' :: (body ++ ['"'])) = body := by
  simp [stripQuotes]

/-- A text in quotes, as a list. -/
theorem toList_inQuotes (s : String) : (inQuotes s).toList = '"' :: (s.toList ++ ['"']) := by
  simp [inQuotes, String.toList_append]

/-- A text in quotes is read back. -/
theorem stripQuotes_inQuotes (s : String) : stripQuotes (inQuotes s).toList = s.toList := by
  rw [toList_inQuotes, stripQuotes_quoted]

/-- A text in quotes does not begin or end with white space. -/
theorem inQuotes_edges (s : String) : (inQuotes s).toList ≠ [] ∧
    (∀ c ∈ (inQuotes s).toList.head?, isBlank c = false) ∧
      ∀ c ∈ (inQuotes s).toList.getLast?, isBlank c = false := by
  rw [toList_inQuotes]
  refine ⟨by simp, by simpa using not_isBlank_quote, ?_⟩
  rw [← List.cons_append, List.getLast?_concat]
  simpa using not_isBlank_quote

/-- Dropping quotes leaves a text as it is, or drops its first and its last character. -/
theorem stripQuotes_cases (cs : List Char) :
    stripQuotes cs = cs ∨ ∃ first last, cs = first :: (stripQuotes cs ++ [last]) := by
  cases cs with
  | nil => exact .inl rfl
  | cons c cs =>
    by_cases h : (c = '"' ∨ c = '\'') ∧ cs.getLast? = some c
    · refine .inr ⟨c, c, ?_⟩
      rw [stripQuotes, if_pos h, List.dropLast_append_getLast? _ h.2]
    · exact .inl (by rw [stripQuotes, if_neg h])

/-- Stripping quotes adds no character. -/
theorem mem_of_mem_stripQuotes {cs : List Char} {c : Char} (h : c ∈ stripQuotes cs) : c ∈ cs := by
  rcases stripQuotes_cases cs with heq | ⟨first, last, heq⟩
  · rwa [heq] at h
  · rw [heq]
    simp [h]

/-- A text that is not longer than what is left of it without quotes had none around it. -/
theorem stripQuotes_eq_self_of_length_le {cs : List Char}
    (h : cs.length ≤ (stripQuotes cs).length) : stripQuotes cs = cs := by
  rcases stripQuotes_cases cs with heq | ⟨first, last, heq⟩
  · exact heq
  · have := congrArg List.length heq
    simp only [List.length_cons, List.length_append, List.length_nil] at this
    omega

/-! ### Assignments of a form -/

namespace Form

variable {slot : Slot} {slots : List Slot} {last : Option Slot} {cs rest : List Char}
  {values : Assignment}

/-- A text fits the form, and these are its arguments without the quotes around them. -/
def Assigns (slots : List Slot) (last : Option Slot) (cs : List Char) (values : Assignment) :
    Prop :=
  ∃ written, Fits slots last cs written ∧ values = stripped written

/-- Without slots only the empty text is read. -/
theorem assigns_nil_iff : Assigns [] none cs values ↔ cs = [] ∧ values = [] := by
  constructor
  · rintro ⟨written, h, rfl⟩
    cases h
    exact ⟨rfl, rfl⟩
  · rintro ⟨rfl, rfl⟩
    exact ⟨[], .done, rfl⟩

/-- Where nothing is left, the last slot has no value. -/
theorem assigns_absent_iff : Assigns [] (some slot) [] values ↔ values = [none] := by
  constructor
  · rintro ⟨written, h, rfl⟩
    generalize hcs : ([] : List Char) = cs at h
    cases h with
    | absent => rfl
    | present hgap => exact absurd (List.append_eq_nil_iff.mp hcs.symm).1 hgap.1
  · rintro rfl
    exact ⟨[none], .absent, rfl⟩

/-- An argument that may be left out is read as one that must be there, if anything is. -/
theorem assigns_present_iff (hcs : cs ≠ []) :
    Assigns [] (some slot) cs values ↔ Assigns [slot] none cs values := by
  constructor
  · rintro ⟨written, h, rfl⟩
    cases h with
    | absent => exact absurd rfl hcs
    | present hgap hargument =>
      have := Fits.needed hgap hargument Fits.done
      rw [List.append_nil] at this
      exact ⟨_, this, rfl⟩
  · rintro ⟨written, h, rfl⟩
    cases h with
    | needed hgap hargument hrest =>
      cases hrest
      rw [List.append_nil]
      exact ⟨_, .present hgap hargument, rfl⟩

/-- An argument that must be there has a value, and the others have values of their own. -/
theorem Assigns.exists_eq_cons (h : Assigns (slot :: slots) last cs values) :
    ∃ value others rest, values = some value :: others ∧ Assigns slots last rest others := by
  obtain ⟨written, h, rfl⟩ := h
  cases h with
  | needed hgap hargument hrest => exact ⟨_, _, _, rfl, _, hrest, rfl⟩

/-- A slot that has to be filled is not filled by nothing. -/
theorem not_assigns_cons_nil : ¬ Assigns (slot :: slots) last [] values := by
  rintro ⟨written, h, -⟩
  generalize hcs : ([] : List Char) = cs at h
  cases h with
  | needed hgap => exact hgap.1 (List.append_eq_nil_iff.mp hcs.symm).1

/-- The last slot has one value. -/
theorem Assigns.exists_eq_singleton (h : Assigns [] (some slot) cs values) :
    ∃ value, values = [value] := by
  obtain ⟨written, h, rfl⟩ := h
  cases h with
  | absent => exact ⟨_, rfl⟩
  | present => exact ⟨_, rfl⟩

/-- After one space, a form begins with an argument that does. -/
theorem fits_cons_iff (hslot : slot.isClosed = true) (hcs : ∀ c ∈ cs.head?, isBlank c = false)
    {written : Assignment} :
    Fits (slot :: slots) last (' ' :: cs) written ↔
      ∃ argument rest others, cs = argument ++ rest ∧ written = some argument :: others ∧
        slot.accepts argument = true ∧ Fits slots last rest others := by
  constructor
  · intro h
    generalize hline : ' ' :: cs = line at h
    cases h with
    | @needed _ _ _ gap argument rest others hgap hargument hrest =>
      obtain ⟨hne, hhead⟩ := Slot.not_isBlank_of_isClosed hslot hargument
      -- The gap is the one space, since the argument does not begin with white space.
      have hcut : cs = argument ++ rest :=
        gap_append_inj isGap_space hgap hline hcs (head?_append_of_ne_nil hne hhead rest)
      exact ⟨argument, rest, others, hcut, rfl, hargument, hrest⟩
  · rintro ⟨argument, rest, others, rfl, rfl, hargument, hrest⟩
    exact .needed isGap_space hargument hrest

/-- A closed slot takes a beginning of the arguments, up to a blank or the end. -/
theorem assigns_cons_iff (hslot : slot.isClosed = true)
    (hcs : ∀ c ∈ cs.head?, isBlank c = false) :
    Assigns (slot :: slots) last (' ' :: cs) values ↔
      ∃ argument rest others, cs = argument ++ rest ∧
        values = some (stripQuotes argument) :: others ∧ slot.accepts argument = true ∧
        Assigns slots last rest others := by
  constructor
  · rintro ⟨written, h, rfl⟩
    obtain ⟨argument, rest, others, hcut, rfl, hargument, hrest⟩ := (fits_cons_iff hslot hcs).mp h
    exact ⟨argument, rest, _, hcut, rfl, hargument, others, hrest, rfl⟩
  · rintro ⟨argument, rest, _, hcut, rfl, hargument, others, hrest, rfl⟩
    exact ⟨some argument :: others,
      (fits_cons_iff hslot hcs).mpr ⟨argument, rest, others, hcut, rfl, hargument, hrest⟩, rfl⟩

/-- After the arguments that have been read there is a blank, or nothing. -/
theorem Assigns.isBlank_of_mem_head? (h : Assigns slots last rest values) :
    ∀ c ∈ rest.head?, isBlank c = true := by
  obtain ⟨written, h, -⟩ := h
  exact h.isBlank_of_mem_head?

/-- A form with one argument reads all that follows the space. -/
theorem assigns_singleton_iff (hslot : slot.isClosed = true)
    (hcs : ∀ c ∈ cs.head?, isBlank c = false) :
    Assigns [slot] none (' ' :: cs) values ↔
      slot.accepts cs = true ∧ values = [some (stripQuotes cs)] := by
  rw [assigns_cons_iff hslot hcs]
  constructor
  · rintro ⟨argument, rest, others, rfl, rfl, hargument, hrest⟩
    obtain ⟨rfl, rfl⟩ := assigns_nil_iff.mp hrest
    rw [List.append_nil]
    exact ⟨hargument, rfl⟩
  · rintro ⟨hargument, rfl⟩
    exact ⟨cs, [], [], by simp, rfl, hargument, assigns_nil_iff.mpr ⟨rfl, rfl⟩⟩

/-- A form that is any text reads all that follows the space. -/
theorem assigns_text_iff (hcs : ∀ c ∈ cs.head?, isBlank c = false) :
    Assigns [.text] none (' ' :: cs) values ↔
      Slot.accepts .text cs = true ∧ values = [some (stripQuotes cs)] := by
  have hpart : IsArgumentPart (' ' :: cs) := .inr ⟨cs, rfl, hcs⟩
  constructor
  · rintro ⟨written, h, rfl⟩
    obtain ⟨argument, heq, hargument, rfl⟩ := (fits_text_iff hpart).mp h
    obtain rfl := (List.cons.inj heq).2
    exact ⟨hargument, rfl⟩
  · rintro ⟨hargument, rfl⟩
    exact ⟨[some cs], (fits_text_iff hpart).mpr ⟨cs, rfl, hargument, rfl⟩, rfl⟩

/-- An argument without white space and quotes around it is read as it is. -/
theorem assigns_solid_iff (hslot : slot.isSolid = true) {argument : List Char}
    (hargument : slot.accepts argument = true) (hstrip : stripQuotes argument = argument)
    (hrest : ∀ c ∈ rest.head?, isBlank c = true) :
    Assigns (slot :: slots) last (' ' :: (argument ++ rest)) values ↔
      ∃ others, values = some argument :: others ∧ Assigns slots last rest others := by
  have hclosed : slot.isClosed = true := by simp [Slot.isClosed, hslot]
  have hcs := Slot.not_isBlank_of_isClosed hclosed hargument
  rw [assigns_cons_iff hclosed (head?_append_of_ne_nil hcs.1 hcs.2 rest)]
  constructor
  · rintro ⟨argument', rest', others, hcut, rfl, hargument', hothers⟩
    -- The class is not that of selectors, so the quotes behind the argument do not matter.
    have hne : slot = .selector → rest.count '"' % 2 = 0 ∧ rest'.count '"' % 2 = 0 := by
      rintro rfl
      cases hslot
    obtain ⟨rfl, rfl⟩ := Slot.append_inj hclosed hcut hargument hargument' hrest
      hothers.isBlank_of_mem_head? hne
    exact ⟨others, by rw [hstrip], hothers⟩
  · rintro ⟨others, rfl, hothers⟩
    exact ⟨argument, rest, others, rfl, by rw [hstrip], hargument, hothers⟩

/-- A text in quotes is read back if it holds no quote. -/
theorem assigns_inQuotes_iff {s : String} :
    Assigns [.quoted] none (' ' :: (inQuotes s).toList) [some s.toList] ↔ '"' ∉ s.toList := by
  rw [assigns_singleton_iff (by rfl) (inQuotes_edges s).2.1, stripQuotes_inQuotes, Slot.accepts,
    Slot.isQuoted_iff, toList_inQuotes]
  constructor
  · rintro ⟨⟨body, hbody, heq⟩, -⟩
    have : s.toList = body := by simpa using heq
    rwa [this]
  · intro hs
    exact ⟨⟨s.toList, hs, rfl⟩, rfl⟩

end Form

/-! ### Classes of characters -/

/-- A text of a class without quotes has no quotes around it. -/
theorem stripQuotes_of_forall {p : Char → Bool} (hp : p '"' = false ∧ p '\'' = false)
    {cs : List Char} (h : ∀ c ∈ cs, p c = true) : stripQuotes cs = cs := by
  apply stripQuotes_of_head?
  intro c hc
  have hc := h c (List.mem_of_mem_head? hc)
  constructor
  · rintro rfl
    rw [hp.1] at hc
    cases hc
  · rintro rfl
    rw [hp.2] at hc
    cases hc

namespace Form

/-- A form with one argument reads what follows the white space. -/
theorem Assigns.exists_argument {slot : Slot} {cs : List Char} {values : Assignment}
    (h : Assigns [slot] none cs values) :
    ∃ gap argument, IsGap gap ∧ cs = gap ++ argument ∧ slot.accepts argument = true ∧
      values = [some (stripQuotes argument)] := by
  obtain ⟨written, h, rfl⟩ := h
  -- There is no last argument, so nothing is left behind the first one.
  cases h with
  | needed hgap hargument hrest =>
    cases hrest
    rw [List.append_nil]
    exact ⟨_, _, hgap, rfl, hargument, rfl⟩

/-- The last argument is a word of a class without quotes and white space. -/
theorem assigns_name_iff {slot : Slot} (hslot : slot.isSolid = true) {p : Char → Bool}
    (hp : p '"' = false ∧ p '\'' = false)
    (haccepts : ∀ cs, slot.accepts cs = true ↔ cs ≠ [] ∧ ∀ c ∈ cs, p c = true) {cs : List Char} :
    Assigns [slot] none (trimEnd (' ' :: cs)) [some cs] ↔ cs ≠ [] ∧ ∀ c ∈ cs, p c = true := by
  constructor
  · intro h
    obtain ⟨gap, argument, -, -, hargument, hvalues⟩ := h.exists_argument
    obtain rfl : cs = stripQuotes argument := by simpa using hvalues
    rw [stripQuotes_of_forall hp ((haccepts argument).mp hargument).2]
    exact (haccepts argument).mp hargument
  · intro h
    obtain ⟨hne, hbare⟩ := Slot.not_isBlank_of_isSolid hslot ((haccepts cs).mpr h)
    rw [trimEnd_cons_eq_self hne fun c hc => hbare c (List.mem_of_getLast? hc)]
    rw [assigns_singleton_iff (by simp [Slot.isClosed, hslot])
      fun c hc => hbare c (List.mem_of_mem_head? hc)]
    exact ⟨(haccepts cs).mpr h, by rw [stripQuotes_of_forall hp h.2]⟩

/-- The only argument is a run without white space. -/
theorem assigns_word_iff {cs : List Char} :
    Assigns [.word] none (argumentPart (' ' :: cs)) [some cs] ↔
      cs ≠ [] ∧ (∀ c ∈ cs, isBlank c = false) ∧ stripQuotes cs = cs := by
  constructor
  · intro h
    obtain ⟨gap, argument, hgap, hcut, hargument, hvalues⟩ := h.exists_argument
    have hcs : cs = stripQuotes argument := by simpa using hvalues
    -- The line is no longer than the space and the word, so no quotes were dropped.
    have hlength : argument.length ≤ (stripQuotes argument).length := by
      have hline := length_argumentPart_le cs
      have hpos := List.length_pos_iff.mpr hgap.1
      rw [hcut, List.length_append] at hline
      rw [← hcs]
      omega
    rw [stripQuotes_eq_self_of_length_le hlength] at hcs
    subst hcs
    obtain ⟨hne, hbare⟩ := Slot.accepts_word_iff.mp hargument
    exact ⟨hne, hbare, stripQuotes_eq_self_of_length_le hlength⟩
  · rintro ⟨hne, hbare, hstrip⟩
    have hhead : ∀ c ∈ cs.head?, isBlank c = false := fun c hc =>
      hbare c (List.mem_of_mem_head? hc)
    have hlast : ∀ c ∈ cs.getLast?, isBlank c = false := fun c hc =>
      hbare c (List.mem_of_getLast? hc)
    rw [argumentPart_eq_self hne hhead hlast, assigns_singleton_iff (by rfl) hhead, hstrip]
    exact ⟨Slot.accepts_word_iff.mpr ⟨hne, hbare⟩, rfl⟩

end Form

/-! ### Numbers -/

/-- A number slot accepts the digits of a number. -/
theorem accepts_number_repr (n : Nat) : Slot.accepts .number n.repr.toList = true :=
  Slot.isNumber_iff.mpr ⟨by simp, isDigit_of_mem_repr⟩

/-- An integer slot accepts the digits of an integer. -/
theorem accepts_integer_repr (n : Int) : Slot.accepts .integer n.repr.toList = true := by
  rw [Slot.accepts, Slot.isInteger_iff, Int.repr_eq_if]
  -- The digits of an integer come behind a minus sign if it is negative.
  split_ifs with hn
  · exact .inl (accepts_number_repr _)
  · exact .inr ⟨(-n).toNat.repr.toList, accepts_number_repr _, by simp [String.toList_append]⟩

/-- A number is in no quotes. -/
theorem stripQuotes_repr_nat (n : Nat) : stripQuotes n.repr.toList = n.repr.toList :=
  stripQuotes_of_isInteger (Slot.isInteger_iff.mpr (.inl (accepts_number_repr n)))

/-- An integer is in no quotes. -/
theorem stripQuotes_repr_int (n : Int) : stripQuotes n.repr.toList = n.repr.toList :=
  stripQuotes_of_isInteger (accepts_integer_repr n)

/-- A number is read if it is an integer of sixty-four bits. -/
theorem readNumber_eq_ok_iff {cs : List Char} {n : Int} (h : intOfDigits? cs = some n)
    {value : Json} :
    readNumber (some cs) = .ok value ↔
      (-9223372036854775808 ≤ n ∧ n ≤ 9223372036854775807) ∧ value = .int n := by
  -- A number outside the range is refused and not cut to size.
  have hint : int64? cs =
      if -9223372036854775808 ≤ n ∧ n ≤ 9223372036854775807 then some n else none := by
    rw [int64?, h, Option.filter_some]
    simp only [decide_eq_true_eq]
  rw [readNumber, hint]
  split_ifs with hn
  · simp [hn, eq_comm]
  · simp [hn]

/-! ### Selectors -/

/-- A selector that is read back: with white space it holds no quote, and without it has no quotes
around it. -/
def IsSelectorText (s : String) : Prop :=
  ((∃ c ∈ s.toList, isBlank c = true) ∧ '"' ∉ s.toList) ∨
    ((∀ c ∈ s.toList, isBlank c = false) ∧ stripQuotes s.toList = s.toList)

/-- The argument for a selector is put in quotes if it is empty or has a blank in it. -/
theorem toList_selectorArgument (s : String)
    [Decidable (s.toList = [] ∨ ∃ c ∈ s.toList, isBlank c = true)] :
    (selectorArgument s).toList =
      if s.toList = [] ∨ ∃ c ∈ s.toList, isBlank c = true then '"' :: (s.toList ++ ['"'])
      else s.toList := by
  rw [selectorArgument, ← toList_inQuotes]
  simp only [Bool.or_eq_true, String.isEmpty_iff, List.any_eq_true, ← String.toList_eq_nil_iff]
  split_ifs <;> rfl

/-- The argument for a selector does not begin or end with white space. -/
theorem selectorArgument_edges (s : String) : (selectorArgument s).toList ≠ [] ∧
    (∀ c ∈ (selectorArgument s).toList.head?, isBlank c = false) ∧
      ∀ c ∈ (selectorArgument s).toList.getLast?, isBlank c = false := by
  rw [toList_selectorArgument, ← toList_inQuotes]
  split_ifs with h
  · exact inQuotes_edges s
  · push Not at h
    have hbare : ∀ c ∈ s.toList, isBlank c = false := by simpa using h.2
    exact ⟨h.1, fun c hc => hbare c (List.mem_of_mem_head? hc),
      fun c hc => hbare c (List.mem_of_getLast? hc)⟩

/-- The argument for a selector that is read back is a selector, and is read back. -/
theorem accepts_selectorArgument {s : String} (h : IsSelectorText s) :
    Slot.accepts .selector (selectorArgument s).toList = true ∧
      stripQuotes (selectorArgument s).toList = s.toList := by
  rw [toList_selectorArgument, Slot.accepts_selector_iff]
  rcases h with ⟨hblank, hquote⟩ | ⟨hbare, hstrip⟩
  · have hne : s.toList ≠ [] := by
      obtain ⟨c, hc, -⟩ := hblank
      exact List.ne_nil_of_mem hc
    rw [if_pos (.inr hblank), stripQuotes_quoted]
    exact ⟨.inl ⟨s.toList, hne, hquote, rfl⟩, rfl⟩
  -- The empty selector is written as two quotes, which are read as a bare selector.
  · by_cases hempty : s.toList = []
    · rw [hempty, if_pos (.inl rfl)]
      exact ⟨.inr ⟨by simp, not_isBlank_of_all (by decide)⟩, rfl⟩
    · rw [if_neg (by simpa [hempty] using hbare)]
      exact ⟨.inr ⟨hempty, hbare⟩, hstrip⟩

/-- A selector that is read back from a line that begins with its argument is read from just that
argument. -/
theorem eq_selectorArgument {s : String} {argument rest rest' : List Char}
    (hcut : (selectorArgument s).toList ++ rest = argument ++ rest')
    (hargument : Slot.accepts .selector argument = true) (hstrip : stripQuotes argument = s.toList)
    (hrest : ∀ c ∈ rest.head?, isBlank c = true) (hrest' : ∀ c ∈ rest'.head?, isBlank c = true) :
    argument = (selectorArgument s).toList ∧ IsSelectorText s := by
  by_cases hblank : ∃ c ∈ s.toList, isBlank c = true
  · -- White space is only read inside quotes.
    rcases Slot.accepts_selector_iff.mp hargument with ⟨body, hne, hbody, rfl⟩ | ⟨hne, hbare⟩
    · rw [stripQuotes_quoted] at hstrip
      subst hstrip
      exact ⟨by rw [toList_selectorArgument, if_pos (.inr hblank)], .inl ⟨hblank, hbody⟩⟩
    · obtain ⟨c, hc, hcblank⟩ := hblank
      rw [← hstrip] at hc
      rw [hbare c (mem_of_mem_stripQuotes hc)] at hcblank
      cases hcblank
  · -- Both arguments end at the first white space.
    have hsbare : ∀ c ∈ s.toList, isBlank c = false := by simpa using hblank
    have hquoted : ∀ c ∈ '"' :: (s.toList ++ ['"']), isBlank c = false := by
      intro c hc
      simp only [List.mem_cons, List.mem_append, List.not_mem_nil, or_false] at hc
      rcases hc with rfl | hc | rfl
      · exact not_isBlank_quote
      · exact hsbare c hc
      · exact not_isBlank_quote
    have hselector : ∀ c ∈ (selectorArgument s).toList, isBlank c = false := by
      rw [toList_selectorArgument]
      split_ifs
      · exact hquoted
      · exact hsbare
    have hbare : ∀ c ∈ argument, isBlank c = false := by
      rcases Slot.accepts_selector_iff.mp hargument with ⟨body, -, -, rfl⟩ | ⟨-, hbare⟩
      · rw [stripQuotes_quoted] at hstrip
        rwa [hstrip]
      · exact hbare
    have heq : (selectorArgument s).toList = argument := by
      refine (run_append_inj (p := (!isBlank ·)) hcut ?_ ?_ ?_ ?_).1
      · simpa using hselector
      · simpa using hrest
      · simpa using hbare
      · simpa using hrest'
    refine ⟨heq.symm, .inr ⟨hsbare, ?_⟩⟩
    -- The argument is the text itself, unless the text is empty.
    by_cases hempty : s.toList = []
    · rw [hempty]
      rfl
    · rw [toList_selectorArgument, if_neg (by simpa [hempty] using hsbare)] at heq
      rw [heq, hstrip, heq]

namespace Form

variable {slot : Slot} {slots : List Slot} {last : Option Slot} {rest : List Char}
  {values : Assignment}

/-- A selector in front of other arguments is read back if it is one that is read back. -/
theorem assigns_selector_iff {s : String} (hrest : ∀ c ∈ rest.head?, isBlank c = true) :
    Assigns (.selector :: slots) last (' ' :: ((selectorArgument s).toList ++ rest))
        (some s.toList :: values) ↔
      IsSelectorText s ∧ Assigns slots last rest values := by
  obtain ⟨hne, hhead, -⟩ := selectorArgument_edges s
  rw [assigns_cons_iff (by rfl) (head?_append_of_ne_nil hne hhead rest)]
  constructor
  · rintro ⟨argument, rest', others, hcut, hvalues, hargument, hothers⟩
    obtain ⟨hs, rfl⟩ := List.cons.inj hvalues
    -- The selector that is read decides where the line is cut.
    obtain ⟨rfl, htext⟩ := eq_selectorArgument hcut hargument (Option.some.inj hs).symm hrest
      hothers.isBlank_of_mem_head?
    exact ⟨htext, List.append_cancel_left hcut ▸ hothers⟩
  · rintro ⟨htext, hothers⟩
    obtain ⟨hargument, hstrip⟩ := accepts_selectorArgument htext
    exact ⟨_, rest, values, rfl, by rw [hstrip], hargument, hothers⟩

end Form

end PageScript.Grammar
