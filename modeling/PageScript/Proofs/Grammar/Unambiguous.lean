import PageScript.Proofs.Grammar.Fit

/-!
# The grammar is unambiguous

A selector in quotes and one without overlap: a line may be cut behind the second quote, or at the
first white space. What decides between the two cuts is the number of quotes behind them. No class
of arguments that follows a selector holds an odd number of quotes, so only one of the two rests can
be written from such arguments.

* `Slot.append_inj` — one argument is cut off in one way when the quotes behind it come in pairs;
* `Form.Fits.unique` — a text fits a form in one way;
* `Rule.fitsArguments_unique` — what follows the verb fits a rule of the grammar in one way.
-/

namespace PageScript.Grammar

open Text Line

/-! ### Quotes in pairs -/

namespace Slot

/-- The arguments of the class hold an even number of quotes. -/
def isPaired : Slot → Bool
  | .quoted | .number | .integer | .qualifiedName | .name => true
  | .oneOf words => words.all fun word => word.toList.count '"' % 2 = 0
  | .selector | .word | .text => false

/-- A text of a class of characters without quotes holds none. -/
theorem count_quote_eq_zero {p : Char → Bool} (hp : p '"' = false) {cs : List Char}
    (h : ∀ c ∈ cs, p c = true) : cs.count '"' = 0 := by
  rw [List.count_eq_zero]
  intro hmem
  have := h _ hmem
  rw [hp] at this
  cases this

/-- There is no quote in a number. -/
theorem count_quote_isNumber {cs : List Char} (h : isNumber cs = true) : cs.count '"' = 0 :=
  count_quote_eq_zero (by decide) (isNumber_iff.mp h).2

/-- There is no quote in an integer. -/
theorem count_quote_isInteger {cs : List Char} (h : isInteger cs = true) : cs.count '"' = 0 := by
  rcases isInteger_iff.mp h with h | ⟨digits, h, rfl⟩
  · exact count_quote_isNumber h
  · rw [List.count_cons, count_quote_isNumber h]
    decide

/-- There are two quotes in a quoted text. -/
private theorem count_quote_isQuoted {cs : List Char} (h : isQuoted cs = true) :
    cs.count '"' = 2 := by
  obtain ⟨body, hbody, rfl⟩ := isQuoted_iff.mp h
  simp [List.count_eq_zero.mpr hbody]

/-- An argument of a paired slot has an even number of quotes. -/
theorem count_quote_of_isPaired {slot : Slot} (hslot : slot.isPaired = true)
    {argument : List Char} (h : slot.accepts argument = true) : argument.count '"' % 2 = 0 := by
  cases slot with
  | quoted => rw [count_quote_isQuoted h]
  | number => rw [count_quote_isNumber h]
  | integer => rw [count_quote_isInteger h]
  | qualifiedName =>
    rw [count_quote_eq_zero (by decide) (accepts_qualifiedName_iff.mp h).2]
  | name => rw [count_quote_eq_zero (by decide) (accepts_name_iff.mp h).2]
  | oneOf words =>
    obtain ⟨word, hmem, rfl⟩ := accepts_oneOf_iff.mp h
    simpa using List.all_eq_true.mp hslot word hmem
  | selector => cases hslot
  | word => cases hslot
  | text => cases hslot

/-! ### One way to cut an argument off -/

/-- A text that begins with a quoted part has no other cut into a selector without white space and a
rest when the quotes of both rests come in pairs. -/
theorem quoted_eq_bare {body bare rest rest' : List Char} (hbody : '"' ∉ body)
    (hbare : ∀ c ∈ bare, isBlank c = false)
    (h : '"' :: (body ++ ['"']) ++ rest = bare ++ rest')
    (hrest : ∀ c ∈ rest.head?, isBlank c = true) (hrest' : ∀ c ∈ rest'.head?, isBlank c = true)
    (hpaired : rest.count '"' % 2 = 0) (hpaired' : rest'.count '"' % 2 = 0) :
    '"' :: (body ++ ['"']) = bare := by
  have hblank : ∀ {cs : List Char}, (∀ c ∈ cs.head?, isBlank c = true) →
      ∀ c ∈ cs.head?, (!isBlank c) = false := fun h c hc => by simp [h c hc]
  -- Without white space between the quotes, both cuts are at the first white space.
  by_cases hall : ∀ c ∈ body, isBlank c = false
  · have hrun : ∀ c ∈ '"' :: (body ++ ['"']), (!isBlank c) = true := by
      intro c hc
      simp only [List.mem_cons, List.mem_append, List.not_mem_nil, or_false] at hc
      rcases hc with rfl | hc | rfl
      · simp [not_isBlank_quote]
      · simp [hall c hc]
      · simp [not_isBlank_quote]
    exact (run_append_inj h hrun (hblank hrest) (by simpa using hbare) (hblank hrest')).1
  · -- The cut at the white space inside the quotes leaves the closing quote behind it.
    exfalso
    set front := body.takeWhile (!isBlank ·) with hfront
    obtain ⟨c, back, hback⟩ : ∃ c back, body.dropWhile (!isBlank ·) = c :: back := by
      apply List.exists_cons_of_ne_nil
      rw [Ne, List.dropWhile_eq_nil_iff]
      simpa using hall
    have hc : isBlank c = true := by
      have := not_of_mem_head?_dropWhile (p := (!isBlank ·)) body c (by rw [hback]; rfl)
      simpa using this
    have hsplit : body = front ++ c :: back := by
      rw [hfront, ← hback, List.takeWhile_append_dropWhile]
    have hrun : ∀ d ∈ '"' :: front, (!isBlank d) = true := by
      intro d hd
      rcases List.mem_cons.mp hd with rfl | hd
      · simp [not_isBlank_quote]
      · exact List.mem_takeWhile_imp (p := (!isBlank ·)) hd
    have hcut : ('"' :: front) ++ (c :: back ++ '"' :: rest) = bare ++ rest' := by
      rw [← h, hsplit]
      simp
    obtain ⟨-, rfl⟩ := run_append_inj hcut hrun (by simpa using hc) (by simpa using hbare)
      (hblank hrest')
    have hnone : (c :: back).count '"' = 0 := by
      rw [List.count_eq_zero]
      intro hmem
      exact hbody (hsplit ▸ List.mem_append_right _ hmem)
    rw [List.count_append, hnone, List.count_cons] at hpaired'
    simp at hpaired'
    omega

/-- An argument is cut off in one way. For a selector, the quotes behind it have to come in
pairs. -/
theorem append_inj {slot : Slot} (hslot : slot.isClosed = true)
    {argument argument' rest rest' : List Char} (h : argument ++ rest = argument' ++ rest')
    (ha : slot.accepts argument = true) (ha' : slot.accepts argument' = true)
    (hrest : ∀ c ∈ rest.head?, isBlank c = true) (hrest' : ∀ c ∈ rest'.head?, isBlank c = true)
    (hpaired : slot = .selector → rest.count '"' % 2 = 0 ∧ rest'.count '"' % 2 = 0) :
    argument = argument' ∧ rest = rest' := by
  suffices heq : argument = argument' by
    subst heq
    exact ⟨rfl, List.append_cancel_left h⟩
  -- Two arguments without white space both end at the first white space.
  have hsolid : (∀ c ∈ argument, isBlank c = false) → (∀ c ∈ argument', isBlank c = false) →
      argument = argument' := by
    intro hrun hrun'
    refine (run_append_inj (p := (!isBlank ·)) h ?_ ?_ ?_ ?_).1
    · simpa using hrun
    · simpa using hrest
    · simpa using hrun'
    · simpa using hrest'
  -- Two arguments in quotes both end at the second quote.
  have hquoted : isQuoted argument = true → isQuoted argument' = true → argument = argument' := by
    rw [isQuoted_iff, isQuoted_iff]
    rintro ⟨body, hbody, rfl⟩ ⟨body', hbody', rfl⟩
    have h : body ++ '"' :: rest = body' ++ '"' :: rest' := by simpa using h
    rw [(run_append_inj h (forall_ne_quote hbody) (by simp) (forall_ne_quote hbody') (by simp)).1]
  simp only [isClosed, Bool.or_eq_true, decide_eq_true_eq] at hslot
  rcases hslot with (hslot | rfl) | rfl
  · exact hsolid (not_isBlank_of_isSolid hslot ha).2 (not_isBlank_of_isSolid hslot ha').2
  -- Only when one selector is in quotes and the other is not do the rests matter.
  · obtain ⟨heven, heven'⟩ := hpaired rfl
    rcases accepts_selector_iff.mp ha with ⟨body, -, hbody, rfl⟩ | ⟨-, hbare⟩ <;>
      rcases accepts_selector_iff.mp ha' with ⟨body', -, hbody', rfl⟩ | ⟨-, hbare'⟩
    · exact hquoted (isQuoted_iff.mpr ⟨body, hbody, rfl⟩) (isQuoted_iff.mpr ⟨body', hbody', rfl⟩)
    · exact quoted_eq_bare hbody hbare' h hrest hrest' heven heven'
    · exact (quoted_eq_bare hbody' hbare h.symm hrest' hrest heven' heven).symm
    · exact hsolid hbare hbare'
  · exact hquoted ha ha'

end Slot

/-! ### One way to fit a form -/

namespace Form

/-- Each argument is cut off in one way: it does not begin with white space, and only classes with
quotes in pairs follow a selector. -/
def isDefinite : List Slot → Option Slot → Bool
  | [], none => true
  | [], some last => last.isClosed
  | slot :: slots, last =>
    slot.isClosed && (slot ≠ .selector || (slots ++ last.toList).all Slot.isPaired)
      && isDefinite slots last

/-- No slot of a definite form takes a blank at its start. -/
private theorem isClosed_of_isDefinite {slots : List Slot} {last : Option Slot}
    (h : isDefinite slots last = true) : ∀ slot ∈ slots ++ last.toList, slot.isClosed = true := by
  induction slots with
  | nil =>
    cases last with
    | none => simp
    | some last => simpa [isDefinite] using h
  | cons slot slots ih =>
    simp only [isDefinite, Bool.and_eq_true] at h
    intro other hother
    rw [List.cons_append] at hother
    rcases List.mem_cons.mp hother with rfl | hother
    · exact h.1.1
    · exact ih h.2 other hother

/-- There is no quote in a gap. -/
theorem IsGap.count_quote {gap : List Char} (h : IsGap gap) : gap.count '"' = 0 :=
  Slot.count_quote_eq_zero (by decide) h.2

/-- A text written from classes with quotes in pairs holds an even number of quotes. -/
theorem Fits.count_quote {slots : List Slot} {last : Option Slot} {cs : List Char}
    {values : Assignment} (h : Fits slots last cs values)
    (hslots : ∀ slot ∈ slots ++ last.toList, slot.isPaired = true) : cs.count '"' % 2 = 0 := by
  induction h with
  | done => rfl
  | absent => rfl
  | @present last gap argument hgap hargument =>
    rw [List.count_append, IsGap.count_quote hgap, Nat.zero_add]
    exact Slot.count_quote_of_isPaired (hslots last (by simp)) hargument
  | @needed slot slots last gap argument rest values hgap hargument hrest ih =>
    have heven := Slot.count_quote_of_isPaired (hslots slot (by simp)) hargument
    have := ih fun slot hslot => hslots slot (List.mem_cons_of_mem _ hslot)
    rw [List.count_append, List.count_append, IsGap.count_quote hgap]
    omega

/-- A run of white space in front of an argument that does not begin with it is cut off in one
way. -/
theorem gap_append_inj {gap gap' argument argument' : List Char} (hgap : IsGap gap)
    (hgap' : IsGap gap') (h : gap ++ argument = gap' ++ argument')
    (hargument : ∀ c ∈ argument.head?, isBlank c = false)
    (hargument' : ∀ c ∈ argument'.head?, isBlank c = false) : argument = argument' :=
  (run_append_inj h hgap.2 hargument hgap'.2 hargument').2

/-- A text fits a definite form in one way. -/
theorem Fits.unique {slots : List Slot} {last : Option Slot} {cs : List Char}
    {values values' : Assignment} (hform : isDefinite slots last = true)
    (h : Fits slots last cs values) (h' : Fits slots last cs values') : values = values' := by
  -- Both ways to fit are cut along the form: the gaps first, then the arguments.
  generalize hcs : cs = cs' at h'
  induction h generalizing cs' values' with
  | done =>
    cases h'
    rfl
  | absent =>
    cases h' with
    | absent => rfl
    | present hgap => exact absurd (List.append_eq_nil_iff.mp hcs.symm).1 hgap.1
  | @present last gap argument hgap hargument =>
    cases h' with
    | absent => exact absurd (List.append_eq_nil_iff.mp hcs).1 hgap.1
    | present hgap' hargument' =>
      have hhead := (Slot.not_isBlank_of_isClosed hform hargument).2
      have hhead' := (Slot.not_isBlank_of_isClosed hform hargument').2
      rw [gap_append_inj hgap hgap' hcs hhead hhead']
  | @needed slot slots last gap argument rest values hgap hargument hrest ih =>
    simp only [isDefinite, Bool.and_eq_true, Bool.or_eq_true, List.all_eq_true,
      decide_eq_true_eq] at hform
    obtain ⟨⟨hclosed, hpaired⟩, hform⟩ := hform
    cases h' with
    | @needed _ _ _ gap' argument' rest' values' hgap' hargument' hrest' =>
      obtain ⟨hne, hhead⟩ := Slot.not_isBlank_of_isClosed hclosed hargument
      obtain ⟨hne', hhead'⟩ := Slot.not_isBlank_of_isClosed hclosed hargument'
      have hcut : argument ++ rest = argument' ++ rest' :=
        gap_append_inj hgap hgap' hcs (head?_append_of_ne_nil hne hhead rest)
          (head?_append_of_ne_nil hne' hhead' rest')
      -- The classes behind a selector make the quotes of both rests come in pairs.
      have hquotes : slot = .selector → rest.count '"' % 2 = 0 ∧ rest'.count '"' % 2 = 0 := by
        intro hselector
        have hpaired := hpaired.resolve_left fun h => h hselector
        exact ⟨hrest.count_quote hpaired, hrest'.count_quote hpaired⟩
      obtain ⟨rfl, rfl⟩ := Slot.append_inj hclosed hcut hargument hargument'
        hrest.isBlank_of_mem_head? hrest'.isBlank_of_mem_head? hquotes
      rw [ih hform rest rfl hrest']

/-- After one space, a text that does not begin with white space is the whole argument. -/
theorem fits_text_iff {cs : List Char} {values : Assignment} (hcs : IsArgumentPart cs) :
    Fits [.text] none cs values ↔
      ∃ argument, cs = ' ' :: argument ∧ Slot.accepts .text argument = true ∧
        values = [some argument] := by
  constructor
  · intro h
    generalize hcs' : cs = cs' at h
    cases h with
    | @needed _ _ _ gap argument rest values hgap hargument hrest =>
      cases hrest
      rw [List.append_nil] at hcs'
      rcases hcs with rfl | ⟨written, rfl, hwritten⟩
      · exact absurd (List.append_eq_nil_iff.mp hcs'.symm).1 hgap.1
      · obtain ⟨c, gap, rfl⟩ := List.exists_cons_of_ne_nil hgap.1
        obtain ⟨rfl, hcut⟩ : ' ' = c ∧ written = gap ++ argument := by simpa using hcs'
        -- A longer gap would leave white space in front of the argument.
        obtain rfl : gap = [] := by
          cases gap with
          | nil => rfl
          | cons d gap =>
            have hd := hgap.2 d (by simp)
            rw [hwritten d (by rw [hcut]; rfl)] at hd
            cases hd
        obtain rfl : written = argument := hcut
        exact ⟨written, by simp, hargument, rfl⟩
  · rintro ⟨argument, rfl, hargument, rfl⟩
    have := Fits.needed isGap_space hargument (Fits.done)
    rwa [List.append_nil] at this

/-- The form is definite, or its only argument is any text. -/
def isClear (form : Form) : Bool :=
  isDefinite form.needed form.last || form = ⟨[.text], none⟩

/-- What follows a verb fits a clear form in one way. -/
theorem Fits.unique_of_isClear {form : Form} (hform : form.isClear = true) {cs : List Char}
    (hcs : IsArgumentPart cs) {values values' : Assignment}
    (h : Fits form.needed form.last cs values) (h' : Fits form.needed form.last cs values') :
    values = values' := by
  rw [isClear, Bool.or_eq_true, decide_eq_true_eq] at hform
  rcases hform with hform | rfl
  · exact h.unique hform h'
  · obtain ⟨argument, rfl, -, rfl⟩ := (fits_text_iff hcs).mp h
    obtain ⟨argument', hargument', -, rfl⟩ := (fits_text_iff hcs).mp h'
    rw [(List.cons.inj hargument').2]

/-- The way in which what follows a verb fits a clear form is found. -/
theorem mem_fillings_iff_of_isClear {form : Form} (hform : form.isClear = true) {cs : List Char}
    (hcs : IsArgumentPart cs) {values : Assignment} :
    values ∈ fillings form.needed form.last cs ↔ Fits form.needed form.last cs values := by
  refine ⟨fits_of_mem_fillings, fun h => ?_⟩
  rw [isClear, Bool.or_eq_true, decide_eq_true_eq] at hform
  -- The slots are definite, or a single text takes all that is left.
  rcases hform with hform | rfl
  · exact mem_fillings_of_fits h (isClosed_of_isDefinite hform)
  · obtain ⟨argument, rfl, hargument, rfl⟩ := (fits_text_iff hcs).mp h
    have hhead : ∀ c ∈ argument.head?, isBlank c = false := by
      rcases hcs with hnil | ⟨written, heq, hwritten⟩
      · cases hnil
      · rwa [(List.cons.inj heq).2]
    have hsplit : (argument, []) ∈ Slot.text.splits (argument ++ []) :=
      Slot.mem_splits_of_accepts hargument (by simp) fun _ => rfl
    rw [List.append_nil] at hsplit
    have hafter : afterGap? (' ' :: argument) = some argument :=
      afterGap?_eq_some_iff.mpr ⟨⟨[' '], isGap_space, rfl⟩, hhead⟩
    rw [fillings, hafter]
    exact List.mem_flatMap.mpr ⟨_, hsplit, by simp [fillings]⟩

/-- Two integers are no selector: white space stands between them, and no quote before it. -/
theorem not_fits_integers_and_selector {cs : List Char} {values values' : Assignment}
    (h : Fits [.integer, .integer] none cs values) (h' : Fits [.selector] none cs values') :
    False := by
  generalize hcs : cs = cs' at h'
  cases h with
  | @needed _ _ _ gap x rest values hgap hx hrest =>
    cases hrest with
    | @needed _ _ _ between y rest values hbetween hy hrest =>
      cases h' with
      | @needed _ _ _ gap' selector rest' values' hgap' hselector hrest' =>
        cases hrest
        cases hrest'
        rw [List.append_nil, List.append_nil] at hcs
        obtain ⟨hne, hhead⟩ := Slot.not_isBlank_of_isClosed (by rfl) hx
        obtain ⟨-, hhead'⟩ := Slot.not_isBlank_of_isClosed (by rfl) hselector
        obtain rfl := gap_append_inj hgap hgap' hcs (head?_append_of_ne_nil hne hhead _) hhead'
        rcases Slot.accepts_selector_iff.mp hselector with ⟨body, -, -, hquoted⟩ | ⟨-, hbare⟩
        -- The first integer would begin with a quote.
        · obtain ⟨c, x, rfl⟩ := List.exists_cons_of_ne_nil hne
          obtain rfl : c = '"' := by simpa using congrArg List.head? hquoted
          have hx : Slot.isInteger ('"' :: x) = true := hx
          have := Slot.count_quote_isInteger hx
          simp at this
        -- The selector would hold the white space between the integers.
        · obtain ⟨c, between, rfl⟩ := List.exists_cons_of_ne_nil hbetween.1
          have hblank := hbetween.2 c (by simp)
          rw [hbare c (by simp)] at hblank
          cases hblank

end Form

/-! ### One way to fit a rule -/

namespace Pattern

/-- Values with nothing around them are placed as they are. -/
theorem placed_zero (values : Assignment) : placed 0 values 0 = values := by
  simp [placed]

/-- A pattern of one form fits what its form fits. -/
theorem fitsArguments_singleton {p : Pattern} {form : Form} (hp : p.forms = [form])
    {cs : List Char} {values : Assignment} :
    p.FitsArguments cs values ↔ Form.Fits form.needed form.last cs values := by
  constructor
  · rintro ⟨before, form', after, own, hforms, hfits, rfl⟩
    rw [hp] at hforms
    cases before with
    | nil =>
      obtain ⟨rfl, rfl⟩ := List.cons.inj hforms
      simpa [placed_zero, Form.sizes] using hfits
    | cons _ before => simp at hforms
  · intro h
    exact ⟨[], form, [], values, hp, h, (placed_zero values).symm⟩

/-- A pattern of two forms fits what either fits, the slots of the other being empty. -/
theorem fitsArguments_pair {p : Pattern} {first second : Form} (hp : p.forms = [first, second])
    {cs : List Char} {values : Assignment} :
    p.FitsArguments cs values ↔
      (∃ own, Form.Fits first.needed first.last cs own ∧ values = placed 0 own second.size) ∨
        ∃ own, Form.Fits second.needed second.last cs own ∧ values = placed first.size own 0 := by
  constructor
  · rintro ⟨before, form, after, own, hforms, hfits, rfl⟩
    rw [hp] at hforms
    -- Of two forms at most one stands before the one that fits.
    match before with
    | [] =>
      obtain ⟨rfl, rfl⟩ := List.cons.inj hforms
      exact .inl ⟨own, hfits, by simp [Form.sizes]⟩
    | [other] =>
      obtain ⟨rfl, rfl, rfl⟩ : first = other ∧ second = form ∧ after = [] := by
        simpa using hforms
      exact .inr ⟨own, hfits, by simp [Form.sizes]⟩
    | _ :: _ :: before => simp at hforms
  · rintro (⟨own, hfits, rfl⟩ | ⟨own, hfits, rfl⟩)
    · exact ⟨[], first, [second], own, hp, hfits, by simp [Form.sizes]⟩
    · exact ⟨[first], second, [], own, hp, hfits, by simp [Form.sizes]⟩

/-- The fillings of several forms are those of each, placed after the slots of the forms before it.
-/
theorem mem_fillingsFrom_iff {forms : List Form} {before : Nat} {cs : List Char}
    {values : Assignment} :
    values ∈ fillingsFrom before cs forms ↔
      ∃ earlier form later own, forms = earlier ++ form :: later ∧
        own ∈ Form.fillings form.needed form.last cs ∧
        values = placed (before + Form.sizes earlier) own (Form.sizes later) := by
  -- The number of arguments left out before a form grows along the recursion.
  induction forms generalizing before with
  | nil => simp [fillingsFrom]
  | cons form forms ih =>
    rw [fillingsFrom, List.mem_append, List.mem_map, ih]
    constructor
    · rintro (⟨own, hown, rfl⟩ | ⟨earlier, other, later, own, rfl, hown, rfl⟩)
      · exact ⟨[], form, forms, own, rfl, hown, by simp [Form.sizes]⟩
      · exact ⟨form :: earlier, other, later, own, rfl, hown, by simp [Form.sizes, Nat.add_assoc]⟩
    · rintro ⟨earlier, other, later, own, hforms, hown, rfl⟩
      cases earlier with
      | nil =>
        obtain ⟨rfl, rfl⟩ := List.cons.inj hforms
        exact .inl ⟨own, hown, by simp [Form.sizes]⟩
      | cons first earlier =>
        obtain ⟨rfl, rfl⟩ := List.cons.inj hforms
        exact .inr ⟨earlier, other, later, own, rfl, hown, by simp [Form.sizes, Nat.add_assoc]⟩

end Pattern

namespace Rule

/-- Every form of the grammar is clear, and one rule only has two forms. -/
theorem forms_of_mem_rules : ∀ r ∈ rules, (∀ form ∈ r.pattern.forms, form.isClear = true) ∧
    (r.pattern.forms.length = 1 ∨
      r.pattern.forms = [⟨[.integer, .integer], none⟩, ⟨[.selector], none⟩]) := by
  -- The grammar is a finite table.
  decide

/-- What follows the verb fits a rule of the grammar in one way. -/
theorem fitsArguments_unique {r : Rule} (hr : r ∈ rules) {cs : List Char}
    (hcs : IsArgumentPart cs) {values values' : Assignment}
    (h : r.pattern.FitsArguments cs values) (h' : r.pattern.FitsArguments cs values') :
    values = values' := by
  obtain ⟨hclear, hforms | hforms⟩ := forms_of_mem_rules r hr
  · obtain ⟨form, hform⟩ := List.length_eq_one_iff.mp hforms
    rw [Pattern.fitsArguments_singleton hform] at h h'
    exact h.unique_of_isClear (hclear form (by simp [hform])) hcs h'
  · rw [Pattern.fitsArguments_pair hforms] at h h'
    rw [hforms] at hclear
    -- Two ways to fit are by the same form, since the two forms exclude each other.
    rcases h with ⟨own, h, rfl⟩ | ⟨own, h, rfl⟩ <;> rcases h' with ⟨own', h', rfl⟩ | ⟨own', h', rfl⟩
    · rw [h.unique_of_isClear (hclear _ (by simp)) hcs h']
    · exact (Form.not_fits_integers_and_selector h h').elim
    · exact (Form.not_fits_integers_and_selector h' h).elim
    · rw [h.unique_of_isClear (hclear _ (by simp)) hcs h']

/-- Reading what follows the verb finds the ways to fit the rule. -/
theorem mem_fillingsFrom_iff {r : Rule} (hr : r ∈ rules) {cs : List Char}
    (hcs : IsArgumentPart cs) {values : Assignment} :
    values ∈ Pattern.fillingsFrom 0 cs r.pattern.forms ↔ r.pattern.FitsArguments cs values := by
  obtain ⟨hclear, -⟩ := forms_of_mem_rules r hr
  rw [Pattern.mem_fillingsFrom_iff, Pattern.FitsArguments]
  simp only [Nat.zero_add]
  constructor
  · rintro ⟨earlier, form, later, own, hforms, hown, hvalues⟩
    exact ⟨earlier, form, later, own, hforms, Form.fits_of_mem_fillings hown, hvalues⟩
  · rintro ⟨earlier, form, later, own, hforms, hown, hvalues⟩
    have hform := hclear form (by simp [hforms])
    exact ⟨earlier, form, later, own, hforms,
      (Form.mem_fillings_iff_of_isClear hform hcs).mpr hown, hvalues⟩

end Rule

end PageScript.Grammar
