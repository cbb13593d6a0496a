import PageScript.Proofs.Command.RoundTrip

/-!
# Canonical texts of lines

A command that was read from a line is not just any command: its texts are arguments without the
quotes around them, and its numbers have sixty-four bits with a sign. Its canonical text is read
back unless the quotes that were dropped hid another pair of quotes, or nothing at all, in a place
that the canonical text leaves bare.

* `Command.kind_of_parse` — a line is read as a command of the kind that its verb stands for;
* `Command.yields_of_parse`, `Command.yields_pair_of_parse`, `Command.yields_optional_of_parse` —
  what the texts of a command can be that was read from a line;
* `Command.parse_display_of_parse` — the canonical text of a line is read back exactly if the
  command is stable.
-/

namespace PageScript

open Text Line Grammar Record

/-! ### Values of a class -/

namespace Grammar.Slot

/-- A value of a class: an argument without the quotes around it. -/
def Yields (slot : Slot) (value : List Char) : Prop :=
  ∃ argument, slot.accepts argument = true ∧ value = stripQuotes argument

variable {value : List Char}

/-- A selector with white space was written in quotes, and holds none. -/
theorem Yields.selector (h : Slot.Yields .selector value)
    (hblank : ∃ c ∈ value, isBlank c = true) : '"' ∉ value := by
  obtain ⟨argument, hargument, rfl⟩ := h
  rcases accepts_selector_iff.mp hargument with ⟨body, -, hbody, rfl⟩ | ⟨-, hbare⟩
  · rwa [stripQuotes_quoted]
  -- A bare argument has no white space, and what is left of it has none either.
  · obtain ⟨c, hc, hblank⟩ := hblank
    rw [hbare c (mem_of_mem_stripQuotes hc)] at hblank
    cases hblank

/-- What a quoted slot yields has no quote in it. -/
theorem Yields.quoted (h : Slot.Yields .quoted value) : '"' ∉ value := by
  obtain ⟨argument, hargument, rfl⟩ := h
  obtain ⟨body, hbody, rfl⟩ := isQuoted_iff.mp hargument
  rwa [stripQuotes_quoted]

/-- What a word slot yields has no blank in it. -/
theorem Yields.word (h : Slot.Yields .word value) : ∀ c ∈ value, isBlank c = false := by
  obtain ⟨argument, hargument, rfl⟩ := h
  exact fun c hc => (accepts_word_iff.mp hargument).2 c (mem_of_mem_stripQuotes hc)

/-- What a text slot yields is on one line. -/
theorem Yields.text (h : Slot.Yields .text value) : '\n' ∉ value := by
  obtain ⟨argument, hargument, rfl⟩ := h
  exact fun hc => (accepts_text_iff.mp hargument).2 _ (mem_of_mem_stripQuotes hc) rfl

/-- A class without quotes has no other values than its arguments. -/
theorem Yields.accepts {slot : Slot} {p : Char → Bool} (hp : p '"' = false ∧ p '\'' = false)
    (haccepts : ∀ cs, slot.accepts cs = true ↔ cs ≠ [] ∧ ∀ c ∈ cs, p c = true)
    (h : slot.Yields value) : value ≠ [] ∧ ∀ c ∈ value, p c = true := by
  obtain ⟨argument, hargument, rfl⟩ := h
  rw [stripQuotes_of_forall hp ((haccepts argument).mp hargument).2]
  exact (haccepts argument).mp hargument

/-- One of some words without quotes around them is read as it is. -/
theorem Yields.exists_word {α : Type} (word : α → String) (choices : List α)
    (hstrip : ∀ a ∈ choices, stripQuotes (word a).toList = (word a).toList)
    (h : Slot.Yields (.oneOf (choices.map word)) value) : ∃ a, value = (word a).toList := by
  obtain ⟨argument, hargument, rfl⟩ := h
  obtain ⟨_, hword, rfl⟩ := accepts_oneOf_iff.mp hargument
  obtain ⟨a, ha, rfl⟩ := List.mem_map.mp hword
  exact ⟨a, hstrip a ha⟩

end Grammar.Slot

namespace Grammar.Form

variable {slot : Slot} {slots : List Slot} {last : Option Slot} {cs : List Char}
  {values : Assignment}

/-- An argument that must be there has a value of its class. -/
theorem Assigns.exists_yields_cons (h : Assigns (slot :: slots) last cs values) :
    ∃ value others rest, values = some value :: others ∧ slot.Yields value ∧
      Assigns slots last rest others := by
  obtain ⟨written, h, rfl⟩ := h
  cases h with
  | needed hgap hargument hrest => exact ⟨_, _, _, rfl, ⟨_, hargument, rfl⟩, _, hrest, rfl⟩

/-- An argument that may be left out has a value of its class if it has one. -/
theorem Assigns.exists_yields_last (h : Assigns [] (some slot) cs values) :
    ∃ value, values = [value] ∧ ∀ x ∈ value, slot.Yields x := by
  obtain ⟨written, h, rfl⟩ := h
  cases h with
  | absent => exact ⟨none, rfl, by simp⟩
  | present hgap hargument => exact ⟨some _, rfl, by simpa using ⟨_, hargument, rfl⟩⟩

end Grammar.Form

/-! ### The kind of a line -/

namespace Command

section

variable {kind : String} {d : Decoder Command} {r : Reading} {j : Json} {c : Command}

/-- A rule without fields gives its command. -/
private theorem eq_of_noFields {c' : Command} (h : noFields c r j = .ok c') : c = c' := by
  cases j with
  | arr items =>
    obtain ⟨_, -, h⟩ := bind_eq_ok_iff.mp h
    exact Except.ok.inj h
  | _ => exact Except.ok.inj h

/-- What follows a kind is read as a command of that kind. -/
theorem kind_of_mem_variants (hd : (kind, d) ∈ variants) (h : d r j = .ok c) : c.kind = kind := by
  have hrest : ∀ {name : String} {fields : Fields Command}, d = rest name fields →
      fields.Yields (fun c => c.kind = kind) → c.kind = kind := by
    rintro name fields rfl hfields
    exact hfields.of_record h
  simp only [variants, List.mem_cons, Prod.mk.injEq, List.not_mem_nil, or_false] at hd
  -- A kind has up to three fields, and a command is made of them whatever they are.
  rcases hd with ⟨rfl, hd⟩ | ⟨rfl, hd⟩ | ⟨rfl, hd⟩ | ⟨rfl, hd⟩ | ⟨rfl, hd⟩ | ⟨rfl, hd⟩ |
    ⟨rfl, hd⟩ | ⟨rfl, hd⟩ | ⟨rfl, hd⟩ | ⟨rfl, hd⟩ | ⟨rfl, hd⟩ | ⟨rfl, hd⟩ | ⟨rfl, hd⟩ |
    ⟨rfl, hd⟩ | ⟨rfl, hd⟩ | ⟨rfl, hd⟩ | ⟨rfl, hd⟩ | ⟨rfl, hd⟩ | ⟨rfl, hd⟩ | ⟨rfl, hd⟩ |
    ⟨rfl, hd⟩ | ⟨rfl, hd⟩ | ⟨rfl, hd⟩ | ⟨rfl, hd⟩ | ⟨rfl, hd⟩
  all_goals first
    | exact hrest hd (yields_map fun _ => rfl)
    | exact hrest hd (yields_map fun _ _ => rfl).seq
    | exact hrest hd (yields_map fun _ _ _ => rfl).seq.seq
    | exact eq_of_noFields (hd ▸ h) ▸ rfl

/-- A record is read as a command of its kind. -/
theorem kind_of_run_ofKind {fields : List (String × Json)}
    (h : decoder.run (ofKind kind fields) = .ok c) : c.kind = kind := by
  obtain ⟨name, rest, d, htag, hname, hrest⟩ := run_tagged_eq_ok_iff.mp h
  have hd : (name, d) ∈ variants := (choose_eq_ok_iff (by decide)).mp hname
  rw [kind_of_mem_variants hd hrest]
  generalize hrecord : ofKind kind fields = record at htag
  cases htag with
  | obj hfound =>
    obtain rfl := Json.obj.inj hrecord
    -- The first entry of the record is its kind.
    simp only [occurrences, List.zipIdx_cons, List.filter_cons, decide_true, if_true,
      List.head?_cons, Option.map_some, Prod.mk.injEq, Option.some.injEq, Json.str.injEq] at hfound
    exact hfound.1.2.symm
  | arr => cases hrecord

end

section

variable {input : String} {c : Command} {r : Rule} {cs : List Char}

/-- A line is read by the rule whose verb is the kind of the command, from arguments that fit it. -/
theorem exists_fits_of_parse (h : parse input = .ok c) :
    ∃ r cs written, ruleFor? c.kind = some r ∧ r.pattern.FitsArguments cs written ∧
      r.read (stripped written) = .ok c := by
  -- The kind of the command that is made is the verb of the rule that makes it.
  cases hr : ruleFor? (Line.verb (Line.normalize input)) with
  | none =>
    rw [parse] at h
    dsimp only at h
    split_ifs at h
    rw [hr] at h
    cases h
  | some r =>
    obtain ⟨hmem, hverb⟩ := Rule.mem_rules_of_ruleFor? hr
    by_cases hassigns : ∃ values, r.Assigns (Line.normalize input).toList values
    · obtain ⟨values, hvalues⟩ := hassigns
      rw [parse_of_assigns hr hvalues] at h
      obtain ⟨written, ⟨cs, -, hfits⟩, rfl⟩ := hvalues
      obtain ⟨fields, -, hrun⟩ := read_eq_ok_iff.mp h
      exact ⟨r, cs, written, by rw [kind_of_run_ofKind hrun, hverb, hr], hfits, h⟩
    · rw [parse_of_not_assigns hr fun values hvalues => hassigns ⟨values, hvalues⟩] at h
      cases h

/-- The same for a rule with one form. -/
theorem exists_assigns_of_parse {needed : List Slot} {last : Option Slot}
    (hr : ruleFor? c.kind = some r) (hform : r.pattern.forms = [⟨needed, last⟩])
    (h : parse input = .ok c) :
    ∃ cs values, Form.Assigns needed last cs values ∧ r.read values = .ok c := by
  obtain ⟨r', cs, written, hr', hfits, hread⟩ := exists_fits_of_parse h
  obtain rfl : r = r' := Option.some.inj (hr.symm.trans hr')
  exact ⟨cs, _, ⟨written, (Pattern.fitsArguments_singleton hform).mp hfits, rfl⟩, hread⟩

/-! ### Texts of a line -/

variable {slot second : Slot}

/-- The text of a command made of one text. -/
theorem yields_of_parse {make : String → Command} (hmake : Function.Injective make) {s : String}
    (hr : ruleFor? (make s).kind = some r) (hform : r.pattern.forms = [⟨[slot], none⟩])
    (hread : ∀ x, r.read [some x] = .ok (make (String.ofList x)))
    (h : parse input = .ok (make s)) : slot.Yields s.toList := by
  obtain ⟨cs, values, hvalues, h⟩ := exists_assigns_of_parse hr hform h
  obtain ⟨x, others, rest, rfl, hx, hothers⟩ := hvalues.exists_yields_cons
  obtain ⟨rfl, rfl⟩ := Form.assigns_nil_iff.mp hothers
  rw [hread] at h
  obtain rfl := hmake (Except.ok.inj h)
  rwa [String.toList_ofList]

/-- The texts of a command made of two texts. -/
theorem yields_pair_of_parse {make : String → String → Command} (hmake : Function.Injective2 make)
    {s t : String} (hr : ruleFor? (make s t).kind = some r)
    (hform : r.pattern.forms = [⟨[slot, second], none⟩])
    (hread : ∀ x y, r.read [some x, some y] = .ok (make (String.ofList x) (String.ofList y)))
    (h : parse input = .ok (make s t)) : slot.Yields s.toList ∧ second.Yields t.toList := by
  obtain ⟨cs, values, hvalues, h⟩ := exists_assigns_of_parse hr hform h
  obtain ⟨x, others, rest, rfl, hx, hothers⟩ := hvalues.exists_yields_cons
  obtain ⟨y, others, rest, rfl, hy, hnone⟩ := hothers.exists_yields_cons
  obtain ⟨rfl, rfl⟩ := Form.assigns_nil_iff.mp hnone
  rw [hread] at h
  obtain ⟨rfl, rfl⟩ := hmake (Except.ok.inj h)
  rw [String.toList_ofList, String.toList_ofList]
  exact ⟨hx, hy⟩

/-- The texts of a command made of a text and perhaps another. -/
theorem yields_optional_of_parse {make : String → Option String → Command}
    (hmake : Function.Injective2 make) {s : String} {t : Option String}
    (hr : ruleFor? (make s t).kind = some r)
    (hform : r.pattern.forms = [⟨[slot], some second⟩])
    (hread : ∀ x v, r.read [some x, v] = .ok (make (String.ofList x) (v.map String.ofList)))
    (h : parse input = .ok (make s t)) :
    slot.Yields s.toList ∧ ∀ x ∈ t, second.Yields x.toList := by
  obtain ⟨cs, values, hvalues, h⟩ := exists_assigns_of_parse hr hform h
  obtain ⟨x, others, rest, rfl, hx, hothers⟩ := hvalues.exists_yields_cons
  obtain ⟨v, rfl, hv⟩ := hothers.exists_yields_last
  rw [hread] at h
  obtain ⟨rfl, rfl⟩ := hmake (Except.ok.inj h)
  rw [String.toList_ofList]
  refine ⟨hx, ?_⟩
  simpa using hv

/-! ### Numbers of a line -/

/-- A number of milliseconds on a line is at most the greatest integer of sixty-four bits. -/
theorem le_of_readNumber {v : Option (List Char)} {j : Json} {ms : UInt64}
    (hj : readNumber v = .ok j) (h : word64 .buffered j = .ok ms) :
    ms.toNat ≤ 9223372036854775807 := by
  cases v with
  | none =>
    obtain rfl := Except.ok.inj hj
    cases h
  | some cs =>
    rw [readNumber] at hj
    split at hj
    · next n hn =>
      obtain rfl := Except.ok.inj hj
      have hle : n ≤ 9223372036854775807 := by
        have := (Option.filter_eq_some_iff.mp hn).2
        simp only [decide_eq_true_eq] at this
        exact this.2
      -- The number is not negative, and too small to be cut off.
      obtain ⟨-, rfl⟩ := integer_int_eq_ok_iff.mp h
      rw [UInt64.toNat_ofNat']
      have := Nat.mod_le n.toNat (2 ^ 64)
      omega
    · cases hj

/-- A limit that has been read from digits is in the range of signed integers. -/
theorem le_of_readNumber_optional {v : Option (List Char)} {j : Json} {timeout : Option UInt64}
    (hj : readNumber v = .ok j) (h : Record.optional word64 .buffered j = .ok timeout) :
    ∀ ms ∈ timeout, ms.toNat ≤ 9223372036854775807 := by
  by_cases hnull : j = .null
  · subst hnull
    obtain rfl := Except.ok.inj h
    simp
  · obtain ⟨ms, hms, rfl⟩ := (optional_eq_ok_iff hnull).mp h
    simpa using le_of_readNumber hj hms

/-- A wait that has been parsed is in the range of signed integers. -/
private theorem le_of_parse_wait {ms : UInt64} (h : parse input = .ok (.wait ms)) :
    ms.toNat ≤ 9223372036854775807 := by
  obtain ⟨cs, values, hvalues, h⟩ := exists_assigns_of_parse rfl rfl h
  obtain ⟨x, others, rest, rfl, -, hothers⟩ := hvalues.exists_yields_cons
  obtain ⟨rfl, rfl⟩ := Form.assigns_nil_iff.mp hothers
  obtain ⟨j, ms', hj, hms, hc⟩ := read_wait_iff.mp h
  exact wait.inj hc ▸ le_of_readNumber hj hms

/-- A wait for an element that has been parsed has a selector that its slot yields, and its limit is
in the range. -/
private theorem yields_of_parse_waitForElement {s : String} {timeout : Option UInt64}
    (h : parse input = .ok (.waitForElement s timeout)) :
    Slot.Yields .selector s.toList ∧ ∀ ms ∈ timeout, ms.toNat ≤ 9223372036854775807 := by
  obtain ⟨cs, values, hvalues, h⟩ := exists_assigns_of_parse rfl rfl h
  obtain ⟨x, others, rest, rfl, hx, hothers⟩ := hvalues.exists_yields_cons
  obtain ⟨v, rfl, -⟩ := hothers.exists_yields_last
  obtain ⟨j, ms, hj, hms, hc⟩ := read_waitForElement_iff.mp h
  obtain ⟨rfl, rfl⟩ := waitForElement.inj hc
  rw [String.toList_ofList]
  exact ⟨hx, le_of_readNumber_optional hj hms⟩

/-- A wait for a condition that has been parsed has a limit in the range. -/
private theorem le_of_parse_waitFor {condition : WaitCondition} {timeout : Option UInt64}
    (h : parse input = .ok (.waitFor condition timeout)) :
    ∀ ms ∈ timeout, ms.toNat ≤ 9223372036854775807 := by
  obtain ⟨cs, values, hvalues, h⟩ := exists_assigns_of_parse rfl rfl h
  obtain ⟨x, others, rest, rfl, hx, hothers⟩ := hvalues.exists_yields_cons
  obtain ⟨v, rfl, -⟩ := hothers.exists_yields_last
  obtain ⟨written, rfl⟩ := hx.exists_word WaitCondition.word [.quiet, .network] (by decide)
  obtain ⟨j, ms, hj, hms, hc⟩ := read_waitFor_iff.mp h
  exact (waitFor.inj hc).2 ▸ le_of_readNumber_optional hj hms

/-! ### Words of a line -/

/-- The text of a dialog that has been parsed has no quote in it. -/
private theorem quotes_of_parse_dialog {action : DialogAction} {t : Option String}
    (h : parse input = .ok (.dialog action t)) : ∀ x ∈ t, '"' ∉ x.toList := by
  obtain ⟨cs, values, hvalues, h⟩ := exists_assigns_of_parse rfl rfl h
  obtain ⟨x, others, rest, rfl, hx, hothers⟩ := hvalues.exists_yields_cons
  obtain ⟨v, rfl, hv⟩ := hothers.exists_yields_last
  obtain ⟨written, rfl⟩ := hx.exists_word DialogAction.word [.accept, .dismiss] (by decide)
  have hread : (Rule.ofForm "dialog" [.oneOf ["accept", "dismiss"]] (some .quoted)
      [("action", .text 1), ("prompt_text", .text 2)]).read [some written.word.toList, v] =
        .ok (.dialog written (v.map String.ofList)) := by
    cases written <;> cases v <;> rfl
  obtain ⟨rfl, rfl⟩ := dialog.inj (Except.ok.inj (hread.symm.trans h))
  simpa using fun x hx => (hv x hx).quoted

/-- The name of a recipe that has been parsed does not have both a blank and a quote in it. -/
private theorem quotes_of_parse_recipe {action : RecipeAction} {name : String}
    (h : parse input = .ok (.recipe action name)) :
    ¬((∃ c ∈ name.toList, isBlank c = true) ∧ '"' ∈ name.toList) := by
  obtain ⟨cs, values, hvalues, h⟩ := exists_assigns_of_parse rfl rfl h
  obtain ⟨x, others, rest, rfl, hx, hothers⟩ := hvalues.exists_yields_cons
  obtain ⟨y, others, rest, rfl, hy, hnone⟩ := hothers.exists_yields_cons
  obtain ⟨rfl, rfl⟩ := Form.assigns_nil_iff.mp hnone
  obtain ⟨written, rfl⟩ := hx.exists_word RecipeAction.word [.save, .load] (by decide)
  have hread : (Rule.ofForm "recipe" [.oneOf ["save", "load"], .selector] none
      [("action", .text 1), ("name", .text 2)]).read [some written.word.toList, some y] =
        .ok (.recipe written (String.ofList y)) := by
    cases written <;> rfl
  obtain ⟨rfl, rfl⟩ := recipe.inj (Except.ok.inj (hread.symm.trans h))
  rw [String.toList_ofList]
  exact fun hname => hy.selector hname.1 hname.2

/-! ### Scrolls of a line -/

/-- Digits that are there give a coordinate. -/
private theorem isSome_of_readNumber {v : List Char} {j : Json} {x : Option Int64}
    (hj : readNumber (some v) = .ok j) (h : Record.optional int64 .buffered j = .ok x) :
    x.isSome = true := by
  rw [readNumber] at hj
  split at hj
  · obtain rfl := Except.ok.inj hj
    obtain ⟨n, -, rfl⟩ := (optional_eq_ok_iff (by simp)).mp h
    rfl
  · cases hj

/-- A scroll that is read from a line has a selector or two coordinates. -/
theorem scroll_cases_of_parse {selector : Option String} {x y : Option Int64}
    (h : parse input = .ok (.scroll selector x y)) :
    (∃ s, selector = some s ∧ x = none ∧ y = none ∧ Slot.Yields .selector s.toList) ∨
      ∃ a b, selector = none ∧ x = some a ∧ y = some b := by
  obtain ⟨r, cs, written, hr, hfits, h⟩ := exists_fits_of_parse h
  obtain rfl : scrollRule = r := Option.some.inj hr
  rcases exists_fits_scroll_iff.mp ⟨written, hfits, h⟩ with
    ⟨values, hvalues, h⟩ | ⟨values, hvalues, h⟩
  · obtain rfl := read_coordinates hvalues h
    obtain ⟨a, others, rest, rfl, -, hothers⟩ := hvalues.exists_yields_cons
    obtain ⟨b, others, rest, rfl, -, hnone⟩ := hothers.exists_yields_cons
    obtain ⟨-, rfl⟩ := Form.assigns_nil_iff.mp hnone
    obtain ⟨j, k, ⟨hj, hk⟩, x', hx, y', hy, hc⟩ := read_scroll_iff.mp h
    obtain ⟨-, rfl, rfl⟩ := scroll.inj hc
    -- Both coordinates were written, so both are there.
    obtain ⟨a, rfl⟩ := Option.isSome_iff_exists.mp (isSome_of_readNumber hj hx)
    obtain ⟨b, rfl⟩ := Option.isSome_iff_exists.mp (isSome_of_readNumber hk hy)
    exact .inr ⟨a, b, rfl, rfl, rfl⟩
  · obtain ⟨rfl, hselector, rfl, rfl⟩ := read_scroll_selector hvalues h
    obtain ⟨s, rfl⟩ := Option.isSome_iff_exists.mp hselector
    obtain ⟨v, others, rest, hv, hyields, -⟩ := hvalues.exists_yields_cons
    obtain rfl : s.toList = v := Option.some.inj (List.cons.inj hv).1
    exact .inl ⟨s, rfl, rfl, rfl, hyields⟩

end

/-! ### Stable commands -/

/-- A selector that is written in quotes by the canonical text, or has no quotes around it. -/
def isStableSelector (s : String) : Bool :=
  s.toList.any isBlank || stripQuotes s.toList = s.toList

/-- The canonical text leaves no quotes bare around a page or a selector, and no page out. -/
def isStable : Command → Bool
  | .navto url => !url.isEmpty && stripQuotes url.toList = url.toList
  | .click selector _ | .type selector _ | .setValue selector _ | .focus selector
  | .enable selector | .hover selector | .scroll (some selector) _ _ | .getAttr selector _
  | .getStyle selector _ | .waitForElement selector _ | .assert selector _
  | .assertTextContains selector _ => isStableSelector selector
  | _ => true

/-- What a selector slot yields is read back just if it is stable. -/
theorem isSelectorText_iff {s : String} (h : Slot.Yields .selector s.toList) :
    IsSelectorText s ↔ isStableSelector s = true := by
  rw [IsSelectorText, isStableSelector]
  -- White space decides whether the canonical text puts the selector in quotes.
  by_cases hblank : ∃ c ∈ s.toList, isBlank c = true
  · simp [hblank, h.selector hblank]
  · have hbare : ∀ c ∈ s.toList, isBlank c = false := by simpa using hblank
    have hany : s.toList.any isBlank = false := by simpa using hbare
    simp only [hblank, hany, false_and, false_or, Bool.false_or, decide_eq_true_eq]
    exact and_iff_right hbare

/-- The other arguments are no condition when they are known to be read back. -/
theorem isSelectorText_and_iff {s : String} {P : Prop} (h : Slot.Yields .selector s.toList)
    (hP : P) : IsSelectorText s ∧ P ↔ isStableSelector s = true := by
  rw [isSelectorText_iff h]
  exact and_iff_left hP

section

variable {input : String} {r : Rule}

/-- Commands with a selector. -/
theorem parse_selector_iff_isStable {make : String → Command} (hmake : Function.Injective make)
    {s : String} (harguments : (make s).arguments = " " ++ selectorArgument s)
    (hr : ruleFor? (make s).kind = some r) (hform : r.pattern.forms = [⟨[.selector], none⟩])
    (hread : ∀ x, r.read [some x] = .ok (make (String.ofList x)))
    (h : parse input = .ok (make s)) :
    parse (make s).display = .ok (make s) ↔ isStableSelector s = true := by
  rw [parse_selector_iff hmake harguments hr hform hread,
    isSelectorText_iff (yields_of_parse hmake hr hform hread h)]

/-- Commands with a selector and a text in quotes. -/
theorem parse_selector_quoted_iff_isStable {make : String → String → Command}
    (hmake : Function.Injective2 make) {s t : String}
    (harguments : (make s t).arguments = " " ++ selectorArgument s ++ " " ++ inQuotes t)
    (hr : ruleFor? (make s t).kind = some r)
    (hform : r.pattern.forms = [⟨[.selector, .quoted], none⟩])
    (hread : ∀ x y, r.read [some x, some y] = .ok (make (String.ofList x) (String.ofList y)))
    (h : parse input = .ok (make s t)) :
    parse (make s t).display = .ok (make s t) ↔ isStableSelector s = true := by
  obtain ⟨hs, ht⟩ := yields_pair_of_parse hmake hr hform hread h
  rw [parse_selector_quoted_iff hmake harguments hr hform hread,
    isSelectorText_and_iff hs ht.quoted]

/-- Commands with a selector and perhaps a text in quotes. -/
theorem parse_selector_quoted?_iff_isStable {make : String → Option String → Command}
    (hmake : Function.Injective2 make) {s : String} {t : Option String}
    (harguments : (make s t).arguments = " " ++ selectorArgument s ++ argument? inQuotes t)
    (hr : ruleFor? (make s t).kind = some r)
    (hform : r.pattern.forms = [⟨[.selector], some .quoted⟩])
    (hread : ∀ x v, r.read [some x, v] = .ok (make (String.ofList x) (v.map String.ofList)))
    (h : parse input = .ok (make s t)) :
    parse (make s t).display = .ok (make s t) ↔ isStableSelector s = true := by
  obtain ⟨hs, ht⟩ := yields_optional_of_parse hmake hr hform hread h
  rw [parse_selector_quoted?_iff hmake harguments hr hform hread,
    isSelectorText_and_iff hs fun x hx => (ht x hx).quoted]

/-- Commands with a selector and a name. -/
theorem parse_selector_name_iff_isStable {make : String → String → Command}
    (hmake : Function.Injective2 make) {slot : Slot} (hslot : slot.isSolid = true)
    {p : Char → Bool} (hp : p '"' = false ∧ p '\'' = false)
    (haccepts : ∀ cs, slot.accepts cs = true ↔ cs ≠ [] ∧ ∀ c ∈ cs, p c = true) {s t : String}
    (harguments : (make s t).arguments = " " ++ selectorArgument s ++ " " ++ t)
    (hr : ruleFor? (make s t).kind = some r)
    (hform : r.pattern.forms = [⟨[.selector, slot], none⟩])
    (hread : ∀ x y, r.read [some x, some y] = .ok (make (String.ofList x) (String.ofList y)))
    (h : parse input = .ok (make s t)) :
    parse (make s t).display = .ok (make s t) ↔ isStableSelector s = true := by
  obtain ⟨hs, ht⟩ := yields_pair_of_parse hmake hr hform hread h
  rw [parse_selector_name_iff hmake hslot hp haccepts harguments hr hform hread,
    isSelectorText_and_iff hs (ht.accepts hp haccepts)]

/-- Commands that are any text. -/
theorem parse_text_of_parse {make : String → Command} (hmake : Function.Injective make)
    {s : String} (harguments : (make s).arguments = " " ++ inQuotes s)
    (hr : ruleFor? (make s).kind = some r) (hform : r.pattern.forms = [⟨[.text], none⟩])
    (hread : ∀ x, r.read [some x] = .ok (make (String.ofList x)))
    (h : parse input = .ok (make s)) : parse (make s).display = .ok (make s) := by
  rw [parse_text_iff hmake harguments hr hform hread]
  exact (yields_of_parse hmake hr hform hread h).text

end

/-- The canonical text of a line is read back exactly if the command is stable. -/
theorem parse_display_of_parse {input : String} {c : Command} (h : parse input = .ok c) :
    parse c.display = .ok c ↔ c.isStable = true := by
  -- Only a page and a selector can be unstable; what else a line is read as is read back.
  cases c with
  | navto url =>
    have hurl := (yields_of_parse (fun _ _ h => navto.inj h) rfl rfl (fun x => rfl) h).word
    rw [parse_navto_iff, and_iff_right hurl, isStable, Bool.and_eq_true, decide_eq_true_eq,
      Bool.not_eq_true', String.isEmpty_eq_false_iff, Ne, String.toList_eq_nil_iff]
  | click selector text =>
    exact parse_selector_quoted?_iff_isStable (fun _ _ _ _ h => click.inj h) rfl rfl rfl
      (fun x v => by cases v <;> rfl) h
  | type selector value =>
    exact parse_selector_quoted_iff_isStable (fun _ _ _ _ h => type.inj h) rfl rfl rfl
      (fun x y => rfl) h
  | setValue selector value =>
    exact parse_selector_quoted_iff_isStable (fun _ _ _ _ h => setValue.inj h) rfl rfl rfl
      (fun x y => rfl) h
  | focus selector =>
    exact parse_selector_iff_isStable (fun _ _ h => focus.inj h) rfl rfl rfl (fun x => rfl) h
  | enable selector =>
    exact parse_selector_iff_isStable (fun _ _ h => enable.inj h) rfl rfl rfl (fun x => rfl) h
  | hover selector =>
    exact parse_selector_iff_isStable (fun _ _ h => hover.inj h) rfl rfl rfl (fun x => rfl) h
  | scroll selector x y =>
    rcases scroll_cases_of_parse h with ⟨s, rfl, rfl, rfl, hs⟩ | ⟨a, b, rfl, rfl, rfl⟩
    · rw [parse_scroll_selector_iff, and_iff_right ⟨rfl, rfl⟩]
      exact isSelectorText_iff hs
    · exact iff_of_true parse_scroll_coordinates rfl
  | getAttr selector name =>
    exact parse_selector_name_iff_isStable (fun _ _ _ _ h => getAttr.inj h) rfl (by decide +kernel)
      (fun _ => Slot.accepts_qualifiedName_iff) rfl rfl rfl (fun x y => rfl) h
  | getStyle selector property =>
    exact parse_selector_name_iff_isStable (fun _ _ _ _ h => getStyle.inj h) rfl (by decide +kernel)
      (fun _ => Slot.accepts_name_iff) rfl rfl rfl (fun x y => rfl) h
  | wait ms => exact iff_of_true (parse_wait_iff.mpr (le_of_parse_wait h)) rfl
  | waitForElement selector timeout =>
    obtain ⟨hs, htimeout⟩ := yields_of_parse_waitForElement h
    rw [parse_waitForElement_iff]
    exact isSelectorText_and_iff hs htimeout
  | waitFor condition timeout =>
    exact iff_of_true (parse_waitFor_iff.mpr (le_of_parse_waitFor h)) rfl
  | exec script =>
    exact iff_of_true
      (parse_text_of_parse (fun _ _ h => exec.inj h) rfl rfl rfl (fun x => rfl) h) rfl
  | screenshot =>
    exact iff_of_true ((parse_display_iff_of_form rfl rfl).mpr
      ⟨[], Form.assigns_nil_iff.mpr ⟨rfl, rfl⟩, rfl⟩) rfl
  | dialog action promptText =>
    refine iff_of_true (?_ : parse (dialog action promptText).display = _) rfl
    exact (parse_word_quoted?_iff (fun _ _ h => (dialog.inj h).2) rfl rfl rfl (by decide)
      (by cases action <;> decide) (by cases action <;> decide)
      fun v => by cases action <;> cases v <;> rfl).mpr (quotes_of_parse_dialog h)
  | resize width height => exact iff_of_true parse_resize rfl
  | changes action =>
    exact iff_of_true (parse_word rfl rfl rfl (by decide) (by cases action <;> decide)
      (by cases action <;> decide) (by cases action <;> rfl)) rfl
  | record action =>
    exact iff_of_true (parse_word rfl rfl rfl (by decide) (by cases action <;> decide)
      (by cases action <;> decide) (by cases action <;> rfl)) rfl
  | recipe action name => exact iff_of_true (parse_recipe_iff.mpr (quotes_of_parse_recipe h)) rfl
  | message text =>
    exact iff_of_true
      (parse_text_of_parse (fun _ _ h => message.inj h) rfl rfl rfl (fun x => rfl) h) rfl
  | showToast text =>
    exact iff_of_true
      (parse_text_of_parse (fun _ _ h => showToast.inj h) rfl rfl rfl (fun x => rfl) h) rfl
  | assert selector text =>
    exact parse_selector_quoted?_iff_isStable (fun _ _ _ _ h => assert.inj h) rfl rfl rfl
      (fun x v => by cases v <;> rfl) h
  | assertTextContains selector text =>
    exact parse_selector_quoted_iff_isStable (fun _ _ _ _ h => assertTextContains.inj h) rfl rfl rfl
      (fun x y => rfl) h
  | «break» =>
    exact iff_of_true ((parse_display_iff_of_form rfl rfl).mpr
      ⟨[], Form.assigns_nil_iff.mpr ⟨rfl, rfl⟩, rfl⟩) rfl

/-- White space keeps a selector in quotes. -/
theorem parse_display_of_parse_click :
    parse "Click: \"a 'b'\" \"c\"" = .ok (.click "a 'b'" (some "c")) ∧
      parse (click "a 'b'" (some "c")).display = .ok (.click "a 'b'" (some "c")) := by
  have h : parse "Click: \"a 'b'\" \"c\"" = .ok (.click "a 'b'" (some "c")) := by decide +kernel
  exact ⟨h, (parse_display_of_parse h).mpr rfl⟩

/-- A selector in quotes of its own is written bare, and loses them. -/
theorem parse_display_focus_inQuotes :
    parse "focus \"'x'\"" = .ok (.focus "'x'") ∧
      parse (focus "'x'").display = .ok (.focus "x") := by
  decide +kernel

end Command

end PageScript
