import PageScript.Proofs.Command.Display

/-!
# Canonical texts read back

The canonical text of a command has no escapes, so not every command is read back from its text.
The module says which commands are (`Command.Representable`), one condition for each field.

* `Command.parse_display_eq_ok_iff_representable` — the representable commands are read back, and
  the text of any other is refused or read as another command.
-/

namespace PageScript

open Text Line Grammar Record

namespace Command

/-- A command that is read back from its canonical text. -/
def Representable : Command → Prop
  | .navto url =>
    url.toList ≠ [] ∧ (∀ c ∈ url.toList, isBlank c = false) ∧ stripQuotes url.toList = url.toList
  | .focus selector | .enable selector | .hover selector => IsSelectorText selector
  | .click selector text | .assert selector text =>
    IsSelectorText selector ∧ ∀ t ∈ text, '"' ∉ t.toList
  | .type selector text | .setValue selector text | .assertTextContains selector text =>
    IsSelectorText selector ∧ '"' ∉ text.toList
  | .scroll (some selector) none none => IsSelectorText selector
  | .scroll none (some _) (some _) => True
  | .scroll _ _ _ => False
  | .getAttr selector name =>
    IsSelectorText selector ∧ name.toList ≠ [] ∧
      ∀ c ∈ name.toList, Slot.isQualifiedNameChar c = true
  | .getStyle selector property =>
    IsSelectorText selector ∧ property.toList ≠ [] ∧
      ∀ c ∈ property.toList, Slot.isNameChar c = true
  | .wait ms => ms.toNat ≤ 9223372036854775807
  | .waitForElement selector timeout =>
    IsSelectorText selector ∧ ∀ ms ∈ timeout, ms.toNat ≤ 9223372036854775807
  | .waitFor _ timeout => ∀ ms ∈ timeout, ms.toNat ≤ 9223372036854775807
  | .exec text | .message text | .showToast text => '\n' ∉ text.toList
  | .dialog _ promptText => ∀ t ∈ promptText, '"' ∉ t.toList
  | .recipe _ name => ¬((∃ c ∈ name.toList, isBlank c = true) ∧ '"' ∈ name.toList)
  | .screenshot | .resize _ _ | .changes _ | .record _ | .break => True

/-! ### Commands made of numbers -/

/-- What the record of a wait is read as. -/
private theorem decode_wait_iff {j : Json} {c : Command} :
    decoder.run (ofKind "wait" [("ms", j)]) = .ok c ↔
      ∃ ms, word64 .buffered j = .ok ms ∧ .wait ms = c := by
  -- The verb is the tag of the record, and the numbers are its other fields.
  rw [decoder, ofKind, run_tagged_obj rfl (by simp), runAside_eq_ok_iff, rest,
    record_obj_eq_ok_iff]
  simp [required, occurrences]

/-- What the record of a wait for an element is read as. -/
private theorem decode_waitForElement_iff {selector : String} {j : Json} {c : Command} :
    decoder.run (ofKind "waitforelement" [("selector", .str selector), ("timeout_ms", j)]) = .ok c ↔
      ∃ ms, Record.optional word64 .buffered j = .ok ms ∧ .waitForElement selector ms = c := by
  rw [decoder, ofKind, run_tagged_obj rfl (by simp), runAside_eq_ok_iff, rest,
    record_obj_eq_ok_iff]
  simp [required, possible, occurrences, text]

/-- What the record of a wait for a condition is read as. -/
private theorem decode_waitFor_iff {condition : WaitCondition} {j : Json} {c : Command} :
    decoder.run (ofKind "waitfor" [("condition", .str condition.word), ("timeout_ms", j)]) = .ok c ↔
      ∃ ms, Record.optional word64 .buffered j = .ok ms ∧ .waitFor condition ms = c := by
  have hcondition : Record.oneOf WaitCondition.words .buffered (.str condition.word) =
      .ok condition := by
    cases condition <;> rfl
  rw [decoder, ofKind, run_tagged_obj rfl (by simp), runAside_eq_ok_iff, rest,
    record_obj_eq_ok_iff]
  simp [required, possible, occurrences, hcondition]

/-- What the record of a resize is read as. -/
private theorem decode_resize_iff {j k : Json} {c : Command} :
    decoder.run (ofKind "resize" [("height", j), ("width", k)]) = .ok c ↔
      ∃ width, word32 .buffered k = .ok width ∧
        ∃ height, word32 .buffered j = .ok height ∧ .resize width height = c := by
  rw [decoder, ofKind, run_tagged_obj rfl (by simp), runAside_eq_ok_iff, rest,
    record_obj_eq_ok_iff]
  simp [required, occurrences]

/-- What the record of a scroll is read as. -/
private theorem decode_scroll_iff {s j k : Json} {c : Command} :
    decoder.run (ofKind "scroll" [("selector", s), ("x", j), ("y", k)]) = .ok c ↔
      ∃ selector, Record.optional text .buffered s = .ok selector ∧
        ∃ x, Record.optional int64 .buffered j = .ok x ∧
          ∃ y, Record.optional int64 .buffered k = .ok y ∧ .scroll selector x y = c := by
  rw [decoder, ofKind, run_tagged_obj rfl (by simp), runAside_eq_ok_iff, rest,
    record_obj_eq_ok_iff]
  simp [possible, occurrences]

/-- A rule makes a command of values when the record filled by them is that of the command. -/
theorem read_eq_ok_iff {r : Rule} {values : Assignment} {c : Command} :
    r.read values = .ok c ↔ ∃ fields, readFields values r.template = .ok fields ∧
      decoder.run (ofKind r.verb fields) = .ok c := by
  rw [Rule.read]
  cases readFields values r.template with
  | error value => simp
  | ok fields =>
    simp only [Except.ok.injEq, exists_eq_left']
    cases decoder.run (ofKind r.verb fields) <;> simp

/-- Fields are read one after another, and all of them have to be. -/
theorem readFields_cons_eq_ok_iff {values : Assignment} {key : String} {source : Source}
    {template : List (String × Source)} {fields : List (String × Json)} :
    readFields values ((key, source) :: template) = .ok fields ↔
      ∃ value others, source.read values = .ok value ∧ readFields values template = .ok others ∧
        fields = (key, value) :: others := by
  -- The fields are read one after another.
  have hcons : readFields values ((key, source) :: template) =
      (source.read values).bind fun value =>
        (readFields values template).map fun others => (key, value) :: others := by
    rw [readFields, readFields, List.mapM_cons]
    cases source.read values with
    | error cs => rfl
    | ok value =>
      cases template.mapM fun field =>
        (field.2.read values).map fun value => (field.1, value) <;> rfl
  rw [hcons]
  cases source.read values with
  | error cs => simp [Except.bind]
  | ok value =>
    cases readFields values template <;> simp [Except.bind, Except.map, eq_comm]

/-- Without a template there are no fields. -/
theorem readFields_nil_eq_ok_iff {values : Assignment} {fields : List (String × Json)} :
    readFields values [] = .ok fields ↔ fields = [] := by
  change Except.ok [] = _ ↔ _
  simp [eq_comm]

/-- What the rule for waits reads. -/
theorem read_wait_iff {v : Option (List Char)} {c : Command} :
    (Rule.ofForm "wait" [.number] none [("ms", .number 1)]).read [v] = .ok c ↔
      ∃ j ms, readNumber v = .ok j ∧ word64 .buffered j = .ok ms ∧ .wait ms = c := by
  rw [read_eq_ok_iff]
  simp [Rule.ofForm, readFields_cons_eq_ok_iff, readFields_nil_eq_ok_iff, Source.read,
    Grammar.argument?, Rule.verb, decode_wait_iff]

/-- What the rule for waits for an element reads. -/
theorem read_waitForElement_iff {x : List Char} {v : Option (List Char)} {c : Command} :
    (Rule.ofForm "waitforelement" [.selector] (some .number)
        [("selector", .text 1), ("timeout_ms", .number 2)]).read [some x, v] = .ok c ↔
      ∃ j ms, readNumber v = .ok j ∧ Record.optional word64 .buffered j = .ok ms ∧
        .waitForElement (String.ofList x) ms = c := by
  rw [read_eq_ok_iff]
  simp [Rule.ofForm, readFields_cons_eq_ok_iff, readFields_nil_eq_ok_iff, Source.read,
    Grammar.argument?, Rule.verb, Json.ofText?, decode_waitForElement_iff]

/-- What the rule for waits for a condition reads. -/
theorem read_waitFor_iff {condition : WaitCondition} {v : Option (List Char)} {c : Command} :
    (Rule.ofForm "waitfor" [.oneOf ["quiet", "network"]] (some .number)
        [("condition", .text 1), ("timeout_ms", .number 2)]).read
          [some condition.word.toList, v] = .ok c ↔
      ∃ j ms, readNumber v = .ok j ∧ Record.optional word64 .buffered j = .ok ms ∧
        .waitFor condition ms = c := by
  rw [read_eq_ok_iff]
  simp [Rule.ofForm, readFields_cons_eq_ok_iff, readFields_nil_eq_ok_iff, Source.read,
    Grammar.argument?, Rule.verb, Json.ofText?, decode_waitFor_iff]

/-- What the rule for resizes reads. -/
theorem read_resize_iff {v w : Option (List Char)} {c : Command} :
    (Rule.ofForm "resize" [.number, .number] none
        [("height", .number 2), ("width", .number 1)]).read [v, w] = .ok c ↔
      ∃ j k, (readNumber w = .ok j ∧ readNumber v = .ok k) ∧
        ∃ width, word32 .buffered k = .ok width ∧
          ∃ height, word32 .buffered j = .ok height ∧ .resize width height = c := by
  rw [read_eq_ok_iff]
  simp [Rule.ofForm, readFields_cons_eq_ok_iff, readFields_nil_eq_ok_iff, Source.read,
    Grammar.argument?, Rule.verb, decode_resize_iff]

/-- The rule of `scroll`: two coordinates or a selector. -/
def scrollRule : Rule :=
  ⟨⟨"scroll", [⟨[.integer, .integer], none⟩, ⟨[.selector], none⟩]⟩,
    [("selector", .text 3), ("x", .number 1), ("y", .number 2)]⟩

/-- What the rule for scrolls reads. -/
theorem read_scroll_iff {v w s : Option (List Char)} {c : Command} :
    scrollRule.read [v, w, s] = .ok c ↔
      ∃ j k, (readNumber v = .ok j ∧ readNumber w = .ok k) ∧
        ∃ x, Record.optional int64 .buffered j = .ok x ∧
          ∃ y, Record.optional int64 .buffered k = .ok y ∧
            .scroll (s.map String.ofList) x y = c := by
  have hselector : Record.optional text .buffered (Json.ofText? (s.map String.ofList)) =
      .ok (s.map String.ofList) := by
    cases s <;> rfl
  rw [read_eq_ok_iff]
  simp [scrollRule, readFields_cons_eq_ok_iff, readFields_nil_eq_ok_iff, Source.read,
    Grammar.argument?, Rule.verb, decode_scroll_iff, hselector]

/-! ### Timeouts -/

/-- The argument for an optional number of milliseconds. -/
def milliseconds (ms : Option UInt64) : Option (List Char) :=
  ms.map fun ms => (toString ms.toNat).toList

/-- A limit that is written is assigned to the last slot. -/
theorem assigns_milliseconds_iff {timeout : Option UInt64} {values : Assignment} :
    Form.Assigns [] (some .number)
        (trimEnd (argument? (fun ms : UInt64 => toString ms.toNat) timeout).toList) values ↔
      values = [milliseconds timeout] := by
  cases timeout with
  | none => exact Form.assigns_absent_iff
  | some ms =>
    -- A timeout is written in digits, which are no white space.
    have hclosed : Slot.isClosed .number = true := rfl
    have hsolid : Slot.isSolid .number = true := rfl
    obtain ⟨hne, hbare⟩ := Slot.not_isBlank_of_isSolid hsolid (accepts_number_repr ms.toNat)
    rw [toList_argument?_some, Nat.toString_eq_repr,
      trimEnd_cons_eq_self hne fun c hc => hbare c (List.mem_of_getLast? hc),
      Form.assigns_present_iff (by simp), Form.assigns_singleton_iff hclosed
        fun c hc => hbare c (List.mem_of_mem_head? hc)]
    simp only [accepts_number_repr, stripQuotes_repr_nat, milliseconds, Option.map_some,
      Nat.toString_eq_repr, true_and]

/-- A time is read back from its number. -/
theorem word64_toNat (n : UInt64) : word64 .buffered (.int n.toNat) = .ok n := by
  have := n.toNat_lt
  rw [word64, integer_int_eq_ok_iff]
  exact ⟨by omega, by simp⟩

/-- A size is read back from its number. -/
theorem word32_toNat (n : UInt32) : word32 .buffered (.int n.toNat) = .ok n := by
  have := n.toNat_lt
  rw [word32, integer_int_eq_ok_iff]
  exact ⟨by omega, by simp⟩

/-- A coordinate is read back from its number. -/
theorem optional_int64_toInt (n : Int64) :
    Record.optional int64 .buffered (.int n.toInt) = .ok (some n) := by
  have hle := n.le_toInt
  have hlt := n.toInt_lt
  rw [optional_eq_ok_iff (by simp)]
  refine ⟨n, ?_, rfl⟩
  rw [int64, integer_int_eq_ok_iff]
  exact ⟨by omega, by simp⟩

/-- A limit is read back just if it is in the range of signed integers. -/
theorem readNumber_milliseconds_iff {timeout : Option UInt64} :
    (∃ j, readNumber (milliseconds timeout) = .ok j ∧
        Record.optional word64 .buffered j = .ok timeout) ↔
      ∀ ms ∈ timeout, ms.toNat ≤ 9223372036854775807 := by
  cases timeout with
  | none => simpa using ⟨.null, rfl, rfl⟩
  | some ms =>
    -- Every word is read back from its value; only the line has signed numbers.
    have hoptional : Record.optional word64 .buffered (.int ms.toNat) = .ok (some ms) := by
      rw [optional_eq_ok_iff (by simp)]
      exact ⟨ms, word64_toNat ms, rfl⟩
    simp only [milliseconds, Option.map_some, Nat.toString_eq_repr,
      readNumber_eq_ok_iff (intOfDigits?_repr_nat ms.toNat), Option.mem_some_iff, forall_eq']
    constructor
    · rintro ⟨j, ⟨h, -⟩, -⟩
      omega
    · intro h
      exact ⟨_, ⟨by omega, rfl⟩, hoptional⟩

/-- A wait is read back from its text just if its time is in the range of signed integers. -/
theorem parse_wait_iff {ms : UInt64} :
    parse (wait ms).display = .ok (.wait ms) ↔ ms.toNat ≤ 9223372036854775807 := by
  have hr : ruleFor? (wait ms).kind =
      some (Rule.ofForm "wait" [.number] none [("ms", .number 1)]) := rfl
  have hpart : (wait ms).arguments.toList = ' ' :: (ms.toNat.repr.toList ++ []) := by
    rw [arguments, toList_space_append, Nat.toString_eq_repr, List.append_nil]
  have hsolid : Slot.isSolid .number = true := rfl
  have hnil : ∀ c ∈ ([] : List Char).head?, isBlank c = true := by simp
  rw [parse_display_iff_of_form hr rfl, hpart]
  simp only [assigns_solid_first_iff hnil hsolid (accepts_number_repr ms.toNat)
    (stripQuotes_repr_nat ms.toNat)]
  constructor
  · rintro ⟨_, ⟨others, rfl, hothers⟩, h⟩
    obtain ⟨-, rfl⟩ := Form.assigns_nil_iff.mp hothers
    obtain ⟨j, ms', hj, -, -⟩ := read_wait_iff.mp h
    -- A larger number is refused as an integer of sixty-four bits.
    have := ((readNumber_eq_ok_iff (intOfDigits?_repr_nat ms.toNat)).mp hj).1
    omega
  · intro h
    refine ⟨_, ⟨[], rfl, Form.assigns_nil_iff.mpr ⟨rfl, rfl⟩⟩, read_wait_iff.mpr ?_⟩
    refine ⟨.int ms.toNat, ms, ?_, word64_toNat ms, rfl⟩
    exact (readNumber_eq_ok_iff (intOfDigits?_repr_nat ms.toNat)).mpr ⟨by omega, rfl⟩

/-- A wait for an element is read back just if its selector and its limit are. -/
theorem parse_waitForElement_iff {selector : String} {timeout : Option UInt64} :
    parse (waitForElement selector timeout).display = .ok (.waitForElement selector timeout) ↔
      IsSelectorText selector ∧ ∀ ms ∈ timeout, ms.toNat ≤ 9223372036854775807 := by
  have hr : ruleFor? (waitForElement selector timeout).kind =
      some (Rule.ofForm "waitforelement" [.selector] (some .number)
        [("selector", .text 1), ("timeout_ms", .number 2)]) := rfl
  have hpart : (waitForElement selector timeout).arguments.toList =
      ' ' :: ((selectorArgument selector).toList ++
        (argument? (fun ms : UInt64 => toString ms.toNat) timeout).toList) := by
    simp [arguments, String.toList_append]
  rw [parse_display_iff_of_form hr rfl, hpart, ← readNumber_milliseconds_iff]
  constructor
  · rintro ⟨values, hvalues, h⟩
    -- The values have the shape of the form, and the command determines them.
    obtain ⟨x, others, rest, rfl, hothers⟩ := hvalues.exists_eq_cons
    obtain ⟨v, rfl⟩ := hothers.exists_eq_singleton
    obtain ⟨j, ms, hj, hms, hc⟩ := read_waitForElement_iff.mp h
    obtain ⟨hx, rfl⟩ := waitForElement.inj hc
    obtain rfl : x = selector.toList := by rw [← hx, String.toList_ofList]
    obtain ⟨hselector, hothers⟩ :=
      (assigns_selector_first_iff (isBlank_of_mem_head?_argument? _ _)).mp hvalues
    obtain rfl : v = milliseconds ms := by simpa using assigns_milliseconds_iff.mp hothers
    exact ⟨hselector, j, hj, hms⟩
  · rintro ⟨hselector, j, hj, hms⟩
    refine ⟨[some selector.toList, milliseconds timeout], ?_, ?_⟩
    · rw [assigns_selector_first_iff (isBlank_of_mem_head?_argument? _ _)]
      exact ⟨hselector, assigns_milliseconds_iff.mpr rfl⟩
    · exact read_waitForElement_iff.mpr ⟨j, timeout, hj, hms, by rw [String.ofList_toList]⟩

/-- A wait for a condition is read back just if its limit is. -/
theorem parse_waitFor_iff {condition : WaitCondition} {timeout : Option UInt64} :
    parse (waitFor condition timeout).display = .ok (.waitFor condition timeout) ↔
      ∀ ms ∈ timeout, ms.toNat ≤ 9223372036854775807 := by
  have hr : ruleFor? (waitFor condition timeout).kind =
      some (Rule.ofForm "waitfor" [.oneOf ["quiet", "network"]] (some .number)
        [("condition", .text 1), ("timeout_ms", .number 2)]) := rfl
  have hpart : (waitFor condition timeout).arguments.toList =
      ' ' :: (condition.word.toList ++
        (argument? (fun ms : UInt64 => toString ms.toNat) timeout).toList) := by
    simp [arguments, String.toList_append]
  have hargument : Slot.accepts (.oneOf ["quiet", "network"]) condition.word.toList = true := by
    cases condition <;> decide
  have hstrip : stripQuotes condition.word.toList = condition.word.toList := by
    cases condition <;> decide
  rw [parse_display_iff_of_form hr rfl, hpart, ← readNumber_milliseconds_iff]
  simp only [assigns_solid_first_iff (isBlank_of_mem_head?_argument? _ _)
    (by decide : Slot.isSolid (.oneOf ["quiet", "network"]) = true) hargument hstrip,
    assigns_milliseconds_iff]
  -- The time is read as a signed number, so it is the upper half of its range that is lost.
  constructor
  · rintro ⟨_, ⟨_, rfl, rfl⟩, h⟩
    obtain ⟨j, ms, hj, hms, hc⟩ := read_waitFor_iff.mp h
    obtain ⟨-, rfl⟩ := waitFor.inj hc
    exact ⟨j, hj, hms⟩
  · rintro ⟨j, hj, hms⟩
    exact ⟨_, ⟨_, rfl, rfl⟩, read_waitFor_iff.mpr ⟨j, timeout, hj, hms, rfl⟩⟩

/-- A resize is always read back. -/
theorem parse_resize {width height : UInt32} :
    parse (resize width height).display = .ok (.resize width height) := by
  have hr : ruleFor? (resize width height).kind =
      some (Rule.ofForm "resize" [.number, .number] none
        [("height", .number 2), ("width", .number 1)]) := rfl
  have hpart : (resize width height).arguments.toList =
      ' ' :: (width.toNat.repr.toList ++ ' ' :: height.toNat.repr.toList) := by
    simp [arguments, String.toList_append]
  -- Words of thirty-two bits are far below the bound on numbers.
  have hnumber : ∀ n : UInt32, readNumber (some n.toNat.repr.toList) = .ok (.int n.toNat) := by
    intro n
    have := n.toNat_lt
    exact (readNumber_eq_ok_iff (intOfDigits?_repr_nat n.toNat)).mpr ⟨by omega, rfl⟩
  rw [parse_display_iff_of_form hr rfl, hpart]
  refine ⟨[some width.toNat.repr.toList, some height.toNat.repr.toList], ?_, ?_⟩
  · exact assigns_solid_pair rfl (accepts_number_repr _) (stripQuotes_repr_nat _)
      (accepts_number_repr _) (stripQuotes_repr_nat _)
  · exact read_resize_iff.mpr ⟨_, _, ⟨hnumber height, hnumber width⟩, width, word32_toNat width,
      height, word32_toNat height, rfl⟩

/-! ### Scrolling -/

/-- The values of a scroll are two coordinates or a selector. -/
theorem exists_fits_scroll_iff {cs : List Char} {c : Command} :
    (∃ written, scrollRule.pattern.FitsArguments cs written ∧
        scrollRule.read (stripped written) = .ok c) ↔
      (∃ values, Form.Assigns [.integer, .integer] none cs values ∧
        scrollRule.read (values ++ [none]) = .ok c) ∨
      ∃ values, Form.Assigns [.selector] none cs values ∧
        scrollRule.read (none :: none :: values) = .ok c := by
  have hforms : scrollRule.pattern.forms =
      [⟨[.integer, .integer], none⟩, ⟨[.selector], none⟩] := rfl
  -- The arguments of the form that is not used are left out.
  have hfirst : ∀ own, stripped (Pattern.placed 0 own 1) = stripped own ++ [none] := by
    intro own
    simp [stripped, Pattern.placed]
  have hsecond : ∀ own, stripped (Pattern.placed 2 own 0) = none :: none :: stripped own := by
    intro own
    simp [stripped, Pattern.placed, List.replicate]
  simp only [Pattern.fitsArguments_pair hforms]
  constructor
  · rintro ⟨_, ⟨own, hfits, rfl⟩ | ⟨own, hfits, rfl⟩, h⟩
    · exact .inl ⟨_, ⟨own, hfits, rfl⟩, by rw [← hfirst]; exact h⟩
    · exact .inr ⟨_, ⟨own, hfits, rfl⟩, by rw [← hsecond]; exact h⟩
  · rintro (⟨_, ⟨own, hfits, rfl⟩, h⟩ | ⟨_, ⟨own, hfits, rfl⟩, h⟩)
    · exact ⟨_, .inl ⟨own, hfits, rfl⟩, by rw [← hfirst] at h; exact h⟩
    · exact ⟨_, .inr ⟨own, hfits, rfl⟩, by rw [← hsecond] at h; exact h⟩

/-- A scroll is read from two coordinates or from a selector. -/
theorem parse_scroll_display_iff {selector : Option String} {x y : Option Int64} :
    parse (scroll selector x y).display = .ok (.scroll selector x y) ↔
      (∃ values, Form.Assigns [.integer, .integer] none
          (argumentPart (scroll selector x y).arguments.toList) values ∧
        scrollRule.read (values ++ [none]) = .ok (.scroll selector x y)) ∨
      ∃ values, Form.Assigns [.selector] none
          (argumentPart (scroll selector x y).arguments.toList) values ∧
        scrollRule.read (none :: none :: values) = .ok (.scroll selector x y) := by
  have hr : ruleFor? (scroll selector x y).kind = some scrollRule := rfl
  rw [parse_display_iff hr, exists_fits_scroll_iff]

/-- What is read as two coordinates has no selector. -/
theorem read_coordinates {values : Assignment} {cs : List Char}
    (hvalues : Form.Assigns [.integer, .integer] none cs values) {selector : Option String}
    {x y : Option Int64} (h : scrollRule.read (values ++ [none]) = .ok (.scroll selector x y)) :
    selector = none := by
  obtain ⟨a, others, rest, rfl, hothers⟩ := hvalues.exists_eq_cons
  obtain ⟨b, others, rest, rfl, hnone⟩ := hothers.exists_eq_cons
  obtain ⟨-, rfl⟩ := Form.assigns_nil_iff.mp hnone
  obtain ⟨j, k, -, x', -, y', -, hc⟩ := read_scroll_iff.mp h
  exact (scroll.inj hc).1.symm

/-- What is read as a selector has no coordinates. -/
theorem read_scroll_selector {values : Assignment} {cs : List Char}
    (hvalues : Form.Assigns [.selector] none cs values) {selector : Option String}
    {x y : Option Int64}
    (h : scrollRule.read (none :: none :: values) = .ok (.scroll selector x y)) :
    values = [selector.map String.toList] ∧ selector.isSome ∧ x = none ∧ y = none := by
  obtain ⟨a, others, rest, rfl, hnone⟩ := hvalues.exists_eq_cons
  obtain ⟨-, rfl⟩ := Form.assigns_nil_iff.mp hnone
  obtain ⟨j, k, ⟨hj, hk⟩, x', hx, y', hy, hc⟩ := read_scroll_iff.mp h
  obtain ⟨rfl, rfl, rfl⟩ := scroll.inj hc
  -- Coordinates that are left out are read as none.
  cases hj
  cases hk
  cases hx
  cases hy
  simp

/-- A scroll to an element is read back just if it has no coordinates and its selector is. -/
theorem parse_scroll_selector_iff {s : String} {x y : Option Int64} :
    parse (scroll (some s) x y).display = .ok (.scroll (some s) x y) ↔
      (x = none ∧ y = none) ∧ IsSelectorText s := by
  have hpart : (scroll (some s) x y).arguments.toList =
      ' ' :: ((selectorArgument s).toList ++ []) := by
    rw [arguments, toList_space_append, List.append_nil]
  have hselector : Form.Assigns [.selector] none
      (argumentPart (scroll (some s) x y).arguments.toList) [some s.toList] ↔
        IsSelectorText s := by
    rw [hpart, assigns_selector_first_iff (by simp), Form.assigns_nil_iff]
    simp [trimEnd]
  rw [parse_scroll_display_iff]
  constructor
  · rintro (⟨values, hvalues, h⟩ | ⟨values, hvalues, h⟩)
    -- Coordinates and a selector exclude each other.
    · cases read_coordinates hvalues h
    · obtain ⟨rfl, -, hx, hy⟩ := read_scroll_selector hvalues h
      exact ⟨⟨hx, hy⟩, hselector.mp hvalues⟩
  · rintro ⟨⟨rfl, rfl⟩, htext⟩
    refine .inr ⟨[some s.toList], hselector.mpr htext, ?_⟩
    refine read_scroll_iff.mpr ⟨.null, .null, ⟨rfl, rfl⟩, none, rfl, none, rfl, ?_⟩
    rw [Option.map_some, String.ofList_toList]

/-- A scroll by coordinates is always read back. -/
theorem parse_scroll_coordinates {x y : Int64} :
    parse (scroll none (some x) (some y)).display = .ok (.scroll none (some x) (some y)) := by
  have hpart : (scroll none (some x) (some y)).arguments.toList =
      ' ' :: (x.toInt.repr.toList ++ ' ' :: y.toInt.repr.toList) := by
    simp [arguments, String.toList_append]
  have hnumber : ∀ n : Int64, readNumber (some n.toInt.repr.toList) = .ok (.int n.toInt) := by
    intro n
    have hle := n.le_toInt
    have hlt := n.toInt_lt
    exact (readNumber_eq_ok_iff (intOfDigits?_repr n.toInt)).mpr ⟨by omega, rfl⟩
  rw [parse_scroll_display_iff, hpart]
  refine .inl ⟨[some x.toInt.repr.toList, some y.toInt.repr.toList], ?_, ?_⟩
  · exact assigns_solid_pair rfl (accepts_integer_repr _) (stripQuotes_repr_int _)
      (accepts_integer_repr _) (stripQuotes_repr_int _)
  · exact read_scroll_iff.mpr ⟨_, _, ⟨hnumber x, hnumber y⟩, some x, optional_int64_toInt x,
      some y, optional_int64_toInt y, rfl⟩

/-- A scroll to nowhere is not read at all. -/
theorem parse_scroll_nothing {x y : Option Int64} (h : x = none ∨ y = none) :
    parse (scroll none x y).display ≠ .ok (.scroll none x y) := by
  have hpart : argumentPart (scroll none x y).arguments.toList = [] := by
    rcases h with rfl | rfl
    · rfl
    · cases x <;> rfl
  -- Neither form fits an empty rest of the line.
  rw [Ne, parse_scroll_display_iff, hpart]
  rintro (⟨values, hvalues, -⟩ | ⟨values, hvalues, -⟩)
  · exact Form.not_assigns_cons_nil hvalues
  · exact Form.not_assigns_cons_nil hvalues

/-! ### All commands -/

/-- A command is read back from its canonical text exactly if it is representable. -/
theorem parse_display_eq_ok_iff_representable (c : Command) :
    parse c.display = .ok c ↔ c.Representable := by
  -- Each command belongs to a family, or has a lemma of its own.
  cases c with
  | navto url => exact parse_navto_iff
  | click selector text =>
    exact parse_selector_quoted?_iff (fun _ _ _ _ h => click.inj h) rfl rfl rfl
      fun x v => by cases v <;> rfl
  | type selector value =>
    exact parse_selector_quoted_iff (fun _ _ _ _ h => type.inj h) rfl rfl rfl fun x y => rfl
  | setValue selector value =>
    exact parse_selector_quoted_iff (fun _ _ _ _ h => setValue.inj h) rfl rfl rfl fun x y => rfl
  | focus selector => exact parse_selector_iff (fun _ _ h => focus.inj h) rfl rfl rfl fun x => rfl
  | enable selector => exact parse_selector_iff (fun _ _ h => enable.inj h) rfl rfl rfl fun x => rfl
  | hover selector => exact parse_selector_iff (fun _ _ h => hover.inj h) rfl rfl rfl fun x => rfl
  | scroll selector x y =>
    cases selector with
    | some selector =>
      rw [parse_scroll_selector_iff]
      cases x <;> cases y <;> simp [Representable]
    | none =>
      cases x with
      | none => simpa [Representable] using parse_scroll_nothing (.inl rfl)
      | some x =>
        cases y with
        | none => simpa [Representable] using parse_scroll_nothing (.inr rfl)
        | some y => simpa [Representable] using parse_scroll_coordinates
  | getAttr selector name =>
    exact parse_selector_name_iff (fun _ _ _ _ h => getAttr.inj h) rfl (by decide +kernel)
      (fun _ => Slot.accepts_qualifiedName_iff) rfl rfl rfl fun x y => rfl
  | getStyle selector property =>
    exact parse_selector_name_iff (fun _ _ _ _ h => getStyle.inj h) rfl (by decide +kernel)
      (fun _ => Slot.accepts_name_iff) rfl rfl rfl fun x y => rfl
  | wait ms => exact parse_wait_iff
  | waitForElement selector timeout => exact parse_waitForElement_iff
  | waitFor condition timeout => exact parse_waitFor_iff
  | exec script => exact parse_text_iff (fun _ _ h => exec.inj h) rfl rfl rfl fun x => rfl
  | screenshot =>
    simpa [Representable] using (parse_display_iff_of_form rfl rfl).mpr
      ⟨[], Form.assigns_nil_iff.mpr ⟨rfl, rfl⟩, rfl⟩
  | dialog action promptText =>
    exact parse_word_quoted?_iff (fun _ _ h => (dialog.inj h).2) rfl rfl rfl (by decide)
      (by cases action <;> decide) (by cases action <;> decide)
      fun v => by cases action <;> cases v <;> rfl
  | resize width height => simpa [Representable] using parse_resize
  | changes action =>
    simpa [Representable] using parse_word rfl rfl rfl (by decide)
      (by cases action <;> decide) (by cases action <;> decide) (by cases action <;> rfl)
  | record action =>
    simpa [Representable] using parse_word rfl rfl rfl (by decide)
      (by cases action <;> decide) (by cases action <;> decide) (by cases action <;> rfl)
  | recipe action name => exact parse_recipe_iff
  | message text => exact parse_text_iff (fun _ _ h => message.inj h) rfl rfl rfl fun x => rfl
  | showToast text => exact parse_text_iff (fun _ _ h => showToast.inj h) rfl rfl rfl fun x => rfl
  | assert selector text =>
    exact parse_selector_quoted?_iff (fun _ _ _ _ h => assert.inj h) rfl rfl rfl
      fun x v => by cases v <;> rfl
  | assertTextContains selector text =>
    exact parse_selector_quoted_iff (fun _ _ _ _ h => assertTextContains.inj h) rfl rfl rfl
      fun x y => rfl
  | «break» =>
    simpa [Representable] using (parse_display_iff_of_form rfl rfl).mpr
      ⟨[], Form.assigns_nil_iff.mpr ⟨rfl, rfl⟩, rfl⟩

end Command

end PageScript
