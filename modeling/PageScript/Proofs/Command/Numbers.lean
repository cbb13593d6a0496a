import PageScript.Proofs.Command.RoundTrip

/-!
# Numbers on a line

A number on a line is written in decimal digits, with a minus sign in front if the argument may have
one. It is read as an integer of sixty-four bits first, and then as what its field holds. A number
that is no such integer, or does not fit its field, is refused; it is never cut to size.

* `Grammar.int64?_decimal` — which decimal numerals are integers of sixty-four bits;
* `Command.read_wait_digits_iff` and its companions — what a rule makes of numbers;
* `Command.parse_number_ranges` — which numbers are read from the lines that hold one.
-/

namespace PageScript

open Text Line Grammar Record

/-! ### Decimal numerals -/

/-- A natural number in decimal digits, with so many zeros in front. -/
def decimal (zeros n : Nat) : String :=
  String.ofList (List.replicate zeros '0' ++ n.repr.toList)

/-- A minus sign, if there is to be one, in front of a natural number in decimal digits. -/
def signedDecimal (negative : Bool) (zeros n : Nat) : String :=
  if negative then "-" ++ decimal zeros n else decimal zeros n

/-- The integer that is meant by a sign and a natural number. -/
def signedValue (negative : Bool) (n : Nat) : Int :=
  if negative then -n else n

/-- An integer of sixty-four bits. -/
abbrev IsInt64 (n : Int) : Prop :=
  -9223372036854775808 ≤ n ∧ n ≤ 9223372036854775807

/-- A number slot accepts a numeral with zeros in front. -/
theorem accepts_number_decimal (zeros n : Nat) :
    Slot.accepts .number (decimal zeros n).toList = true := by
  rw [decimal, String.toList_ofList]
  exact Slot.isNumber_iff.mpr
    ⟨by simp, fun c hc => isDigit_of_isDigit (isDigit_of_mem_zeros_append c hc)⟩

/-- Digits are in no quotes. -/
theorem stripQuotes_of_accepts_number {cs : List Char} (h : Slot.accepts .number cs = true) :
    stripQuotes cs = cs :=
  stripQuotes_of_isInteger (Slot.isInteger_iff.mpr (.inl h))

/-- A numeral is in no quotes. -/
theorem stripQuotes_decimal (zeros n : Nat) :
    stripQuotes (decimal zeros n).toList = (decimal zeros n).toList :=
  stripQuotes_of_accepts_number (accepts_number_decimal zeros n)

/-- A negative numeral, as a list. -/
theorem toList_signedDecimal (zeros n : Nat) :
    (signedDecimal true zeros n).toList = '-' :: (decimal zeros n).toList := by
  rw [signedDecimal, if_pos rfl, String.toList_append]
  rfl

/-- An integer slot accepts a signed numeral with zeros in front. -/
theorem accepts_integer_signedDecimal (negative : Bool) (zeros n : Nat) :
    Slot.accepts .integer (signedDecimal negative zeros n).toList = true := by
  cases negative with
  | true =>
    rw [toList_signedDecimal]
    exact accepts_number_decimal zeros n
  | false => exact Slot.isInteger_iff.mpr (.inl (accepts_number_decimal zeros n))

namespace Grammar

variable {cs : List Char} {n : Int}

/-- Digits are a signed integer just if their value is in the range. -/
theorem int64?_eq_some_iff : int64? cs = some n ↔ intOfDigits? cs = some n ∧ IsInt64 n := by
  rw [int64?, Option.filter_eq_some_iff, decide_eq_true_eq]

/-- Digits without a sign are no negative number. -/
theorem nonneg_of_accepts (h : Slot.accepts .number cs = true) (hn : int64? cs = some n) :
    0 ≤ n := by
  have hdigit := (Slot.isNumber_iff.mp h).2
  have hn := (int64?_eq_some_iff.mp hn).1
  unfold intOfDigits? at hn
  split at hn
  · exact absurd (hdigit '-' (by simp)) (by decide)
  · obtain ⟨m, -, rfl⟩ := Option.map_eq_some_iff.mp hn
    exact Int.natCast_nonneg m
  · obtain ⟨m, -, rfl⟩ := Option.map_eq_some_iff.mp hn
    exact Int.natCast_nonneg m

/-- A numeral is an integer of sixty-four bits if its number is, whatever its length. -/
theorem int64?_signedDecimal {negative : Bool} {zeros m : Nat} :
    int64? (signedDecimal negative zeros m).toList = some n ↔
      n = signedValue negative m ∧ IsInt64 (signedValue negative m) := by
  have hint : intOfDigits? (signedDecimal negative zeros m).toList =
      some (signedValue negative m) := by
    cases negative with
    | true =>
      rw [toList_signedDecimal, decimal, String.toList_ofList, intOfDigits?,
        natOfDigits?_zeros_append]
      rfl
    | false =>
      change intOfDigits? (decimal zeros m).toList = _
      rw [decimal, String.toList_ofList, intOfDigits?_zeros_append]
      rfl
  -- Leading zeros are gone, and the value alone decides whether it fits.
  rw [int64?_eq_some_iff, hint, Option.some.injEq]
  constructor
  · rintro ⟨rfl, h⟩
    exact ⟨rfl, h⟩
  · rintro ⟨rfl, h⟩
    exact ⟨rfl, h⟩

/-- A numeral is a signed integer just if its value is in the range, whatever zeros are in front. -/
theorem int64?_decimal {zeros m : Nat} :
    int64? (decimal zeros m).toList = some n ↔ n = m ∧ m ≤ 9223372036854775807 := by
  have h : int64? (signedDecimal false zeros m).toList = some n ↔
      n = signedValue false m ∧ IsInt64 (signedValue false m) := int64?_signedDecimal
  rw [show signedDecimal false zeros m = decimal zeros m from rfl] at h
  rw [h, show signedValue false m = (m : Int) from rfl]
  exact and_congr_right fun _ => by omega

/-- Digits that are there are read just if they are a signed integer. -/
theorem readNumber_some_eq_ok_iff {j : Json} :
    readNumber (some cs) = .ok j ↔ ∃ n, int64? cs = some n ∧ .int n = j := by
  rw [readNumber]
  cases int64? cs <;> simp

end Grammar

namespace Command

variable {a b : List Char} {c : Command}

/-! ### What rules make of numbers -/

section

variable {n : Int}

/-- What digits write is not negative and fits a field of sixty-four bits. -/
theorem word64_of_digits (ha : Slot.accepts .number a = true) (hn : int64? a = some n) :
    word64 .buffered (.int n) = .ok (UInt64.ofNat n.toNat) := by
  have hnonneg := nonneg_of_accepts ha hn
  have hle := (int64?_eq_some_iff.mp hn).2.2
  exact integer_int_eq_ok_iff.mpr ⟨⟨hnonneg, by omega⟩, rfl⟩

/-- A signed integer that has been read from digits is a limit. -/
theorem optional_word64_of_digits (ha : Slot.accepts .number a = true) (hn : int64? a = some n) :
    Record.optional word64 .buffered (.int n) = .ok (some (UInt64.ofNat n.toNat)) :=
  (optional_eq_ok_iff (by simp)).mpr ⟨_, word64_of_digits ha hn, rfl⟩

/-- A field of thirty-two bits has a bound of its own. -/
theorem word32_of_digits_iff (ha : Slot.accepts .number a = true) (hn : int64? a = some n)
    {size : UInt32} :
    word32 .buffered (.int n) = .ok size ↔ n ≤ 4294967295 ∧ UInt32.ofNat n.toNat = size :=
  integer_int_eq_ok_iff.trans (and_congr_left fun _ => and_iff_right (nonneg_of_accepts ha hn))

/-- A signed integer is a coordinate. -/
theorem optional_int64_of_numeral (hn : int64? a = some n) :
    Record.optional int64 .buffered (.int n) = .ok (some (Int64.ofInt n)) :=
  (optional_eq_ok_iff (by simp)).mpr
    ⟨_, integer_int_eq_ok_iff.mpr ⟨(int64?_eq_some_iff.mp hn).2, rfl⟩, rfl⟩

end

/-- A field that takes whatever number the argument may be is filled with the one that it is. -/
theorem exists_field_iff {α : Type} {d : Decoder α} {value : Int → α} {make : α → Command}
    (hvalue : ∀ n, int64? a = some n → d .buffered (.int n) = .ok (value n)) :
    (∃ j x, readNumber (some a) = .ok j ∧ d .buffered j = .ok x ∧ make x = c) ↔
      ∃ n, int64? a = some n ∧ make (value n) = c := by
  simp only [readNumber_some_eq_ok_iff]
  constructor
  · rintro ⟨_, x, ⟨n, hn, rfl⟩, hx, rfl⟩
    obtain rfl := Except.ok.inj ((hvalue n hn).symm.trans hx)
    exact ⟨n, hn, rfl⟩
  · rintro ⟨n, hn, rfl⟩
    exact ⟨_, _, ⟨n, hn, rfl⟩, hvalue n hn, rfl⟩

/-- A wait is read just if its digits are a signed integer. -/
theorem read_wait_digits_iff (ha : Slot.accepts .number a = true) :
    (Rule.ofForm "wait" [.number] none [("ms", .number 1)]).read [some a] = .ok c ↔
      ∃ n, int64? a = some n ∧ .wait (UInt64.ofNat n.toNat) = c :=
  read_wait_iff.trans (exists_field_iff fun _ => word64_of_digits ha)

/-- A wait for an element is read just if the digits of its limit are a signed integer. -/
theorem read_waitForElement_digits_iff (ha : Slot.accepts .number a = true) {x : List Char} :
    (Rule.ofForm "waitforelement" [.selector] (some .number)
        [("selector", .text 1), ("timeout_ms", .number 2)]).read [some x, some a] = .ok c ↔
      ∃ n, int64? a = some n ∧
        .waitForElement (String.ofList x) (some (UInt64.ofNat n.toNat)) = c :=
  read_waitForElement_iff.trans (exists_field_iff fun _ => optional_word64_of_digits ha)

/-- A wait for a condition is read just if the digits of its limit are a signed integer. -/
theorem read_waitFor_digits_iff (ha : Slot.accepts .number a = true) {condition : WaitCondition} :
    (Rule.ofForm "waitfor" [.oneOf ["quiet", "network"]] (some .number)
        [("condition", .text 1), ("timeout_ms", .number 2)]).read
          [some condition.word.toList, some a] = .ok c ↔
      ∃ n, int64? a = some n ∧ .waitFor condition (some (UInt64.ofNat n.toNat)) = c :=
  read_waitFor_iff.trans (exists_field_iff fun _ => optional_word64_of_digits ha)

/-- The rule of `resize`. -/
def resizeRule : Rule :=
  .ofForm "resize" [.number, .number] none [("height", .number 2), ("width", .number 1)]

/-- Both sizes must fit their fields. -/
theorem read_resize_digits_iff (ha : Slot.accepts .number a = true)
    (hb : Slot.accepts .number b = true) :
    resizeRule.read [some a, some b] = .ok c ↔
      ∃ n m, (int64? a = some n ∧ n ≤ 4294967295) ∧ (int64? b = some m ∧ m ≤ 4294967295) ∧
        .resize (UInt32.ofNat n.toNat) (UInt32.ofNat m.toNat) = c := by
  simp only [resizeRule, read_resize_iff, readNumber_some_eq_ok_iff]
  constructor
  · rintro ⟨_, _, ⟨⟨m, hm, rfl⟩, n, hn, rfl⟩, width, hwidth, height, hheight, rfl⟩
    obtain ⟨hnle, rfl⟩ := (word32_of_digits_iff ha hn).mp hwidth
    obtain ⟨hmle, rfl⟩ := (word32_of_digits_iff hb hm).mp hheight
    exact ⟨n, m, ⟨hn, hnle⟩, ⟨hm, hmle⟩, rfl⟩
  · rintro ⟨n, m, ⟨hn, hnle⟩, ⟨hm, hmle⟩, rfl⟩
    exact ⟨_, _, ⟨⟨m, hm, rfl⟩, n, hn, rfl⟩, _, (word32_of_digits_iff ha hn).mpr ⟨hnle, rfl⟩,
      _, (word32_of_digits_iff hb hm).mpr ⟨hmle, rfl⟩, rfl⟩

/-- Two coordinates are read just if both are signed integers. -/
theorem read_coordinates_iff :
    scrollRule.read [some a, some b, none] = .ok c ↔
      ∃ n m, int64? a = some n ∧ int64? b = some m ∧
        .scroll none (some (Int64.ofInt n)) (some (Int64.ofInt m)) = c := by
  simp only [read_scroll_iff, readNumber_some_eq_ok_iff]
  constructor
  · rintro ⟨_, _, ⟨⟨n, hn, rfl⟩, m, hm, rfl⟩, x, hx, y, hy, rfl⟩
    obtain rfl := Except.ok.inj ((optional_int64_of_numeral hn).symm.trans hx)
    obtain rfl := Except.ok.inj ((optional_int64_of_numeral hm).symm.trans hy)
    exact ⟨n, m, hn, hm, rfl⟩
  · rintro ⟨n, m, hn, hm, rfl⟩
    exact ⟨_, _, ⟨⟨n, hn, rfl⟩, m, hm, rfl⟩, _, optional_int64_of_numeral hn, _,
      optional_int64_of_numeral hm, rfl⟩

/-! ### Lines that hold numbers -/

section

variable {verb start x y : String} {slot second : Slot} {r : Rule}
  (hstart : start = verb ++ " ") (hr : ruleFor? verb = some r)
include hstart hr

/-- A line is read as what the rule of its verb makes of the arguments behind it. -/
theorem parse_arguments {arguments : String} (hne : arguments.toList ≠ [])
    (hhead : ∀ c ∈ arguments.toList.head?, isBlank c = false)
    (hlast : ∀ c ∈ arguments.toList.getLast?, isBlank c = false) {written : Assignment}
    (hfits : r.pattern.FitsArguments (' ' :: arguments.toList) written) :
    parse (start ++ arguments) = r.read (stripped written) := by
  have htail : (" " ++ arguments).toList = ' ' :: arguments.toList := toList_space_append _
  rw [hstart, String.append_assoc]
  refine parse_append_of_fits hr (by rw [htail]; exact isBlank_of_mem_head?_space) ?_
  rwa [htail, argumentPart_eq_self hne hhead hlast]

/-- One argument. -/
theorem parse_one (hform : r.pattern.forms = [⟨[slot], none⟩]) (hslot : slot.isSolid = true)
    (hx : slot.accepts x.toList = true) :
    parse (start ++ x) = r.read [some (stripQuotes x.toList)] := by
  obtain ⟨hne, hbare⟩ := Slot.not_isBlank_of_isSolid hslot hx
  have hfits : Form.Fits [slot] none (' ' :: (x.toList ++ [])) [some x.toList] :=
    .needed isGap_space hx .done
  rw [List.append_nil] at hfits
  exact parse_arguments hstart hr hne (fun c hc => hbare c (List.mem_of_mem_head? hc))
    (fun c hc => hbare c (List.mem_of_getLast? hc))
    ((Pattern.fitsArguments_singleton hform).mpr hfits)

/-- Two arguments. -/
theorem parse_two (hslot : slot.isClosed = true) (hsecond : second.isSolid = true)
    (hx : slot.accepts x.toList = true) (hy : second.accepts y.toList = true)
    {written : Assignment}
    (hfits : r.pattern.FitsArguments (' ' :: (x.toList ++ ' ' :: y.toList)) written) :
    parse (start ++ x ++ " " ++ y) = r.read (stripped written) := by
  obtain ⟨hne, hhead⟩ := Slot.not_isBlank_of_isClosed hslot hx
  obtain ⟨hne', hbare'⟩ := Slot.not_isBlank_of_isSolid hsecond hy
  have harguments : (x ++ (" " ++ y)).toList = x.toList ++ ' ' :: y.toList := by
    rw [String.toList_append, toList_space_append]
  rw [String.append_assoc, String.append_assoc]
  -- Normalizing the line leaves the arguments as they are: they begin and end with no white space.
  refine parse_arguments hstart hr ?_ ?_ ?_ (by rwa [harguments])
  all_goals rw [harguments]
  · simp
  · exact Form.head?_append_of_ne_nil hne hhead _
  · rw [List.getLast?_append_of_ne_nil _ (by simp), List.getLast?_cons_of_ne_nil hne']
    exact fun c hc => hbare' c (List.mem_of_getLast? hc)

end

/-- A line is read as one of some commands if and only if its numbers are in range, and is refused
otherwise. -/
def ReadsIff (line : String) (commands : Command → Prop) (range : Prop) : Prop :=
  ((∃ c, parse line = .ok c ∧ commands c) ↔ range) ∧ (¬ range → ∃ e, parse line = .error e)

/-- This is so if the line is read as one command, and only in range. -/
theorem readsIff_of_forall {line : String} {commands : Command → Prop} {range : Prop} {d : Command}
    (hread : ∀ c, parse line = .ok c ↔ range ∧ d = c) (hd : range → commands d) :
    ReadsIff line commands range := by
  refine ⟨⟨?_, fun h => ⟨d, (hread d).mpr ⟨h, rfl⟩, hd h⟩⟩, fun h => ?_⟩
  · rintro ⟨c, hc, -⟩
    exact ((hread c).mp hc).1
  · cases hline : parse line with
    | ok c => exact absurd ((hread c).mp hline).1 h
    | error e => exact ⟨e, rfl⟩

section

variable (k l n m : Nat)

/-- A wait is parsed just if its time is in the range of signed integers. -/
theorem parse_wait_decimal_iff :
    parse ("wait " ++ decimal k n) = .ok c ↔
      n ≤ 9223372036854775807 ∧ .wait (UInt64.ofNat n) = c := by
  have hstart : "wait " = "wait" ++ " " := rfl
  have hr : ruleFor? "wait" = some (Rule.ofForm "wait" [.number] none [("ms", .number 1)]) := rfl
  have hn := accepts_number_decimal k n
  rw [parse_one hstart hr rfl rfl hn, stripQuotes_decimal, read_wait_digits_iff hn]
  simp only [int64?_decimal, and_assoc, exists_eq_left, Int.toNat_natCast]

/-- A wait for an element is parsed just if its limit is in the range of signed integers. -/
theorem parse_waitForElement_decimal_iff {selector : String}
    (hselector : Slot.accepts .selector selector.toList = true) :
    parse ("waitforelement " ++ selector ++ " " ++ decimal k n) = .ok c ↔
      n ≤ 9223372036854775807 ∧ .waitForElement (String.ofList (stripQuotes selector.toList))
        (some (UInt64.ofNat n)) = c := by
  have hstart : "waitforelement " = "waitforelement" ++ " " := rfl
  have hr : ruleFor? "waitforelement" = some (Rule.ofForm "waitforelement" [.selector]
      (some .number) [("selector", .text 1), ("timeout_ms", .number 2)]) := rfl
  have hn := accepts_number_decimal k n
  have hfits : Form.Fits [.selector] (some .number)
      (' ' :: (selector.toList ++ ' ' :: (decimal k n).toList))
      [some selector.toList, some (decimal k n).toList] :=
    .needed isGap_space hselector (.present isGap_space hn)
  rw [parse_two hstart hr rfl rfl hselector hn ((Pattern.fitsArguments_singleton rfl).mpr hfits)]
  change Rule.read _ [some _, some (stripQuotes (decimal k n).toList)] = _ ↔ _
  rw [stripQuotes_decimal, read_waitForElement_digits_iff hn]
  simp only [int64?_decimal, and_assoc, exists_eq_left, Int.toNat_natCast]

/-- A wait for a condition is parsed just if its limit is in the range of signed integers. -/
theorem parse_waitFor_decimal_iff {condition : WaitCondition} :
    parse ("waitfor " ++ condition.word ++ " " ++ decimal k n) = .ok c ↔
      n ≤ 9223372036854775807 ∧ .waitFor condition (some (UInt64.ofNat n)) = c := by
  have hstart : "waitfor " = "waitfor" ++ " " := rfl
  have hr : ruleFor? "waitfor" = some (Rule.ofForm "waitfor" [.oneOf ["quiet", "network"]]
      (some .number) [("condition", .text 1), ("timeout_ms", .number 2)]) := rfl
  have hn := accepts_number_decimal k n
  have hword : Slot.accepts (.oneOf ["quiet", "network"]) condition.word.toList = true := by
    cases condition <;> decide
  have hstrip : stripQuotes condition.word.toList = condition.word.toList := by
    cases condition <;> decide
  have hfits : Form.Fits [.oneOf ["quiet", "network"]] (some .number)
      (' ' :: (condition.word.toList ++ ' ' :: (decimal k n).toList))
      [some condition.word.toList, some (decimal k n).toList] :=
    .needed isGap_space hword (.present isGap_space hn)
  -- Neither argument has quotes to lose.
  rw [parse_two hstart hr (by decide) rfl hword hn
    ((Pattern.fitsArguments_singleton rfl).mpr hfits)]
  change Rule.read _ [some (stripQuotes condition.word.toList),
    some (stripQuotes (decimal k n).toList)] = _ ↔ _
  rw [hstrip, stripQuotes_decimal, read_waitFor_digits_iff hn]
  simp only [int64?_decimal, and_assoc, exists_eq_left, Int.toNat_natCast]

/-- A resize is parsed just if both sizes are in the range of 32 bits. -/
theorem parse_resize_decimal_iff :
    parse ("resize " ++ decimal k n ++ " " ++ decimal l m) = .ok c ↔
      (n ≤ 4294967295 ∧ m ≤ 4294967295) ∧ .resize (UInt32.ofNat n) (UInt32.ofNat m) = c := by
  have hstart : "resize " = "resize" ++ " " := rfl
  have hr : ruleFor? "resize" = some resizeRule := rfl
  have hn := accepts_number_decimal k n
  have hm := accepts_number_decimal l m
  have hfits : Form.Fits [.number, .number] none
      (' ' :: ((decimal k n).toList ++ ' ' :: ((decimal l m).toList ++ [])))
      [some (decimal k n).toList, some (decimal l m).toList] :=
    .needed isGap_space hn (.needed isGap_space hm .done)
  rw [List.append_nil] at hfits
  rw [parse_two hstart hr rfl rfl hn hm ((Pattern.fitsArguments_singleton rfl).mpr hfits)]
  change resizeRule.read [some (stripQuotes (decimal k n).toList),
    some (stripQuotes (decimal l m).toList)] = _ ↔ _
  rw [stripQuotes_decimal, stripQuotes_decimal, read_resize_digits_iff hn hm]
  -- A size that fits its field is far from the bound on numbers.
  constructor
  · rintro ⟨i, j, ⟨hi, hile⟩, ⟨hj, hjle⟩, rfl⟩
    obtain ⟨rfl, -⟩ := int64?_decimal.mp hi
    obtain ⟨rfl, -⟩ := int64?_decimal.mp hj
    exact ⟨⟨by omega, by omega⟩, rfl⟩
  · rintro ⟨⟨hnle, hmle⟩, rfl⟩
    exact ⟨n, m, ⟨int64?_decimal.mpr ⟨rfl, by omega⟩, by omega⟩,
      ⟨int64?_decimal.mpr ⟨rfl, by omega⟩, by omega⟩, rfl⟩

/-- A scroll is parsed just if both coordinates are in the range of signed integers. -/
theorem parse_scroll_signedDecimal_iff (negative negative' : Bool) :
    parse ("scroll " ++ signedDecimal negative k n ++ " " ++ signedDecimal negative' l m) = .ok c ↔
      (IsInt64 (signedValue negative n) ∧ IsInt64 (signedValue negative' m)) ∧
        .scroll none (some (Int64.ofInt (signedValue negative n)))
          (some (Int64.ofInt (signedValue negative' m))) = c := by
  have hstart : "scroll " = "scroll" ++ " " := rfl
  have hr : ruleFor? "scroll" = some scrollRule := rfl
  have hn := accepts_integer_signedDecimal negative k n
  have hm := accepts_integer_signedDecimal negative' l m
  have hfits : Form.Fits [.integer, .integer] none
      (' ' :: ((signedDecimal negative k n).toList ++
        ' ' :: ((signedDecimal negative' l m).toList ++ [])))
      [some (signedDecimal negative k n).toList, some (signedDecimal negative' l m).toList] :=
    .needed isGap_space hn (.needed isGap_space hm .done)
  rw [List.append_nil] at hfits
  -- Both numbers fit the first form, and the second form is left empty.
  rw [parse_two hstart hr rfl rfl hn hm ((Pattern.fitsArguments_pair rfl).mpr
    (.inl ⟨_, hfits, rfl⟩))]
  change scrollRule.read [some (stripQuotes (signedDecimal negative k n).toList),
    some (stripQuotes (signedDecimal negative' l m).toList), none] = _ ↔ _
  rw [stripQuotes_of_isInteger hn, stripQuotes_of_isInteger hm, read_coordinates_iff]
  simp only [int64?_signedDecimal]
  constructor
  · rintro ⟨i, j, ⟨rfl, hi⟩, ⟨rfl, hj⟩, rfl⟩
    exact ⟨⟨hi, hj⟩, rfl⟩
  · rintro ⟨⟨hi, hj⟩, rfl⟩
    exact ⟨_, _, ⟨rfl, hi⟩, ⟨rfl, hj⟩, rfl⟩

end

/-- Numbers are read from a line whatever zeros are in front of them. A time is read up to the
greatest integer of sixty-four bits with a sign, though its field holds twice as much; sizes and
coordinates are read in the whole range of their fields. All other numbers are refused. -/
theorem parse_number_ranges {selector : String}
    (hselector : Slot.accepts .selector selector.toList = true) (k l n m : Nat)
    (negative negative' : Bool) :
    ReadsIff ("wait " ++ decimal k n)
      (fun c => ∃ ms : UInt64, ms.toNat = n ∧ c = .wait ms) (n ≤ 9223372036854775807) ∧
    ReadsIff ("waitforelement " ++ selector ++ " " ++ decimal k n)
      (fun c => ∃ ms : UInt64, ms.toNat = n ∧
        c = .waitForElement (String.ofList (stripQuotes selector.toList)) (some ms))
      (n ≤ 9223372036854775807) ∧
    ReadsIff ("waitfor quiet " ++ decimal k n)
      (fun c => ∃ ms : UInt64, ms.toNat = n ∧ c = .waitFor .quiet (some ms))
      (n ≤ 9223372036854775807) ∧
    ReadsIff ("resize " ++ decimal k n ++ " " ++ decimal l m)
      (fun c => ∃ width height : UInt32, width.toNat = n ∧ height.toNat = m ∧
        c = .resize width height)
      (n ≤ 4294967295 ∧ m ≤ 4294967295) ∧
    ReadsIff ("scroll " ++ signedDecimal negative k n ++ " " ++ signedDecimal negative' l m)
      (fun c => ∃ x y : Int64, x.toInt = signedValue negative n ∧
        y.toInt = signedValue negative' m ∧ c = .scroll none (some x) (some y))
      (IsInt64 (signedValue negative n) ∧ IsInt64 (signedValue negative' m)) := by
  -- A number in the range of its field is not changed when it is stored there.
  have htime : n ≤ 9223372036854775807 → (UInt64.ofNat n).toNat = n := fun h =>
    UInt64.toNat_ofNat_of_lt' (Nat.lt_of_le_of_lt h (by decide))
  have hsize : ∀ i, i ≤ 4294967295 → (UInt32.ofNat i).toNat = i := fun i h =>
    UInt32.toNat_ofNat_of_lt' (Nat.lt_of_le_of_lt h (by decide))
  have hcoordinate : ∀ i, IsInt64 i → (Int64.ofInt i).toInt = i := fun i h =>
    Int64.toInt_ofInt_of_le (by omega) (by omega)
  refine ⟨?_, ?_, ?_, ?_, ?_⟩
  · exact readsIff_of_forall (fun c => parse_wait_decimal_iff k n) fun h => ⟨_, htime h, rfl⟩
  · exact readsIff_of_forall (fun c => parse_waitForElement_decimal_iff k n hselector)
      fun h => ⟨_, htime h, rfl⟩
  · rw [show "waitfor quiet " = "waitfor " ++ WaitCondition.quiet.word ++ " " from rfl]
    exact readsIff_of_forall (fun c => parse_waitFor_decimal_iff k n) fun h => ⟨_, htime h, rfl⟩
  · exact readsIff_of_forall (fun c => parse_resize_decimal_iff k l n m)
      fun h => ⟨_, _, hsize n h.1, hsize m h.2, rfl⟩
  · exact readsIff_of_forall (fun c => parse_scroll_signedDecimal_iff k l n m negative negative')
      fun h => ⟨_, _, hcoordinate _ h.1, hcoordinate _ h.2, rfl⟩

/-- Zeros in front of a timeout are passed over, and one beyond the range is refused. -/
theorem parse_number_ranges_zeros :
    Slot.accepts .selector "#a".toList = true ∧
      (∃ ms : UInt64, ms.toNat = 250 ∧
        parse "waitforelement #a 00250" = .ok (.waitForElement "#a" (some ms))) ∧
      ∃ e, parse "waitforelement #a 9223372036854775808" = .error e := by
  have hselector : Slot.accepts .selector "#a".toList = true := by decide
  obtain ⟨c, hparse, ms, hms, rfl⟩ :=
    (parse_number_ranges hselector 2 0 250 0 false false).2.1.1.mpr (by decide)
  obtain ⟨e, he⟩ :=
    (parse_number_ranges hselector 0 0 9223372036854775808 0 false false).2.1.2 (by decide)
  have hzeros : "waitforelement " ++ "#a" ++ " " ++ decimal 2 250 = "waitforelement #a 00250" := by
    decide
  have hbeyond : "waitforelement " ++ "#a" ++ " " ++ decimal 0 9223372036854775808 =
      "waitforelement #a 9223372036854775808" := by
    decide
  rw [hzeros] at hparse
  rw [hbeyond] at he
  exact ⟨hselector, ⟨ms, hms, hparse⟩, e, he⟩

/-- A time that its field holds, and that the canonical text writes, is refused on a line. -/
theorem parse_wait_beyond_int64 :
    9223372036854775808 ≤ 18446744073709551615 ∧
      (Command.wait 9223372036854775808).display = "wait " ++ decimal 0 9223372036854775808 ∧
      parse ("wait " ++ decimal 0 9223372036854775808) =
        .error (.invalidNumber "wait" "9223372036854775808") := by
  decide

end Command

end PageScript
