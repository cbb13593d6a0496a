import PageScript.Proofs.Command.Canonical
import PageScript.Proofs.Command.Numbers

/-!
# The grammar agrees with the records

A line that fits the pattern of its verb is filled into a record, and the record is read as a
command. The template of each rule is such that its record is refused for one reason only: a size
is too large for its field. A line that fits is therefore a command unless one of its numbers is out
of range.

* `Grammar.fillFields_cases` — the fields are filled, or an argument is named that is no number;
* `Grammar.agrees_of_mem_rules` — what a rule makes of arguments whose numbers are all read;
* `Command.parse_of_captures` — what a line that fits is read as, and that the record of a line is
  refused in no other case.
-/

namespace PageScript

open Text Line Grammar Record

namespace Grammar

/-! ### The numbers of a line -/

/-- The argument that a field is read from as a number. -/
def Source.number? (captures : Assignment) : Source → Option (List Char)
  | .text _ => none
  | .number index => argument? captures index

/-- The arguments that a rule reads as numbers. -/
def Rule.numbers (r : Rule) (captures : Assignment) : List (List Char) :=
  r.template.filterMap fun field => field.2.number? captures

/-- A size is an integer of sixty-four bits, but too large for a field of thirty-two. -/
def Rule.Exceeds (r : Rule) (captures : Assignment) : Prop :=
  r.verb = "resize" ∧ ∃ cs ∈ r.numbers captures, ∃ n, int64? cs = some n ∧ 4294967295 < n

/-- A source has a value, or its text is no number in the range. -/
theorem Source.value_cases (captures : Assignment) (source : Source) :
    (∃ value, source.value captures = .ok value ∧
        ∀ cs, source.number? captures = some cs → (int64? cs).isSome = true) ∨
      ∃ cs, source.number? captures = some cs ∧ int64? cs = none ∧
        source.value captures = .error cs := by
  cases source with
  | text index => cases h : argument? captures index <;> simp [value, number?, h]
  | number index =>
    cases h : argument? captures index with
    | none => simp [value, number?, h]
    | some cs => cases hint : int64? cs <;> simp [value, number?, h, hint]

/-- Fields are filled if all numbers are read. Otherwise one that is not read is the failure. -/
theorem fillFields_cases (captures : Assignment) (template : List (String × Source)) :
    (∃ fields, fillFields captures template = .ok fields ∧
        ∀ cs ∈ template.filterMap (·.2.number? captures), (int64? cs).isSome = true) ∨
      ∃ cs ∈ template.filterMap (·.2.number? captures), int64? cs = none ∧
        fillFields captures template = .error cs := by
  -- The fields are filled in order, up to the first failure.
  induction template with
  | nil => exact .inl ⟨[], rfl, by simp⟩
  | cons field template ih =>
    obtain ⟨key, source⟩ := field
    rcases source.value_cases captures with ⟨value, hvalue, hread⟩ | ⟨cs, hcs, hnone, hvalue⟩
    · rcases ih with ⟨fields, hfields, hall⟩ | ⟨cs, hmem, hnone, herror⟩
      · refine .inl ⟨(key, value) :: fields, by rw [fillFields, hvalue, hfields]; rfl, ?_⟩
        intro cs hcs
        obtain ⟨field, hfield, hcs⟩ := List.mem_filterMap.mp hcs
        rcases List.mem_cons.mp hfield with rfl | hfield
        · exact hread cs hcs
        · exact hall cs (List.mem_filterMap.mpr ⟨field, hfield, hcs⟩)
      · obtain ⟨field, hfield, hcs⟩ := List.mem_filterMap.mp hmem
        exact .inr ⟨cs, List.mem_filterMap.mpr ⟨field, List.mem_cons_of_mem _ hfield, hcs⟩, hnone,
          by rw [fillFields, hvalue, herror]; rfl⟩
    · exact .inr ⟨cs, List.mem_filterMap.mpr ⟨_, List.mem_cons_self, hcs⟩, hnone,
        by rw [fillFields, hvalue]; rfl⟩

/-! ### Arguments of a form -/

namespace Form

variable {slot second : Slot} {cs : List Char} {captures : Assignment}

/-- A single slot takes a single argument, which it accepts. -/
theorem Fits.exists_one (h : Fits [slot] none cs captures) :
    ∃ a, captures = [some a] ∧ slot.accepts a = true := by
  cases h with
  | needed _ ha hrest =>
    cases hrest
    exact ⟨_, rfl, ha⟩

/-- Two slots take two arguments, and each accepts its own. -/
theorem Fits.exists_two (h : Fits [slot, second] none cs captures) :
    ∃ a b, captures = [some a, some b] ∧ slot.accepts a = true ∧ second.accepts b = true := by
  cases h with
  | needed _ ha hrest =>
    obtain ⟨b, rfl, hb⟩ := hrest.exists_one
    exact ⟨_, b, rfl, ha, hb⟩

/-- A slot and an optional one take an argument and possibly another one. -/
theorem Fits.exists_last (h : Fits [slot] (some second) cs captures) :
    ∃ a v, captures = [some a, v] ∧ slot.accepts a = true ∧ second.Admits v := by
  cases h with
  | needed _ ha hrest =>
    cases hrest with
    | absent => exact ⟨_, none, rfl, ha, by simp [Slot.Admits]⟩
    | present _ hb => exact ⟨_, some _, rfl, ha, by simpa [Slot.Admits] using hb⟩

end Form

/-! ### What rules make of arguments whose numbers are read -/

/-- If all numbers of the arguments are read, the rule makes a command of them, unless one is too
large for its field. -/
def Rule.Agrees (r : Rule) : Prop :=
  ∀ cs captures, r.pattern.FitsArguments cs captures →
    (∀ number ∈ r.numbers captures, (int64? number).isSome = true) →
      ((∃ c, r.read (stripped captures) = .ok c) ↔ ¬ r.Exceeds captures)

section

variable {r : Rule} {slot second : Slot} (hverb : r.verb ≠ "resize")
include hverb

/-- A rule whose arguments all read if their numbers are in the range agrees with its captures. -/
theorem agrees_of_read (h : ∀ cs captures, r.pattern.FitsArguments cs captures →
    (∀ number ∈ r.numbers captures, (int64? number).isSome = true) →
      ∃ c, r.read (stripped captures) = .ok c) : r.Agrees :=
  fun cs captures hfits hnumbers =>
    iff_of_true (h cs captures hfits hnumbers) fun hexceeds => hverb hexceeds.1

/-- Rules without arguments. -/
theorem agrees_none (hform : r.pattern.forms = [⟨[], none⟩]) (hread : ∃ c, r.read [] = .ok c) :
    r.Agrees := by
  refine agrees_of_read hverb fun cs captures hfits _ => ?_
  cases (Pattern.fitsArguments_singleton hform).mp hfits
  exact hread

/-- Rules with one text. -/
theorem agrees_one (hform : r.pattern.forms = [⟨[slot], none⟩])
    (hread : ∀ x, slot.Yields x → ∃ c, r.read [some x] = .ok c) : r.Agrees := by
  refine agrees_of_read hverb fun cs captures hfits _ => ?_
  obtain ⟨a, rfl, ha⟩ := ((Pattern.fitsArguments_singleton hform).mp hfits).exists_one
  exact hread _ ⟨a, ha, rfl⟩

/-- Rules with two texts. -/
theorem agrees_two (hform : r.pattern.forms = [⟨[slot, second], none⟩])
    (hread : ∀ x y, slot.Yields x → ∃ c, r.read [some x, some y] = .ok c) : r.Agrees := by
  refine agrees_of_read hverb fun cs captures hfits _ => ?_
  obtain ⟨a, b, rfl, ha, -⟩ := ((Pattern.fitsArguments_singleton hform).mp hfits).exists_two
  exact hread _ _ ⟨a, ha, rfl⟩

/-- Rules with a text and perhaps another. -/
theorem agrees_optional (hform : r.pattern.forms = [⟨[slot], some second⟩])
    (hread : ∀ x v, slot.Yields x → ∃ c, r.read [some x, v] = .ok c) : r.Agrees := by
  refine agrees_of_read hverb fun cs captures hfits _ => ?_
  obtain ⟨a, v, rfl, ha, -⟩ := ((Pattern.fitsArguments_singleton hform).mp hfits).exists_last
  exact hread _ _ ⟨a, ha, rfl⟩

end

open Command

/-- The rule for waits agrees with its captures. -/
private theorem agrees_wait : (Rule.ofForm "wait" [.number] none [("ms", .number 1)]).Agrees := by
  refine agrees_of_read (by decide) fun cs captures hfits hnumbers => ?_
  obtain ⟨a, rfl, ha⟩ := ((Pattern.fitsArguments_singleton rfl).mp hfits).exists_one
  obtain ⟨n, hn⟩ := Option.isSome_iff_exists.mp (hnumbers a (.head _))
  change ∃ c, Rule.read _ [some (stripQuotes a)] = .ok c
  rw [stripQuotes_of_accepts_number ha]
  exact ⟨_, (read_wait_digits_iff ha).mpr ⟨n, hn, rfl⟩⟩

/-- The rule for waits for an element agrees with its captures. -/
private theorem agrees_waitForElement :
    (Rule.ofForm "waitforelement" [.selector] (some .number)
      [("selector", .text 1), ("timeout_ms", .number 2)]).Agrees := by
  refine agrees_of_read (by decide) fun cs captures hfits hnumbers => ?_
  obtain ⟨x, v, rfl, -, hv⟩ := ((Pattern.fitsArguments_singleton rfl).mp hfits).exists_last
  cases v with
  | none => exact ⟨_, read_waitForElement_iff.mpr ⟨.null, none, rfl, rfl, rfl⟩⟩
  | some a =>
    have ha := hv a rfl
    obtain ⟨n, hn⟩ := Option.isSome_iff_exists.mp (hnumbers a (.head _))
    change ∃ c, Rule.read _ [some _, some (stripQuotes a)] = .ok c
    rw [stripQuotes_of_accepts_number ha]
    exact ⟨_, (read_waitForElement_digits_iff ha).mpr ⟨n, hn, rfl⟩⟩

/-- The rule for waits for a condition agrees with its captures. -/
private theorem agrees_waitFor :
    (Rule.ofForm "waitfor" [.oneOf ["quiet", "network"]] (some .number)
      [("condition", .text 1), ("timeout_ms", .number 2)]).Agrees := by
  refine agrees_of_read (by decide) fun cs captures hfits hnumbers => ?_
  obtain ⟨x, v, rfl, hx, hv⟩ := ((Pattern.fitsArguments_singleton rfl).mp hfits).exists_last
  have hyields : Slot.Yields (.oneOf ["quiet", "network"]) (stripQuotes x) := ⟨x, hx, rfl⟩
  obtain ⟨condition, hcondition⟩ :=
    hyields.exists_word WaitCondition.word [.quiet, .network] (by decide)
  change ∃ c, Rule.read _ [some (stripQuotes x), v.map stripQuotes] = .ok c
  rw [hcondition]
  cases v with
  | none => exact ⟨_, read_waitFor_iff.mpr ⟨.null, none, rfl, rfl, rfl⟩⟩
  | some a =>
    have ha := hv a rfl
    obtain ⟨n, hn⟩ := Option.isSome_iff_exists.mp (hnumbers a (.head _))
    rw [Option.map_some, stripQuotes_of_accepts_number ha]
    exact ⟨_, (read_waitFor_digits_iff ha).mpr ⟨n, hn, rfl⟩⟩

/-- The only record with fields that are smaller than the numbers of a line. -/
theorem agrees_resize : resizeRule.Agrees := by
  intro cs captures hfits hnumbers
  obtain ⟨a, b, rfl, ha, hb⟩ := ((Pattern.fitsArguments_singleton rfl).mp hfits).exists_two
  have hmem : ∀ cs, cs ∈ resizeRule.numbers [some a, some b] ↔ cs = b ∨ cs = a :=
    fun cs => List.mem_pair
  obtain ⟨n, hn⟩ := Option.isSome_iff_exists.mp (hnumbers a ((hmem a).mpr (.inr rfl)))
  obtain ⟨m, hm⟩ := Option.isSome_iff_exists.mp (hnumbers b ((hmem b).mpr (.inl rfl)))
  change (∃ c, resizeRule.read [some (stripQuotes a), some (stripQuotes b)] = .ok c) ↔ _
  rw [stripQuotes_of_accepts_number ha, stripQuotes_of_accepts_number hb]
  simp only [read_resize_digits_iff ha hb, Rule.Exceeds, hmem]
  -- The table bounds both numbers by one greatest value, and so does the reader, one by one.
  constructor
  · rintro ⟨c, n', m', ⟨hn', hnle⟩, ⟨hm', hmle⟩, rfl⟩ ⟨-, cs, rfl | rfl, i, hi, hlt⟩
    · rw [Option.some.inj (hi.symm.trans hm')] at hlt
      omega
    · rw [Option.some.inj (hi.symm.trans hn')] at hlt
      omega
  · intro hexceeds
    have hle : ∀ cs i, cs = b ∨ cs = a → int64? cs = some i → i ≤ 4294967295 := by
      intro cs i hcs hi
      by_contra hlt
      exact hexceeds ⟨rfl, cs, hcs, i, hi, by omega⟩
    exact ⟨_, n, m, ⟨hn, hle a n (.inr rfl) hn⟩, ⟨hm, hle b m (.inl rfl) hm⟩, rfl⟩

/-- Two coordinates or a selector. -/
theorem agrees_scroll : scrollRule.Agrees := by
  refine agrees_of_read (by decide) fun cs captures hfits hnumbers => ?_
  rcases (Pattern.fitsArguments_pair rfl).mp hfits with ⟨own, hown, rfl⟩ | ⟨own, hown, rfl⟩
  · obtain ⟨a, b, rfl, ha, hb⟩ := Form.Fits.exists_two hown
    obtain ⟨n, hn⟩ := Option.isSome_iff_exists.mp (hnumbers a (.head _))
    obtain ⟨m, hm⟩ := Option.isSome_iff_exists.mp (hnumbers b (.tail _ (.head _)))
    change ∃ c, scrollRule.read [some (stripQuotes a), some (stripQuotes b), none] = .ok c
    rw [stripQuotes_of_isInteger ha, stripQuotes_of_isInteger hb]
    exact ⟨_, read_coordinates_iff.mpr ⟨n, m, hn, hm, rfl⟩⟩
  · obtain ⟨x, rfl, -⟩ := Form.Fits.exists_one hown
    exact ⟨_, read_scroll_iff.mpr ⟨.null, .null, ⟨rfl, rfl⟩, none, rfl, none, rfl, rfl⟩⟩

/-- Every rule of the grammar agrees with the record it fills. -/
theorem agrees_of_mem_rules : ∀ r ∈ rules, r.Agrees := by
  simp only [rules, List.forall_mem_cons]
  -- Texts fill their fields whatever they are, and words are those that their fields know.
  refine ⟨?navto, ?click, ?type, ?setvalue, ?focus, ?enable, ?hover, agrees_scroll, ?getattr,
    ?getstyle, agrees_wait, agrees_waitForElement, agrees_waitFor, ?exec, ?screenshot, ?dialog,
    agrees_resize, ?changes, ?record, ?recipe, ?message, ?showtoast, ?assert,
    ?asserttextcontains, ?«break», by simp⟩
  case navto => exact agrees_one (by decide) rfl fun x _ => ⟨_, rfl⟩
  case click => exact agrees_optional (by decide) rfl fun x v _ => by cases v <;> exact ⟨_, rfl⟩
  case type => exact agrees_two (by decide) rfl fun x y _ => ⟨_, rfl⟩
  case setvalue => exact agrees_two (by decide) rfl fun x y _ => ⟨_, rfl⟩
  case focus => exact agrees_one (by decide) rfl fun x _ => ⟨_, rfl⟩
  case enable => exact agrees_one (by decide) rfl fun x _ => ⟨_, rfl⟩
  case hover => exact agrees_one (by decide) rfl fun x _ => ⟨_, rfl⟩
  case getattr => exact agrees_two (by decide) rfl fun x y _ => ⟨_, rfl⟩
  case getstyle => exact agrees_two (by decide) rfl fun x y _ => ⟨_, rfl⟩
  case exec => exact agrees_one (by decide) rfl fun x _ => ⟨_, rfl⟩
  case screenshot => exact agrees_none (by decide) rfl ⟨_, rfl⟩
  case dialog =>
    refine agrees_optional (by decide) rfl fun x v hx => ?_
    obtain ⟨action, rfl⟩ := hx.exists_word DialogAction.word [.accept, .dismiss] (by decide)
    cases action <;> cases v <;> exact ⟨_, rfl⟩
  case changes =>
    refine agrees_one (by decide) rfl fun x hx => ?_
    obtain ⟨action, rfl⟩ :=
      hx.exists_word ChangesAction.word [.on, .off, .clear, .request] (by decide)
    cases action <;> exact ⟨_, rfl⟩
  case record =>
    refine agrees_one (by decide) rfl fun x hx => ?_
    obtain ⟨action, rfl⟩ := hx.exists_word RecordAction.word [.start, .stop] (by decide)
    cases action <;> exact ⟨_, rfl⟩
  case recipe =>
    refine agrees_two (by decide) rfl fun x y hx => ?_
    obtain ⟨action, rfl⟩ := hx.exists_word RecipeAction.word [.save, .load] (by decide)
    cases action <;> exact ⟨_, rfl⟩
  case message => exact agrees_one (by decide) rfl fun x _ => ⟨_, rfl⟩
  case showtoast => exact agrees_one (by decide) rfl fun x _ => ⟨_, rfl⟩
  case assert => exact agrees_optional (by decide) rfl fun x v _ => by cases v <;> exact ⟨_, rfl⟩
  case asserttextcontains => exact agrees_two (by decide) rfl fun x y _ => ⟨_, rfl⟩
  case «break» => exact agrees_none (by decide) rfl ⟨_, rfl⟩

end Grammar

/-! ### What a line that fits is read as -/

namespace Command

/-- A line fits the pattern of its verb, and these are its captures. -/
def Captures (input : String) (r : Rule) (captures : Assignment) : Prop :=
  ruleFor? (Line.verb (Line.normalize input)) = some r ∧
    r.pattern.assign? (Line.normalize input).toList = some captures

variable {input : String} {r : Rule} {captures : Assignment}

/-- A line that fits is read as what its rule makes of the captures. -/
theorem Captures.exists_fits (h : Captures input r captures) :
    r ∈ rules ∧ ∃ cs, r.pattern.FitsArguments cs captures ∧
      parse input = r.read (stripped captures) := by
  obtain ⟨hr, hassign⟩ := h
  have hfits := (Rule.assign?_eq_some_iff hr).mp hassign
  obtain ⟨cs, hcs, harguments⟩ := hfits
  exact ⟨(Rule.mem_rules_of_ruleFor? hr).1, cs, harguments,
    parse_of_assigns hr ⟨captures, ⟨cs, hcs, harguments⟩, rfl⟩⟩

/-- The three things that a rule can make of captures. -/
theorem read_cases (hr : r ∈ rules) {cs : List Char} (hfits : r.pattern.FitsArguments cs captures) :
    (∃ cs ∈ r.numbers captures, int64? cs = none ∧
        r.read (stripped captures) = .error (.invalidNumber r.verb (String.ofList cs))) ∨
      ((∀ cs ∈ r.numbers captures, (int64? cs).isSome = true) ∧
        ((¬ r.Exceeds captures ∧ ∃ c, r.read (stripped captures) = .ok c) ∨
          (r.Exceeds captures ∧
            ∃ reason, r.read (stripped captures) = .error (.template r.verb reason)))) := by
  have hfields := readFields_stripped hfits.admits (Rule.isSound_of_mem_template r hr)
  rcases fillFields_cases captures r.template with ⟨fields, hfill, hall⟩ | ⟨cs, hcs, hnone, hfill⟩
  · refine .inr ⟨hall, ?_⟩
    have hagrees := agrees_of_mem_rules r hr cs captures hfits hall
    by_cases hexceeds : r.Exceeds captures
    · refine .inr ⟨hexceeds, ?_⟩
      -- The fields are filled, so it is the record that is refused.
      cases hrun : decoder.run (ofKind r.verb fields) with
      | ok c =>
        have hread : r.read (stripped captures) = .ok c := by
          simp only [Rule.read, hfields, hfill, hrun]
        exact absurd hexceeds (hagrees.mp ⟨c, hread⟩)
      | error failure => exact ⟨failure.message, by simp only [Rule.read, hfields, hfill, hrun]⟩
    · exact .inl ⟨hexceeds, hagrees.mpr hexceeds⟩
  · exact .inl ⟨cs, hcs, hnone, by simp only [Rule.read, hfields, hfill]⟩

/-- Only a line that fits can be filled into a record that is refused. -/
theorem exists_captures_of_template {verb reason : String}
    (h : parse input = .error (.template verb reason)) :
    ∃ r captures, Captures input r captures := by
  rw [parse] at h
  dsimp only at h
  -- A line that is empty, has no rule or does not fit has another error.
  by_cases hempty : (Line.normalize input).isEmpty = true
  · rw [if_pos hempty] at h
    cases h
  rw [if_neg hempty] at h
  cases hr : ruleFor? (Line.verb (Line.normalize input)) with
  | none =>
    rw [hr] at h
    cases h
  | some r =>
    cases hassign : r.pattern.assign? (Line.normalize input).toList with
    | none =>
      simp only [hr, hassign] at h
      cases h
    | some captures => exact ⟨r, captures, hr, hassign⟩

/-- A number out of the range is among the numbers. -/
private theorem not_forall_isSome {numbers : List (List Char)} {cs : List Char} (hcs : cs ∈ numbers)
    (hnone : int64? cs = none) : ¬ ∀ cs ∈ numbers, (int64? cs).isSome = true := by
  intro h
  have hsome := h cs hcs
  rw [hnone] at hsome
  cases hsome

/-- A line that fits the pattern of its verb is a command if all its numbers are integers of
sixty-four bits and it is no resize to a size of more than thirty-two bits. Such a resize is refused
as a record, and a number that is no such integer is named. The record of a line is refused in no
other case. -/
theorem parse_of_captures (input : String) :
    (∀ r captures, Captures input r captures →
      ((∀ cs ∈ r.numbers captures, (int64? cs).isSome = true) → ¬ r.Exceeds captures →
        ∃ c, parse input = .ok c) ∧
      ((∀ cs ∈ r.numbers captures, (int64? cs).isSome = true) → r.Exceeds captures →
        ∃ reason, parse input = .error (.template r.verb reason)) ∧
      ((∃ cs ∈ r.numbers captures, int64? cs = none) →
        ∃ cs ∈ r.numbers captures, int64? cs = none ∧
          parse input = .error (.invalidNumber r.verb (String.ofList cs)))) ∧
    ∀ verb reason, parse input = .error (.template verb reason) →
      verb = "resize" ∧ ∃ r captures, Captures input r captures ∧
        (∀ cs ∈ r.numbers captures, (int64? cs).isSome = true) ∧ r.Exceeds captures := by
  constructor
  · intro r captures hcaptures
    obtain ⟨hr, cs, hfits, hparse⟩ := hcaptures.exists_fits
    rw [hparse]
    rcases read_cases hr hfits with ⟨cs, hcs, hnone, hread⟩ |
      ⟨hall, ⟨hwithin, hread⟩ | ⟨hexceeds, hread⟩⟩
    · have hsome := not_forall_isSome hcs hnone
      exact ⟨fun h => absurd h hsome, fun h => absurd h hsome, fun _ => ⟨cs, hcs, hnone, hread⟩⟩
    -- From here on all numbers are read, and the template has the last word.
    all_goals
      have hnumbers : ¬ ∃ cs ∈ r.numbers captures, int64? cs = none :=
        fun ⟨cs, hcs, hnone⟩ => not_forall_isSome hcs hnone hall
    · exact ⟨fun _ _ => hread, fun _ h => absurd h hwithin, fun h => absurd h hnumbers⟩
    · exact ⟨fun _ h => absurd hexceeds h, fun _ _ => hread, fun h => absurd h hnumbers⟩
  · intro verb reason htemplate
    obtain ⟨r, captures, hcaptures⟩ := exists_captures_of_template htemplate
    obtain ⟨hr, cs, hfits, hparse⟩ := hcaptures.exists_fits
    rw [hparse] at htemplate
    rcases read_cases hr hfits with ⟨cs, -, -, hread⟩ |
      ⟨hall, ⟨-, c, hread⟩ | ⟨hexceeds, _, hread⟩⟩
    · rw [hread] at htemplate
      cases htemplate
    · rw [hread] at htemplate
      cases htemplate
    · rw [hread] at htemplate
      obtain ⟨rfl, -⟩ := ParseError.template.inj (Except.error.inj htemplate)
      exact ⟨hexceeds.1, r, captures, hcaptures, hall, hexceeds⟩

/-- The largest width, one that is too large, and a digit that is none of the ten that are read. -/
theorem parse_of_captures_resize :
    (∃ c, parse "resize 4294967295 1" = .ok c) ∧
      (∃ reason, parse "resize 4294967296 1" = .error (.template "resize" reason)) ∧
      parse "resize 1 ٢" = .error (.invalidNumber "resize" "٢") := by
  have hlargest : Captures "resize 4294967295 1" resizeRule
      [some "4294967295".toList, some "1".toList] := by
    constructor <;> decide
  have hwithin : ¬ resizeRule.Exceeds [some "4294967295".toList, some "1".toList] := by
    have hfirst : int64? "4294967295".toList = some 4294967295 := by decide
    have hsecond : int64? "1".toList = some 1 := by decide
    rintro ⟨-, cs, hcs, n, hn, hlt⟩
    rcases List.mem_pair.mp hcs with rfl | rfl
    · rw [Option.some.inj (hn.symm.trans hsecond)] at hlt
      exact absurd hlt (by decide)
    · rw [Option.some.inj (hn.symm.trans hfirst)] at hlt
      exact absurd hlt (by decide)
  have hlarge : Captures "resize 4294967296 1" resizeRule
      [some "4294967296".toList, some "1".toList] := by
    constructor <;> decide
  have hexceeds : resizeRule.Exceeds [some "4294967296".toList, some "1".toList] :=
    ⟨rfl, "4294967296".toList, .tail _ (.head _), 4294967296, by decide, by decide⟩
  have hdigit : Captures "resize 1 ٢" resizeRule [some "1".toList, some "٢".toList] := by
    constructor <;> decide
  refine ⟨?_, ?_, ?_⟩
  · exact ((parse_of_captures _).1 _ _ hlargest).1 (by decide) hwithin
  · exact ((parse_of_captures _).1 _ _ hlarge).2.1 (by decide) hexceeds
  · obtain ⟨cs, hcs, hnone, hparse⟩ :=
      ((parse_of_captures _).1 _ _ hdigit).2.2 ⟨"٢".toList, .head _, by decide⟩
    -- Only the second number is not read.
    rcases List.mem_pair.mp hcs with rfl | rfl
    · exact hparse
    · exact absurd hnone (by decide)

end Command

end PageScript
