import Mathlib.Data.List.Forall2
import PageScript.Parse
import PageScript.Proofs.Grammar.Unambiguous

/-!
# Reading a line by its grammar

A rule assigns values to a line when the line fits its pattern, and the values are the arguments
without the quotes around them. Reading a line comes to what the rule of its verb makes of these
values, and a line without such values is malformed.

* `Rule.assigns_unique` — a line has at most one assignment of values;
* `Command.parse_of_assigns` and `Command.parse_of_not_assigns` — what reading a line comes to, with
  an assignment and without;
* `Command.parse_follows_grammar` — both at once, and that the order in which the ways to fit a line
  are tried is irrelevant.
-/

namespace PageScript

open Text Line Grammar

namespace Grammar

/-! ### Values of a line -/

/-- The arguments without the quotes around them. -/
def stripped (written : Assignment) : Assignment :=
  written.map (Option.map stripQuotes)

/-- The value of a number, or the argument if it is none. -/
def readNumber : Option (List Char) → Except (List Char) Json
  | none => .ok .null
  | some cs =>
    match int64? cs with
    | some n => .ok (.int n)
    | none => .error cs

/-- The value of a field, from arguments without the quotes around them. -/
def Source.read (values : Assignment) : Source → Except (List Char) Json
  | .text index => .ok (Json.ofText? ((argument? values index).map String.ofList))
  | .number index => readNumber (argument? values index)

/-- The fields of a record, from arguments without the quotes around them. -/
def readFields (values : Assignment) (template : List (String × Source)) :
    Except (List Char) (List (String × Json)) :=
  template.mapM fun field => (field.2.read values).map fun value => (field.1, value)

namespace Rule

/-- The line fits the rule, and these are its arguments without the quotes around them. -/
def Assigns (r : Rule) (line : List Char) (values : Assignment) : Prop :=
  ∃ written, r.pattern.Fits line written ∧ values = stripped written

/-- What a rule makes of the values of its arguments: a command, or the error of a number that is
none or of a record that is no command. -/
def read (r : Rule) (values : Assignment) : Except ParseError Command :=
  match readFields values r.template with
  | .error value => .error (.invalidNumber r.verb (String.ofList value))
  | .ok fields =>
    match Command.decoder.run (Command.ofKind r.verb fields) with
    | .error failure => .error (.template r.verb failure.message)
    | .ok command => .ok command

end Rule

/-! ### The classes of the arguments that fields are read from -/

/-- A value that is left out or belongs to a class. -/
def Slot.Admits (slot : Slot) (value : Option (List Char)) : Prop :=
  ∀ argument ∈ value, slot.accepts argument = true

/-- The classes of all arguments of all forms. -/
def Pattern.slots (p : Pattern) : List Slot :=
  p.forms.flatMap fun form => form.needed ++ form.last.toList

/-- A form has as many slots as its size says. -/
theorem Form.length_slots (form : Form) :
    (form.needed ++ form.last.toList).length = form.size := by
  cases h : form.last <;> simp [Form.size, h]

/-- The values of a form that fits are admitted by its slots, one by one. -/
theorem Form.Fits.admits {slots : List Slot} {last : Option Slot} {cs : List Char}
    {values : Assignment} (h : Form.Fits slots last cs values) :
    List.Forall₂ Slot.Admits (slots ++ last.toList) values := by
  induction h with
  | done => exact .nil
  | absent => exact .cons (by simp [Slot.Admits]) .nil
  | present _ hargument => exact .cons (by simpa [Slot.Admits] using hargument) .nil
  | needed _ hargument _ ih => exact .cons (by simpa [Slot.Admits] using hargument) ih

/-- Where nothing is written every slot is content. -/
theorem forall₂_admits_replicate_none {slots : List Slot} {n : Nat} (h : slots.length = n) :
    List.Forall₂ Slot.Admits slots (List.replicate n none) := by
  subst h
  induction slots with
  | nil => exact .nil
  | cons slot slots ih => exact .cons (by simp [Slot.Admits]) ih

/-- The arguments of a line that fits belong to the classes of the pattern. -/
theorem Pattern.FitsArguments.admits {p : Pattern} {cs : List Char} {values : Assignment}
    (h : p.FitsArguments cs values) : List.Forall₂ Slot.Admits p.slots values := by
  obtain ⟨before, form, after, own, hforms, hfits, rfl⟩ := h
  -- The forms that are not used leave as many arguments out as they have classes.
  have hlength : ∀ forms : List Form,
      (forms.flatMap fun form => form.needed ++ form.last.toList).length = Form.sizes forms := by
    intro forms
    induction forms with
    | nil => rfl
    | cons form forms ih =>
      rw [List.flatMap_cons, List.length_append, Form.length_slots, ih, Form.sizes]
  rw [Pattern.slots, hforms, List.flatMap_append, List.flatMap_cons, Pattern.placed,
    ← List.append_assoc]
  have hbefore := forall₂_admits_replicate_none (hlength before)
  have hafter := forall₂_admits_replicate_none (hlength after)
  exact List.rel_append (List.rel_append hbefore hfits.admits) hafter

/-- An argument belongs to the class at its place. -/
theorem exists_accepts_of_argument? {slots : List Slot} {written : Assignment}
    (h : List.Forall₂ Slot.Admits slots written) {index : Nat} {cs : List Char}
    (hcs : argument? written index = some cs) :
    ∃ slot, slots[index - 1]? = some slot ∧ slot.accepts cs = true := by
  have hget : written[index - 1]? = some (some cs) := Option.join_eq_some_iff.mp hcs
  obtain ⟨hlt, heq⟩ := List.getElem?_eq_some_iff.mp hget
  obtain ⟨hlength, hadmits⟩ := List.forall₂_iff_get.mp h
  have hslot : index - 1 < slots.length := hlength ▸ hlt
  refine ⟨slots[index - 1], List.getElem?_eq_getElem hslot, ?_⟩
  exact hadmits (index - 1) hslot hlt cs heq

/-! ### Numbers have no quotes around them -/

/-- A text that does not begin with a quote has no quotes around it. -/
theorem stripQuotes_of_head? {cs : List Char} (h : ∀ c ∈ cs.head?, c ≠ '"' ∧ c ≠ '\'') :
    stripQuotes cs = cs := by
  cases cs with
  | nil => rfl
  | cons c cs =>
    obtain ⟨hdouble, hsingle⟩ := h c rfl
    simp [stripQuotes, hdouble, hsingle]

/-- An integer has no quotes to strip. -/
theorem stripQuotes_of_isInteger {cs : List Char} (h : Slot.isInteger cs = true) :
    stripQuotes cs = cs := by
  -- Neither a digit nor a minus sign is a quote.
  have hdigit : ∀ c, isDigit c = true → c ≠ '"' ∧ c ≠ '\'' := by
    intro c hc
    constructor <;> rintro rfl <;> revert hc <;> decide
  apply stripQuotes_of_head?
  intro c hc
  rcases Slot.isInteger_iff.mp h with h | ⟨digits, -, rfl⟩
  · exact hdigit c ((Slot.isNumber_iff.mp h).2 c (List.mem_of_mem_head? hc))
  · obtain rfl : '-' = c := by simpa using hc
    decide

/-- A number is only read from an argument of decimal digits. -/
def Source.isSound (slots : List Slot) : Source → Bool
  | .text _ => true
  | .number index => slots[index - 1]?.all fun slot => slot = .number || slot = .integer

/-- Every template of the table takes its fields from slots that suit them. -/
theorem Rule.isSound_of_mem_template :
    ∀ r ∈ rules, ∀ field ∈ r.template, field.2.isSound r.pattern.slots = true := by
  decide

/-- An argument that is looked up among the stripped ones is the stripped one. -/
theorem argument?_stripped (written : Assignment) (index : Nat) :
    argument? (stripped written) index = (argument? written index).map stripQuotes := by
  rw [argument?, argument?, stripped, List.getElem?_map]
  rcases written[index - 1]? with _ | _ | cs <;> rfl

/-- A field has the same value whether the quotes are dropped before or while it is read. -/
theorem Source.read_stripped {slots : List Slot} {written : Assignment}
    (hwritten : List.Forall₂ Slot.Admits slots written) {source : Source}
    (hsource : source.isSound slots = true) :
    source.read (stripped written) = source.value written := by
  cases source with
  | text index =>
    rw [read, value, argument?_stripped]
    cases argument? written index <;> rfl
  | number index =>
    rw [read, value, argument?_stripped]
    cases hargument : argument? written index with
    | none => rfl
    | some cs =>
      -- Quotes are not dropped from numbers by the reader; here there are none to drop.
      obtain ⟨slot, hslot, haccepts⟩ := exists_accepts_of_argument? hwritten hargument
      have hinteger : Slot.isInteger cs = true := by
        rw [isSound, hslot, Option.all_some] at hsource
        simp only [Bool.or_eq_true, decide_eq_true_eq] at hsource
        rcases hsource with rfl | rfl
        · exact Slot.isInteger_iff.mpr (.inl haccepts)
        · exact haccepts
      cases hint : int64? cs <;>
        simp [stripQuotes_of_isInteger hinteger, readNumber, hint]

/-- The same for all fields, up to the first one that is no number where one is needed. -/
theorem readFields_stripped {slots : List Slot} {written : Assignment}
    (hwritten : List.Forall₂ Slot.Admits slots written) {template : List (String × Source)}
    (htemplate : ∀ field ∈ template, field.2.isSound slots = true) :
    readFields (stripped written) template = fillFields written template := by
  -- The fields are read in order up to the first error.
  induction template with
  | nil => rfl
  | cons field template ih =>
    obtain ⟨key, source⟩ := field
    have hsource : source.isSound slots = true := htemplate (key, source) (by simp)
    rw [readFields] at ih ⊢
    rw [List.mapM_cons, ih fun field hfield => htemplate field (by simp [hfield])]
    rw [Source.read_stripped hwritten hsource, fillFields]
    cases source.value written <;> rfl

end Grammar

/-! ### Lines of a rule -/

namespace Grammar.Rule

/-- The verbs of the table are verbs. -/
theorem isVerb_of_mem_rules : ∀ r ∈ rules, IsVerb r.verb.toList := by
  have h : ∀ r ∈ rules, r.verb.toList ≠ [] ∧ r.verb.toList.all (!isBlank ·) = true ∧
      verbOfWord r.verb.toList = r.verb.toList := by
    decide
  intro r hr
  obtain ⟨hne, hblank, heq⟩ := h r hr
  exact ⟨hne, not_isBlank_of_all hblank, heq⟩

/-- A rule that is looked up is of the table, and is that of the verb. -/
theorem mem_rules_of_ruleFor? {verb : String} {r : Rule} (h : ruleFor? verb = some r) :
    r ∈ rules ∧ r.verb = verb :=
  ⟨List.mem_of_find?_eq_some h, by simpa using List.find?_some h⟩

section

variable {input : String} {r : Rule} (hr : ruleFor? (Line.verb (Line.normalize input)) = some r)
include hr

/-- A line whose verb has a rule begins with that verb, or does not begin with it at all: the first
word of a line that begins with white space stands behind it. -/
theorem line_cases :
    (∃ part, IsArgumentPart part ∧ (Line.normalize input).toList = r.verb.toList ++ part) ∨
      ¬ r.verb.toList <+: (Line.normalize input).toList := by
  obtain ⟨hmem, hverb⟩ := mem_rules_of_ruleFor? hr
  have hrule := isVerb_of_mem_rules r hmem
  obtain ⟨verb, arguments, heq, hblank, harguments⟩ := exists_normalChars_eq input.toList
  rw [Line.normalize, heq, String.toList_ofList]
  rw [Line.normalize, heq] at hverb
  -- The normal form of an empty first word begins with a space, and no verb does.
  by_cases hne : verb = []
  · right
    subst hne
    intro hprefix
    obtain ⟨c, cs, hcs⟩ := List.exists_cons_of_ne_nil hrule.ne_nil
    rw [hcs] at hprefix
    cases arguments with
    | nil => simp at hprefix
    | cons d ds =>
      obtain ⟨rest, hrest⟩ := hprefix
      obtain rfl : c = ' ' := (List.cons.inj hrest).1
      have := hrule.not_isBlank ' ' (by simp [hcs])
      revert this
      decide
  · left
    rw [verb_ofList_assemble hne hblank harguments] at hverb
    obtain ⟨part, hpart, hline⟩ := exists_assemble_eq_append harguments
    exact ⟨part, hpart, by rw [hline, hverb, String.toList_ofList]⟩

/-- The ways to fit a line that are tried are all the ways there are. -/
theorem mem_assignments_iff {written : Assignment} :
    written ∈ r.pattern.assignments (Line.normalize input).toList ↔
      r.pattern.Fits (Line.normalize input).toList written := by
  obtain ⟨hmem, -⟩ := mem_rules_of_ruleFor? hr
  rw [Pattern.assignments, Pattern.Fits]
  rcases line_cases hr with ⟨part, hpart, hline⟩ | hprefix
  · rw [Rule.verb] at hline
    rw [hline, if_pos (List.isPrefixOf_iff_prefix.mpr (List.prefix_append _ _)), List.drop_left]
    rw [mem_fillingsFrom_iff hmem hpart]
    -- A line of the rule is cut behind its verb in one way.
    constructor
    · exact fun h => ⟨part, rfl, h⟩
    · rintro ⟨cs, hcs, h⟩
      rwa [List.append_cancel_left hcs]
  · rw [Rule.verb, ← List.isPrefixOf_iff_prefix] at hprefix
    rw [if_neg hprefix]
    constructor
    · intro h
      cases h
    · rintro ⟨cs, hcs, -⟩
      exact absurd (List.isPrefixOf_iff_prefix.mpr ⟨cs, hcs.symm⟩) hprefix

/-- A line fits the rule of its verb in one way. -/
theorem fits_unique {written written' : Assignment}
    (h : r.pattern.Fits (Line.normalize input).toList written)
    (h' : r.pattern.Fits (Line.normalize input).toList written') : written = written' := by
  obtain ⟨hmem, -⟩ := mem_rules_of_ruleFor? hr
  obtain ⟨cs, hcs, h⟩ := h
  obtain ⟨cs', hcs', h'⟩ := h'
  rcases line_cases hr with ⟨part, hpart, hline⟩ | hprefix
  · obtain rfl : part = cs := List.append_cancel_left (hline.symm.trans hcs)
    obtain rfl : part = cs' := List.append_cancel_left (hline.symm.trans hcs')
    exact fitsArguments_unique hmem hpart h h'
  · exact absurd ⟨cs, hcs.symm⟩ hprefix

/-- A line has at most one assignment of values. -/
theorem assigns_unique {values values' : Assignment}
    (h : r.Assigns (Line.normalize input).toList values)
    (h' : r.Assigns (Line.normalize input).toList values') : values = values' := by
  obtain ⟨written, hfits, rfl⟩ := h
  obtain ⟨written', hfits', rfl⟩ := h'
  rw [fits_unique hr hfits hfits']

/-- The pattern assigns what it fits, and nothing else. -/
theorem assign?_eq_some_iff {written : Assignment} :
    r.pattern.assign? (Line.normalize input).toList = some written ↔
      r.pattern.Fits (Line.normalize input).toList written := by
  rw [Pattern.assign?]
  constructor
  · intro h
    exact (mem_assignments_iff hr).mp (List.mem_of_mem_head? h)
  · intro h
    -- The first way that is found is the only one.
    have hfound := (mem_assignments_iff hr).mpr h
    cases hall : r.pattern.assignments (Line.normalize input).toList with
    | nil =>
      rw [hall] at hfound
      cases hfound
    | cons first rest =>
      have hfirst : first ∈ r.pattern.assignments (Line.normalize input).toList := by simp [hall]
      rw [List.head?_cons, fits_unique hr ((mem_assignments_iff hr).mp hfirst) h]

end

/-- What a rule makes of a line that fits it. -/
theorem read_stripped {r : Rule} (hr : r ∈ rules) {line : List Char} {written : Assignment}
    (h : r.pattern.Fits line written) :
    r.read (stripped written) =
      match r.fill written with
      | .error value => .error (.invalidNumber r.verb (String.ofList value))
      | .ok filled =>
        match Command.decoder.run filled with
        | .error failure => .error (.template r.verb failure.message)
        | .ok command => .ok command := by
  obtain ⟨cs, -, h⟩ := h
  rw [read, fill, readFields_stripped h.admits (isSound_of_mem_template r hr)]
  cases fillFields written r.template <;> rfl

end Grammar.Rule

/-! ### Reading a line -/

namespace Command

variable {input : String} {r : Rule}

/-- A line whose verb has a rule is not empty. -/
theorem isEmpty_normalize_eq_false
    (hr : ruleFor? (Line.verb (Line.normalize input)) = some r) :
    (Line.normalize input).isEmpty = false := by
  rw [← Bool.not_eq_true, String.isEmpty_iff]
  intro hempty
  have hnone : ruleFor? (Line.verb "") = none := by decide
  rw [hempty, hnone] at hr
  cases hr

/-- A line is read by the only assignment of its rule. -/
theorem parse_of_assigns (hr : ruleFor? (Line.verb (Line.normalize input)) = some r)
    {values : Assignment} (h : r.Assigns (Line.normalize input).toList values) :
    parse input = r.read values := by
  obtain ⟨hmem, hverb⟩ := Rule.mem_rules_of_ruleFor? hr
  obtain ⟨written, hfits, rfl⟩ := h
  rw [Rule.read_stripped hmem hfits, parse, isEmpty_normalize_eq_false hr]
  simp only [Bool.false_eq_true, if_false, hr, (Rule.assign?_eq_some_iff hr).mpr hfits]
  cases hfill : r.fill written with
  | error value => simp only [hverb]
  | ok filled =>
    cases hrun : decoder.run filled <;> simp only [hrun, hverb]

/-- A line without an assignment is malformed. -/
theorem parse_of_not_assigns (hr : ruleFor? (Line.verb (Line.normalize input)) = some r)
    (h : ∀ values, ¬ r.Assigns (Line.normalize input).toList values) :
    parse input = .error (.malformed r.verb (Text.trimmed input)) := by
  obtain ⟨-, hverb⟩ := Rule.mem_rules_of_ruleFor? hr
  have hnone : r.pattern.assign? (Line.normalize input).toList = none := by
    rw [Option.eq_none_iff_forall_ne_some]
    intro written hwritten
    exact h _ ⟨written, (Rule.assign?_eq_some_iff hr).mp hwritten, rfl⟩
  rw [parse, isEmpty_normalize_eq_false hr]
  simp only [Bool.false_eq_true, if_false, hr, hnone, hverb]

section

variable {verb tail : String} (hr : ruleFor? verb = some r)
  (htail : ∀ c ∈ tail.toList.head?, isBlank c = true)
include hr htail

/-- The normal form of a line that begins with a verb of the grammar has the same verb. -/
theorem normalize_append :
    (Line.normalize (verb ++ tail)).toList = verb.toList ++ argumentPart tail.toList ∧
      ruleFor? (Line.verb (Line.normalize (verb ++ tail))) = some r := by
  obtain ⟨hmem, rfl⟩ := Rule.mem_rules_of_ruleFor? hr
  have hverb := Rule.isVerb_of_mem_rules r hmem
  have hline : (Line.normalize (r.verb ++ tail)).toList =
      r.verb.toList ++ argumentPart tail.toList := by
    rw [Line.normalize, String.toList_ofList, String.toList_append,
      normalChars_verb_append hverb htail, assemble_eq_append]
    rfl
  have hhead : ∀ c ∈ (trimStart (trimEnd tail.toList)).head?, isBlank c = false :=
    not_of_mem_head?_dropWhile _
  refine ⟨hline, ?_⟩
  rw [← String.ofList_toList (s := Line.normalize (r.verb ++ tail)), hline, argumentPart,
    ← assemble_eq_append, verb_ofList_assemble hverb.ne_nil hverb.not_isBlank hhead,
    String.ofList_toList, hr]

/-- Such a line is read from the arguments that follow the verb. -/
theorem parse_append_of_fits {written : Assignment}
    (h : r.pattern.FitsArguments (argumentPart tail.toList) written) :
    parse (verb ++ tail) = r.read (stripped written) := by
  obtain ⟨hline, hnormal⟩ := normalize_append hr htail
  obtain ⟨-, rfl⟩ := Rule.mem_rules_of_ruleFor? hr
  exact parse_of_assigns hnormal ⟨written, ⟨_, hline, h⟩, rfl⟩

/-- It is read as a command exactly if there are such arguments and the rule makes the command of
them. -/
theorem parse_append_eq_ok_iff {c : Command} :
    parse (verb ++ tail) = .ok c ↔
      ∃ written, r.pattern.FitsArguments (argumentPart tail.toList) written ∧
        r.read (stripped written) = .ok c := by
  constructor
  · intro h
    obtain ⟨hline, hnormal⟩ := normalize_append hr htail
    obtain ⟨-, rfl⟩ := Rule.mem_rules_of_ruleFor? hr
    -- A line without an assignment is malformed and gives no command.
    by_cases hassigns : ∃ values, r.Assigns (Line.normalize (r.verb ++ tail)).toList values
    · obtain ⟨values, hvalues⟩ := hassigns
      rw [parse_of_assigns hnormal hvalues] at h
      obtain ⟨written, ⟨cs, hcs, hfits⟩, rfl⟩ := hvalues
      obtain rfl := List.append_cancel_left (hline.symm.trans hcs)
      exact ⟨written, hfits, h⟩
    · rw [parse_of_not_assigns hnormal fun values hvalues => hassigns ⟨values, hvalues⟩] at h
      cases h
  · rintro ⟨written, hfits, hread⟩
    rw [parse_append_of_fits hr htail hfits, hread]

end

/-- A rule never finds a line malformed that fits it. -/
theorem read_ne_malformed (values : Assignment) (verb text : String) :
    r.read values ≠ .error (.malformed verb text) := by
  rw [Rule.read]
  cases readFields values r.template with
  | error value => simp
  | ok fields =>
    dsimp only
    cases decoder.run (ofKind r.verb fields) <;> simp

/-- A line is read by its grammar. It has at most one assignment of values; without one it is
malformed, and otherwise it is read as what its rule makes of the values. The ways to fit the line
may be tried in any order. -/
theorem parse_follows_grammar (input : String) {r : Rule}
    (hr : ruleFor? (Line.verb (Line.normalize input)) = some r) :
    (∀ values values', r.Assigns (Line.normalize input).toList values →
      r.Assigns (Line.normalize input).toList values' → values = values') ∧
    ((∀ values, ¬ r.Assigns (Line.normalize input).toList values) ↔
      parse input = .error (.malformed r.verb (Text.trimmed input))) ∧
    (∀ values, r.Assigns (Line.normalize input).toList values → parse input = r.read values) ∧
    ∀ tried : List Assignment, tried.Perm (r.pattern.assignments (Line.normalize input).toList) →
      tried.head? = r.pattern.assign? (Line.normalize input).toList := by
  refine ⟨fun values values' => Rule.assigns_unique hr, ⟨parse_of_not_assigns hr, ?_⟩,
    fun values => parse_of_assigns hr, ?_⟩
  -- The error of a rule is never that the line is malformed.
  · intro hmalformed values hvalues
    rw [parse_of_assigns hr hvalues] at hmalformed
    exact read_ne_malformed values _ _ hmalformed
  -- All ways that are tried fit the line, so the first one does in any order.
  · intro tried htried
    cases tried with
    | nil => rw [Pattern.assign?, List.Perm.eq_nil htried.symm]
    | cons written rest =>
      have hwritten := (Rule.mem_assignments_iff hr).mp (htried.mem_iff.mp List.mem_cons_self)
      rw [List.head?_cons, (Rule.assign?_eq_some_iff hr).mpr hwritten]

/-- A selector without white space may hold a quote. -/
theorem parse_follows_grammar_click :
    ruleFor? (Line.verb (Line.normalize "Click:  a\"b  \"c d\" ")) =
        some (Rule.ofForm "click" [.selector] (some .quoted)
          [("selector", .text 1), ("text", .text 2)]) ∧
      parse "Click:  a\"b  \"c d\" " = .ok (.click "a\"b" (some "c d")) := by
  have hr : ruleFor? (Line.verb (Line.normalize "Click:  a\"b  \"c d\" ")) =
      some (Rule.ofForm "click" [.selector] (some .quoted)
        [("selector", .text 1), ("text", .text 2)]) := by
    decide +kernel
  refine ⟨hr, ((parse_follows_grammar _ hr).2.2.1
    [some ['a', '"', 'b'], some ['c', ' ', 'd']] ?_).trans rfl⟩
  refine ⟨[some ['a', '"', 'b'], some ['"', 'c', ' ', 'd', '"']], ?_, rfl⟩
  refine ⟨[' ', 'a', '"', 'b', ' ', ' ', '"', 'c', ' ', 'd', '"'], by decide +kernel, ?_⟩
  refine (Pattern.fitsArguments_singleton rfl).mpr ?_
  have htext : Form.Fits [] (some .quoted) [' ', ' ', '"', 'c', ' ', 'd', '"'] _ :=
    @Form.Fits.present _ [' ', ' '] ['"', 'c', ' ', 'd', '"'] ⟨by simp, by simp; decide⟩ (by decide)
  exact @Form.Fits.needed _ _ _ [' '] ['a', '"', 'b'] _ _ isGap_space (by decide) htext

end Command

end PageScript
