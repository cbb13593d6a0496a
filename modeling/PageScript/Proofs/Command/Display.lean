import PageScript.Proofs.Command.Arguments
import PageScript.Proofs.Record.Decoder

/-!
# Reading a canonical text

The canonical text of a command begins with its kind, which is its verb, so it is read by the rule
of that kind. Commands whose arguments have the same classes are read back under the same condition,
which is stated once for each of these families.

* `Command.parse_display_iff_of_form` — reading a canonical text is finding values that follow the
  verb and make the command;
* `Command.parse_selector_iff`, `Command.parse_selector_quoted_iff`,
  `Command.parse_selector_quoted?_iff`, `Command.parse_selector_name_iff` — commands that begin with
  a selector;
* `Command.parse_text_iff`, `Command.parse_word`, `Command.parse_word_quoted?_iff` — commands
  that are any text, and commands that begin with a word of their own.
-/

namespace PageScript

open Text Line Grammar

namespace Command

/-! ### Reading a canonical text -/

/-- A space in front of a text, as a list. -/
theorem toList_space_append (s : String) : (" " ++ s).toList = ' ' :: s.toList := by
  simp [String.toList_append]

/-- What follows the verb begins with a space. -/
theorem arguments_eq_empty_or (c : Command) :
    c.arguments = "" ∨ ∃ s, c.arguments = " " ++ s := by
  -- Only a scroll to nowhere, a screenshot and a break have no arguments.
  cases c with
  | scroll selector x y =>
    rcases selector with _ | selector
    · rcases x with _ | x
      · exact .inl rfl
      · rcases y with _ | y
        · exact .inl rfl
        · exact .inr ⟨_, by rw [arguments, String.append_assoc, String.append_assoc]⟩
    · exact .inr ⟨_, rfl⟩
  | screenshot => exact .inl rfl
  | «break» => exact .inl rfl
  | _ =>
    simp only [arguments, String.append_assoc]
    exact .inr ⟨_, rfl⟩

/-- The arguments of a command begin with a blank, if there are any. -/
private theorem isBlank_of_mem_head?_arguments (c : Command) :
    ∀ d ∈ c.arguments.toList.head?, isBlank d = true := by
  rcases arguments_eq_empty_or c with h | ⟨s, h⟩
  · simp [h]
  · rw [h, toList_space_append]
    simp only [List.head?_cons, Option.mem_some_iff, forall_eq']
    decide

section

variable {c : Command} {r : Rule}

/-- A command is read back when its rule fits what follows the verb with values from which it makes
the command. -/
theorem parse_display_iff (hr : ruleFor? c.kind = some r) :
    parse c.display = .ok c ↔
      ∃ written, r.pattern.FitsArguments (argumentPart c.arguments.toList) written ∧
        r.read (stripped written) = .ok c :=
  parse_append_eq_ok_iff hr (isBlank_of_mem_head?_arguments c)

/-- The same for a rule with one form. -/
theorem parse_display_iff_of_form (hr : ruleFor? c.kind = some r) {needed : List Slot}
    {last : Option Slot} (hform : r.pattern.forms = [⟨needed, last⟩]) :
    parse c.display = .ok c ↔
      ∃ values, Form.Assigns needed last (argumentPart c.arguments.toList) values ∧
        r.read values = .ok c := by
  rw [parse_display_iff hr]
  -- The values are the arguments without the quotes around them.
  simp only [Pattern.fitsArguments_singleton hform]
  constructor
  · rintro ⟨written, hfits, hread⟩
    exact ⟨_, ⟨written, hfits, rfl⟩, hread⟩
  · rintro ⟨_, ⟨written, hfits, rfl⟩, hread⟩
    exact ⟨written, hfits, hread⟩

end

/-! ### Commands made of texts -/

section

variable {r : Rule} {slot second : Slot}

/-- A command made of one text. -/
theorem parse_display_one_iff {make : String → Command} (hmake : Function.Injective make)
    {s : String} (hr : ruleFor? (make s).kind = some r)
    (hform : r.pattern.forms = [⟨[slot], none⟩])
    (hread : ∀ x, r.read [some x] = .ok (make (String.ofList x))) :
    parse (make s).display = .ok (make s) ↔
      Form.Assigns [slot] none (argumentPart (make s).arguments.toList) [some s.toList] := by
  rw [parse_display_iff_of_form hr hform]
  constructor
  · rintro ⟨values, hvalues, h⟩
    obtain ⟨x, others, rest, rfl, hothers⟩ := hvalues.exists_eq_cons
    obtain ⟨rfl, rfl⟩ := Form.assigns_nil_iff.mp hothers
    -- The command that was made of the value is the one that was written.
    rw [hread] at h
    obtain rfl := hmake (Except.ok.inj h)
    rwa [String.toList_ofList]
  · intro h
    exact ⟨_, h, by rw [hread, String.ofList_toList]⟩

/-- A command made of two texts. -/
theorem parse_display_two_iff {make : String → String → Command} (hmake : Function.Injective2 make)
    {s t : String} (hr : ruleFor? (make s t).kind = some r)
    (hform : r.pattern.forms = [⟨[slot, second], none⟩])
    (hread : ∀ x y, r.read [some x, some y] = .ok (make (String.ofList x) (String.ofList y))) :
    parse (make s t).display = .ok (make s t) ↔
      Form.Assigns [slot, second] none (argumentPart (make s t).arguments.toList)
        [some s.toList, some t.toList] := by
  rw [parse_display_iff_of_form hr hform]
  -- Two needed slots and no last one leave no other assignment than two values.
  constructor
  · rintro ⟨values, hvalues, h⟩
    obtain ⟨x, others, rest, rfl, hothers⟩ := hvalues.exists_eq_cons
    obtain ⟨y, others, rest, rfl, hnone⟩ := hothers.exists_eq_cons
    obtain ⟨rfl, rfl⟩ := Form.assigns_nil_iff.mp hnone
    rw [hread] at h
    obtain ⟨rfl, rfl⟩ := hmake (Except.ok.inj h)
    rwa [String.toList_ofList, String.toList_ofList]
  · intro h
    exact ⟨_, h, by rw [hread, String.ofList_toList, String.ofList_toList]⟩

/-- A command made of a text and a text that may be absent. -/
theorem parse_display_optional_iff {make : String → Option String → Command}
    (hmake : Function.Injective2 make) {s : String} {t : Option String}
    (hr : ruleFor? (make s t).kind = some r)
    (hform : r.pattern.forms = [⟨[slot], some second⟩])
    (hread : ∀ x v, r.read [some x, v] = .ok (make (String.ofList x) (v.map String.ofList))) :
    parse (make s t).display = .ok (make s t) ↔
      Form.Assigns [slot] (some second) (argumentPart (make s t).arguments.toList)
        [some s.toList, t.map String.toList] := by
  rw [parse_display_iff_of_form hr hform]
  -- The needed slot has one value, and the last one has a value or none.
  constructor
  · rintro ⟨values, hvalues, h⟩
    obtain ⟨x, others, rest, rfl, hothers⟩ := hvalues.exists_eq_cons
    obtain ⟨v, rfl⟩ := hothers.exists_eq_singleton
    rw [hread] at h
    obtain ⟨rfl, rfl⟩ := hmake (Except.ok.inj h)
    rw [String.toList_ofList, Option.map_map]
    convert hvalues
    simp [Function.comp_def]
  · intro h
    refine ⟨_, h, ?_⟩
    rw [hread, String.ofList_toList, Option.map_map]
    simp [Function.comp_def]

end

/-! ### What is assigned to the arguments -/

/-- What begins with a space begins with a blank. -/
theorem isBlank_of_mem_head?_space {cs : List Char} :
    ∀ c ∈ (' ' :: cs).head?, isBlank c = true := by
  simp only [List.head?_cons, Option.mem_some_iff, forall_eq']
  decide

section

variable {slot : Slot} {slots : List Slot} {last : Option Slot} {back : List Char}
  {values : Assignment} (hback : ∀ c ∈ back.head?, isBlank c = true)
include hback

/-- A selector follows the verb. -/
theorem assigns_selector_first_iff {s : String} :
    Form.Assigns (.selector :: slots) last
        (argumentPart (' ' :: ((selectorArgument s).toList ++ back))) (some s.toList :: values) ↔
      IsSelectorText s ∧ Form.Assigns slots last (trimEnd back) values := by
  obtain ⟨hne, hhead, hlast⟩ := selectorArgument_edges s
  rw [argumentPart_append hne hhead hlast]
  exact Form.assigns_selector_iff fun c hc => hback c (mem_head?_of_mem_head?_trimEnd hc)

/-- An argument without white space and quotes around it follows the verb. -/
theorem assigns_solid_first_iff {argument : List Char} (hslot : slot.isSolid = true)
    (hargument : slot.accepts argument = true) (hstrip : stripQuotes argument = argument) :
    Form.Assigns (slot :: slots) last (argumentPart (' ' :: (argument ++ back))) values ↔
      ∃ others, values = some argument :: others ∧
        Form.Assigns slots last (trimEnd back) others := by
  obtain ⟨hne, hbare⟩ := Slot.not_isBlank_of_isSolid hslot hargument
  rw [argumentPart_append hne (fun c hc => hbare c (List.mem_of_mem_head? hc))
    fun c hc => hbare c (List.mem_of_getLast? hc)]
  exact Form.assigns_solid_iff hslot hargument hstrip
    fun c hc => hback c (mem_head?_of_mem_head?_trimEnd hc)

end

/-- Two arguments of a class without white space follow the verb. -/
theorem assigns_solid_pair {slot : Slot} {first second : List Char} (hslot : slot.isSolid = true)
    (hfirst : slot.accepts first = true) (hfirst' : stripQuotes first = first)
    (hsecond : slot.accepts second = true) (hsecond' : stripQuotes second = second) :
    Form.Assigns [slot, slot] none (argumentPart (' ' :: (first ++ ' ' :: second)))
      [some first, some second] := by
  have hclosed : slot.isClosed = true := by simp [Slot.isClosed, hslot]
  obtain ⟨hne, hbare⟩ := Slot.not_isBlank_of_isSolid hslot hsecond
  rw [assigns_solid_first_iff isBlank_of_mem_head?_space hslot hfirst hfirst',
    trimEnd_cons_eq_self hne fun c hc => hbare c (List.mem_of_getLast? hc)]
  refine ⟨_, rfl, (Form.assigns_singleton_iff hclosed fun c hc =>
    hbare c (List.mem_of_mem_head? hc)).mpr ⟨hsecond, ?_⟩⟩
  rw [hsecond']

/-- White space is not dropped behind a text in quotes. -/
theorem trimEnd_space_inQuotes (s : String) :
    trimEnd (' ' :: (inQuotes s).toList) = ' ' :: (inQuotes s).toList := by
  obtain ⟨hne, -, hlast⟩ := inQuotes_edges s
  exact trimEnd_cons_eq_self hne hlast ' '

/-- An argument that is not there is not written. -/
theorem toList_argument?_none {α : Type} (write : α → String) :
    (argument? write none).toList = [] := rfl

/-- An argument that is there is written after a space. -/
theorem toList_argument?_some {α : Type} (write : α → String) (a : α) :
    (argument? write (some a)).toList = ' ' :: (write a).toList :=
  toList_space_append _

/-- An argument begins with a blank, if it is there. -/
theorem isBlank_of_mem_head?_argument? {α : Type} (write : α → String) (a : Option α) :
    ∀ c ∈ (argument? write a).toList.head?, isBlank c = true := by
  cases a with
  | none => simp [toList_argument?_none]
  | some a =>
    rw [toList_argument?_some]
    exact isBlank_of_mem_head?_space

/-- A text in quotes that may be absent. -/
theorem assigns_argument?_inQuotes_iff {t : Option String} :
    Form.Assigns [] (some .quoted) (trimEnd (argument? inQuotes t).toList)
        [t.map String.toList] ↔ ∀ x ∈ t, '"' ∉ x.toList := by
  cases t with
  | none => simpa [toList_argument?_none, trimEnd] using Form.assigns_absent_iff.mpr rfl
  | some t =>
    rw [toList_argument?_some, trimEnd_space_inQuotes, Form.assigns_present_iff (by simp),
      Option.map_some, Form.assigns_inQuotes_iff]
    simp

/-! ### Families of commands -/

section

variable {r : Rule}

/-- Commands with a selector. -/
theorem parse_selector_iff {make : String → Command} (hmake : Function.Injective make) {s : String}
    (harguments : (make s).arguments = " " ++ selectorArgument s)
    (hr : ruleFor? (make s).kind = some r) (hform : r.pattern.forms = [⟨[.selector], none⟩])
    (hread : ∀ x, r.read [some x] = .ok (make (String.ofList x))) :
    parse (make s).display = .ok (make s) ↔ IsSelectorText s := by
  have hpart : (make s).arguments.toList = ' ' :: ((selectorArgument s).toList ++ []) := by
    rw [harguments, toList_space_append, List.append_nil]
  rw [parse_display_one_iff hmake hr hform hread, hpart, assigns_selector_first_iff (by simp),
    Form.assigns_nil_iff]
  simp [trimEnd]

/-- Commands with a selector and a text in quotes. -/
theorem parse_selector_quoted_iff {make : String → String → Command}
    (hmake : Function.Injective2 make) {s t : String}
    (harguments : (make s t).arguments = " " ++ selectorArgument s ++ " " ++ inQuotes t)
    (hr : ruleFor? (make s t).kind = some r)
    (hform : r.pattern.forms = [⟨[.selector, .quoted], none⟩])
    (hread : ∀ x y, r.read [some x, some y] = .ok (make (String.ofList x) (String.ofList y))) :
    parse (make s t).display = .ok (make s t) ↔ IsSelectorText s ∧ '"' ∉ t.toList := by
  -- What follows the verb, as a space and the selector in front of the rest.
  have hpart : (make s t).arguments.toList =
      ' ' :: ((selectorArgument s).toList ++ ' ' :: (inQuotes t).toList) := by
    rw [harguments]
    simp [String.toList_append]
  rw [parse_display_two_iff hmake hr hform hread, hpart,
    assigns_selector_first_iff isBlank_of_mem_head?_space, trimEnd_space_inQuotes,
    Form.assigns_inQuotes_iff]

/-- Commands with a selector and perhaps a text in quotes. -/
theorem parse_selector_quoted?_iff {make : String → Option String → Command}
    (hmake : Function.Injective2 make) {s : String} {t : Option String}
    (harguments : (make s t).arguments = " " ++ selectorArgument s ++ argument? inQuotes t)
    (hr : ruleFor? (make s t).kind = some r)
    (hform : r.pattern.forms = [⟨[.selector], some .quoted⟩])
    (hread : ∀ x v, r.read [some x, v] = .ok (make (String.ofList x) (v.map String.ofList))) :
    parse (make s t).display = .ok (make s t) ↔
      IsSelectorText s ∧ ∀ x ∈ t, '"' ∉ x.toList := by
  have hpart : (make s t).arguments.toList =
      ' ' :: ((selectorArgument s).toList ++ (argument? inQuotes t).toList) := by
    rw [harguments]
    simp [String.toList_append]
  rw [parse_display_optional_iff hmake hr hform hread, hpart,
    assigns_selector_first_iff (isBlank_of_mem_head?_argument? _ _),
    assigns_argument?_inQuotes_iff]

/-- Commands that are any text. -/
theorem parse_text_iff {make : String → Command} (hmake : Function.Injective make) {s : String}
    (harguments : (make s).arguments = " " ++ inQuotes s)
    (hr : ruleFor? (make s).kind = some r) (hform : r.pattern.forms = [⟨[.text], none⟩])
    (hread : ∀ x, r.read [some x] = .ok (make (String.ofList x))) :
    parse (make s).display = .ok (make s) ↔ '\n' ∉ s.toList := by
  obtain ⟨hne, hhead, hlast⟩ := inQuotes_edges s
  rw [parse_display_one_iff hmake hr hform hread, harguments, toList_space_append,
    argumentPart_eq_self hne hhead hlast, Form.assigns_text_iff hhead, stripQuotes_inQuotes,
    Slot.accepts_text_iff, toList_inQuotes]
  constructor
  -- The quotes around the text are no line feeds.
  · rintro ⟨⟨-, h⟩, -⟩ hmem
    exact h '\n' (by simp [hmem]) rfl
  · intro h
    refine ⟨⟨by simp, ?_⟩, rfl⟩
    rintro c hc rfl
    exact h (by simpa using hc)

/-- Commands with a selector and a name. -/
theorem parse_selector_name_iff {make : String → String → Command}
    (hmake : Function.Injective2 make) {slot : Slot} (hslot : slot.isSolid = true)
    {p : Char → Bool} (hp : p '"' = false ∧ p '\'' = false)
    (haccepts : ∀ cs, slot.accepts cs = true ↔ cs ≠ [] ∧ ∀ c ∈ cs, p c = true) {s t : String}
    (harguments : (make s t).arguments = " " ++ selectorArgument s ++ " " ++ t)
    (hr : ruleFor? (make s t).kind = some r)
    (hform : r.pattern.forms = [⟨[.selector, slot], none⟩])
    (hread : ∀ x y, r.read [some x, some y] = .ok (make (String.ofList x) (String.ofList y))) :
    parse (make s t).display = .ok (make s t) ↔
      IsSelectorText s ∧ t.toList ≠ [] ∧ ∀ c ∈ t.toList, p c = true := by
  have hpart : (make s t).arguments.toList =
      ' ' :: ((selectorArgument s).toList ++ ' ' :: t.toList) := by
    rw [harguments]
    simp [String.toList_append]
  rw [parse_display_two_iff hmake hr hform hread, hpart,
    assigns_selector_first_iff isBlank_of_mem_head?_space, Form.assigns_name_iff hslot hp haccepts]

/-- Commands with a word of their own. -/
theorem parse_word {c : Command} {words : List String} {word : String}
    (harguments : c.arguments = " " ++ word) (hr : ruleFor? c.kind = some r)
    (hform : r.pattern.forms = [⟨[.oneOf words], none⟩])
    (hsolid : (Slot.oneOf words).isSolid = true) (hword : word ∈ words)
    (hstrip : stripQuotes word.toList = word.toList) (hread : r.read [some word.toList] = .ok c) :
    parse c.display = .ok c := by
  have hpart : c.arguments.toList = ' ' :: (word.toList ++ []) := by
    rw [harguments, toList_space_append, List.append_nil]
  have hargument : Slot.accepts (.oneOf words) word.toList = true :=
    List.any_eq_true.mpr ⟨word, hword, by simp⟩
  rw [parse_display_iff_of_form hr hform, hpart]
  refine ⟨_, ?_, hread⟩
  rw [assigns_solid_first_iff (by simp) hsolid hargument hstrip]
  exact ⟨[], rfl, Form.assigns_nil_iff.mpr ⟨rfl, rfl⟩⟩

/-- Commands with a word of their own and perhaps a text in quotes. -/
theorem parse_word_quoted?_iff {make : Option String → Command} (hmake : Function.Injective make)
    {t : Option String} {words : List String} {word : String}
    (harguments : (make t).arguments = " " ++ word ++ argument? inQuotes t)
    (hr : ruleFor? (make t).kind = some r)
    (hform : r.pattern.forms = [⟨[.oneOf words], some .quoted⟩])
    (hsolid : (Slot.oneOf words).isSolid = true) (hword : word ∈ words)
    (hstrip : stripQuotes word.toList = word.toList)
    (hread : ∀ v, r.read [some word.toList, v] = .ok (make (v.map String.ofList))) :
    parse (make t).display = .ok (make t) ↔ ∀ x ∈ t, '"' ∉ x.toList := by
  have hpart : (make t).arguments.toList =
      ' ' :: (word.toList ++ (argument? inQuotes t).toList) := by
    rw [harguments]
    simp [String.toList_append]
  have hargument : Slot.accepts (.oneOf words) word.toList = true :=
    List.any_eq_true.mpr ⟨word, hword, by simp⟩
  rw [parse_display_iff_of_form hr hform, hpart]
  -- The word ends at the first blank, so that only the quoted text is in question.
  simp only [assigns_solid_first_iff (isBlank_of_mem_head?_argument? inQuotes t) hsolid hargument
    hstrip]
  rw [← assigns_argument?_inQuotes_iff]
  constructor
  · rintro ⟨_, ⟨others, rfl, hothers⟩, h⟩
    obtain ⟨v, rfl⟩ := hothers.exists_eq_singleton
    rw [hread] at h
    obtain rfl := hmake (Except.ok.inj h)
    rw [Option.map_map]
    convert hothers
    simp [Function.comp_def]
  · intro h
    refine ⟨_, ⟨_, rfl, h⟩, ?_⟩
    rw [hread, Option.map_map]
    simp [Function.comp_def]

end

/-- A page is opened at a word that is read as it is. -/
theorem parse_navto_iff {url : String} :
    parse (navto url).display = .ok (.navto url) ↔
      url.toList ≠ [] ∧ (∀ c ∈ url.toList, isBlank c = false) ∧
        stripQuotes url.toList = url.toList := by
  have hread : ∀ x, (Rule.ofForm "navto" [.word] none [("url", .text 1)]).read [some x] =
      .ok (.navto (String.ofList x)) := fun x => rfl
  rw [parse_display_one_iff (fun _ _ h => navto.inj h) rfl rfl hread, arguments,
    toList_space_append, Form.assigns_word_iff]

/-- The name of a recipe is always in quotes, and is read as a selector. -/
theorem accepts_selector_inQuotes_iff (s : String) :
    Slot.accepts .selector (inQuotes s).toList = true ↔
      ¬((∃ c ∈ s.toList, isBlank c = true) ∧ '"' ∈ s.toList) := by
  -- Without white space the quotes around the name make a bare selector.
  have hbare : (∀ c ∈ (inQuotes s).toList, isBlank c = false) ↔
      ∀ c ∈ s.toList, isBlank c = false := by
    simp [toList_inQuotes, not_isBlank_quote, or_imp, forall_and]
  rw [Slot.accepts_selector_iff, hbare, toList_inQuotes]
  constructor
  · rintro (⟨body, -, hbody, heq⟩ | ⟨-, hs⟩) ⟨⟨c, hc, hblank⟩, hmem⟩
    · have : s.toList = body := by simpa using heq
      exact hbody (this ▸ hmem)
    · rw [hs c hc] at hblank
      cases hblank
  · intro h
    by_cases hs : ∀ c ∈ s.toList, isBlank c = false
    · exact .inr ⟨by simp, hs⟩
    · have hblank : ∃ c ∈ s.toList, isBlank c = true := by simpa using hs
      have hne : s.toList ≠ [] := by
        obtain ⟨c, hc, -⟩ := hblank
        exact List.ne_nil_of_mem hc
      exact .inl ⟨s.toList, hne, fun hmem => h ⟨hblank, hmem⟩, rfl⟩

/-- A command for a recipe is read back just if its name does not have both a blank and a quote in
it. -/
theorem parse_recipe_iff {action : RecipeAction} {name : String} :
    parse (recipe action name).display = .ok (.recipe action name) ↔
      ¬((∃ c ∈ name.toList, isBlank c = true) ∧ '"' ∈ name.toList) := by
  have hr : ruleFor? (recipe action name).kind =
      some (Rule.ofForm "recipe" [.oneOf ["save", "load"], .selector] none
        [("action", .text 1), ("name", .text 2)]) := rfl
  have hpart : (recipe action name).arguments.toList =
      ' ' :: (action.word.toList ++ ' ' :: (inQuotes name).toList) := by
    simp [arguments, String.toList_append]
  have hargument : Slot.accepts (.oneOf ["save", "load"]) action.word.toList = true := by
    cases action <;> decide
  have hstrip : stripQuotes action.word.toList = action.word.toList := by
    cases action <;> decide
  rw [parse_display_iff_of_form hr rfl, hpart]
  have hselector : Slot.isClosed .selector = true := rfl
  -- The action is cut off first, and the name is all that is left.
  simp only [assigns_solid_first_iff isBlank_of_mem_head?_space (by decide) hargument hstrip,
    trimEnd_space_inQuotes, Form.assigns_singleton_iff hselector (inQuotes_edges name).2.1,
    stripQuotes_inQuotes]
  rw [← accepts_selector_inQuotes_iff]
  constructor
  · rintro ⟨_, ⟨_, rfl, haccepts, rfl⟩, -⟩
    exact haccepts
  · intro haccepts
    refine ⟨_, ⟨_, rfl, haccepts, rfl⟩, ?_⟩
    have hread : (Rule.ofForm "recipe" [.oneOf ["save", "load"], .selector] none
        [("action", .text 1), ("name", .text 2)]).read
          [some action.word.toList, some name.toList] =
        .ok (.recipe action (String.ofList name.toList)) := by
      cases action <;> rfl
    rw [hread, String.ofList_toList]

end Command

end PageScript
