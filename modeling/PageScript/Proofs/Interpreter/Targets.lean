import Mathlib.Data.List.Forall2
import PageScript.Proofs.Interpreter.StopOnError

/-!
# Steps act on the element they resolved

Nine kinds of commands act on an element: they look for the elements of their selector once, and ask
the page to do one thing with the element selected, if there is one. Three kinds look for elements
and do nothing with them. The others are not about elements at all.

* `ElementInfo.select_eq_some_iff` — which of several elements is selected;
* `Step.execute_actsOn`, `Step.execute_looks`, `Step.execute_others` — what a step of each sort
  asks, and how it may fail;
* `Interpreter.run_staysOnTarget` — what the steps of a run ask the page about elements.
-/

namespace PageScript

open Program

/-! ### Targets -/

/-- What a command acts on. -/
structure Target where
  /-- The selector of the element. -/
  selector : String
  /-- The text the element is to have, if any. -/
  text : Option String
  /-- What the page is asked to do with the element of a handle. -/
  request : String → PageRequest

/-- The target of a command that acts on an element. -/
def Command.target? : Command → Option Target
  | .click selector text => some ⟨selector, text, .click⟩
  | .type selector value => some ⟨selector, none, (.typeText · value)⟩
  | .setValue selector value => some ⟨selector, none, (.setValue · value)⟩
  | .focus selector => some ⟨selector, none, .focus⟩
  | .enable selector => some ⟨selector, none, .enable⟩
  | .hover selector => some ⟨selector, none, .hover⟩
  | .scroll (some selector) _ _ => some ⟨selector, none, .scrollIntoView⟩
  | .getAttr selector name => some ⟨selector, none, (.attributeOf · name)⟩
  | .getStyle selector property => some ⟨selector, none, (.computedStyle · property)⟩
  | _ => none

/-- The selector of a command that only looks for elements. -/
def Command.lookedFor? : Command → Option String
  | .assert selector _ => some selector
  | .assertTextContains selector _ => some selector
  | .waitForElement selector _ => some selector
  | _ => none

/-- A request that is about the elements of the page: to find them, or to do something with one. -/
def PageRequest.isAboutElements : PageRequest → Bool
  | .queryAll _ => true
  | .click _ => true
  | .typeText _ _ => true
  | .setValue _ _ => true
  | .focus _ => true
  | .enable _ => true
  | .hover _ => true
  | .scrollIntoView _ => true
  | .attributeOf _ _ => true
  | .computedStyle _ _ => true
  | _ => false

/-- A call of the page that is about its elements. -/
def Effect.isAboutElements : Effect → Bool
  | .page request => request.isAboutElements
  | _ => false

/-- An element that a target may mean: any, or those whose text without the white space around it is
the one given. -/
def Target.Fits (t : Target) (element : ElementInfo) : Prop :=
  ∀ wanted, t.text = some wanted → Text.trimmed element.text = wanted

/-- What a step that acts on a target asks: one query, and one thing more if and only if the query
succeeded and found an element that fits. This is asked of the first such element. -/
inductive ActsOn (t : Target) : List Exchange → Prop
  | failed (error : PageError) : ActsOn t [⟨.page (.queryAll t.selector), .error error⟩]
  | missing {elements : List ElementInfo} (h : ∀ e ∈ elements, ¬ t.Fits e) :
      ActsOn t [⟨.page (.queryAll t.selector), .ok elements⟩]
  | acted {before after : List ElementInfo} {element : ElementInfo}
      (hbefore : ∀ e ∈ before, ¬ t.Fits e) (hfits : t.Fits element)
      (answer : (t.request element.element).Answer) :
      ActsOn t [⟨.page (.queryAll t.selector), .ok (before ++ element :: after)⟩,
        ⟨.page (t.request element.element), answer⟩]

/-! ### The element selected -/

namespace ElementInfo

variable {t : Target} {elements : List ElementInfo} {element : ElementInfo}

/-- Selecting is looking for the first element that fits. -/
theorem select_eq_find? (t : Target) [DecidablePred t.Fits] (elements : List ElementInfo) :
    select elements t.text = elements.find? fun e => t.Fits e := by
  cases htext : t.text with
  | none =>
    have hall : ∀ e, t.Fits e := fun e wanted h => by rw [htext] at h; cases h
    cases elements <;> simp [select, hall]
  | some wanted =>
    have hiff : ∀ e, t.Fits e ↔ Text.trimmed e.text = wanted := fun e =>
      ⟨fun h => h wanted htext, fun h wanted' h' => by
        rw [htext] at h'
        rw [h, Option.some.inj h']⟩
    simp only [select, hiff]

/-- The element selected is the first one that fits. -/
theorem select_eq_some_iff :
    select elements t.text = some element ↔
      ∃ before after, elements = before ++ element :: after ∧ (∀ e ∈ before, ¬ t.Fits e) ∧
        t.Fits element := by
  classical
  rw [select_eq_find?, List.find?_eq_some_iff_append]
  constructor
  · rintro ⟨hfits, before, after, rfl, hbefore⟩
    exact ⟨before, after, rfl, fun e he => by simpa using hbefore e he, by simpa using hfits⟩
  · rintro ⟨before, after, rfl, hbefore, hfits⟩
    exact ⟨by simpa using hfits, before, after, rfl, fun e he => by simpa using hbefore e he⟩

/-- No element is selected if none fits. -/
theorem select_eq_none_iff : select elements t.text = none ↔ ∀ e ∈ elements, ¬ t.Fits e := by
  classical
  simp [select_eq_find?]

end ElementInfo

/-! ### Failed searches -/

namespace ActionError

/-- An element is missing, or is not as asserted. -/
def isOfSearch : ActionError → Bool
  | .elementNotFound _ => true
  | .assertion _ => true
  | _ => false

/-- The wordings of these errors open with these, and no others do. -/
def searchOpenings : List (List Char) :=
  [['E', 'l', 'e'], ['A', 's', 's']]

/-- The openings that a search has are those of its errors. -/
theorem contains_searchOpenings (e : ActionError) :
    searchOpenings.contains e.opening = e.isOfSearch := by
  cases e with
  | page error => cases error <;> rfl
  | bridge error => cases error <;> rfl
  | _ => rfl

/-- The wording of an error tells whether an element was missing or not as asserted. -/
theorem isOfSearch_eq_of_message_eq {e e' : ActionError} (h : e.message = e'.message) :
    e.isOfSearch = e'.isOfSearch := by
  rw [← contains_searchOpenings, ← contains_searchOpenings, opening_eq_of_message_eq h]

end ActionError

/-- An entry that reports a missing element or a failed assertion. -/
def LogEntry.ReportsSearch (entry : LogEntry) : Prop :=
  (∃ what, entry.result = .error (ActionError.elementNotFound what).message) ∨
    ∃ text, entry.result = .error (ActionError.assertion text).message

/-- An outcome that reads like one of a search is one: the messages of the other errors open
differently. -/
private theorem LogEntry.ReportsSearch.exists_error {command : Command}
    {outcome : Except ActionError Json}
    (h : LogEntry.ReportsSearch ⟨command, Interpreter.resultOf outcome⟩) :
    ∃ e, outcome = .error e ∧ e.isOfSearch = true := by
  cases outcome with
  | ok value =>
    rcases h with ⟨what, h⟩ | ⟨text, h⟩
    · cases h
    · cases h
  | error e =>
    refine ⟨e, rfl, ?_⟩
    rcases h with ⟨what, h⟩ | ⟨text, h⟩
    · exact ActionError.isOfSearch_eq_of_message_eq (StepResult.error.inj h)
    · exact ActionError.isOfSearch_eq_of_message_eq (StepResult.error.inj h)

/-! ### What a step asks and how it may fail -/

namespace Step

variable {α β : Type} {P : Effect → Prop} {Q : ActionError → Prop} {t : Target}
  {exchanges : List Exchange}

/-- A step followed by another one fails as the one does, or does what the one does and then what
the other does. -/
theorem comesTo_bind {s : Step α} {f : α → Step β} {outcome : Except ActionError β}
    (h : ComesTo (s >>= f).run exchanges outcome) :
    (∃ e, ComesTo s.run exchanges (.error e) ∧ outcome = .error e) ∨
      ∃ first second a, exchanges = first ++ second ∧ ComesTo s.run first (.ok a) ∧
        ComesTo (f a).run second outcome := by
  rw [run_bind] at h
  obtain ⟨first, second, result, rfl, hfirst, hsecond⟩ := comesTo_bind_iff.mp h
  cases result with
  | ok a => exact .inr ⟨first, second, a, rfl, hfirst, hsecond⟩
  | error e =>
    obtain ⟨rfl, rfl⟩ := comesTo_done_iff.mp hsecond
    rw [List.append_nil]
    exact .inl ⟨e, hfirst, rfl⟩

/-- What a call of the page comes to. -/
theorem comesTo_page {request : PageRequest} {outcome : Except ActionError request.Reply}
    (h : ComesTo (page request).run exchanges outcome) :
    ∃ answer, exchanges = [⟨.page request, answer⟩] ∧
      outcome = Except.mapError ActionError.page answer :=
  comesTo_ask_done_iff.mp h

/-- A step only asks for things of a kind, and only fails in ways of a kind. -/
def KeepsTo (P : Effect → Prop) (Q : ActionError → Prop) (s : Step α) : Prop :=
  ∀ exchanges outcome, ComesTo s.run exchanges outcome →
    (∀ x ∈ exchanges, P x.effect) ∧ ∀ e, outcome = .error e → Q e

/-- To ask for nothing keeps to anything. -/
theorem keepsTo_pure (a : α) : KeepsTo P Q (pure a) := by
  intro exchanges outcome h
  obtain ⟨rfl, rfl⟩ := comesTo_done_iff.mp h
  exact ⟨by simp, fun e he => nomatch he⟩

/-- To fail keeps to what the error may be. -/
theorem keepsTo_throw {e : ActionError} (he : Q e) : KeepsTo P Q (throw e : Step α) := by
  intro exchanges outcome h
  obtain ⟨rfl, rfl⟩ := comesTo_done_iff.mp h
  exact ⟨by simp, fun e' he' => Except.error.inj he' ▸ he⟩

/-- Steps one after the other keep to what each of them keeps to. -/
theorem keepsTo_bind {s : Step α} {f : α → Step β} (hs : KeepsTo P Q s)
    (hf : ∀ a, KeepsTo P Q (f a)) : KeepsTo P Q (s >>= f) := by
  intro exchanges outcome h
  rcases comesTo_bind h with ⟨e, hfirst, rfl⟩ | ⟨first, second, a, rfl, hfirst, hsecond⟩
  · obtain ⟨hasked, hfails⟩ := hs _ _ hfirst
    exact ⟨hasked, fun e' he' => hfails e' (congrArg _ (Except.error.inj he'))⟩
  · obtain ⟨hasked', hfails'⟩ := hf a second outcome hsecond
    exact ⟨List.forall_mem_append.mpr ⟨(hs _ _ hfirst).1, hasked'⟩, hfails'⟩

/-- A single effect keeps to what it is. -/
theorem keepsTo_perform {e : Effect} (h : P e) : KeepsTo P Q (perform e) := by
  intro exchanges outcome hcomes
  obtain ⟨answer, rfl, rfl⟩ := comesTo_ask_done_iff.mp hcomes
  exact ⟨by simpa using h, fun e he => nomatch he⟩

/-- A step that asks for one thing and may fail with what it makes of the answer. -/
theorem keepsTo_ask {e : Effect} {f : e.Answer → Except ActionError α} (h : P e)
    (hf : ∀ answer error, f answer = .error error → Q error) :
    KeepsTo P Q (ExceptT.mk (.ask e fun answer => .done (f answer))) := by
  intro exchanges outcome hcomes
  obtain ⟨answer, rfl, rfl⟩ := comesTo_ask_done_iff.mp hcomes
  exact ⟨by simpa using h, hf answer⟩

/-- An error that is translated is what the translation makes of it. -/
theorem of_mapError_eq_error {ε : Type} {f : ε → ActionError} {x : Except ε α} {e : ActionError}
    (h : Except.mapError f x = .error e) (hf : ∀ y, Q (f y)) : Q e := by
  cases x with
  | ok value => cases h
  | error y => exact Except.error.inj h ▸ hf y

/-- A call of the page keeps to what it asks, and fails with the page's errors only. -/
theorem keepsTo_page {request : PageRequest} (h : P (.page request)) (hQ : ∀ e, Q (.page e)) :
    KeepsTo P Q (page request) :=
  keepsTo_ask h fun _ _ hanswer => of_mapError_eq_error hanswer hQ

/-! ### Steps that act on an element -/

/-- The element of a target is looked for by one query, and it is the one that is selected. -/
theorem comesTo_resolve {outcome : Except ActionError ElementInfo}
    (h : ComesTo (resolve t.selector t.text).run exchanges outcome) :
    (∃ error, exchanges = [⟨.page (.queryAll t.selector), .error error⟩] ∧
        outcome = .error (.page error)) ∨
      (∃ (elements : List ElementInfo) (what : String),
        exchanges = [⟨.page (.queryAll t.selector), .ok elements⟩] ∧
        (∀ e ∈ elements, ¬ t.Fits e) ∧ outcome = .error (.elementNotFound what)) ∨
      ∃ (before : List ElementInfo) (element : ElementInfo) (after : List ElementInfo),
        exchanges = [⟨.page (.queryAll t.selector), .ok (before ++ element :: after)⟩] ∧
        (∀ e ∈ before, ¬ t.Fits e) ∧ t.Fits element ∧ outcome = .ok element := by
  delta resolve at h
  rcases comesTo_bind h with ⟨e, hquery, rfl⟩ | ⟨first, second, elements, rfl, hquery, hsecond⟩
  · obtain ⟨answer, rfl, hanswer⟩ := comesTo_page hquery
    cases answer with
    | ok elements => cases hanswer
    | error error => cases hanswer; exact .inl ⟨error, rfl, rfl⟩
  · obtain ⟨answer, rfl, hanswer⟩ := comesTo_page hquery
    cases answer with
    | error error => cases hanswer
    | ok elements =>
      cases hanswer
      -- The first element that fits is the one, if there is any.
      cases hselect : ElementInfo.select elements t.text with
      | none =>
        rw [hselect] at hsecond
        obtain ⟨rfl, rfl⟩ := comesTo_done_iff.mp hsecond
        exact .inr (.inl ⟨elements, _, rfl, ElementInfo.select_eq_none_iff.mp hselect, rfl⟩)
      | some element =>
        rw [hselect] at hsecond
        obtain ⟨rfl, rfl⟩ := comesTo_done_iff.mp hsecond
        obtain ⟨before, after, rfl, hbefore, hfits⟩ := ElementInfo.select_eq_some_iff.mp hselect
        exact .inr (.inr ⟨before, element, after, rfl, hbefore, hfits, rfl⟩)

/-- What a step asks that has the page do something with the element of a target. If the element is
missing, it only asks for it. -/
theorem actsOn_of_comesTo
    {make : (element : ElementInfo) → (t.request element.element).Reply → Json}
    {outcome : Except ActionError Json}
    (h : ComesTo (do
      let element ← resolve t.selector t.text
      let reply ← page (t.request element.element)
      return make element reply : Step Json).run exchanges outcome) :
    ActsOn t exchanges ∧ ∀ e, outcome = .error e → e.isOfSearch = true →
      ∀ x ∈ exchanges, x.effect = .page (.queryAll t.selector) := by
  rcases comesTo_bind h with ⟨e, hresolve, rfl⟩ | ⟨first, second, element, rfl, hresolve, hsecond⟩
  · rcases comesTo_resolve hresolve with ⟨error, rfl, he⟩ | ⟨elements, what, rfl, hmissing, -⟩ |
      ⟨_, _, _, -, -, -, he⟩
    · exact ⟨.failed error, fun _ _ _ => List.forall_mem_singleton.mpr rfl⟩
    · exact ⟨.missing hmissing, fun _ _ _ => List.forall_mem_singleton.mpr rfl⟩
    · cases he
  · rcases comesTo_resolve hresolve with ⟨_, -, he⟩ | ⟨_, _, -, -, he⟩ |
      ⟨before, _, after, rfl, hbefore, hfits, he⟩
    · cases he
    · cases he
    -- The page does what it is asked or not, and nothing else is asked.
    · cases he
      rcases comesTo_bind hsecond with ⟨e, hpage, rfl⟩ | ⟨_, _, reply, rfl, hpage, hreply⟩
      · obtain ⟨answer, rfl, hanswer⟩ := comesTo_page hpage
        have hnot : e.isOfSearch = false :=
          of_mapError_eq_error (Q := (·.isOfSearch = false)) hanswer.symm fun _ => rfl
        refine ⟨.acted hbefore hfits answer, fun e' he' hsearch => ?_⟩
        rw [← Except.error.inj he', hnot] at hsearch
        cases hsearch
      · obtain ⟨answer, rfl, -⟩ := comesTo_page hpage
        obtain ⟨rfl, rfl⟩ := comesTo_done_iff.mp hreply
        exact ⟨.acted hbefore hfits answer, fun e he => nomatch he⟩

variable {config : InterpreterConfig} {command : Command} {outcome : Except ActionError Json}

/-- A command that has a target acts on it. -/
theorem execute_actsOn (ht : command.target? = some t)
    (h : ComesTo (execute config command).run exchanges outcome) :
    ActsOn t exchanges ∧ ∀ e, outcome = .error e → e.isOfSearch = true →
      ∀ x ∈ exchanges, x.effect = .page (.queryAll t.selector) := by
  cases command with
  | click selector text => cases ht; exact actsOn_of_comesTo h
  | type selector value => cases ht; exact actsOn_of_comesTo h
  | setValue selector value => cases ht; exact actsOn_of_comesTo h
  | focus selector => cases ht; exact actsOn_of_comesTo h
  | enable selector => cases ht; exact actsOn_of_comesTo h
  | hover selector => cases ht; exact actsOn_of_comesTo h
  | scroll selector x y =>
    cases selector with
    | none => cases ht
    | some selector => cases ht; exact actsOn_of_comesTo h
  | getAttr selector name => cases ht; exact actsOn_of_comesTo h
  | getStyle selector property => cases ht; exact actsOn_of_comesTo h
  -- No other command has an element to act on.
  | _ => cases ht

/-! ### Steps that look for elements or are about something else -/

/-- A command that looks for elements asks the page for nothing but the elements of its selector. -/
theorem execute_looks {selector : String} (hlooked : command.lookedFor? = some selector)
    (h : ComesTo (execute config command).run exchanges outcome) :
    ∀ x ∈ exchanges, x.effect.isPageCall = true → x.effect = .page (.queryAll selector) := by
  suffices honly : Only (fun e => e.isPageCall = true → e = .page (.queryAll selector))
      (execute config command).run from h.only honly
  cases command with
  | assert selector text => cases hlooked; exact assertElement_only (fun _ => rfl) text
  | assertTextContains selector text =>
    cases hlooked; exact assertTextContains_only (fun _ => rfl) text
  | waitForElement selector timeout =>
    cases hlooked
    exact waitForElement_only config (fun _ => rfl) (fun h => nomatch h) (fun h => nomatch h)
      (fun _ _ h => nomatch h) timeout
  | _ => cases hlooked

/-- It is not about elements. -/
abbrev NotAboutElements (e : Effect) : Prop :=
  e.isAboutElements = false

/-- It is not that an element is missing or not as asserted. -/
abbrev NotOfSearch (e : ActionError) : Prop :=
  e.isOfSearch = false

/-- A screenshot is not about elements. -/
private theorem screenshot_others (config : InterpreterConfig) :
    KeepsTo NotAboutElements NotOfSearch (screenshot config) := by
  refine keepsTo_bind (keepsTo_page rfl fun _ => rfl) fun bytes => ?_
  cases config.screenshotDir with
  | none => exact keepsTo_pure _
  | some directory =>
    refine keepsTo_bind (keepsTo_perform rfl) fun now => keepsTo_bind ?_ fun _ => keepsTo_pure _
    exact keepsTo_ask rfl fun _ _ h => of_mapError_eq_error h fun _ => rfl

/-- To wait for the network is not about elements. -/
private theorem waitForNetwork_others (config : InterpreterConfig) (timeout : Option UInt64) :
    KeepsTo NotAboutElements NotOfSearch (waitForNetwork config timeout) := by
  refine keepsTo_bind (keepsTo_perform rfl) fun answer => ?_
  match answer with
  | .ok true => exact keepsTo_pure _
  | .ok false => exact keepsTo_pure _
  | .error e =>
    cases e with
    | notSupported method => exact keepsTo_bind (keepsTo_perform rfl) fun _ => keepsTo_pure _
    | timeout text => exact keepsTo_pure _
    | _ => exact keepsTo_throw rfl

/-- To save a recipe is not about elements. -/
private theorem saveRecipe_others (name : String) :
    KeepsTo NotAboutElements NotOfSearch (saveRecipe name) := by
  refine keepsTo_bind (keepsTo_perform rfl) fun events =>
    keepsTo_bind (keepsTo_perform rfl) fun now => keepsTo_bind ?_ fun _ => keepsTo_pure _
  exact keepsTo_ask rfl fun _ _ h => of_mapError_eq_error h fun _ => rfl

/-- To load a recipe is not about elements. -/
private theorem loadRecipe_others (name : String) :
    KeepsTo NotAboutElements NotOfSearch (loadRecipe name) := by
  refine keepsTo_bind (keepsTo_ask rfl fun _ _ h => of_mapError_eq_error h fun _ => rfl)
    fun found => ?_
  cases found <;> exact keepsTo_pure _

/-- To show a message is not about elements. -/
private theorem showMessage_others (text : String) :
    KeepsTo NotAboutElements NotOfSearch (showMessage text) := by
  refine keepsTo_bind (keepsTo_perform rfl) fun answer => ?_
  match answer with
  | .ok _ => exact keepsTo_pure _
  | .error e =>
    cases e with
    | notSupported method => exact keepsTo_pure _
    | _ => exact keepsTo_throw rfl

/-- A command that neither acts on an element nor looks for one asks nothing about elements, and
does not report that one is missing or not as asserted. -/
theorem execute_others (config : InterpreterConfig) (ht : command.target? = none)
    (hlooked : command.lookedFor? = none) :
    KeepsTo NotAboutElements NotOfSearch (execute config command) := by
  cases command with
  | navto url =>
    delta execute
    dsimp only
    -- The target is not computed.
    generalize Url.ofTarget url = target
    cases target with
    | error reason => exact keepsTo_throw rfl
    | ok target => exact keepsTo_bind (keepsTo_page rfl fun _ => rfl) fun _ => keepsTo_pure _
  | scroll selector x y =>
    match selector, x, y with
    | some selector, _, _ => cases ht
    | none, some x, some y =>
      exact keepsTo_bind (keepsTo_page rfl fun _ => rfl) fun _ => keepsTo_pure _
    | none, some x, none => exact keepsTo_throw rfl
    | none, none, _ => exact keepsTo_throw rfl
  | wait ms => exact keepsTo_bind (keepsTo_perform rfl) fun _ => keepsTo_pure _
  | waitFor condition timeout =>
    cases condition with
    | quiet => exact keepsTo_bind (keepsTo_perform rfl) fun _ => keepsTo_pure _
    | network => exact waitForNetwork_others config timeout
  | exec script => exact keepsTo_page rfl fun _ => rfl
  | screenshot => exact screenshot_others config
  | dialog action promptText =>
    exact keepsTo_bind (keepsTo_page rfl fun _ => rfl) fun _ => keepsTo_pure _
  | resize width height =>
    exact keepsTo_bind (keepsTo_page rfl fun _ => rfl) fun _ => keepsTo_pure _
  | changes action =>
    cases action <;> exact keepsTo_bind (keepsTo_perform rfl) fun _ => keepsTo_pure _
  | record action =>
    cases action with
    | start => exact keepsTo_bind (keepsTo_perform rfl) fun _ => keepsTo_pure _
    | stop =>
      exact keepsTo_bind (keepsTo_perform rfl) fun _ => keepsTo_bind (keepsTo_perform rfl) fun _ =>
        keepsTo_pure _
  | recipe action name =>
    cases action with
    | save => exact saveRecipe_others name
    | load => exact loadRecipe_others name
  | message text => exact showMessage_others text
  | showToast text =>
    refine keepsTo_bind (keepsTo_perform rfl) fun answer => ?_
    cases answer with
    | ok chosen => exact keepsTo_pure _
    | error e => exact keepsTo_throw rfl
  | «break» => exact keepsTo_pure _
  | assert selector text => cases hlooked
  | assertTextContains selector text => cases hlooked
  | waitForElement selector timeout => cases hlooked
  | _ => cases ht

end Step

namespace Interpreter

variable {config : InterpreterConfig} {commands done : List Command} {command : Command}
  {exchanges mine : List Exchange} {outcome : Except ActionError Json} {log : RunLog}

/-! ### Steps of a run -/

/-- The exchanges of the step of an entry, and what they have to do with elements. -/
structure StaysOnTarget (config : InterpreterConfig) (entry : LogEntry) (mine : List Exchange) :
    Prop where
  /-- By them the command has come to the result of the entry. -/
  comesTo : ∃ outcome, ComesTo (Step.execute config entry.command).run mine outcome ∧
    entry.result = resultOf outcome
  /-- A command that has a target acts on it, and asks nothing else. -/
  acts : ∀ t, entry.command.target? = some t → ActsOn t mine
  /-- A command that looks for elements asks the page for those of its selector only. -/
  looks : ∀ selector, entry.command.lookedFor? = some selector →
    ∀ x ∈ mine, x.effect.isPageCall = true → x.effect = .page (.queryAll selector)
  /-- No other command asks the page about elements. -/
  others : entry.command.target? = none → entry.command.lookedFor? = none →
    ∀ x ∈ mine, x.effect.isAboutElements = false
  /-- If an element is reported missing or not as asserted, the page was only asked for elements. -/
  unchanged : entry.ReportsSearch →
    ∀ x ∈ mine, x.effect.isPageCall = true → ∃ selector, x.effect = .page (.queryAll selector)

/-- Every step stays on its target. -/
theorem staysOnTarget_of_comesTo (h : ComesTo (Step.execute config command).run mine outcome) :
    StaysOnTarget config ⟨command, resultOf outcome⟩ mine where
  comesTo := ⟨outcome, h, rfl⟩
  acts _ ht := (Step.execute_actsOn ht h).1
  looks _ hlooked := Step.execute_looks hlooked h
  others ht hlooked := (Step.execute_others config ht hlooked mine outcome h).1
  unchanged hreports x hx hcall := by
    obtain ⟨e, rfl, he⟩ := hreports.exists_error
    cases ht : command.target? with
    | some t => exact ⟨t.selector, (Step.execute_actsOn ht h).2 e rfl he x hx⟩
    | none =>
      cases hlooked : command.lookedFor? with
      | some selector => exact ⟨selector, Step.execute_looks hlooked h x hx hcall⟩
      | none =>
        -- No other command fails in this way.
        have hnot := (Step.execute_others config ht hlooked mine _ h).2 e rfl
        exact absurd he (by rw [hnot]; decide)

/-- Commands that are carried out one after another stay on their targets. -/
theorem CarriesOut.exists_staysOnTarget (h : CarriesOut config done exchanges log) :
    ∃ steps, exchanges = steps.flatten ∧ List.Forall₂ (StaysOnTarget config) log steps := by
  induction h with
  | nil => exact ⟨[], rfl, .nil⟩
  | @cons command rest first second outcome log hstep _ _ ih =>
    obtain ⟨steps, rfl, hsteps⟩ := ih
    exact ⟨first :: steps, rfl, .cons (staysOnTarget_of_comesTo hstep) hsteps⟩

/-- However the page and everything else answer, a run consists of the exchanges of the steps in its
log, one step after the other, each of which stays on its target. Before and after them the page is
not asked about elements. -/
theorem run_staysOnTarget {report : RunReport}
    (h : ComesTo (run config commands) exchanges report) :
    ∃ opening steps ending, exchanges = opening ++ (steps.flatten ++ ending) ∧
      (∀ x ∈ opening ++ ending, x.effect.isAboutElements = false) ∧
      List.Forall₂ (StaysOnTarget config) report.log steps := by
  obtain ⟨installing, installed, inner, log, status, flushed, rfl, hinstall, hinner, rfl⟩ :=
    comesTo_run h
  have hopening : ∀ x ∈ installing, x.effect.isAboutElements = false :=
    hinstall.only (P := (·.isAboutElements = false)) (install_only rfl rfl rfl)
  -- The entries have their own exchanges, and the last one too if the run is cut short.
  have hsteps : ∃ steps, inner = steps.flatten ∧
      List.Forall₂ (StaysOnTarget config) log steps := by
    rcases comesTo_runSteps hinner with ⟨hcarries, -⟩ |
      ⟨done, command, rest, first, last, entries, entry, -, rfl, hcarries, hends, rfl, -⟩
    · exact hcarries.exists_staysOnTarget
    · obtain ⟨steps, rfl, hsteps⟩ := hcarries.exists_staysOnTarget
      obtain ⟨outcome, hstep, -, rfl⟩ := hends
      refine ⟨steps ++ [last], by simp, ?_⟩
      exact List.rel_append hsteps (.cons (staysOnTarget_of_comesTo hstep) .nil)
  obtain ⟨steps, rfl, hsteps⟩ := hsteps
  refine ⟨⟨.enter .running, ()⟩ :: installing, steps, [⟨.flush log, flushed⟩, ⟨.enter status, ()⟩],
    rfl, ?_, hsteps⟩
  rintro x hx
  rcases List.mem_append.mp hx with hx | hx
  · rcases List.mem_cons.mp hx with rfl | hx
    · rfl
    · exact hopening x hx
  · rcases List.mem_pair.mp hx with rfl | rfl <;> rfl

/-- Of two elements the one that has the text wanted is clicked, and nothing else is asked of the
page. -/
theorem run_staysOnTarget_click :
    ∃ exchanges report, ComesTo (run .standard [.click "button" (some "Go")]) exchanges report ∧
      pageCalls exchanges = [
        ⟨.page (.queryAll "button"), .ok [⟨"e1", "button", "Stop"⟩, ⟨"e2", "button", " Go "⟩]⟩,
        ⟨.page (.click "e2"), .ok ()⟩] ∧
      ∃ opening steps ending, exchanges = opening ++ (steps.flatten ++ ending) ∧
        (∀ x ∈ opening ++ ending, x.effect.isAboutElements = false) ∧
        List.Forall₂ (StaysOnTarget .standard) report.log steps := by
  have hrun : ComesTo (run .standard [.click "button" (some "Go")])
      [⟨.enter .running, ()⟩, ⟨.claimInstall, false⟩,
        ⟨.page (.queryAll "button"), .ok [⟨"e1", "button", "Stop"⟩, ⟨"e2", "button", " Go "⟩]⟩,
        ⟨.page (.click "e2"), .ok ()⟩,
        ⟨.flush [⟨.click "button" (some "Go"), .ok (.str "Clicked element")⟩], .ok ()⟩,
        ⟨.enter .completed, ()⟩]
      ⟨.completed, [⟨.click "button" (some "Go"), .ok (.str "Clicked element")⟩],
        .single (.ok (.str "Clicked element"))⟩ :=
    .ask (.ask (.ask (.ask (.ask (.ask (.done _))))))
  exact ⟨_, _, hrun, rfl, run_staysOnTarget hrun⟩

end Interpreter

end PageScript
