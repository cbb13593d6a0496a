import PageScript.Interpreter
import PageScript.Proofs.Bridge.History
import PageScript.Proofs.Rehearsal.Vigil

/-!
# Turns of a wait for an element

A wait for an element follows the changes of the document, and then goes round: it asks for the
elements, looks at the clock when there are none, and waits for a change of the document or the end
of a rest. The module names how far it has come, and describes each turn that it takes on a page
that answers queries at once.

* `carryOut_queryAll` — what such a page does when it is asked for elements;
* `matched_befall` — what an incident does to what a selector matches;
* `Appearance.execute_waitForElement` — the step is the wait at its beginning;
* `Appearance.turns_of_step?` — what a turn of the wait does;
* `Appearance.waits_of_step?_eq_none` — a wait that cannot go on has seen every change.
-/

namespace PageScript.Rehearsal

/-! ### Queries -/

/-- Queries for the elements of a selector are answered at once, and the page does nothing else. -/
structure AnswersAtOnce (p : ScriptedPage) (selector : String) : Prop where
  no_delay : (p.delays.lookup "query_all").getD 0 = 0
  no_failure : p.failure? "query_all" = none
  no_reaction :
    p.reactions.lookup (ScriptedPage.reactionKey "query_all" [.str selector]) = none

/-- The elements that a selector matches. -/
def World.matched (w : World ScriptedPage) (selector : String) : List ElementInfo :=
  w.page.reply (.queryAll selector)

/-- The elements that a selector matches after an incident, given those before it. -/
def Incident.matched (selector : String) (elements : List ElementInfo) (i : Incident) :
    List ElementInfo :=
  match i.what with
  | .page (.set other found) => if other = selector then found else elements
  | .page (.remove other) => if other = selector then [] else elements
  | _ => elements

/-- The elements that a selector matches after some incidents. -/
def matchedAfter (w : World ScriptedPage) (selector : String) (incidents : List Incident) :
    List ElementInfo :=
  incidents.foldl (Incident.matched selector) (w.matched selector)

variable {w w' : World ScriptedPage} {selector : String}

/-- Every page supports queries. -/
theorem refuses_query_all (p : ScriptedPage) : p.refuses "query_all" = false := by
  rw [ScriptedPage.refuses, show everSupported.contains "query_all" = true from rfl]
  exact Bool.and_false _

/-- A query is answered with what matches, and nothing else happens. -/
theorem carryOut_queryAll (h : AnswersAtOnce w.page selector) :
    ScriptedPage.carryOut w (.queryAll selector) = (.ok (w.matched selector), w) := by
  show (if w.page.refuses "query_all" then _ else _) = _
  rw [refuses_query_all, if_neg Bool.false_ne_true]
  simp only [h.no_failure]
  show (let w' := ((w.page.reactions.lookup _).getD []).foldl react w
    ((Except.ok (w'.page.reply (.queryAll selector)), w') : _ × _)) = _
  rw [h.no_reaction]
  rfl

/-- What an incident does to what a selector matches. -/
theorem matched_befall (selector : String) (i : Incident) (w : World ScriptedPage) :
    (i.befall w).matched selector = i.matched selector (w.matched selector) := by
  -- Only what is set or removed under this selector changes what is matched.
  match h : i.what with
  | .page (.set other found) =>
    rw [Incident.befall, Incident.matched, h]
    show (((other, found) :: w.page.elements.filter fun entry => entry.1 ≠ other).lookup
      selector).getD [] = if other = selector then found else w.matched selector
    by_cases hother : other = selector
    · rw [if_pos hother, hother, List.lookup_cons_self]
      rfl
    · have hne : (selector == other) = false := by simpa using Ne.symm hother
      rw [if_neg hother, List.lookup_cons, hne, Ledger.lookup_filter_of_ne (Ne.symm hother)]
      rfl
  | .page (.remove other) =>
    rw [Incident.befall, Incident.matched, h]
    show ((w.page.elements.filter fun entry => entry.1 ≠ other).lookup selector).getD [] =
      if other = selector then [] else w.matched selector
    by_cases hother : other = selector
    · rw [if_pos hother, hother, Ledger.lookup_filter_self]
      rfl
    · rw [if_neg hother, Ledger.lookup_filter_of_ne (Ne.symm hother)]
      rfl
  | .page (.event e) =>
    rw [Incident.befall, Incident.matched, h]
    rfl
  | .asked e =>
    rw [Incident.matched, h, World.matched, (Incident.agrees_befall_of_asked h).page_eq]
    rfl

/-- A page that answers at once still does when something befalls it. -/
theorem AnswersAtOnce.befall (h : AnswersAtOnce w.page selector) (i : Incident) :
    AnswersAtOnce (i.befall w).page selector := by
  rw [i.befall_page w]
  exact ⟨h.no_delay, h.no_failure, h.no_reaction⟩

/-! ### The wait -/

namespace Appearance

/-- What a wait for an element is to do. -/
structure Search where
  /-- The selector of the element. -/
  selector : String
  /-- When the wait begins. -/
  begun : Nat
  /-- How long it waits at most. -/
  timeout : Nat
  /-- How much time passes between two looks when the document does not change. -/
  poll : Nat
  /-- Some time passes. -/
  poll_pos : 0 < poll

/-- What the command does in a world. -/
def Search.ofCommand (config : InterpreterConfig) (w : World ScriptedPage) (selector : String)
    (timeout : Option UInt64) : Search where
  selector := selector
  begun := w.now
  timeout := (timeout.getD config.waitForElementTimeout).toNat
  poll := max 1 config.elementPollInterval.toNat
  poll_pos := Nat.le_max_left 1 _

/-- When the wait is over. -/
def Search.deadline (s : Search) : Nat :=
  s.begun + s.timeout

/-- The wait with a cursor on the changes of the document. -/
def Search.wait (s : Search) (cursor : Nat) : ElementWait :=
  ⟨s.selector, s.deadline, s.poll, cursor⟩

/-- What the step comes to. -/
def Search.answer (s : Search) : Except PageError Bool → Program (Except ActionError Json)
  | .error e => .done (.error (.page e))
  | .ok true => .done (.ok (.str "Element appeared"))
  | .ok false => .done (.ok (.str s!"Timeout: element {s.selector} did not appear"))

/-- How far a wait for an element has come. -/
inductive Stage where
  /-- It is about to begin. -/
  | begun
  /-- It follows the changes of the document. -/
  | followed (cursor : Nat)
  /-- It is about to look. -/
  | looping (cursor : Nat)
  /-- It is about to ask for the elements. -/
  | querying (cursor : Nat)
  /-- It has asked for them by a call. -/
  | asked (cursor call : Nat)
  /-- There were none. -/
  | missed (cursor : Nat)
  /-- It is about to rest for some time. -/
  | resting (cursor ms : Nat)
  /-- It waits for a change of the document or an instant. -/
  | waiting (cursor ms until_ : Nat)
  /-- It is over. -/
  | done (found : Bool)

variable (s : Search)

/-- What is left to do. -/
def Stage.program : Stage → Program (Except ActionError Json)
  | .begun => .ask .followChanges fun (cursor : Nat) => .ask .clock fun (now : Nat) =>
    .await ⟨s.selector, now + s.timeout, s.poll, cursor⟩ s.answer
  | .followed cursor => .ask .clock fun (now : Nat) =>
    .await ⟨s.selector, now + s.timeout, s.poll, cursor⟩ s.answer
  | .looping cursor => .await (s.wait cursor) s.answer
  | .querying cursor => .unfold (s.wait cursor) s.answer
  | .asked cursor _ => .unfold (s.wait cursor) s.answer
  | .missed cursor => .ask .clock fun (now : Nat) =>
    if s.deadline ≤ now then s.answer (.ok false)
    else .ask (.awaitChange cursor (min s.poll (s.deadline - now))) fun (cursor : Nat) =>
      .await (s.wait cursor) s.answer
  | .resting cursor ms => .ask (.awaitChange cursor ms) fun (cursor : Nat) =>
    .await (s.wait cursor) s.answer
  | .waiting cursor ms _ => .ask (.awaitChange cursor ms) fun (cursor : Nat) =>
    .await (s.wait cursor) s.answer
  | .done found => s.answer (.ok found)

/-- What is waited for. -/
def Stage.wait? : Stage → Option Wait
  | .asked _ call => some (.page call)
  | .waiting _ _ until_ => some (.change until_)
  | _ => none

/-- The task that waits. -/
def Stage.task (stage : Stage) : Task (Except ActionError Json) :=
  ⟨"", stage.program s, stage.wait?⟩

/-- What becomes of the answer to a query. -/
def Search.afterQuery (s : Search) (cursor : Nat) :
    Except PageError (List ElementInfo) → Program (Except ActionError Json)
  | .error e => s.answer (.error e)
  | .ok [] => (Stage.missed cursor).program s
  | .ok (_ :: _) => s.answer (.ok true)

/-- A round of the wait begins with a query. -/
theorem unfold_eq (cursor : Nat) :
    Program.unfold (s.wait cursor) s.answer =
      .ask (.page (.queryAll s.selector)) (s.afterQuery cursor) := by
  rw [Program.unfold, ElementWait.round, Program.bind]
  refine congrArg (Program.ask (.page (.queryAll s.selector)))
    (funext fun (found : Except PageError (List ElementInfo)) => ?_)
  match found with
  | .error e => rfl
  | .ok (_ :: _) => rfl
  | .ok [] =>
    refine congrArg (Program.ask .clock) (funext fun (now : Nat) => ?_)
    -- What follows the round follows each of its two ends.
    show Program.bind (if s.deadline ≤ now then _ else _) _ = if s.deadline ≤ now then _ else _
    split_ifs <;> rfl

/-- The step is the wait at its beginning. -/
theorem execute_waitForElement (config : InterpreterConfig) (w : World ScriptedPage)
    (selector : String) (timeout : Option UInt64) :
    (Step.execute config (.waitForElement selector timeout)).run =
      Stage.begun.program (.ofCommand config w selector timeout) := by
  refine congrArg (Program.ask .followChanges) (funext fun (cursor : Nat) => ?_)
  refine congrArg (Program.ask .clock) (funext fun (now : Nat) => ?_)
  refine congrArg (Program.await _) (funext fun (found : Except PageError Bool) => ?_)
  match found with
  | .error e => rfl
  | .ok true => rfl
  | .ok false => rfl

/-! ### Turns -/

/-- The number of changes of the document that there have been. -/
def posted (w : World ScriptedPage) : Nat :=
  w.observer.changes.log.length

/-- How a wait goes on by itself. -/
inductive Turns (s : Search) (w : World ScriptedPage) : Stage → Stage → Prop
  | follow : Turns s w .begun (.followed (posted w))
  | plan (cursor : Nat) : Turns s w (.followed cursor) (.looping cursor)
  | begin (cursor : Nat) : Turns s w (.looping cursor) (.querying cursor)
  | ask (cursor call : Nat) : Turns s w (.querying cursor) (.asked cursor call)
  | find (cursor call : Nat) (h : w.matched s.selector ≠ []) :
      Turns s w (.asked cursor call) (.done true)
  | miss (cursor call : Nat) (h : w.matched s.selector = []) :
      Turns s w (.asked cursor call) (.missed cursor)
  | giveUp (cursor : Nat) (h : s.deadline ≤ w.now) : Turns s w (.missed cursor) (.done false)
  | rest (cursor : Nat) (h : w.now < s.deadline) :
      Turns s w (.missed cursor) (.resting cursor (min s.poll (s.deadline - w.now)))
  | listen (cursor ms : Nat) : Turns s w (.resting cursor ms) (.waiting cursor ms (w.now + ms))
  | wake {cursor next : Nat} (ms until_ : Nat) (hlt : cursor < next) (hle : next ≤ posted w) :
      Turns s w (.waiting cursor ms until_) (.looping next)
  | timeOut {until_ : Nat} (cursor ms : Nat) (h : until_ ≤ w.now) :
      Turns s w (.waiting cursor ms until_) (.looping cursor)

/-- What holds as long as a wait has come so far. -/
def Stage.Fits (w : World ScriptedPage) : Stage → Prop
  | .begun => w.now = s.begun
  | .followed cursor => w.now = s.begun ∧ cursor ≤ posted w
  | .looping cursor | .querying cursor | .missed cursor => w.now ≤ s.deadline ∧ cursor ≤ posted w
  | .asked cursor call => w.now ≤ s.deadline ∧ cursor ≤ posted w ∧
    ∃ at_, w.page.underWay.lookup call = some at_ ∧ at_ ≤ w.now
  | .resting cursor ms => 0 < ms ∧ w.now + ms ≤ s.deadline ∧ cursor ≤ posted w
  | .waiting cursor _ until_ => w.now ≤ until_ ∧ until_ ≤ s.deadline ∧ cursor ≤ posted w
  | .done found => w.now ≤ s.deadline ∧ (found = false → w.now = s.deadline)

/-- What a turn of the task leaves as it is. -/
structure Unmoved (w w' : World ScriptedPage) : Prop where
  now_eq : w'.now = w.now
  observer_eq : w'.observer = w.observer
  matched_eq : w'.matched s.selector = w.matched s.selector
  answers : AnswersAtOnce w.page s.selector → AnswersAtOnce w'.page s.selector

/-- What has not moved has not. -/
theorem Unmoved.refl (w : World ScriptedPage) : Unmoved s w w :=
  ⟨rfl, rfl, rfl, id⟩

variable {s} {stage : Stage} {cursor call at_ : Nat}

/-- Nothing is posted where nothing moves. -/
theorem Unmoved.posted_eq (h : Unmoved s w w') : posted w' = posted w :=
  congrArg (fun o : Observer => o.changes.log.length) h.observer_eq

/-- A query that has been made is answered, and the wait is over if there are elements. -/
theorem step?_asked (cursor : Nat) (hanswers : AnswersAtOnce w.page s.selector)
    (hcall : w.page.underWay.lookup call = some at_) (hat : at_ ≤ w.now) :
    ∃ w', Unmoved s w w' ∧ ((Stage.asked cursor call).task s).step? w = some (w',
      (if w.matched s.selector = [] then Stage.missed cursor else .done true).task s) := by
  let w' : World ScriptedPage := { w with page := { w.page with
    underWay := w.page.underWay.filter fun entry => entry.1 ≠ call } }
  have hanswers' : AnswersAtOnce w.page s.selector → AnswersAtOnce w'.page s.selector := fun h =>
    ⟨h.no_delay, h.no_failure, h.no_reaction⟩
  -- The query has been under way for long enough, and is carried out when it is looked at.
  have hlook : PlayedPage.answer? w call (.queryAll s.selector) =
      some (.ok (w.matched s.selector), w') := by
    rw [PlayedPage.answer?]
    simp only [ScriptedPage.instPlayedPage, hcall]
    exact (if_pos hat).trans (congrArg some (carryOut_queryAll (hanswers' hanswers)))
  refine ⟨w', ⟨rfl, rfl, rfl, hanswers'⟩, ?_⟩
  rw [Stage.task, Stage.program, unfold_eq, Task.step?]
  simp only [Stage.wait?, Task.look, hlook]
  cases w.matched s.selector with
  | nil => rfl
  | cons element rest => rfl

/-- A query is made: it is recorded, and is to be answered now. -/
theorem step?_querying (cursor : Nat) (hanswers : AnswersAtOnce w.page s.selector) :
    ∃ w', Unmoved s w w' ∧ w'.page.underWay.lookup w.calls = some w.now ∧
      ((Stage.querying cursor).task s).step? w =
        some (w', (Stage.asked cursor w.calls).task s) := by
  let w' : World ScriptedPage := { w with
    calls := w.calls + 1
    page := { w.page with
      recorded := w.page.recorded.push (.arr [.str "query_all", .str s.selector])
      underWay := (w.calls, w.now) :: w.page.underWay } }
  -- A page that answers at once refuses no query and has no delay.
  have hbegin : PlayedPage.begin { w with calls := w.calls + 1 } w.calls (.queryAll s.selector) =
      w' := by
    show (if w.page.refuses "query_all" then _ else _) = _
    rw [refuses_query_all, if_neg Bool.false_ne_true, hanswers.no_delay]
    rfl
  refine ⟨w', ⟨rfl, rfl, rfl, fun h => ⟨h.no_delay, h.no_failure, h.no_reaction⟩⟩,
    List.lookup_cons_self, ?_⟩
  rw [Stage.task, Stage.task, Stage.program, Stage.program, unfold_eq, ← hbegin]
  rfl

/-- A wait for a change of the document goes on with the next change, or when its time is over. -/
theorem step?_waiting (s : Search) (cursor ms until_ : Nat) (w : World ScriptedPage) :
    ((Stage.waiting cursor ms until_).task s).step? w =
      match w.observer.changes.receive? cursor with
      | some (_, next) => some (w, (Stage.looping next).task s)
      | none => if until_ ≤ w.now then some (w, (Stage.looping cursor).task s) else none := by
  rw [Stage.task, Stage.program, Task.step?]
  simp only [Stage.wait?, Task.look]
  cases w.observer.changes.receive? cursor with
  | some received => rfl
  | none =>
    by_cases h : until_ ≤ w.now
    · simp only [if_pos h]
      rfl
    · simp only [if_neg h, if_true]

/-- What a turn of the task does. -/
theorem turns_of_step? {w' : World ScriptedPage} {t : Task (Except ActionError Json)}
    (hanswers : AnswersAtOnce w.page s.selector) (hfits : stage.Fits s w)
    (h : (stage.task s).step? w = some (w', t)) :
    ∃ stage', t = stage'.task s ∧ Turns s w stage stage' ∧ stage'.Fits s w' ∧ Unmoved s w w' := by
  cases stage with
  | begun =>
    obtain ⟨rfl, rfl⟩ := Prod.mk.inj (Option.some.inj h)
    exact ⟨_, rfl, .follow, ⟨hfits, Nat.le_refl _⟩, .refl s w⟩
  | followed cursor =>
    obtain ⟨rfl, rfl⟩ := Prod.mk.inj (Option.some.inj h)
    obtain ⟨hnow, hcursor⟩ := hfits
    -- No time has passed since the wait began, so the deadline is the one that is meant.
    refine ⟨.looping cursor, ?_, .plan cursor, ⟨?_, hcursor⟩, .refl s w⟩
    · rw [hnow]
      rfl
    · rw [hnow]
      exact Nat.le_add_right _ _
  | looping cursor =>
    obtain ⟨rfl, rfl⟩ := Prod.mk.inj (Option.some.inj h)
    exact ⟨.querying cursor, rfl, .begin cursor, hfits, .refl s w⟩
  | querying cursor =>
    obtain ⟨x, hunmoved, hcall, hstep⟩ := step?_querying cursor hanswers
    obtain ⟨rfl, rfl⟩ := Prod.mk.inj (Option.some.inj (hstep.symm.trans h))
    refine ⟨.asked cursor w.calls, rfl, .ask cursor _, ?_, hunmoved⟩
    rw [Stage.Fits, hunmoved.now_eq, hunmoved.posted_eq]
    exact ⟨hfits.1, hfits.2, w.now, hcall, Nat.le_refl _⟩
  | asked cursor call =>
    obtain ⟨hnow, hcursor, at_, hcall, hat⟩ := hfits
    obtain ⟨x, hunmoved, hstep⟩ := step?_asked cursor hanswers hcall hat
    obtain ⟨rfl, rfl⟩ := Prod.mk.inj (Option.some.inj (hstep.symm.trans h))
    have hnow' : x.now ≤ s.deadline := hunmoved.now_eq.symm ▸ hnow
    split_ifs with hmatched
    · exact ⟨.missed cursor, rfl, .miss cursor call hmatched,
        ⟨hnow', hunmoved.posted_eq.symm ▸ hcursor⟩, hunmoved⟩
    · exact ⟨.done true, rfl, .find cursor call hmatched, ⟨hnow', nofun⟩, hunmoved⟩
  | missed cursor =>
    obtain ⟨rfl, rfl⟩ := Prod.mk.inj (Option.some.inj h)
    obtain ⟨hnow, hcursor⟩ := hfits
    rcases Nat.lt_or_ge w.now s.deadline with hlt | hge
    · -- The rest takes some time, and no more than is left.
      have hrest : ¬ s.deadline ≤ w.now := Nat.not_le.mpr hlt
      have hpoll := s.poll_pos
      refine ⟨_, ?_, .rest cursor hlt, ⟨by omega, by omega, hcursor⟩, .refl s w⟩
      exact congrArg (fun p => (⟨"", p, none⟩ : Task _)) (if_neg hrest)
    · refine ⟨_, ?_, .giveUp cursor hge, ⟨hnow, fun _ => Nat.le_antisymm hnow hge⟩, .refl s w⟩
      exact congrArg (fun p => (⟨"", p, none⟩ : Task _)) (if_pos hge)
  | resting cursor ms =>
    obtain ⟨rfl, rfl⟩ := Prod.mk.inj (Option.some.inj h)
    obtain ⟨hpos, hle, hcursor⟩ := hfits
    exact ⟨.waiting cursor ms (w.now + ms), rfl, .listen cursor ms,
      ⟨Nat.le_add_right _ _, hle, hcursor⟩, .refl s w⟩
  | waiting cursor ms until_ =>
    rw [step?_waiting] at h
    obtain ⟨hle, huntil, hcursor⟩ := hfits
    have hnow : w.now ≤ s.deadline := Nat.le_trans hle huntil
    cases hreceived : w.observer.changes.receive? cursor with
    | some received =>
      rw [hreceived] at h
      obtain ⟨rfl, rfl⟩ := Prod.mk.inj (Option.some.inj h)
      -- Whether a change is read or some have been missed, the cursor goes on.
      have hposted := Channel.le_of_receive? hreceived
      exact ⟨_, rfl, .wake ms until_ (Channel.lt_of_receive? hreceived) hposted, ⟨hnow, hposted⟩,
        .refl s w⟩
    | none =>
      simp only [hreceived] at h
      split_ifs at h with hover
      obtain ⟨rfl, rfl⟩ := Prod.mk.inj (Option.some.inj h)
      exact ⟨_, rfl, .timeOut cursor ms hover, ⟨hnow, hcursor⟩, .refl s w⟩
  | done found => cases found <;> cases h

/-- A wait that cannot go on by itself waits for a change of the document, and has seen all changes
that there have been. -/
theorem waits_of_step?_eq_none (hanswers : AnswersAtOnce w.page s.selector)
    (hfits : stage.Fits s w) (h : (stage.task s).step? w = none)
    (hgoing : (stage.task s).result? = none) :
    ∃ cursor ms until_, stage = .waiting cursor ms until_ ∧ w.now < until_ ∧
      posted w ≤ cursor := by
  -- Only a wait for a change rests: at every other stage there is a step to take.
  cases stage with
  | querying cursor =>
    obtain ⟨x, -, -, hstep⟩ := step?_querying cursor hanswers
    cases hstep.symm.trans h
  | asked cursor call =>
    obtain ⟨-, -, at_, hcall, hat⟩ := hfits
    obtain ⟨x, -, hstep⟩ := step?_asked cursor hanswers hcall hat
    cases hstep.symm.trans h
  | waiting cursor ms until_ =>
    rw [step?_waiting] at h
    cases hreceived : w.observer.changes.receive? cursor with
    | some received =>
      rw [hreceived] at h
      cases h
    | none =>
      simp only [hreceived] at h
      split_ifs at h with hover
      exact ⟨cursor, ms, until_, rfl, Nat.lt_of_not_le hover,
        List.drop_eq_nil_iff.mp (Channel.drop_of_receive?_none hreceived)⟩
  | done found => cases found <;> cases hgoing
  | _ => cases h

end Appearance

end PageScript.Rehearsal
