import PageScript.Proofs.Program.Exchange

/-!
# Runs

A run enters its state, installs the listeners, carries out commands up to one that ends it, flushes
its log, and enters its last state.

* `Interpreter.comesTo_runSteps` — the commands carried out and, if one ended the run, that command;
* `Step.execute_only_mayAsk` — what a command may ask, and from it what a command never asks;
* `Interpreter.comesTo_run` and `Interpreter.comesTo_run_of_steps` — the exchanges of a whole run.
-/

namespace PageScript

open Program

/-! ### What a step asks -/

/-- A step or the installation of the listeners asks for it, and not the run around them. -/
def Effect.isOfStep : Effect → Bool
  | .enter _ => false
  | .flush _ => false
  | _ => true

/-- A step asks for it, and not the run around the steps or the installation before them. -/
def Effect.isOfCommand : Effect → Bool
  | .enter _ => false
  | .flush _ => false
  | .claimInstall => false
  | .releaseInstall => false
  | _ => true

/-- It is asked of the page, the bridge, the clocks or the disk, and not of the observer or the
recipe store, nor by the run around the steps. -/
def Effect.isElsewhere : Effect → Bool
  | .startObserver => false
  | .stopObserver => false
  | .clearObserver => false
  | .observed => false
  | .saveRecipe _ => false
  | .loadRecipe _ => false
  | e => e.isOfCommand

/-- What a command does is done in a step. -/
theorem Effect.isOfStep_of_isOfCommand {e : Effect} (h : e.isOfCommand = true) :
    e.isOfStep = true := by
  cases e <;> first | rfl | nomatch h

/-- What is done elsewhere is done by a command. -/
theorem Effect.isOfCommand_of_isElsewhere {e : Effect} (h : e.isElsewhere = true) :
    e.isOfCommand = true := by
  cases e <;> first | rfl | nomatch h

/-- An image is asked for, or written. -/
def Effect.isOfImage : Effect → Bool
  | .page .screenshot => true
  | .writeImage _ _ => true
  | _ => false

/-- A command that is about the observer or the recipe store. -/
def Command.isAboutRecording : Command → Bool
  | .changes _ => true
  | .record _ => true
  | .recipe _ _ => true
  | _ => false

/-- A command that takes an image of the page. -/
def Command.takesImage : Command → Bool
  | .screenshot => true
  | _ => false

/-- What a command may ask: the observer and the recipe store are asked by the commands about them,
and images are asked for by the command that takes them. -/
def Command.mayAsk (command : Command) (e : Effect) : Bool :=
  (e.isElsewhere || (command.isAboutRecording && e.isOfCommand)) &&
    (command.takesImage || !e.isOfImage)

namespace Step

variable {P : Effect → Prop}

/-- A selector is resolved by a query alone. -/
theorem resolve_only {selector : String} (hquery : P (.page (.queryAll selector)))
    (text : Option String) : Only P (resolve selector text).run := by
  refine only_bind (only_page hquery) fun elements => ?_
  cases ElementInfo.select elements text with
  | some element => exact trivial
  | none => exact trivial

/-- An action on an element is a query and a call. -/
theorem act_only (selector : String) (text : Option String) (request : String → PageRequest)
    (result : String) (hquery : P (.page (.queryAll selector)))
    (hrequest : ∀ handle, P (.page (request handle))) :
    Only P (act selector text request result).run :=
  only_bind (resolve_only hquery text) fun _ => only_bind (only_page (hrequest _)) fun _ => trivial

/-- A screenshot takes an image, reads the clock and writes a file. -/
theorem screenshot_only (config : InterpreterConfig) (hpage : P (.page .screenshot))
    (hclock : P .wallClock) (hwrite : ∀ path bytes, P (.writeImage path bytes)) :
    Only P (screenshot config).run := by
  refine only_bind (only_page hpage) fun bytes => ?_
  cases config.screenshotDir with
  | none => exact trivial
  | some directory =>
    exact only_bind (only_perform hclock) fun _ =>
      only_bind ⟨hwrite _ _, fun _ => trivial⟩ fun _ => trivial

/-- The wait itself asks for elements, for the time and for changes. -/
theorem waitForElement_only (config : InterpreterConfig) {selector : String}
    (hquery : P (.page (.queryAll selector))) (hfollow : P .followChanges) (hclock : P .clock)
    (hchange : ∀ cursor ms, P (.awaitChange cursor ms)) (timeout : Option UInt64) :
    Only P (waitForElement config selector timeout).run := by
  refine only_bind (only_perform hfollow) fun cursor => ?_
  refine only_bind (only_perform hclock) fun now => ?_
  refine only_bind ⟨⟨hquery, hclock, hchange⟩, fun _ => trivial⟩ fun found => ?_
  match found with
  | .error e => exact trivial
  | .ok true => exact trivial
  | .ok false => exact trivial

/-- To wait for the network is to ask the page, and to look on when it has no answer. -/
theorem waitForNetwork_only (config : InterpreterConfig) (hpage : ∀ ms, P (.page (.networkIdle ms)))
    (hquiet : ∀ ms, P (.quiet ms)) (timeout : Option UInt64) :
    Only P (waitForNetwork config timeout).run := by
  refine only_bind (only_perform (hpage _)) fun answer => ?_
  match answer with
  | .ok true => exact trivial
  | .ok false => exact trivial
  | .error e =>
    cases e with
    | notSupported method => exact only_bind (only_perform (hquiet _)) fun _ => trivial
    | _ => exact trivial

/-- A recipe is saved from what was observed, with the time of the clock. -/
theorem saveRecipe_only (name : String) (hobserved : P .observed) (hclock : P .wallClock)
    (hsave : ∀ recipe, P (.saveRecipe recipe)) : Only P (saveRecipe name).run :=
  only_bind (only_perform hobserved) fun _ => only_bind (only_perform hclock) fun _ =>
    only_bind ⟨hsave _, fun _ => trivial⟩ fun _ => trivial

/-- A recipe is loaded from the shelf alone. -/
theorem loadRecipe_only {name : String} (hload : P (.loadRecipe name)) :
    Only P (loadRecipe name).run := by
  refine only_bind ⟨hload, fun _ => trivial⟩ fun found => ?_
  cases found <;> exact trivial

/-- A message is shown by one call. -/
theorem showMessage_only {text : String} (hpage : P (.page (.showMessage text))) :
    Only P (showMessage text).run := by
  refine only_bind (only_perform hpage) fun answer => ?_
  match answer with
  | .ok _ => exact trivial
  | .error e => cases e <;> exact trivial

/-- An assertion about an element is a query. -/
theorem assertElement_only {selector : String} (hquery : P (.page (.queryAll selector)))
    (text : Option String) : Only P (assertElement selector text).run := by
  refine only_bind (only_page hquery) fun (elements : List ElementInfo) => ?_
  dsimp only
  split
  · exact trivial
  · cases text with
    | none => exact trivial
    | some wanted =>
      dsimp only
      split <;> exact trivial

/-- An assertion about a text is a query. -/
theorem assertTextContains_only {selector : String} (hquery : P (.page (.queryAll selector)))
    (text : String) : Only P (assertTextContains selector text).run := by
  refine only_bind (resolve_only hquery none) fun (element : ElementInfo) => ?_
  generalize Text.containsBlock text.toList element.text.toList = found
  cases found <;> exact trivial

/-- A command asks for nothing but what it may ask. -/
theorem execute_only_mayAsk (config : InterpreterConfig) (command : Command) :
    Only (fun e => command.mayAsk e = true) (execute config command).run := by
  cases command with
  | navto url =>
    delta execute
    dsimp only
    -- The target is not computed.
    generalize Url.ofTarget url = target
    cases target with
    | error reason => exact trivial
    | ok target => exact only_bind (only_page rfl) fun _ => trivial
  | click selector text => exact act_only selector text .click _ (by rfl) fun _ => by rfl
  | type selector value =>
    exact act_only selector none (.typeText · value) _ (by rfl) fun _ => by rfl
  | setValue selector value =>
    exact act_only selector none (.setValue · value) _ (by rfl) fun _ => by rfl
  | focus selector => exact act_only selector none .focus _ (by rfl) fun _ => by rfl
  | enable selector => exact act_only selector none .enable _ (by rfl) fun _ => by rfl
  | hover selector => exact act_only selector none .hover _ (by rfl) fun _ => by rfl
  | scroll selector x y =>
    match selector, x, y with
    | some selector, _, _ =>
      exact act_only selector none .scrollIntoView _ (by rfl) fun _ => by rfl
    | none, some x, some y => exact only_bind (only_page rfl) fun _ => trivial
    | none, some x, none => exact trivial
    | none, none, _ => exact trivial
  | getAttr selector name =>
    exact only_bind (resolve_only (by rfl) none) fun _ => only_bind (only_page rfl) fun _ => trivial
  | getStyle selector property =>
    exact only_bind (resolve_only (by rfl) none) fun _ => only_bind (only_page rfl) fun _ => trivial
  | wait ms => exact only_bind (only_perform rfl) fun _ => trivial
  | waitForElement selector timeout =>
    exact waitForElement_only config (by rfl) (by rfl) (by rfl) (fun _ _ => by rfl) timeout
  | waitFor condition timeout =>
    cases condition with
    | quiet => exact only_bind (only_perform rfl) fun _ => trivial
    | network => exact waitForNetwork_only config (fun _ => by rfl) (fun _ => by rfl) timeout
  | exec script => exact only_page rfl
  | screenshot => exact screenshot_only config (by rfl) (by rfl) fun _ _ => by rfl
  | dialog action promptText => exact only_bind (only_page rfl) fun _ => trivial
  | resize width height => exact only_bind (only_page rfl) fun _ => trivial
  | changes action => cases action <;> exact only_bind (only_perform rfl) fun _ => trivial
  | record action =>
    cases action with
    | start => exact only_bind (only_perform rfl) fun _ => trivial
    | stop =>
      exact only_bind (only_perform rfl) fun _ => only_bind (only_perform rfl) fun _ => trivial
  | recipe action name =>
    cases action with
    | save => exact saveRecipe_only name (by rfl) (by rfl) fun _ => by rfl
    | load => exact loadRecipe_only (by rfl)
  | message text => exact showMessage_only (by rfl)
  | showToast text =>
    refine only_bind (only_perform rfl) fun answer => ?_
    cases answer <;> exact trivial
  | assert selector text => exact assertElement_only (by rfl) text
  | assertTextContains selector text => exact assertTextContains_only (by rfl) text
  | «break» => exact trivial

/-- No step enters a state of the interpreter, flushes a log or claims the installation of listeners
or gives it up. -/
theorem execute_only (config : InterpreterConfig) (command : Command) :
    Only (fun e => e.isOfCommand = true) (execute config command).run := by
  refine (execute_only_mayAsk config command).mono fun e he => ?_
  rw [Command.mayAsk, Bool.and_eq_true, Bool.or_eq_true, Bool.and_eq_true] at he
  exact he.1.elim Effect.isOfCommand_of_isElsewhere And.right

/-- A command that is not about the observer or the recipe store asks nothing of them. -/
theorem execute_only_elsewhere (config : InterpreterConfig) {command : Command}
    (h : command.isAboutRecording = false) :
    Only (fun e => e.isElsewhere = true) (execute config command).run := by
  refine (execute_only_mayAsk config command).mono fun e he => ?_
  rw [Command.mayAsk, h, Bool.false_and, Bool.or_false, Bool.and_eq_true] at he
  exact he.1

/-- A command that takes no image asks for none and writes none. -/
theorem execute_only_not_isOfImage (config : InterpreterConfig) {command : Command}
    (h : command.takesImage = false) :
    Only (fun e => e.isOfImage = false) (execute config command).run := by
  refine (execute_only_mayAsk config command).mono fun e he => ?_
  rw [Command.mayAsk, h, Bool.false_or, Bool.and_eq_true, Bool.not_eq_true'] at he
  exact he.2

end Step

/-! ### Steps of a run -/

namespace Interpreter

variable {config : InterpreterConfig} {commands done : List Command} {command : Command}
  {exchanges : List Exchange} {log : RunLog} {status : RunState}

/-- Commands are carried out one after another by some exchanges, and none of them ends the run.
The entries are what is noted of them. -/
inductive CarriesOut (config : InterpreterConfig) : List Command → List Exchange → RunLog → Prop
  | nil : CarriesOut config [] [] []
  | cons {command : Command} {rest : List Command} {first second : List Exchange}
      {outcome : Except ActionError Json} {log : RunLog}
      (hstep : ComesTo (Step.execute config command).run first outcome)
      (hgo : halts config command outcome = false) (hrest : CarriesOut config rest second log) :
      CarriesOut config (command :: rest) (first ++ second) (⟨command, resultOf outcome⟩ :: log)

/-- A command is carried out and ends the run. -/
def EndsWith (config : InterpreterConfig) (command : Command) (exchanges : List Exchange)
    (entry : LogEntry) : Prop :=
  ∃ outcome, ComesTo (Step.execute config command).run exchanges outcome ∧
    halts config command outcome = true ∧ entry = ⟨command, resultOf outcome⟩

/-- A run of no commands is over at once. -/
theorem comesTo_runSteps_nil (h : ComesTo (runSteps config []) exchanges (log, status)) :
    exchanges = [] ∧ log = [] ∧ status = .completed := by
  obtain ⟨rfl, heq⟩ := comesTo_done_iff.mp h
  exact ⟨rfl, (Prod.mk.inj heq).1, (Prod.mk.inj heq).2⟩

/-- One command: it ends the run, or the run goes on with the rest. -/
theorem comesTo_runSteps_cons {rest : List Command}
    (h : ComesTo (runSteps config (command :: rest)) exchanges (log, status)) :
    (∃ entry, EndsWith config command exchanges entry ∧ log = [entry] ∧ status = .halted) ∨
      ∃ first second outcome others, exchanges = first ++ second ∧
        ComesTo (Step.execute config command).run first outcome ∧
        halts config command outcome = false ∧
        ComesTo (runSteps config rest) second (others, status) ∧
        log = ⟨command, resultOf outcome⟩ :: others := by
  obtain ⟨first, second, outcome, rfl, hstep, h⟩ := comesTo_bind_iff.mp h
  dsimp only at h
  split at h
  -- The command ends the run: nothing is asked after it.
  · next hhalts =>
    obtain ⟨rfl, heq⟩ := comesTo_done_iff.mp h
    obtain ⟨rfl, rfl⟩ := Prod.mk.inj heq
    rw [List.append_nil]
    exact .inl ⟨_, ⟨outcome, hstep, hhalts, rfl⟩, rfl, rfl⟩
  · next hhalts =>
    obtain ⟨second, last, ⟨others, status'⟩, rfl, hrest, h⟩ := comesTo_bind_iff.mp h
    obtain ⟨rfl, heq⟩ := comesTo_done_iff.mp h
    obtain ⟨rfl, rfl⟩ := Prod.mk.inj heq
    rw [List.append_nil]
    exact .inr ⟨first, second, outcome, others, rfl, hstep, by simpa using hhalts, hrest, rfl⟩

/-- The commands of a run are carried out up to its end, or up to one that ends the run. -/
theorem comesTo_runSteps (h : ComesTo (runSteps config commands) exchanges (log, status)) :
    (CarriesOut config commands exchanges log ∧ status = .completed) ∨
      ∃ done command rest first last entries entry, commands = done ++ command :: rest ∧
        exchanges = first ++ last ∧ CarriesOut config done first entries ∧
        EndsWith config command last entry ∧ log = entries ++ [entry] ∧ status = .halted := by
  -- The induction is on the commands that are left.
  induction commands generalizing exchanges log with
  | nil =>
    obtain ⟨rfl, rfl, rfl⟩ := comesTo_runSteps_nil h
    exact .inl ⟨.nil, rfl⟩
  | cons command rest ih =>
    rcases comesTo_runSteps_cons h with ⟨entry, hends, rfl, rfl⟩ |
      ⟨first, second, outcome, others, rfl, hstep, hgo, hrest, rfl⟩
    · exact .inr ⟨[], command, rest, [], exchanges, [], entry, rfl, rfl, .nil, hends, rfl, rfl⟩
    · rcases ih hrest with ⟨hcarries, rfl⟩ |
        ⟨done, last, later, earlier, ending, entries, entry, rfl, rfl, hcarries, hends, rfl, rfl⟩
      · exact .inl ⟨.cons hstep hgo hcarries, rfl⟩
      · refine .inr ⟨command :: done, last, later, first ++ earlier, ending, _, entry, rfl, ?_,
          .cons hstep hgo hcarries, hends, rfl, rfl⟩
        rw [List.append_assoc]

/-- The entries name the commands that were carried out. -/
theorem CarriesOut.map_command (h : CarriesOut config done exchanges log) :
    log.map LogEntry.command = done := by
  induction h with
  | nil => rfl
  | cons _ _ _ ih => rw [List.map_cons, ih]

/-- The steps of a run ask for what commands ask for. -/
theorem CarriesOut.isOfCommand (h : CarriesOut config done exchanges log) :
    ∀ x ∈ exchanges, x.effect.isOfCommand = true := by
  induction h with
  | nil => simp
  | cons hstep _ _ ih =>
    intro x hx
    rcases List.mem_append.mp hx with hx | hx
    · exact hstep.only (Step.execute_only _ _) x hx
    · exact ih x hx

/-- The last command does only what commands do. -/
theorem EndsWith.isOfCommand {entry : LogEntry} (h : EndsWith config command exchanges entry) :
    ∀ x ∈ exchanges, x.effect.isOfCommand = true := by
  obtain ⟨outcome, hstep, -, -⟩ := h
  exact hstep.only (Step.execute_only _ _)

/-- The steps of a run are only seen to do what commands do. -/
theorem isOfCommand_of_comesTo (h : ComesTo (runSteps config commands) exchanges (log, status)) :
    ∀ x ∈ exchanges, x.effect.isOfCommand = true := by
  rcases comesTo_runSteps h with ⟨hcarries, -⟩ |
    ⟨done, command, rest, first, last, entries, entry, -, rfl, hcarries, hends, -, -⟩
  · exact hcarries.isOfCommand
  · intro x hx
    rcases List.mem_append.mp hx with hx | hx
    · exact hcarries.isOfCommand x hx
    · exact hends.isOfCommand x hx

/-! ### Whole runs -/

/-- The installation of the listeners claims it, asks the page, and gives the claim up if the page
refuses. -/
theorem install_only {P : Effect → Prop} (hclaim : P .claimInstall)
    (hpage : P (.page .installListeners)) (hrelease : P .releaseInstall) : Only P install := by
  refine (only_perform hclaim).bind fun (new : Bool) => ?_
  cases new with
  | false => exact trivial
  | true =>
    refine (only_perform hpage).bind fun (answer : Except PageError Unit) => ?_
    cases answer with
    | ok _ => exact trivial
    | error e => exact (only_perform hrelease).bind fun _ => trivial

/-- A run enters its state and installs the listeners before its steps, and flushes the log and
enters its last state after them. -/
theorem comesTo_run {report : RunReport} (h : ComesTo (run config commands) exchanges report) :
    ∃ opening installed steps log status flushed,
      exchanges = ⟨.enter .running, ()⟩ :: (opening ++ (steps ++
        [⟨.flush log, flushed⟩, ⟨.enter status, ()⟩])) ∧
      ComesTo install opening installed ∧
      ComesTo (runSteps config commands) steps (log, status) ∧
      report = ⟨status, log, .ofLog commands.length log⟩ := by
  -- The parts of the run, one after the other.
  obtain ⟨_, _, _, rfl, hrunning, h⟩ := comesTo_bind_iff.mp h
  obtain ⟨opening, _, installed, rfl, hinstall, h⟩ := comesTo_bind_iff.mp h
  obtain ⟨steps, _, ⟨log, status⟩, rfl, hsteps, h⟩ := comesTo_bind_iff.mp h
  obtain ⟨_, _, flushed, rfl, hflush, h⟩ := comesTo_bind_iff.mp h
  obtain ⟨_, _, _, rfl, hstatus, h⟩ := comesTo_bind_iff.mp h
  obtain ⟨rfl, rfl⟩ := comesTo_done_iff.mp h
  obtain rfl := comesTo_perform_iff.mp hrunning
  obtain rfl := comesTo_perform_iff.mp hflush
  obtain rfl := comesTo_perform_iff.mp hstatus
  exact ⟨opening, installed, steps, log, status, flushed, rfl, hinstall, hsteps, rfl⟩

/-- The steps of a run are in the middle of it, whatever the sink answers. -/
theorem comesTo_run_of_steps {opening steps : List Exchange} {installed : Except PageError Unit}
    (hinstall : ComesTo install opening installed)
    (hsteps : ComesTo (runSteps config commands) steps (log, status))
    (flushed : (Effect.flush log).Answer) :
    ComesTo (run config commands)
      (⟨.enter .running, ()⟩ ::
        (opening ++ (steps ++ [⟨.flush log, flushed⟩, ⟨.enter status, ()⟩])))
      ⟨status, log, .ofLog commands.length log⟩ :=
  .ask (hinstall.bind (hsteps.bind (.ask (.ask (.done _)))))

end Interpreter

end PageScript
