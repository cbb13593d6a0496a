import PageScript.Proofs.Interpreter.Progress
import PageScript.Proofs.Observer.UnboundedLog

/-!
# What commands do to the observer and the recipe store

Few commands ask anything of the observer or of the recipe store, and each of them asks for the same
whenever it is carried out. So what runs do to the two, one run after another, is what their
commands do, and nothing else in a run adds to it.

* `Step.asksFor_of_comesTo` — one command;
* `Interpreter.StandsAt.asksFor` and `Interpreter.AreRuns.asksFor` — a run that has come to a
  command, and runs one after another.
-/

namespace PageScript

open Program

/-! ### Questions and commands -/

/-- What a question does to the observer. -/
def Effect.operation? : Effect → Option Observer.Operation
  | .startObserver => some .start
  | .stopObserver => some .stop
  | .clearObserver => some .clear
  | _ => none

/-- The recipe that is to be saved. -/
def Effect.saved? : Effect → Option Recipe
  | .saveRecipe recipe => some recipe
  | _ => none

/-- What a command does to the observer. -/
def Command.operations : Command → List Observer.Operation
  | .changes .on => [.start]
  | .changes .off => [.stop]
  | .changes .clear => [.clear]
  | .record .start => [.start]
  | .record .stop => [.stop]
  | _ => []

/-- The names under which a command saves recipes. -/
def Command.savedNames : Command → List String
  | .recipe .save name => [name]
  | _ => []

/-- What is done to the observer by some exchanges. -/
def operationsOf (exchanges : List Exchange) : List Observer.Operation :=
  exchanges.filterMap fun x => x.effect.operation?

/-- The recipes that are to be saved by some exchanges. -/
def savesOf (exchanges : List Exchange) : List Recipe :=
  exchanges.filterMap fun x => x.effect.saved?

/-- The exchanges do to the observer and to the recipe store what the commands do, one after
another. A recipe that is saved has events that were observed. -/
structure AsksFor (commands : List Command) (exchanges : List Exchange) : Prop where
  operations : operationsOf exchanges = commands.flatMap Command.operations
  names : (savesOf exchanges).map Recipe.name = commands.flatMap Command.savedNames
  observed : ∀ recipe ∈ savesOf exchanges, ⟨.observed, recipe.events⟩ ∈ exchanges

variable {commands others : List Command} {exchanges more : List Exchange}

/-- Commands one after the other ask for what each of them asks for. -/
theorem AsksFor.append (h : AsksFor commands exchanges) (hmore : AsksFor others more) :
    AsksFor (commands ++ others) (exchanges ++ more) where
  operations := by
    rw [operationsOf, List.filterMap_append, List.flatMap_append]
    exact congrArg₂ (· ++ ·) h.operations hmore.operations
  names := by
    rw [savesOf, List.filterMap_append, List.map_append, List.flatMap_append]
    exact congrArg₂ (· ++ ·) h.names hmore.names
  observed recipe hrecipe := by
    rw [savesOf, List.filterMap_append] at hrecipe
    rcases List.mem_append.mp hrecipe with hrecipe | hrecipe
    · exact List.mem_append_left _ (h.observed recipe hrecipe)
    · exact List.mem_append_right _ (hmore.observed recipe hrecipe)

/-- What is done elsewhere is not about recording. -/
theorem Effect.asksNothing_of_isElsewhere {e : Effect} (h : e.isElsewhere = true) :
    e.operation? = none ∧ e.saved? = none := by
  cases e <;> first | exact ⟨rfl, rfl⟩ | cases h

/-- Exchanges with others than the observer and the recipe store. -/
theorem asksFor_nil
    (h : ∀ x ∈ exchanges, x.effect.operation? = none ∧ x.effect.saved? = none) :
    AsksFor [] exchanges := by
  have hoperations : operationsOf exchanges = [] :=
    List.filterMap_eq_nil_iff.mpr fun x hx => (h x hx).1
  have hsaves : savesOf exchanges = [] := List.filterMap_eq_nil_iff.mpr fun x hx => (h x hx).2
  refine ⟨hoperations, ?_, ?_⟩
  · rw [hsaves]
    rfl
  · rw [hsaves]
    exact List.forall_mem_nil _

/-! ### Commands about recordings -/

namespace Step

variable {config : InterpreterConfig} {command : Command} {name : String}
  {outcome : Except ActionError Json}

/-- A recording that ends is shown without what is no action of the user. -/
theorem comesTo_recordStop
    (h : ComesTo (execute config (.record .stop)).run exchanges outcome) :
    ∃ events : List Event, exchanges = [⟨.stopObserver, ()⟩, ⟨.observed, events⟩] ∧
      outcome = .ok (Json.arr ((events.filter Event.isUserAction).map Event.toJson)).canonical := by
  obtain ⟨_, _, rfl, hobserved⟩ := comesTo_ask_iff.mp h
  obtain ⟨events, rfl, rfl⟩ := comesTo_ask_done_iff.mp hobserved
  exact ⟨events, rfl, rfl⟩

/-- A recipe is saved with the events that are observed. -/
theorem comesTo_saveRecipe
    (h : ComesTo (execute config (.recipe .save name)).run exchanges outcome) :
    ∃ (events : List Event) (now : UInt64) (saved : Except StoreError Unit),
      exchanges =
        [⟨.observed, events⟩, ⟨.wallClock, now⟩, ⟨.saveRecipe ⟨name, now, events⟩, saved⟩] ∧
      (saved = .ok () →
        outcome = .ok (.str s!"Recipe '{name}' saved ({events.length} events)")) := by
  obtain ⟨events, _, rfl, hnow⟩ := comesTo_ask_iff.mp h
  obtain ⟨now, _, rfl, hsave⟩ := comesTo_ask_iff.mp hnow
  obtain ⟨saved, _, rfl, hdone⟩ := comesTo_ask_iff.mp hsave
  cases saved with
  | error e =>
    obtain ⟨rfl, -⟩ := comesTo_done_iff.mp hdone
    exact ⟨events, now, .error e, rfl, fun hok => by cases hok⟩
  | ok _ =>
    obtain ⟨rfl, rfl⟩ := comesTo_done_iff.mp hdone
    exact ⟨events, now, .ok (), rfl, fun _ => rfl⟩

/-- What a step that loads the recipe of a name shows of what it has found. -/
def loadAnswer (name : String) : Option Recipe → Json
  | some recipe =>
    .obj [("events", .int recipe.events.length), ("found", .bool true), ("name", .str recipe.name)]
  | none => .obj [("found", .bool false), ("name", .str name)]

/-- To load a recipe is one question, and the entry is read off its answer. -/
private theorem execute_loadRecipe (config : InterpreterConfig) (name : String) :
    (execute config (.recipe .load name)).run =
      .ask (.loadRecipe name) fun loaded : Except StoreError (Option Recipe) =>
        .done ((loaded.mapError ActionError.store).map (loadAnswer name)) := by
  change Program.ask _ _ = Program.ask _ _
  congr 1
  funext (loaded : Except StoreError (Option Recipe))
  match loaded with
  | .error e => rfl
  | .ok none => rfl
  | .ok (some recipe) => rfl

/-- The only exchange of a load is with the shelf, and the outcome is the shelf's. -/
theorem comesTo_loadRecipe
    (h : ComesTo (execute config (.recipe .load name)).run exchanges outcome) :
    ∃ loaded : Except StoreError (Option Recipe), exchanges = [⟨.loadRecipe name, loaded⟩] ∧
      outcome = (loaded.mapError ActionError.store).map (loadAnswer name) := by
  rw [execute_loadRecipe] at h
  exact comesTo_ask_done_iff.mp h

/-- A command asks for the same of the observer and the recipe store whenever it is carried out. -/
theorem asksFor_of_comesTo (h : ComesTo (execute config command).run exchanges outcome) :
    AsksFor [command] exchanges := by
  cases habout : command.isAboutRecording with
  | false =>
    -- Such a command is not looked at any further.
    have hnothing : AsksFor [] exchanges :=
      asksFor_nil fun x hx => Effect.asksNothing_of_isElsewhere
        (h.only (execute_only_elsewhere config habout) x hx)
    have hcommand : command.operations = [] ∧ command.savedNames = [] := by
      cases command <;> first | exact ⟨rfl, rfl⟩ | cases habout
    refine ⟨hnothing.operations.trans ?_, hnothing.names.trans ?_, hnothing.observed⟩
    · rw [List.flatMap_singleton, hcommand.1]
      rfl
    · rw [List.flatMap_singleton, hcommand.2]
      rfl
  | true =>
    cases command with
    | changes action =>
      cases action with
      | on | off | clear | request =>
        obtain ⟨_, rfl, -⟩ := comesTo_ask_done_iff.mp h
        exact ⟨rfl, rfl, List.forall_mem_nil _⟩
    | record action =>
      cases action with
      | start =>
        obtain ⟨_, rfl, -⟩ := comesTo_ask_done_iff.mp h
        exact ⟨rfl, rfl, List.forall_mem_nil _⟩
      | stop =>
        obtain ⟨events, rfl, -⟩ := comesTo_recordStop h
        exact ⟨rfl, rfl, List.forall_mem_nil _⟩
    | recipe action name =>
      cases action with
      | save =>
        obtain ⟨events, now, saved, rfl, -⟩ := comesTo_saveRecipe h
        exact ⟨rfl, rfl, List.forall_mem_singleton.mpr (.head _)⟩
      | load =>
        obtain ⟨loaded, rfl, -⟩ := comesTo_loadRecipe h
        exact ⟨rfl, rfl, List.forall_mem_nil _⟩
    | _ => cases habout

end Step

/-! ### Runs -/

namespace Interpreter

variable {config : InterpreterConfig} {done : List Command} {passed : List Exchange} {log : RunLog}
  {status : RunState} {n : Nat}

/-- The commands that were carried out have asked for what their exchanges show. -/
theorem CarriesOut.asksFor (h : CarriesOut config done exchanges log) : AsksFor done exchanges := by
  induction h with
  | nil => exact asksFor_nil (List.forall_mem_nil _)
  | cons hstep _ _ ih => exact (Step.asksFor_of_comesTo hstep).append ih

/-- The last command has asked for what its exchanges show. -/
theorem EndsWith.asksFor {command : Command} {entry : LogEntry}
    (h : EndsWith config command exchanges entry) : AsksFor [entry.command] exchanges := by
  obtain ⟨outcome, hstep, -, rfl⟩ := h
  exact Step.asksFor_of_comesTo hstep

/-- The steps of a run ask for what the commands in its log ask for. -/
theorem asksFor_of_runSteps (h : ComesTo (runSteps config commands) exchanges (log, status)) :
    AsksFor (log.map LogEntry.command) exchanges := by
  rcases comesTo_runSteps h with ⟨hcarries, -⟩ |
    ⟨done, command, rest, first, last, entries, entry, -, rfl, hcarries, hends, rfl, -⟩
  · rw [hcarries.map_command]
    exact hcarries.asksFor
  · rw [List.map_append, hcarries.map_command]
    exact hcarries.asksFor.append hends.asksFor

/-- The installation of the listeners leaves alone what the observer collects. -/
theorem asksFor_install {installed : Except PageError Unit}
    (h : ComesTo install exchanges installed) : AsksFor [] exchanges := by
  have honly : Only (fun e => e.operation? = none ∧ e.saved? = none) install :=
    install_only ⟨rfl, rfl⟩ ⟨rfl, rfl⟩ ⟨rfl, rfl⟩
  exact asksFor_nil (h.only honly)

/-- To enter a state is not about recording. -/
theorem asksFor_enter (state : RunState) : AsksFor [] [⟨.enter state, ()⟩] :=
  ⟨rfl, rfl, List.forall_mem_nil _⟩

/-- A run that has come to a command has asked for what the commands before it ask for. -/
theorem StandsAt.asksFor (h : StandsAt config commands n exchanges) :
    AsksFor (commands.take n) exchanges := by
  obtain ⟨opening, installed, passed, entries, rfl, hinstall, hcarries⟩ := h
  exact (asksFor_enter .running).append ((asksFor_install hinstall).append hcarries.asksFor)

/-- A run asks for what the commands in its log ask for. -/
theorem asksFor_of_run {report : RunReport} (h : ComesTo (run config commands) exchanges report) :
    AsksFor (report.log.map LogEntry.command) exchanges := by
  obtain ⟨opening, installed, steps, log, status, flushed, rfl, hinstall, hsteps, rfl⟩ :=
    comesTo_run h
  have hend : AsksFor [] [⟨.flush log, flushed⟩, ⟨.enter status, ()⟩] :=
    ⟨rfl, rfl, List.forall_mem_nil _⟩
  have hall := (asksFor_enter .running).append ((asksFor_install hinstall).append
    ((asksFor_of_runSteps hsteps).append hend))
  rwa [List.append_nil] at hall

/-- Runs have been made one after another, each to its end. Their commands are those that were
carried out. -/
inductive AreRuns : List Exchange → List Command → Prop
  | nil : AreRuns [] []
  | next {past exchanges : List Exchange} {done : List Command} {config : InterpreterConfig}
      {commands : List Command} {report : RunReport} (h : AreRuns past done)
      (hrun : ComesTo (run config commands) exchanges report) :
      AreRuns (past ++ exchanges) (done ++ report.log.map LogEntry.command)

/-- Runs one after the other ask for what their commands ask for. -/
theorem AreRuns.asksFor (h : AreRuns exchanges done) : AsksFor done exchanges := by
  induction h with
  | nil => exact asksFor_nil (List.forall_mem_nil _)
  | next _ hrun ih => exact ih.append (asksFor_of_run hrun)

end Interpreter

end PageScript
