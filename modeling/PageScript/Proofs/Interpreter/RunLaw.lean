import PageScript.Proofs.Interpreter.Run

/-!
# The law of runs

What ends a run is read off its log: no entry but the last one is that of a command that ended the
run, and the run is halted exactly if the last one is. The sink is handed this log once, and the
interpreter is then in the state in which the run ended.

* `ActionError.isHalt_eq_of_message_eq` — the wording of an error tells whether it ends a run;
* `Interpreter.run_law` — what the log, the status, the output, the sink and the state of a run have
  in common.
-/

namespace PageScript

open Program

/-! ### Entries that end a run -/

namespace ActionError

/-- The first characters of the wording of an error. They tell the kinds of errors apart that make a
difference to a run. -/
def opening : ActionError → List Char
  | .elementNotFound _ => ['E', 'l', 'e']
  | .assertion _ => ['A', 's', 's']
  | .invalidArguments _ => ['I', 'n', 'v']
  | .invalidUrl _ _ => ['I', 'n', 'v']
  | .page (.notSupported _) => ['N', 'o', 't']
  | .page .notReady => ['P', 'a', 'g']
  | .page .connectionLost => ['C', 'o', 'n']
  | .page (.navigation _) => ['N', 'a', 'v']
  | .page (.script _) => ['S', 'c', 'r']
  | .page (.timeout _) => ['T', 'i', 'm']
  | .page (.remote _) => ['R', 'e', 'm']
  | .page (.other _) => ['B', 'a', 'c']
  | .bridge (.cancelled _) => ['U', 's', 'e']
  | .bridge (.expired _ _) => ['N', 'o', ' ']
  | .bridge .closed => ['B', 'r', 'i']
  | .store _ => ['R', 'e', 'c']
  | .io _ => ['I', 'O', ' ']

/-- The opening of a message is that of its kind. -/
theorem take_toList_append {kind : String} (h : 3 ≤ kind.toList.length) (text : String) :
    (kind ++ text).toList.take 3 = kind.toList.take 3 := by
  rw [String.toList_append, List.take_append_of_le_length h]

/-- The opening of an error is that of its message. -/
theorem opening_eq_take (e : ActionError) : e.opening = e.message.toList.take 3 := by
  -- Every wording is a text of its own kind with details behind it.
  symm
  cases e with
  | elementNotFound what => exact take_toList_append (by decide) _
  | assertion text => exact take_toList_append (by decide) _
  | invalidArguments text => exact take_toList_append (by decide) _
  | invalidUrl target reason =>
    change ("Invalid URL: " ++ target ++ ": " ++ reason.message).toList.take 3 = _
    rw [String.append_assoc, String.append_assoc]
    exact take_toList_append (by decide) _
  | page error =>
    cases error with
    | notReady => rfl
    | connectionLost => rfl
    | _ => exact take_toList_append (by decide) _
  | bridge error =>
    cases error with
    | cancelled id => exact take_toList_append (by decide) _
    | expired id timeout =>
      change ("No response to interaction " ++ id ++ " within " ++ toString timeout.toNat ++
        "ms").toList.take 3 = _
      rw [String.append_assoc, String.append_assoc, String.append_assoc]
      exact take_toList_append (by decide) _
    | closed => rfl
  | store error => exact take_toList_append (by decide) _
  | io error => exact take_toList_append (by decide) _

/-- Errors with one message have one opening. -/
theorem opening_eq_of_message_eq {e e' : ActionError} (h : e.message = e'.message) :
    e.opening = e'.opening := by
  rw [opening_eq_take, opening_eq_take, h]

/-- The wordings of the errors that end a run open with these, and no others do. -/
def haltOpenings : List (List Char) :=
  [['U', 's', 'e'], ['N', 'o', ' ']]

/-- The openings that halt are those of the errors that halt. -/
theorem contains_haltOpenings (e : ActionError) : haltOpenings.contains e.opening = e.isHalt := by
  cases e with
  | page error => cases error <;> rfl
  | bridge error => cases error <;> rfl
  | _ => rfl

/-- The wording of an error tells whether the error ends a run. -/
theorem isHalt_eq_of_message_eq {e e' : ActionError} (h : e.message = e'.message) :
    e.isHalt = e'.isHalt := by
  rw [← contains_haltOpenings, ← contains_haltOpenings, opening_eq_of_message_eq h]

end ActionError

/-- An entry of a command that ends a run: a break, a pause that was cancelled or that nobody
answered, or any failure if the run is to stop at failures. -/
def LogEntry.IsHalting (config : InterpreterConfig) (entry : LogEntry) : Prop :=
  entry.command = .break ∨
    (∃ id, entry.result = .error (BridgeError.cancelled id).message) ∨
    (∃ id timeout, entry.result = .error (BridgeError.expired id timeout).message) ∨
    (config.stopOnError = true ∧ entry.result.isError = true)

namespace Interpreter

variable {config : InterpreterConfig} {commands done : List Command} {command : Command}
  {exchanges : List Exchange} {log : RunLog} {status : RunState}

/-- A break comes to a value. -/
theorem eq_ok_of_comesTo_break {outcome : Except ActionError Json}
    (h : ComesTo (Step.execute config .break).run exchanges outcome) :
    outcome = .ok (.str "break") :=
  (comesTo_done_iff.mp h).2

/-- Whether a command ended the run can be read off its entry. -/
theorem isHalting_iff_halts {outcome : Except ActionError Json}
    (h : ComesTo (Step.execute config command).run exchanges outcome) :
    LogEntry.IsHalting config ⟨command, resultOf outcome⟩ ↔
      halts config command outcome = true := by
  cases outcome with
  | ok value =>
    simp only [LogEntry.IsHalting, resultOf, halts, reduceCtorEq, exists_false, StepResult.isError,
      and_false, or_false]
    cases command <;> simp [Command.isBreak]
  | error e =>
    -- A break does not fail, so the failure is what ends the run.
    have hbreak : command ≠ .break := by
      rintro rfl
      cases eq_ok_of_comesTo_break h
    simp only [LogEntry.IsHalting, resultOf, halts, StepResult.isError, hbreak, false_or,
      StepResult.error.injEq, and_true, Bool.or_eq_true]
    constructor
    · rintro (⟨id, hmessage⟩ | ⟨id, timeout, hmessage⟩ | hstop)
      · have hsame : e.message = (ActionError.bridge (.cancelled id)).message := hmessage
        exact .inl (ActionError.isHalt_eq_of_message_eq hsame)
      · have hsame : e.message = (ActionError.bridge (.expired id timeout)).message := hmessage
        exact .inl (ActionError.isHalt_eq_of_message_eq hsame)
      · exact .inr hstop
    · rintro (hhalt | hstop)
      · match e, hhalt with
        | .bridge (.cancelled id), _ => exact .inl ⟨id, rfl⟩
        | .bridge (.expired id timeout), _ => exact .inr (.inl ⟨id, timeout, rfl⟩)
      · exact .inr (.inr hstop)

/-- No entry halts where the run has gone on. -/
theorem CarriesOut.not_isHalting (h : CarriesOut config done exchanges log) :
    ∀ entry ∈ log, ¬ entry.IsHalting config := by
  induction h with
  | nil => simp
  | cons hstep hgo _ ih =>
    intro entry hentry
    rcases List.mem_cons.mp hentry with rfl | hentry
    · rw [isHalting_iff_halts hstep, hgo]
      decide
    · exact ih entry hentry

/-- The last entry of a run that is cut short halts. -/
theorem EndsWith.isHalting {entry : LogEntry} (h : EndsWith config command exchanges entry) :
    entry.IsHalting config := by
  obtain ⟨outcome, hstep, hhalts, rfl⟩ := h
  exact (isHalting_iff_halts hstep).mpr hhalts

/-! ### The log of a run -/

/-- The log is about the first commands, only its last entry may halt, and the run is halted just if
that one does. -/
theorem comesTo_runSteps_log (h : ComesTo (runSteps config commands) exchanges (log, status)) :
    log.map LogEntry.command <+: commands ∧ (∀ entry ∈ log.dropLast, ¬ entry.IsHalting config) ∧
      ((status = .halted ∧ ∃ entry, log.getLast? = some entry ∧ entry.IsHalting config) ∨
        (status = .completed ∧ log.map LogEntry.command = commands ∧
          ∀ entry ∈ log, ¬ entry.IsHalting config)) := by
  -- Either no command ended the run, or the last entry is that of the one that did.
  rcases comesTo_runSteps h with ⟨hcarries, rfl⟩ |
    ⟨done, command, rest, first, last, entries, entry, rfl, rfl, hcarries, hends, rfl, rfl⟩
  · refine ⟨?_, fun entry hentry => ?_, .inr ⟨rfl, hcarries.map_command, hcarries.not_isHalting⟩⟩
    · exact ⟨[], by rw [hcarries.map_command, List.append_nil]⟩
    · exact hcarries.not_isHalting entry (List.dropLast_subset log hentry)
  · refine ⟨⟨rest, ?_⟩, ?_, .inl ⟨rfl, entry, by simp, hends.isHalting⟩⟩
    · obtain ⟨outcome, -, -, rfl⟩ := hends
      simp [hcarries.map_command]
    · rw [List.dropLast_concat]
      exact hcarries.not_isHalting

/-- More or fewer than one command have their results listed. -/
private theorem ofLog_of_ne {submitted : Nat} (h : submitted ≠ 1) :
    RunOutput.ofLog submitted log = .many (log.map LogEntry.result) := by
  match log with
  | [] => rfl
  | [entry] => exact if_neg h
  | _ :: _ :: _ => rfl

/-- The log of a run of one command has one entry. -/
theorem length_eq_one_of_comesTo (h : ComesTo (runSteps config commands) exchanges (log, status))
    (hone : commands.length = 1) : log.length = 1 := by
  obtain ⟨hinitial, -, ⟨-, entry, hlast, -⟩ | ⟨-, hall, -⟩⟩ := comesTo_runSteps_log h
  -- A run that was halted has an entry, and no more entries than commands.
  · have hle := hinitial.length_le
    have hne : log ≠ [] := by
      rintro rfl
      cases hlast
    have hpos := List.length_pos_iff.mpr hne
    rw [List.length_map, hone] at hle
    omega
  · rw [← hone, ← hall, List.length_map]

/-! ### What the sink is handed and which states are entered -/

/-- The logs handed to the sink, whether it took them or not. -/
def flushedLogs (exchanges : List Exchange) : List RunLog :=
  exchanges.filterMap fun x =>
    match x.effect with
    | .flush log => some log
    | _ => none

/-- The states entered. -/
def enteredStates (exchanges : List Exchange) : List RunState :=
  exchanges.filterMap fun x =>
    match x.effect with
    | .enter state => some state
    | _ => none

/-- The state of an interpreter after some exchanges. -/
def stateAfter (before : RunState) (exchanges : List Exchange) : RunState :=
  (enteredStates exchanges).getLastD before

/-- The logs that two runs flush, one after the other. -/
theorem flushedLogs_append (first second : List Exchange) :
    flushedLogs (first ++ second) = flushedLogs first ++ flushedLogs second :=
  List.filterMap_append

/-- The states that two runs enter, one after the other. -/
theorem enteredStates_append (first second : List Exchange) :
    enteredStates (first ++ second) = enteredStates first ++ enteredStates second :=
  List.filterMap_append

/-- No step is seen by the sink or changes the state. -/
theorem flushedLogs_eq_nil_and_enteredStates_eq_nil
    (h : ∀ x ∈ exchanges, x.effect.isOfStep = true) :
    flushedLogs exchanges = [] ∧ enteredStates exchanges = [] := by
  refine ⟨List.filterMap_eq_nil_iff.mpr fun x hx => ?_,
    List.filterMap_eq_nil_iff.mpr fun x hx => ?_⟩
  all_goals
    have hstep := h x hx
    obtain ⟨effect, answer⟩ := x
    cases effect <;> first | rfl | nomatch hstep

/-! ### The law -/

/-- What the log, the status, the output, the sink and the state of a run have in common. -/
structure RunLaw (config : InterpreterConfig) (commands : List Command) (exchanges : List Exchange)
    (report : RunReport) : Prop where
  /-- The commands of the log are the first ones submitted, in order. -/
  isPrefix : report.log.map LogEntry.command <+: commands
  /-- Only the last entry can be one that ends the run. -/
  not_isHalting : ∀ entry ∈ report.log.dropLast, ¬ entry.IsHalting config
  /-- The run is halted exactly if the last entry is one that ends it. -/
  halted_iff : report.status = .halted ↔
    ∃ entry, report.log.getLast? = some entry ∧ entry.IsHalting config
  /-- Otherwise it is completed, and every command is in the log. -/
  completed : report.status ≠ .halted →
    report.status = .completed ∧ report.log.map LogEntry.command = commands
  /-- The sink is handed the log once, and no other log. -/
  flushed : flushedLogs exchanges = [report.log]
  /-- The output of a lone command is the result of the one entry of the log. -/
  single : commands.length = 1 →
    ∃ entry, report.log = [entry] ∧ report.output = .single entry.result
  /-- Any other output has the results of the log, in order. -/
  many : commands.length ≠ 1 → report.output = .many (report.log.map LogEntry.result)
  /-- The interpreter is then in the state in which the run ended. -/
  state : ∀ before, stateAfter before exchanges = report.status

/-- However the page, the observer, the bridge, the stores and the sink answer, a run that ends
obeys the law of runs. -/
theorem run_law {report : RunReport} (h : ComesTo (run config commands) exchanges report) :
    RunLaw config commands exchanges report := by
  obtain ⟨opening, installed, steps, log, status, flushed, rfl, hinstall, hsteps, rfl⟩ :=
    comesTo_run h
  have honly : Only (fun e => e.isOfStep = true) install := install_only rfl rfl rfl
  obtain ⟨hopeningLogs, hopeningStates⟩ :=
    flushedLogs_eq_nil_and_enteredStates_eq_nil (hinstall.only honly)
  obtain ⟨hstepsLogs, hstepsStates⟩ :=
    flushedLogs_eq_nil_and_enteredStates_eq_nil fun x hx =>
      Effect.isOfStep_of_isOfCommand (isOfCommand_of_comesTo hsteps x hx)
  -- Only the flush behind the steps is seen by the sink.
  have hflushed : flushedLogs (⟨.enter .running, ()⟩ :: (opening ++ (steps ++
      [⟨.flush log, flushed⟩, ⟨.enter status, ()⟩]))) = [log] := by
    change flushedLogs (opening ++ (steps ++ _)) = _
    rw [flushedLogs_append, flushedLogs_append, hopeningLogs, hstepsLogs]
    rfl
  -- Only the run around the steps enters states.
  have hentered : enteredStates (⟨.enter .running, ()⟩ :: (opening ++ (steps ++
      [⟨.flush log, flushed⟩, ⟨.enter status, ()⟩]))) = [.running, status] := by
    change .running :: enteredStates (opening ++ (steps ++ _)) = _
    rw [enteredStates_append, enteredStates_append, hopeningStates, hstepsStates]
    rfl
  obtain ⟨hinitial, hbefore, hend⟩ := comesTo_runSteps_log hsteps
  refine ⟨hinitial, hbefore, ?_, fun hne => ?_, hflushed, fun hone => ?_, ofLog_of_ne,
    fun before => ?_⟩
  · rcases hend with ⟨rfl, hlast⟩ | ⟨rfl, -, hnone⟩
    · exact iff_of_true rfl hlast
    · refine iff_of_false (fun h => nomatch h) ?_
      rintro ⟨entry, hlast, hhalting⟩
      exact hnone entry (List.mem_of_getLast? hlast) hhalting
  · rcases hend with ⟨rfl, -⟩ | ⟨hcompleted, hall, -⟩
    · exact absurd rfl hne
    · exact ⟨hcompleted, hall⟩
  · obtain ⟨entry, rfl⟩ := List.length_eq_one_iff.mp (length_eq_one_of_comesTo hsteps hone)
    exact ⟨entry, rfl, if_pos hone⟩
  · rw [stateAfter, hentered]
    rfl

/-- A break that is the last command still halts the run, also when the sink does not take the
log. -/
theorem run_law_break :
    ComesTo (run .standard [.break])
        [⟨.enter .running, ()⟩, ⟨.claimInstall, false⟩,
          ⟨.flush [⟨.break, .ok (.str "break")⟩], .error .isDirectory⟩, ⟨.enter .halted, ()⟩]
        ⟨.halted, [⟨.break, .ok (.str "break")⟩], .single (.ok (.str "break"))⟩ ∧
      RunLaw .standard [.break]
        [⟨.enter .running, ()⟩, ⟨.claimInstall, false⟩,
          ⟨.flush [⟨.break, .ok (.str "break")⟩], .error .isDirectory⟩, ⟨.enter .halted, ()⟩]
        ⟨.halted, [⟨.break, .ok (.str "break")⟩], .single (.ok (.str "break"))⟩ := by
  refine ⟨?_, run_law ?_⟩
  · exact .ask (.ask (.ask (.ask (.done _))))
  · exact .ask (.ask (.ask (.ask (.done _))))

end Interpreter

end PageScript
