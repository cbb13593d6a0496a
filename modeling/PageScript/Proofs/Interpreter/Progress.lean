import PageScript.Proofs.Interpreter.Run

/-!
# How far a run has come

Before a run has ended there is no log of it, but what it has done may leave no way to go on without
a command in its log. This is so once the command has been begun. A run that is committed to a
command after a toast has had an answer to the toast that did not end it.

* `Interpreter.exists_step_of_run` — an entry of the log is that of a command a run has come to;
* `Interpreter.StandsAt.committed` — a run that has come to a command is committed to it;
* `Interpreter.exists_toast_answer` — a run that is committed to a command after a toast.
-/

namespace PageScript.Interpreter

open Program

variable {config : InterpreterConfig} {commands done rest : List Command} {command : Command}
  {exchanges passed steps more more' : List Exchange} {entries log : RunLog} {status : RunState}
  {n i j : Nat}

/-- A run has carried out so many commands, none of which ended it, and has done nothing since. -/
def StandsAt (config : InterpreterConfig) (commands : List Command) (n : Nat)
    (exchanges : List Exchange) : Prop :=
  ∃ opening installed passed entries, exchanges = ⟨.enter .running, ()⟩ :: (opening ++ passed) ∧
    ComesTo install opening installed ∧ CarriesOut config (commands.take n) passed entries

/-- However a run goes on after some exchanges, its log has the `n`-th command. So it is from when
the command is begun. -/
def Committed (config : InterpreterConfig) (commands : List Command) (n : Nat)
    (exchanges : List Exchange) : Prop :=
  ∀ more report, ComesTo (run config commands) (exchanges ++ more) report → n < report.log.length

/-! ### Commands that have been carried out -/

/-- Commands that are carried out can be followed by others. -/
theorem CarriesOut.comesTo (h : CarriesOut config done passed entries)
    (hrest : ComesTo (runSteps config rest) steps (log, status)) :
    ComesTo (runSteps config (done ++ rest)) (passed ++ steps) (entries ++ log, status) := by
  induction h with
  | nil => exact hrest
  | @cons command done first second outcome entries hstep hgo _ ih =>
    rw [List.append_assoc]
    refine hstep.bind ?_
    simp only [hgo, Bool.false_eq_true, if_false]
    rw [← List.append_nil (second ++ steps)]
    exact ih.bind (.done _)

/-- Steps that begin as some commands do that are carried out go on with the other commands. -/
theorem CarriesOut.exists_rest (h : CarriesOut config done passed entries)
    (hsteps : ComesTo (runSteps config (done ++ rest)) steps (log, status))
    (heq : passed ++ more = steps ++ more') :
    ∃ second others, steps = passed ++ second ∧ log = entries ++ others ∧
      ComesTo (runSteps config rest) second (others, status) := by
  induction h generalizing steps log with
  | nil => exact ⟨steps, log, rfl, rfl, hsteps⟩
  | @cons command done first second outcome entries hstep hgo _ ih =>
    rw [List.append_assoc] at heq
    rcases comesTo_runSteps_cons hsteps with ⟨entry, ⟨outcome', hstep', hhalts, -⟩, -, -⟩ |
      ⟨first', second', outcome', others, rfl, hstep', -, hrest, rfl⟩
    -- The same exchanges lead to the same outcome, which did not end the run.
    · obtain ⟨-, rfl⟩ := hstep.eq_of_append_eq hstep' heq
      exact absurd (hgo.symm.trans hhalts) (by decide)
    · rw [List.append_assoc] at heq
      obtain ⟨rfl, rfl⟩ := hstep.eq_of_append_eq hstep' heq
      obtain ⟨second', others, rfl, rfl, hothers⟩ := ih hrest (List.append_cancel_left heq)
      exact ⟨second', others, (List.append_assoc ..).symm, rfl, hothers⟩

/-- A command in the log was carried out after the commands before it, and did not end the run
unless its entry is the last one. -/
theorem exists_step (h : ComesTo (runSteps config commands) steps (log, status))
    (hi : i < log.length) :
    ∃ command passed mine later outcome entries, commands[i]? = some command ∧
      log[i]? = some ⟨command, resultOf outcome⟩ ∧ steps = passed ++ (mine ++ later) ∧
      CarriesOut config (commands.take i) passed entries ∧
      ComesTo (Step.execute config command).run mine outcome ∧
      (i + 1 < log.length → halts config command outcome = false) := by
  induction commands generalizing i steps log with
  | nil =>
    obtain ⟨-, rfl, -⟩ := comesTo_runSteps_nil h
    simp at hi
  | cons command rest ih =>
    rcases comesTo_runSteps_cons h with ⟨entry, ⟨outcome, hstep, -, rfl⟩, rfl, -⟩ |
      ⟨first, second, outcome, others, rfl, hstep, hgo, hrest, rfl⟩
    -- A command that ends the run has the last entry.
    · obtain rfl : i = 0 := by simpa using hi
      exact ⟨command, [], steps, [], outcome, [], rfl, rfl, by simp, .nil, hstep, by simp⟩
    · cases i with
      | zero =>
        exact ⟨command, [], first, second, outcome, [], rfl, rfl, rfl, .nil, hstep, fun _ => hgo⟩
      | succ i =>
        obtain ⟨next, passed, mine, later, outcome', entries, hget, hlog, rfl, hcarries, hmine,
          hgo'⟩ := ih hrest (by simpa using hi)
        refine ⟨next, first ++ passed, mine, later, outcome', _, hget, hlog, ?_,
          .cons hstep hgo hcarries, hmine, fun hlt => hgo' (by simpa using hlt)⟩
        rw [List.append_assoc]

/-! ### Runs that have come to a command -/

/-- An entry of the log of a run is that of a command that was carried out when the run had come to
it. -/
theorem exists_step_of_run {report : RunReport} {entry : LogEntry}
    (h : ComesTo (run config commands) exchanges report) (hi : report.log[i]? = some entry) :
    ∃ before mine after outcome, exchanges = before ++ (mine ++ after) ∧
      StandsAt config commands i before ∧
      ComesTo (Step.execute config entry.command).run mine outcome ∧
      entry.result = resultOf outcome := by
  obtain ⟨opening, installed, steps, log, status, flushed, rfl, hinstall, hsteps, rfl⟩ :=
    comesTo_run h
  obtain ⟨hlt, -⟩ := List.getElem?_eq_some_iff.mp hi
  obtain ⟨command, passed, mine, later, outcome, entries, -, hentry, rfl, hcarries, hstep, -⟩ :=
    exists_step hsteps hlt
  obtain rfl := Option.some.inj (hentry.symm.trans hi)
  refine ⟨⟨.enter .running, ()⟩ :: (opening ++ passed), mine,
    later ++ [⟨.flush log, flushed⟩, ⟨.enter status, ()⟩], outcome, by simp,
    ⟨opening, installed, passed, entries, rfl, hinstall, hcarries⟩, hstep, rfl⟩

/-- A run that has come to a command is committed to it, whatever it has done since. -/
theorem StandsAt.committed (h : StandsAt config commands n exchanges) (hn : n < commands.length)
    (since : List Exchange) : Committed config commands n (exchanges ++ since) := by
  obtain ⟨opening, installed, passed, entries, rfl, hinstall, hcarries⟩ := h
  intro more report hrun
  obtain ⟨opening', installed', steps, log, status, flushed, heq, hinstall', hsteps, rfl⟩ :=
    comesTo_run hrun
  rw [List.append_assoc, List.cons_append, List.append_assoc] at heq
  obtain ⟨-, heq⟩ := List.cons.inj heq
  obtain ⟨rfl, -⟩ := hinstall.eq_of_append_eq hinstall' heq
  rw [← List.take_append_drop n commands] at hsteps
  obtain ⟨second, others, rfl, rfl, hrest⟩ :=
    hcarries.exists_rest hsteps (List.append_cancel_left heq)
  obtain ⟨command, rest, hdrop⟩ : ∃ command rest, commands.drop n = command :: rest :=
    List.exists_cons_of_ne_nil (by simpa using hn)
  have hentries : entries.length = n := by
    rw [← List.length_map, hcarries.map_command, List.length_take]
    omega
  -- The next command has an entry, whether it ends the run or not.
  have hothers : others ≠ [] := by
    rw [hdrop] at hrest
    rcases comesTo_runSteps_cons hrest with ⟨entry, -, rfl, -⟩ | ⟨_, _, _, _, -, -, -, -, rfl⟩
    · exact List.cons_ne_nil _ _
    · exact List.cons_ne_nil _ _
  have hpos := List.length_pos_iff.mpr hothers
  rw [List.length_append]
  omega

/-! ### Runs that have come past a toast -/

/-- What a toast step comes to. -/
def toastOutcome : Except BridgeError String → Except ActionError Json
  | .ok chosen => .ok (.str chosen)
  | .error e => .error (.bridge e)

/-- A toast is asked for with the standard timeout, whatever the settings. -/
theorem execute_showToast (config : InterpreterConfig) (message : String) :
    (Step.execute config (.showToast message)).run =
      .ask (.toast message .standard) fun answer => .done (toastOutcome answer) := by
  change Program.ask _ _ = Program.ask _ _
  congr 1
  funext answer
  cases answer <;> rfl

/-- A run whose toast is cancelled ends with the entry of the toast. -/
theorem StandsAt.exists_cancelled {message : String} (h : StandsAt config commands i exchanges)
    (hi : commands[i]? = some (.showToast message)) (id : String) :
    ∃ ending report, ComesTo (run config commands)
        (exchanges ++ ⟨.toast message .standard, .error (.cancelled id)⟩ :: ending) report ∧
      report.log.length = i + 1 := by
  obtain ⟨opening, installed, passed, entries, rfl, hinstall, hcarries⟩ := h
  obtain ⟨hlt, hget⟩ := List.getElem?_eq_some_iff.mp hi
  have hlength : entries.length = i := by
    rw [← List.length_map, hcarries.map_command, List.length_take]
    omega
  -- The toast ends the run, whatever commands follow it.
  have htoast : ComesTo (runSteps config (.showToast message :: commands.drop (i + 1)))
      [⟨.toast message .standard, .error (.cancelled id)⟩]
      ([⟨.showToast message, resultOf (.error (.bridge (.cancelled id)))⟩], .halted) := by
    change ComesTo (Program.bind (Step.execute config (.showToast message)).run _) _ _
    rw [execute_showToast]
    exact .ask (.done _)
  have hsteps := hcarries.comesTo htoast
  rw [← hget, ← List.drop_eq_getElem_cons, List.take_append_drop] at hsteps
  have hrun := comesTo_run_of_steps hinstall hsteps (.ok ())
  rw [List.append_assoc passed, ← List.append_assoc opening, ← List.cons_append] at hrun
  exact ⟨_, _, hrun, by simp [hlength]⟩

/-- A run that is committed to a command after a toast has an answer to the toast, and the answer
did not end it. -/
theorem exists_toast_answer {message : String} {report : RunReport}
    (hrun : ComesTo (run config commands) (exchanges ++ more) report)
    (hi : commands[i]? = some (.showToast message)) (hlt : i < j)
    (hcommitted : Committed config commands j exchanges) :
    ∃ before answer after, exchanges = before ++ ⟨.toast message .standard, answer⟩ :: after ∧
      StandsAt config commands i before ∧
      halts config (.showToast message) (toastOutcome answer) = false := by
  have hlog := hcommitted more report hrun
  obtain ⟨opening, installed, steps, log, status, flushed, heq, hinstall, hsteps, rfl⟩ :=
    comesTo_run hrun
  have hlength : i + 1 < log.length := Nat.lt_of_le_of_lt hlt hlog
  obtain ⟨command, passed, first, later, outcome, entries, hcommand, -, rfl, hcarries, hstep,
    hgo⟩ := exists_step hsteps (Nat.lt_of_succ_lt hlength)
  obtain rfl := Option.some.inj (hcommand.symm.trans hi)
  rw [execute_showToast] at hstep
  obtain ⟨answer, rfl, rfl⟩ := comesTo_ask_done_iff.mp hstep
  have hstands : StandsAt config commands i (⟨.enter .running, ()⟩ :: (opening ++ passed)) :=
    ⟨opening, installed, passed, entries, rfl, hinstall, hcarries⟩
  generalize hbefore : (⟨.enter .running, ()⟩ :: (opening ++ passed) : List Exchange) = before
    at hstands
  have heq' : exchanges ++ more = before ++ ⟨.toast message .standard, answer⟩ :: (later ++
      [⟨.flush log, flushed⟩, ⟨.enter status, ()⟩]) := by
    rw [heq, ← hbefore]
    simp
  -- Without the answer the run could still be cancelled.
  have hanswered : ∀ since, exchanges ++ since ≠ before := by
    rintro since rfl
    obtain ⟨ending, report, hcancelled, hlength⟩ := hstands.exists_cancelled hi ""
    rw [List.append_assoc] at hcancelled
    have := hcommitted _ report hcancelled
    omega
  -- The answer stands in what the run has done so far, or in what is still to come.
  rcases List.append_eq_append_iff.mp heq' with ⟨since, hsince, -⟩ | ⟨since, rfl, hsince⟩
  · exact absurd hsince.symm (hanswered since)
  · cases since with
    | nil => exact absurd (by simp) (hanswered [])
    | cons x since =>
      rw [List.cons_append] at hsince
      obtain ⟨rfl, -⟩ := List.cons.inj hsince
      exact ⟨before, answer, since, rfl, hstands, hgo hlength⟩

end PageScript.Interpreter
