import PageScript.Proofs.Interpreter.RunLaw
import PageScript.Proofs.Program.Surroundings

/-!
# Stopping at failures

A run that stops at failures does what the same run without stopping does, up to the first command
that fails. No command looks at the setting: it only decides whether the run goes on after it.

* `Step.execute_stopOnError` — a command does the same with either setting;
* `Interpreter.exists_comesTo_stopping` — the steps of a run that stops are the first ones of the run
  that does not;
* `Interpreter.stopping_cuts_short` — the two runs in the same surroundings.
-/

namespace PageScript

open Program

/-! ### Page calls -/

/-- A call of the page. -/
def Effect.isPageCall : Effect → Bool
  | .page _ => true
  | _ => false

/-- The calls of the page, with their answers. -/
def pageCalls (exchanges : List Exchange) : List Exchange :=
  exchanges.filter fun x => x.effect.isPageCall

/-- The page calls of two runs, one after the other. -/
theorem pageCalls_append (first second : List Exchange) :
    pageCalls (first ++ second) = pageCalls first ++ pageCalls second :=
  List.filter_append ..

/-- What was exchanged earlier has called the page earlier. -/
theorem pageCalls_isPrefix {first second : List Exchange} (h : first <+: second) :
    pageCalls first <+: pageCalls second :=
  h.filter _

/-! ### Logs up to a failure -/

/-- A log up to its first failure, which is the last entry, or all of it if nothing failed. -/
def RunLog.uptoFirstError (log : RunLog) : RunLog :=
  log.take (log.findIdx (·.result.isError) + 1)

/-- Nothing is kept after an error. -/
private theorem RunLog.uptoFirstError_cons_of_isError {entry : LogEntry}
    (h : entry.result.isError = true)
    (log : RunLog) : RunLog.uptoFirstError (entry :: log) = [entry] := by
  simp [uptoFirstError, List.findIdx_cons, h]

/-- What is no error is kept. -/
private theorem RunLog.uptoFirstError_cons_of_not_isError {entry : LogEntry}
    (h : entry.result.isError = false) (log : RunLog) :
    RunLog.uptoFirstError (entry :: log) = entry :: RunLog.uptoFirstError log := by
  simp [uptoFirstError, List.findIdx_cons, h]

/-- An entry alone is kept, error or not. -/
private theorem RunLog.uptoFirstError_singleton (entry : LogEntry) :
    RunLog.uptoFirstError [entry] = [entry] := by
  simp [uptoFirstError]

/-! ### One command -/

/-- The setting to stop at failures makes no difference to what a command does. -/
theorem Step.execute_stopOnError (config : InterpreterConfig) (stop : Bool) (command : Command) :
    Step.execute { config with stopOnError := stop } command = Step.execute config command := by
  cases command <;> rfl

namespace Interpreter

variable {config : InterpreterConfig} {commands : List Command} {command : Command}
  {exchanges exchanges' steps : List Exchange} {log : RunLog} {status : RunState}
  {outcome : Except ActionError Json}

/-- A run that stops at failures goes on after a command if and only if the command did not fail
and the run would go on without stopping. -/
theorem halts_stopping (config : InterpreterConfig) (command : Command)
    (outcome : Except ActionError Json) :
    halts { config with stopOnError := true } command outcome =
      (halts { config with stopOnError := false } command outcome || (resultOf outcome).isError) := by
  cases outcome with
  | ok value => exact (Bool.or_false _).symm
  | error e => simp [halts, resultOf, StepResult.isError]

/-! ### Steps of a run -/

/-- The steps of a run that stops at failures are the first ones of the run that does not, and its
log ends with the first failure. -/
theorem exists_comesTo_stopping
    (h : ComesTo (runSteps { config with stopOnError := false } commands) steps (log, status)) :
    ∃ first status', first <+: steps ∧
      ComesTo (runSteps { config with stopOnError := true } commands) first
        (log.uptoFirstError, status') := by
  -- The induction is on the commands that are left.
  induction commands generalizing steps log with
  | nil =>
    obtain ⟨rfl, rfl, rfl⟩ := comesTo_runSteps_nil h
    exact ⟨[], .completed, List.prefix_rfl, .done _⟩
  | cons command rest ih =>
    rcases comesTo_runSteps_cons h with ⟨entry, ⟨outcome, hstep, hhalts, rfl⟩, rfl, rfl⟩ |
      ⟨first, second, outcome, others, rfl, hstep, hgo, hrest, rfl⟩
    -- What ends the run in any case ends the run that stops as well.
    · refine ⟨steps, .halted, List.prefix_rfl, ?_⟩
      rw [RunLog.uptoFirstError_singleton, ← List.append_nil steps]
      rw [Step.execute_stopOnError] at hstep
      refine ComesTo.bind (by rwa [Step.execute_stopOnError]) ?_
      rw [if_pos (by rw [halts_stopping, hhalts, Bool.true_or])]
      exact .done _
    · rw [Step.execute_stopOnError] at hstep
      cases hfails : (resultOf outcome).isError with
      -- A failure is the end of the run that stops.
      | true =>
        refine ⟨first, .halted, List.prefix_append .., ?_⟩
        rw [RunLog.uptoFirstError_cons_of_isError hfails, ← List.append_nil first]
        refine ComesTo.bind (by rwa [Step.execute_stopOnError]) ?_
        rw [if_pos (by rw [halts_stopping, hfails, Bool.or_true])]
        exact .done _
      | false =>
        obtain ⟨later, status', hlater, hstopping⟩ := ih hrest
        refine ⟨first ++ later, status', (List.prefix_append_right_inj first).mpr hlater, ?_⟩
        rw [RunLog.uptoFirstError_cons_of_not_isError hfails]
        refine ComesTo.bind (by rwa [Step.execute_stopOnError]) ?_
        rw [if_neg (by rw [halts_stopping, hgo, hfails]; decide), ← List.append_nil later]
        exact hstopping.bind (.done _)

/-- A run that stops at failures is halted exactly if its log ends with a failure or a break. -/
theorem halted_iff_stopping
    (h : ComesTo (runSteps { config with stopOnError := true } commands) steps (log, status)) :
    status = .halted ↔
      ∃ entry, log.getLast? = some entry ∧
        (entry.result.isError = true ∨ entry.command = .break) := by
  -- With the option any error halts, so that the particular errors are of no account.
  have hiff : ∀ entry : LogEntry, entry.IsHalting { config with stopOnError := true } ↔
      (entry.result.isError = true ∨ entry.command = .break) := by
    intro entry
    constructor
    · rintro (hbreak | ⟨id, herror⟩ | ⟨id, timeout, herror⟩ | ⟨-, herror⟩)
      · exact .inr hbreak
      · exact .inl (by rw [herror]; rfl)
      · exact .inl (by rw [herror]; rfl)
      · exact .inl herror
    · rintro (herror | hbreak)
      · exact .inr (.inr (.inr ⟨rfl, herror⟩))
      · exact .inl hbreak
  obtain ⟨-, -, ⟨rfl, entry, hlast, hhalting⟩ | ⟨rfl, -, hnone⟩⟩ := comesTo_runSteps_log h
  · exact iff_of_true rfl ⟨entry, hlast, (hiff entry).mp hhalting⟩
  · refine iff_of_false (fun h => nomatch h) ?_
    rintro ⟨entry, hlast, hends⟩
    exact hnone entry (List.mem_of_getLast? hlast) ((hiff entry).mpr hends)

/-! ### The two runs -/

/-- What a run that stops at failures has in common with the same run without stopping. -/
structure CutsShort (long short : List Exchange) (longReport shortReport : RunReport) : Prop where
  /-- Its log is the other one up to the first failure. -/
  log_eq : shortReport.log = longReport.log.uptoFirstError
  /-- Its calls of the page are the first ones of the other run, with the same answers. -/
  pageCalls_isPrefix : pageCalls short <+: pageCalls long
  /-- It is halted exactly if its log ends with a failure or a break. -/
  halted_iff : shortReport.status = .halted ↔
    ∃ entry, shortReport.log.getLast? = some entry ∧
      (entry.result.isError = true ∨ entry.command = .break)

variable {σ : Type} {S : Surroundings σ} {s t : σ} {report : RunReport}

/-- In surroundings in which a run without stopping ends, the run that stops at failures ends too,
and it cuts the other one short. -/
theorem stopping_cuts_short
    (hrun : ComesTo (run { config with stopOnError := false } commands) exchanges report)
    (hgives : Steps S.Gives s exchanges t) :
    (∃ exchanges' report' t',
      ComesTo (run { config with stopOnError := true } commands) exchanges' report' ∧
        Steps S.Gives s exchanges' t') ∧
    ∀ exchanges' report' t',
      ComesTo (run { config with stopOnError := true } commands) exchanges' report' →
        Steps S.Gives s exchanges' t' → CutsShort exchanges exchanges' report report' := by
  obtain ⟨opening, installed, steps, log, status, flushed, rfl, hinstall, hsteps, rfl⟩ :=
    comesTo_run hrun
  obtain ⟨first, status', ⟨later, rfl⟩, hstopping⟩ := exists_comesTo_stopping hsteps
  -- The surroundings answer the first steps alike, and take the shorter log.
  obtain ⟨r, henter, hrest⟩ := steps_cons_iff.mp hgives
  obtain ⟨u, hopening, hrest⟩ := steps_append_iff.mp hrest
  rw [List.append_assoc] at hrest
  obtain ⟨v, hfirst, -⟩ := steps_append_iff.mp hrest
  have hshort := comesTo_run_of_steps hinstall hstopping
    (S.answer v (.flush log.uptoFirstError))
  have hending : Steps S.Gives v
      [⟨.flush log.uptoFirstError, S.answer v (.flush log.uptoFirstError)⟩, ⟨.enter status', ()⟩] _ :=
    .cons (S.gives_answer v _) (steps_singleton_iff.mpr (S.gives_answer _ (.enter status')))
  have hgivesShort := Steps.cons henter (hopening.append (hfirst.append hending))
  refine ⟨⟨_, _, _, hshort, hgivesShort⟩, fun exchanges' report' t' hrun' hgives' => ?_⟩
  -- There is no other way in which the run that stops can end.
  obtain ⟨rfl, rfl, -⟩ := Surroundings.eq_of_comesTo hshort hgivesShort hrun' hgives'
  refine ⟨rfl, ?_, halted_iff_stopping hstopping⟩
  have hcalls : ∀ (log : RunLog) (flushed : (Effect.flush log).Answer) (status : RunState)
      (steps : List Exchange), pageCalls (⟨.enter .running, ()⟩ :: (opening ++ (steps ++
        [⟨.flush log, flushed⟩, ⟨.enter status, ()⟩]))) = pageCalls (opening ++ steps) := by
    intro log flushed status steps
    change pageCalls (opening ++ (steps ++ _)) = _
    rw [← List.append_assoc, pageCalls_append]
    exact List.append_nil _
  rw [hcalls, hcalls, ← List.append_assoc]
  exact PageScript.pageCalls_isPrefix (List.prefix_append ..)

/-- A page without elements that takes its listeners, and nothing else that answers. -/
def emptyPage : Surroundings Unit where
  answer _ e :=
    match e with
    | .page (.queryAll _) => .ok []
    | .page .installListeners => .ok ()
    | .page _ => .error .notReady
    | .sleep _ => ()
    | .clock => Nat.zero
    | .wallClock => UInt64.ofNat 0
    | .claimInstall => true
    | .releaseInstall => ()
    | .startObserver => ()
    | .stopObserver => ()
    | .clearObserver => ()
    | .observed => []
    | .quiet _ => ()
    | .followChanges => Nat.zero
    | .awaitChange _ _ => Nat.zero
    | .toast _ _ => .error .closed
    | .saveRecipe _ => .ok ()
    | .loadRecipe _ => .ok none
    | .writeImage _ _ => .ok ()
    | .enter _ => ()
    | .flush _ => .ok ()
  next _ _ := ()

/-- Two elements are missing: the run that stops at failures looks for the first one only. -/
theorem stopping_cuts_short_missing :
    (∃ exchanges report, ComesTo (run { InterpreterConfig.standard with stopOnError := true }
        [.assert "#a" none, .assert "#b" none]) exchanges report ∧
      report.status = .halted ∧
      report.log = [⟨.assert "#a" none, .error (ActionError.elementNotFound "#a").message⟩] ∧
      pageCalls exchanges <+: [⟨.page .installListeners, .ok ()⟩,
        ⟨.page (.queryAll "#a"), .ok []⟩, ⟨.page (.queryAll "#b"), .ok []⟩]) := by
  have hrun : ComesTo (run { InterpreterConfig.standard with stopOnError := false }
      [.assert "#a" none, .assert "#b" none])
      [⟨.enter .running, ()⟩, ⟨.claimInstall, true⟩, ⟨.page .installListeners, .ok ()⟩,
        ⟨.page (.queryAll "#a"), .ok []⟩, ⟨.page (.queryAll "#b"), .ok []⟩,
        ⟨.flush [⟨.assert "#a" none, .error (ActionError.elementNotFound "#a").message⟩,
          ⟨.assert "#b" none, .error (ActionError.elementNotFound "#b").message⟩], .ok ()⟩,
        ⟨.enter .completed, ()⟩]
      ⟨.completed, [⟨.assert "#a" none, .error (ActionError.elementNotFound "#a").message⟩,
          ⟨.assert "#b" none, .error (ActionError.elementNotFound "#b").message⟩], .many
        [.error (ActionError.elementNotFound "#a").message,
          .error (ActionError.elementNotFound "#b").message]⟩ :=
    .ask (.ask (.ask (.ask (.ask (.ask (.ask (.done _)))))))
  -- The empty page has given the same answers in the run that goes on.
  obtain ⟨⟨exchanges, report, t, hshort, hgives⟩, hall⟩ := stopping_cuts_short hrun
    (S := emptyPage) (s := ()) (t := ()) (.cons ⟨rfl, rfl⟩ (.cons ⟨rfl, rfl⟩ (.cons ⟨rfl, rfl⟩
      (.cons ⟨rfl, rfl⟩ (.cons ⟨rfl, rfl⟩ (.cons ⟨rfl, rfl⟩ (.cons ⟨rfl, rfl⟩ (.nil ()))))))))
  obtain ⟨hlog, hcalls, hhalted⟩ := hall exchanges report t hshort hgives
  exact ⟨exchanges, report, hshort, hhalted.mpr ⟨_, by rw [hlog]; rfl, .inl rfl⟩, hlog, hcalls⟩

end Interpreter

end PageScript
