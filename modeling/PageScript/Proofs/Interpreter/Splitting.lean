import PageScript.Proofs.Setting

/-!
# Consecutive runs

Commands can be run in one run or in two runs, one after the other: where the listeners are
installed, a run does nothing in its setting around its commands, and no command depends on its
place in the run.

* `Interpreter.comesTo_runSteps_append_iff` — the steps of some commands and then others;
* `Interpreter.ran_iff` — a run in a setting with listeners installed is its steps;
* `Interpreter.ran_append_iff` — a run of some commands and then others, and the two runs.
-/

namespace PageScript.Interpreter

open Program

variable {config : InterpreterConfig} {commands a b : List Command} {exchanges : List Exchange}
  {log : RunLog} {status : RunState}

/-! ### Steps -/

/-- Goes on with more commands after some, unless these have ended the run. -/
def thenSteps (config : InterpreterConfig) (b : List Command) :
    RunLog × RunState → Program (RunLog × RunState)
  | (log, .halted) => .done (log, .halted)
  | (log, _) => (runSteps config b).bind fun (others, status) => .done (log ++ others, status)

/-- The steps of some commands and then others. -/
theorem runSteps_append (config : InterpreterConfig) (a b : List Command) :
    runSteps config (a ++ b) = (runSteps config a).bind (thenSteps config b) := by
  induction a with
  | nil => exact (bind_done _).symm
  | cons command a ih =>
    change Program.bind _ _ = (Program.bind _ _).bind _
    rw [bind_assoc]
    congr 1
    funext outcome
    cases hhalts : halts config command outcome with
    | true => rfl
    | false =>
      -- The entry of the command stands in front of whatever follows.
      change Program.bind (runSteps config (a ++ b)) _ =
        Program.bind (Program.bind (runSteps config a) _) _
      rw [ih, bind_assoc, bind_assoc]
      congr 1
      funext result
      obtain ⟨log, status⟩ := result
      cases status with
      | halted => rfl
      | _ => exact bind_assoc ..

/-- The steps of some commands and then others are those of the ones, if they end the run, or those
of the ones and then those of the others. -/
theorem comesTo_runSteps_append_iff :
    ComesTo (runSteps config (a ++ b)) exchanges (log, status) ↔
      (status = .halted ∧ ComesTo (runSteps config a) exchanges (log, .halted)) ∨
        ∃ first second log₁ log₂, exchanges = first ++ second ∧ log = log₁ ++ log₂ ∧
          ComesTo (runSteps config a) first (log₁, .completed) ∧
          ComesTo (runSteps config b) second (log₂, status) := by
  rw [runSteps_append, comesTo_bind_iff]
  constructor
  -- The first run has completed, and the second one follows, or it has halted and is all there is.
  · rintro ⟨first, second, ⟨log₁, status₁⟩, rfl, ha, hb⟩
    rcases comesTo_runSteps ha with ⟨-, rfl⟩ | ⟨_, _, _, _, _, _, _, -, -, -, -, -, rfl⟩
    · obtain ⟨second, _, ⟨log₂, status₂⟩, rfl, hb, hdone⟩ := comesTo_bind_iff.mp hb
      obtain ⟨rfl, heq⟩ := comesTo_done_iff.mp hdone
      obtain ⟨rfl, rfl⟩ := Prod.mk.inj heq
      rw [List.append_nil]
      exact .inr ⟨first, second, log₁, log₂, rfl, rfl, ha, hb⟩
    · obtain ⟨rfl, heq⟩ := comesTo_done_iff.mp hb
      obtain ⟨rfl, rfl⟩ := Prod.mk.inj heq
      rw [List.append_nil]
      exact .inl ⟨rfl, ha⟩
  · rintro (⟨rfl, ha⟩ | ⟨first, second, log₁, log₂, rfl, rfl, ha, hb⟩)
    · exact ⟨exchanges, [], _, (List.append_nil _).symm, ha, .done _⟩
    · refine ⟨first, second, _, rfl, ha, ?_⟩
      rw [← List.append_nil second]
      exact hb.bind (.done _)

/-! ### Runs in a setting -/

variable {π : Type} {c : Conduct π} {v w w' : Setting π} {trace : List Happening}

/-- A run of commands takes one setting to another. Its trace is what happens meanwhile, except what
runs do around their commands. -/
def Ran (c : Conduct π) (config : InterpreterConfig) (w : Setting π) (commands : List Command)
    (log : RunLog) (status : RunState) (trace : List Happening) (w' : Setting π) : Prop :=
  ∃ happenings output, Steps c.Goes w happenings w' ∧
    ComesTo (run config commands) (exchangesAmong happenings) ⟨status, log, output⟩ ∧
    trace = happenings.filter Happening.isOfCommand

/-- The installation of the listeners is over if the claim is not new. -/
theorem comesTo_install {opening : List Exchange} {installed : Except PageError Unit}
    (h : ComesTo install opening installed) :
    ∃ new more, opening = ⟨.claimInstall, new⟩ :: more ∧ (new = false → more = []) := by
  obtain ⟨new, more, rfl, hmore⟩ := comesTo_ask_iff.mp h
  refine ⟨new, more, rfl, ?_⟩
  rintro rfl
  exact (comesTo_done_iff.mp hmore).1

/-- The claim of a run in a setting with listeners installed is not new. -/
theorem claim_eq_false {happenings : List Happening} {new : Bool} {more : List Exchange}
    (hw : w.observer.installed = true) (h : Steps c.Goes w happenings w')
    (heq : exchangesAmong happenings = ⟨.enter .running, ()⟩ :: ⟨.claimInstall, new⟩ :: more) :
    new = false := by
  obtain ⟨before, -, v, u, rfl, hbefore, -, hsteps, hclaim, -⟩ :=
    Conduct.exists_asked h (heq.trans (List.singleton_append ..).symm)
  -- Nothing that happens before the claim gives up the listeners.
  have hkeeps : Conduct.Keeps before := by
    intro x hx
    rw [hbefore, List.mem_singleton] at hx
    rw [hx]
    simp
  obtain ⟨-, hv⟩ := Conduct.steps_filter_isOfCommand hsteps hw hkeeps
  rw [hclaim.claim_eq, hv, Bool.not_true]

/-- No installation is under way after a claim that is not new. -/
theorem comesTo_install_false : ComesTo install [⟨.claimInstall, false⟩] (.ok ()) :=
  .ask (.done _)

/-- Of the questions of a run, those around its steps are not of commands. -/
theorem filter_isOfCommand_eq {steps : List Exchange} {flushed : (Effect.flush log).Answer}
    (h : ∀ x ∈ steps, x.effect.isOfCommand = true) :
    (⟨.enter .running, ()⟩ :: ([⟨.claimInstall, false⟩] ++ (steps ++
      [⟨.flush log, flushed⟩, ⟨.enter status, ()⟩])) : List Exchange).filter
        (fun x => x.effect.isOfCommand) = steps := by
  change (steps ++ _).filter _ = _
  rw [List.filter_append, List.filter_eq_self.mpr h]
  exact List.append_nil _

/-- A run in a setting with listeners installed is its steps. -/
theorem ran_iff (hw : w.observer.installed = true) :
    Ran c config w commands log status trace w' ↔
      Steps c.Goes w trace w' ∧ (∀ h ∈ trace, h.isOfCommand = true) ∧
        ComesTo (runSteps config commands) (exchangesAmong trace) (log, status) := by
  constructor
  · rintro ⟨happenings, output, hsteps, hrun, rfl⟩
    obtain ⟨opening, installed, steps, _, _, flushed, heq, hinstall, hcommands, hreport⟩ :=
      comesTo_run hrun
    obtain ⟨rfl, rfl⟩ : status = _ ∧ log = _ :=
      ⟨congrArg RunReport.status hreport, congrArg RunReport.log hreport⟩
    obtain ⟨new, more, rfl, hmore⟩ := comesTo_install hinstall
    obtain rfl := claim_eq_false hw hsteps heq
    obtain rfl := hmore rfl
    have hcommand := isOfCommand_of_comesTo hcommands
    -- The listeners stay installed, so that only the steps change the setting.
    have hkeeps : Conduct.Keeps happenings := by
      rw [Conduct.Keeps, heq]
      have hsteps : ∀ x ∈ steps, x.effect ≠ .releaseInstall := by
        intro x hx hrelease
        have hx := hcommand x hx
        rw [hrelease] at hx
        exact Bool.false_ne_true hx
      simpa [or_imp, forall_and] using hsteps
    refine ⟨(Conduct.steps_filter_isOfCommand hsteps hw hkeeps).1,
      fun h hh => (List.mem_filter.mp hh).2, ?_⟩
    rw [exchangesAmong_filter_isOfCommand, heq, filter_isOfCommand_eq hcommand]
    exact hcommands
  · rintro ⟨hsteps, hcommand, hcommands⟩
    have hclaim := Conduct.claimInstall_of_installed hw
    refine ⟨.asked ⟨.enter .running, ()⟩ :: .asked ⟨.claimInstall, false⟩ ::
      (trace ++ [.asked ⟨.flush log, .ok ()⟩, .asked ⟨.enter status, ()⟩]),
      .ofLog commands.length log, ?_, ?_, ?_⟩
    · refine .cons rfl (.cons ⟨by rw [hclaim], by rw [hclaim]⟩ (hsteps.append ?_))
      exact .cons rfl (.cons rfl (.nil w'))
    · change ComesTo _ (_ :: _ :: exchangesAmong (trace ++ _)) _
      rw [exchangesAmong_append]
      exact comesTo_run_of_steps comesTo_install_false hcommands (.ok ())
    · change trace = (trace ++ _).filter _
      rw [List.filter_append, List.filter_eq_self.mpr hcommand]
      exact (List.append_nil trace).symm

/-- A run leaves the listeners installed. -/
theorem Ran.installed (h : Ran c config w commands log status trace w')
    (hw : w.observer.installed = true) : w'.observer.installed = true := by
  obtain ⟨hsteps, hcommand, -⟩ := (ran_iff hw).mp h
  refine (Conduct.steps_filter_isOfCommand hsteps hw fun x hx hrelease => ?_).2
  have hx : x.effect.isOfCommand = true := hcommand _ (mem_exchangesAmong_iff.mp hx)
  rw [hrelease] at hx
  exact Bool.false_ne_true hx

/-! ### Two runs -/

/-- A run of some commands and then others, where the listeners are installed. If the ones end the
run, it is the run of the ones. If not, it is the run of the ones and then the run of the others, in
the setting that the ones leave: the logs follow one another, as does all that happens, and the run
ends as the run of the others does, in the same setting. -/
theorem ran_append_iff (hw : w.observer.installed = true) :
    Ran c config w (a ++ b) log status trace w' ↔
      (status = .halted ∧ Ran c config w a log .halted trace w') ∨
        ∃ v log₁ log₂ trace₁ trace₂, log = log₁ ++ log₂ ∧ trace = trace₁ ++ trace₂ ∧
          Ran c config w a log₁ .completed trace₁ v ∧ Ran c config v b log₂ status trace₂ w' := by
  rw [ran_iff hw, ran_iff hw]
  constructor
  · rintro ⟨hsteps, hcommand, hrun⟩
    rcases comesTo_runSteps_append_iff.mp hrun with ⟨rfl, ha⟩ |
      ⟨first, second, log₁, log₂, heq, rfl, ha, hb⟩
    · exact .inl ⟨rfl, hsteps, hcommand, ha⟩
    -- The trace is split where the exchanges of the first run end.
    · obtain ⟨trace₁, trace₂, rfl, rfl, rfl⟩ := exchangesAmong_eq_append_iff.mp heq
      obtain ⟨v, hfirst, hsecond⟩ := steps_append_iff.mp hsteps
      obtain ⟨hcommand₁, hcommand₂⟩ := List.forall_mem_append.mp hcommand
      have hran := (ran_iff (c := c) hw).mpr ⟨hfirst, hcommand₁, ha⟩
      exact .inr ⟨v, log₁, log₂, trace₁, trace₂, rfl, rfl, hran,
        (ran_iff (hran.installed hw)).mpr ⟨hsecond, hcommand₂, hb⟩⟩
  · rintro (⟨rfl, hsteps, hcommand, ha⟩ | ⟨v, log₁, log₂, trace₁, trace₂, rfl, rfl, ha, hb⟩)
    · exact ⟨hsteps, hcommand, comesTo_runSteps_append_iff.mpr (.inl ⟨rfl, ha⟩)⟩
    · obtain ⟨hsecond, hcommand₂, hb⟩ := (ran_iff (ha.installed hw)).mp hb
      obtain ⟨hfirst, hcommand₁, ha⟩ := (ran_iff hw).mp ha
      refine ⟨hfirst.append hsecond, List.forall_mem_append.mpr ⟨hcommand₁, hcommand₂⟩, ?_⟩
      rw [exchangesAmong_append]
      exact comesTo_runSteps_append_iff.mpr (.inr ⟨_, _, log₁, log₂, rfl, rfl, ha, hb⟩)

/-- The observer is started, an event comes, and a break ends the run: in one run or in two. -/
theorem ran_append_iff_break :
    let observer : Observer := { Observer.new .standard 0 with installed := true }
    let w : Setting Unit := ⟨(), observer, .new .standard, .memory []⟩
    let e : Event := ⟨.focus true, 7⟩
    let still : Conduct Unit := ⟨fun _ _ _ _ _ => False, fun _ _ _ => False⟩
    Ran still .standard w ([.changes .on] ++ [.break])
      [⟨.changes .on, .ok (.str "Observer started")⟩, ⟨.break, .ok (.str "break")⟩] .halted
      [.asked ⟨.startObserver, ()⟩, .came 5 e]
      { w with observer := (observer.start.ingest 5 e).1 } := by
  intro observer w e still
  let v : Setting Unit := { w with observer := (observer.start.ingest 5 e).1 }
  have hcommand : ∀ h ∈ ([.asked ⟨.startObserver, ()⟩, .came 5 e] : List Happening),
      h.isOfCommand = true := by
    simp [Happening.isOfCommand, Effect.isOfCommand]
  have hon : Ran still .standard w [.changes .on]
      [⟨.changes .on, .ok (.str "Observer started")⟩] .completed
      [.asked ⟨.startObserver, ()⟩, .came 5 e] v :=
    (ran_iff rfl).mpr ⟨.cons rfl (.cons rfl (.nil v)), hcommand, .ask (.done _)⟩
  have hbreak : Ran still .standard v [.break] [⟨.break, .ok (.str "break")⟩] .halted [] v :=
    (ran_iff rfl).mpr ⟨.nil v, List.forall_mem_nil _, .done _⟩
  exact (ran_append_iff rfl).mpr (.inr ⟨v, _, _, _, _, rfl, rfl, hon, hbreak⟩)

end PageScript.Interpreter
