import PageScript.Proofs.Interpreter.Recording
import PageScript.Proofs.Setting
import PageScript.Proofs.Store.Recipes

/-!
# Recordings

Where runs are made one after another, with events of the page coming at any time, all that is shown
of a recording is read off what has happened: the events that came while the observer collected, and
the recipes that were saved.

* `Conduct.isAfter_of_steps` and `Conduct.keepsSaves_of_steps` — what has happened tells what the
  observer keeps, and what the store has;
* `Chronicle.recordStop`, `Chronicle.saveRecipe`, `Chronicle.loadRecipe` — one command;
* `recordings_survive` — all of them.
-/

namespace PageScript

open Program Interpreter

/-! ### What has happened -/

/-- What a happening does to the observer. -/
def Happening.operation? : Happening → Option Observer.Operation
  | .asked x => x.effect.operation?
  | .came now e => some (.ingest now e)
  | _ => none

/-- What has been done to the observer. -/
def operationsAmong (happenings : List Happening) : List Observer.Operation :=
  happenings.filterMap Happening.operation?

/-- The recipes that have been saved. -/
def savesAmong (happenings : List Happening) : List Recipe :=
  savesOf (exchangesAmong happenings)

/-- The events that are kept of what has happened since a recording was begun or the observer was
emptied: the significant ones that came while events were collected, as many of the last of them as
there is room for. -/
def recorded (config : ObserverConfig) (happenings : List Happening) : List Event :=
  (Observer.log (operationsAmong happenings)).rtake (max 1 config.bufferCapacity.toNat)

variable {π : Type} {c : Conduct π} {w w' v : Setting π} {happening : Happening}
  {happenings first second : List Happening} {observerConfig : ObserverConfig} {created : Nat}
  {saves : List Recipe} {now : Nat} {e : Event}

/-- The operations of two stretches of a session, one after the other. -/
theorem operationsAmong_append (first second : List Happening) :
    operationsAmong (first ++ second) = operationsAmong first ++ operationsAmong second :=
  List.filterMap_append

/-- The saves of two stretches of a session, one after the other. -/
theorem savesAmong_append (first second : List Happening) :
    savesAmong (first ++ second) = savesAmong first ++ savesAmong second := by
  rw [savesAmong, exchangesAmong_append]
  exact List.filterMap_append

/-- The events that are taken in have come. -/
theorem came_of_ingest_mem (h : .ingest now e ∈ operationsAmong happenings) :
    .came now e ∈ happenings := by
  obtain ⟨happening, hmem, hop⟩ := List.mem_filterMap.mp h
  cases happening with
  | came now' e' =>
    cases hop
    exact hmem
  | asked x =>
    obtain ⟨effect, answer⟩ := x
    cases effect <;> cases hop
  | moved | reopened => cases hop

/-- Where nothing is asked, events come and nothing else is done to the observer. -/
theorem exists_ingest_of_exchangesAmong_eq_nil (h : exchangesAmong happenings = []) :
    ∀ op ∈ operationsAmong happenings, ∃ now e, op = .ingest now e := by
  intro op hop
  obtain ⟨happening, hmem, hop⟩ := List.mem_filterMap.mp hop
  cases happening with
  | came now e => exact ⟨now, e, (Option.some.inj hop).symm⟩
  | asked x => cases List.filterMap_eq_nil_iff.mp h _ hmem
  | moved | reopened => cases hop

/-- What comes after a recording has been ended is not kept. -/
theorem recorded_append_stop {quiet : List Happening} (config : ObserverConfig)
    (happenings : List Happening) (h : exchangesAmong quiet = []) :
    recorded config (happenings ++ .asked ⟨.stopObserver, ()⟩ :: quiet) =
      recorded config happenings := by
  rw [recorded, operationsAmong_append]
  change List.rtake (Observer.log (_ ++ .stop :: operationsAmong quiet)) _ = _
  rw [Observer.log_append_stop_append (exists_ingest_of_exchangesAmong_eq_nil h), recorded]

/-! ### What the observer keeps and what the store has -/

namespace Conduct

/-- A step does to the observer what the happening does to it, and to the listeners whatever a run
does around its commands. It leaves the store as it is unless a recipe is saved. -/
theorem Goes.observer_and_store (h : c.Goes w happening w') :
    w'.observer = { happening.operation?.elim w.observer w.observer.apply with
        installed := w'.observer.installed } ∧
      (savesAmong [happening] = [] ∧ w'.store = w.store ∨
        ∃ recipe, savesAmong [happening] = [recipe] ∧
          (w.store.save recipe = .ok w'.store ∨ ∃ e, w.store.save recipe = .error e)) := by
  cases happening with
  | came now e =>
    obtain rfl := h
    exact ⟨rfl, .inl ⟨rfl, rfl⟩⟩
  | moved =>
    obtain ⟨_, _, -, rfl⟩ := h
    exact ⟨rfl, .inl ⟨rfl, rfl⟩⟩
  | reopened =>
    obtain ⟨-, rfl⟩ := h
    exact ⟨rfl, .inl ⟨rfl, rfl⟩⟩
  | asked x =>
    obtain ⟨effect, answer⟩ := x
    -- A claim leaves its mark on the observer, and a save on the store. What is done elsewhere may
    -- only move the page and the bridge.
    cases effect with
    | claimInstall | observed | loadRecipe =>
      obtain ⟨-, rfl⟩ := h
      exact ⟨rfl, .inl ⟨rfl, rfl⟩⟩
    | releaseInstall | startObserver | stopObserver | clearObserver | enter | flush =>
      obtain rfl := h
      exact ⟨rfl, .inl ⟨rfl, rfl⟩⟩
    | saveRecipe recipe =>
      rcases h with ⟨store, hsave, -, rfl⟩ | ⟨e, hsave, -, rfl⟩
      · exact ⟨rfl, .inr ⟨recipe, rfl, .inl hsave⟩⟩
      · exact ⟨rfl, .inr ⟨recipe, rfl, .inr ⟨e, hsave⟩⟩⟩
    | _ =>
      obtain ⟨_, _, -, rfl⟩ := h
      exact ⟨rfl, .inl ⟨rfl, rfl⟩⟩

/-- What has happened tells what the observer keeps. -/
theorem isAfter_of_steps {ops : List Observer.Operation} (h : Steps c.Goes w happenings w')
    (hw : w.observer.IsAfter observerConfig created ops) :
    w'.observer.IsAfter observerConfig created (ops ++ operationsAmong happenings) := by
  -- The induction is on the steps, with any operations before them.
  induction h generalizing ops with
  | nil => exact (List.append_nil ops).symm ▸ hw
  | @cons w v w' happening rest hgo _ ih =>
    have hv : v.observer.IsAfter observerConfig created (ops ++ operationsAmong [happening]) := by
      rw [hgo.observer_and_store.1]
      refine Observer.IsAfter.of_installed ?_ _
      cases hop : happening.operation? with
      | none =>
        rw [operationsAmong, List.filterMap_cons_none hop]
        exact (List.append_nil ops).symm ▸ hw
      | some op =>
        rw [operationsAmong, List.filterMap_cons_some hop]
        exact hw.apply op
    have hrest := ih hv
    rwa [List.append_assoc, ← operationsAmong_append] at hrest

/-- What has happened tells what the store has. -/
theorem keepsSaves_of_steps (h : Steps c.Goes w happenings w') (hw : w.store.KeepsSaves saves) :
    w'.store.KeepsSaves (saves ++ savesAmong happenings) := by
  induction h generalizing saves with
  | nil => exact (List.append_nil saves).symm ▸ hw
  | @cons w v w' happening rest hgo _ ih =>
    rw [← List.singleton_append, savesAmong_append, ← List.append_assoc]
    refine ih ?_
    rcases hgo.observer_and_store.2 with ⟨hsaves, hstore⟩ | ⟨recipe, hsaves, hsave⟩
    · rw [hsaves, hstore, List.append_nil]
      exact hw
    · rw [hsaves]
      obtain ⟨s, hs, hkeeps, -⟩ := hw.save recipe
      -- A store of saves takes another one.
      rcases hsave with hsave | ⟨e, hsave⟩
      · obtain rfl := Except.ok.inj (hs.symm.trans hsave)
        exact hkeeps
      · cases hs.symm.trans hsave

end Conduct

/-! ### Chronicles -/

/-- What is shown of a recipe does not depend on the places of its clicks. -/
theorem Step.loadAnswer_map_mapFloats (name : String) (f : Binary64 → Binary64)
    (found : Option Recipe) :
    loadAnswer name (found.map (Recipe.mapFloats f)) = loadAnswer name found := by
  cases found with
  | none => rfl
  | some recipe => simp [loadAnswer, Recipe.mapFloats]

/-- A run of commands, with what has happened before it and during it. -/
structure Chronicle (π : Type) where
  /-- The setting at first. -/
  first : Setting π
  /-- What has happened before the run. -/
  past : List Happening
  /-- The commands that have been carried out before the run. -/
  done : List Command
  /-- The configuration of the run. -/
  config : InterpreterConfig
  /-- The commands of the run. -/
  commands : List Command
  /-- What happens during the run. -/
  during : List Happening
  /-- The report of the run. -/
  report : RunReport
  /-- The setting in the end. -/
  last : Setting π

namespace Chronicle

/-- There have been runs one after another, and the run comes to its end. The observer is new at
first and the store is empty. -/
structure Happens (c : Conduct π) (observerConfig : ObserverConfig) (s : Chronicle π) : Prop where
  observer_eq : ∃ created, s.first.observer = .new observerConfig created
  entries_eq : s.first.store.entries = .ok []
  steps : Steps c.Goes s.first (s.past ++ s.during) s.last
  areRuns : AreRuns (exchangesAmong s.past) s.done
  run : ComesTo (run s.config s.commands) (exchangesAmong s.during) s.report

/-- The commands that are carried out before the `i`-th command of the run. -/
def earlier (s : Chronicle π) (i : Nat) : List Command :=
  s.done ++ s.commands.take i

/-- The run has come to its `i`-th command, and all that was asked of the observer and of the recipe
store is what the earlier commands ask for. -/
structure Reaches (s : Chronicle π) (i : Nat) (before : List Happening) : Prop where
  standsAt : StandsAt s.config s.commands i (exchangesAmong before)
  asksFor : AsksFor (s.earlier i) (exchangesAmong (s.past ++ before))

/-- What a command about recordings comes to as the `i`-th command of the run. A recording that is
ended shows what it has of the user's actions. A recipe is saved with all that is recorded, under
the key of its name. A recipe is found if an earlier command has saved one under the key of the
name, and it is the one that was saved last under that key. It can be read unless a click came
whose place is not finite: no text has a word for such a number. -/
def IsRecordingResult (c : Conduct π) (observerConfig : ObserverConfig) (s : Chronicle π) (i : Nat)
    (result : StepResult) : Command → Prop
  | .record .stop =>
    ∃ before after, s.during = before ++ .asked ⟨.stopObserver, ()⟩ :: after ∧ s.Reaches i before ∧
      result = .ok (Json.arr (((recorded observerConfig (s.past ++ before)).filter
        Event.isUserAction).map Event.toJson)).canonical
  | .recipe .save name =>
    ∃ before between after recipe v, s.during = before ++ .asked ⟨.observed, recipe.events⟩ ::
        (between ++ .asked ⟨.saveRecipe recipe, .ok ()⟩ :: after) ∧ s.Reaches i before ∧
      recipe.name = name ∧ recipe.events = recorded observerConfig (s.past ++ before) ∧
      Steps c.Goes v after s.last ∧ v.store.Has (Recipe.keyFor name) recipe.toJson.canonical ∧
      result = .ok (.str s!"Recipe '{name}' saved ({recipe.events.length} events)")
  | .recipe .load name =>
    ∃ before answer after found, s.during = before ++ .asked ⟨.loadRecipe name, answer⟩ :: after ∧
      s.Reaches i before ∧
      found = Store.latest? (Recipe.keyFor name) (savesAmong (s.past ++ before)) ∧
      (found.isSome ↔ ∃ saved ∈ (s.earlier i).flatMap Command.savedNames,
        Recipe.keyFor saved = Recipe.keyFor name) ∧
      ((∀ now e, .came now e ∈ s.past ++ before → e.IsFinite) →
        result = .ok (Step.loadAnswer name found))
  | _ => True

variable {s : Chronicle π} {i : Nat} {entry : LogEntry} {name : String}

/-- The observer keeps what is recorded. -/
theorem Happens.request_eq (h : s.Happens c observerConfig)
    (hfirst : Steps c.Goes s.first first v) :
    v.observer.request = recorded observerConfig first := by
  obtain ⟨created, hobserver⟩ := h.observer_eq
  have hnew : s.first.observer.IsAfter observerConfig created [] :=
    hobserver ▸ Observer.isAfter_new observerConfig created
  exact (Conduct.isAfter_of_steps hfirst hnew).buffer_eq

/-- The store has what was saved. -/
theorem Happens.keepsSaves (h : s.Happens c observerConfig)
    (hfirst : Steps c.Goes s.first first v) : v.store.KeepsSaves (savesAmong first) :=
  Conduct.keepsSaves_of_steps hfirst (Store.keepsSaves_of_entries_eq_nil h.entries_eq)

/-- What is saved has been observed, and so it has come. -/
theorem Happens.came_of_saved (h : s.Happens c observerConfig) {commands : List Command}
    (hasks : AsksFor commands (exchangesAmong first)) (hfirst : Steps c.Goes s.first first v)
    {recipe : Recipe} (hrecipe : recipe ∈ savesAmong first) (he : e ∈ recipe.events) :
    ∃ now, .came now e ∈ first := by
  -- The events of the recipe are an answer of the observer, which keeps nothing but what has come.
  obtain ⟨xs, ys, heq⟩ := List.append_of_mem (hasks.observed recipe hrecipe)
  obtain ⟨before, after, u, u', rfl, -, -, hbefore, ⟨hevents, -⟩, -⟩ :=
    Conduct.exists_asked hfirst heq
  have hlog : e ∈ recorded observerConfig before := by
    rw [← h.request_eq hbefore, ← hevents]
    exact he
  obtain ⟨now, hnow⟩ := Observer.exists_ingest_of_mem_log (List.mem_of_mem_drop hlog)
  exact ⟨now, List.mem_append_left _ (came_of_ingest_mem hnow)⟩

/-- A command is begun with its first question, when the run has come to it. -/
theorem Happens.exists_begun (h : s.Happens c observerConfig) {xs rest ys : List Exchange}
    {x : Exchange} (hstands : StandsAt s.config s.commands i xs)
    (heq : exchangesAmong s.during = xs ++ (x :: rest ++ ys)) :
    ∃ before after v v', s.during = before ++ .asked x :: after ∧ s.Reaches i before ∧
      exchangesAmong after = rest ++ ys ∧ Steps c.Goes s.first (s.past ++ before) v ∧
      c.Goes v (.asked x) v' ∧ Steps c.Goes v' after s.last := by
  obtain ⟨u, hpast, hduring⟩ := steps_append_iff.mp h.steps
  obtain ⟨before, after, v, v', hhappenings, rfl, hafter, hbefore, hasked, hrest⟩ :=
    Conduct.exists_asked hduring heq
  have hasks : AsksFor (s.earlier i) (exchangesAmong (s.past ++ before)) := by
    rw [exchangesAmong_append]
    exact h.areRuns.asksFor.append hstands.asksFor
  exact ⟨before, after, v, v', hhappenings, ⟨hstands, hasks⟩, hafter, hpast.append hbefore, hasked,
    hrest⟩

/-! ### Commands of a chronicle -/

/-- The result of stopping a recording is read off what was observed up to then. -/
theorem Happens.recordStop (h : s.Happens c observerConfig) (hi : s.report.log[i]? = some entry)
    (hcommand : entry.command = .record .stop) :
    s.IsRecordingResult c observerConfig i entry.result (.record .stop) := by
  obtain ⟨xs, mine, ys, outcome, heq, hstands, hstep, hresult⟩ := exists_step_of_run h.run hi
  rw [hcommand] at hstep
  obtain ⟨events, rfl, rfl⟩ := Step.comesTo_recordStop hstep
  obtain ⟨before, after, v, v', hduring, hreaches, hafter, hbefore, hstop, hrest⟩ :=
    h.exists_begun hstands heq
  have hobserved : exchangesAmong after = [] ++ ⟨.observed, events⟩ :: ys := hafter
  obtain ⟨quiet, last, t, t', rfl, hquiet, -, hsteps, ⟨rfl, -⟩, -⟩ :=
    Conduct.exists_asked hrest hobserved
  -- What comes between the end of the recording and the look at it is not kept.
  have hrequest := h.request_eq (hbefore.append (.cons hstop hsteps))
  rw [recorded_append_stop _ _ hquiet] at hrequest
  refine ⟨before, _, hduring, hreaches, ?_⟩
  rw [hresult, ← hrequest]
  rfl

/-- The result of saving a recipe is read off what was observed up to then, and the recipe is kept.
-/
theorem Happens.saveRecipe (h : s.Happens c observerConfig) (hi : s.report.log[i]? = some entry)
    (hcommand : entry.command = .recipe .save name) :
    s.IsRecordingResult c observerConfig i entry.result (.recipe .save name) := by
  obtain ⟨xs, mine, ys, outcome, heq, hstands, hstep, hresult⟩ := exists_step_of_run h.run hi
  rw [hcommand] at hstep
  obtain ⟨events, now, saved, rfl, houtcome⟩ := Step.comesTo_saveRecipe hstep
  obtain ⟨before, rest, v, v', hduring, hreaches, hafter, hbefore, hobserved, hrest⟩ :=
    h.exists_begun hstands heq
  let recipe : Recipe := ⟨name, now, events⟩
  have hsaved : exchangesAmong rest =
      [⟨.wallClock, now⟩] ++ ⟨.saveRecipe recipe, saved⟩ :: ys := hafter
  obtain ⟨between, after, t, t', rfl, -, -, hbetween, hsave, hlast⟩ :=
    Conduct.exists_asked hrest hsaved
  have hkeeps := h.keepsSaves (hbefore.append (.cons hobserved hbetween))
  obtain ⟨store, hstore, -, hhas⟩ := hkeeps.save recipe
  -- The store does not refuse.
  rcases hsave with ⟨store', hstore', rfl, rfl⟩ | ⟨e, herror, -, -⟩
  · obtain rfl := Except.ok.inj (hstore.symm.trans hstore')
    obtain ⟨hevents, -⟩ := hobserved
    refine ⟨before, between, after, recipe, _, hduring, hreaches, rfl, ?_, hlast, hhas, ?_⟩
    · rw [← h.request_eq hbefore, ← hevents]
    · rw [hresult, houtcome rfl]
      rfl
  · cases hstore.symm.trans herror

/-- The result of loading a recipe is read off the one that was saved last. -/
theorem Happens.loadRecipe (h : s.Happens c observerConfig) (hi : s.report.log[i]? = some entry)
    (hcommand : entry.command = .recipe .load name) :
    s.IsRecordingResult c observerConfig i entry.result (.recipe .load name) := by
  obtain ⟨xs, mine, ys, outcome, heq, hstands, hstep, hresult⟩ := exists_step_of_run h.run hi
  rw [hcommand] at hstep
  obtain ⟨loaded, rfl, rfl⟩ := Step.comesTo_loadRecipe hstep
  obtain ⟨before, after, v, v', hduring, hreaches, -, hbefore, hload, -⟩ :=
    h.exists_begun hstands heq
  obtain ⟨rfl, -⟩ : loaded = v.store.load name ∧ _ := hload
  refine ⟨before, _, after, _, hduring, hreaches, rfl, ?_, fun hcame => ?_⟩
  · rw [Store.latest?_isSome_iff, ← hreaches.asksFor.names]
    simp [savesAmong]
  · have hfinite : ∀ recipe ∈ savesAmong (s.past ++ before), recipe.IsFinite := by
      intro recipe hrecipe e he
      obtain ⟨now, hnow⟩ := h.came_of_saved hreaches.asksFor hbefore hrecipe he
      exact hcame now e hnow
    -- The store may give other places, of which nothing is shown.
    obtain ⟨f, hfound⟩ := (h.keepsSaves hbefore).load name fun recipe hlatest =>
      hfinite recipe (Store.mem_of_latest?_eq_some hlatest)
    rw [hresult, hfound, ← Step.loadAnswer_map_mapFloats name f]
    rfl

end Chronicle

/-- Whatever commands are run, in whatever runs, and whenever events of the page come: the entry of
each command about recordings has the result that is read off what has happened before. -/
theorem recordings_survive {s : Chronicle π} {i : Nat} {entry : LogEntry}
    (h : s.Happens c observerConfig) (hi : s.report.log[i]? = some entry) :
    s.IsRecordingResult c observerConfig i entry.result entry.command := by
  cases hcommand : entry.command with
  | record action =>
    cases action with
    | start => exact trivial
    | stop => exact h.recordStop hi hcommand
  | recipe action name =>
    cases action with
    | save => exact h.saveRecipe hi hcommand
    | load => exact h.loadRecipe hi hcommand
  | _ => exact trivial

/-- A recording with room for one event is begun, the page gets the focus, and a key is pressed. The
recording is saved, and it shows the key when it is ended. -/
theorem recordings_survive_key :
    let focus : Event := ⟨.focus true, 7⟩
    let key : Event := ⟨.keydown ⟨"a", "KeyA", false, false, false, false⟩, 8⟩
    let recipe : Recipe := ⟨"Log in", 9, [key]⟩
    let settings : ObserverConfig := ⟨1, 10, 256⟩
    let observer : Observer := .new settings 0
    let bridge : Bridge := .new .standard
    let willing : Conduct Unit := ⟨fun _ _ _ _ _ => True, fun _ _ _ => False⟩
    let shown : StepResult := .ok (Json.arr [key.toJson]).canonical
    let log : RunLog := [⟨.record .start, .ok (.str "Recording started")⟩,
      ⟨.recipe .save recipe.name, .ok (.str s!"Recipe '{recipe.name}' saved ({1} events)")⟩,
      ⟨.record .stop, shown⟩]
    let s : Chronicle Unit :=
      { first := ⟨(), observer, bridge, .memory []⟩
        past := []
        done := []
        config := .standard
        commands := [.record .start, .recipe .save recipe.name, .record .stop]
        during := [.asked ⟨.enter .running, ()⟩, .asked ⟨.claimInstall, true⟩,
          .asked ⟨.page .installListeners, .ok ()⟩, .asked ⟨.startObserver, ()⟩, .came 5 focus,
          .came 6 key, .asked ⟨.observed, [key]⟩, .asked ⟨.wallClock, (9 : UInt64)⟩,
          .asked ⟨.saveRecipe recipe, .ok ()⟩, .asked ⟨.stopObserver, ()⟩,
          .asked ⟨.observed, [key]⟩, .asked ⟨.flush log, .ok ()⟩,
          .asked ⟨.enter .completed, ()⟩]
        report := ⟨.completed, log, .ofLog 3 log⟩
        last := ⟨(), ((observer.claimInstall.1.start.ingest 5 focus).1.ingest 6 key).1.stop, bridge,
          .memory [(Recipe.keyFor recipe.name, recipe.toJson.canonical)]⟩ }
    s.Happens willing settings ∧ s.IsRecordingResult willing settings 2 shown (.record .stop) := by
  intro focus key recipe settings observer bridge willing shown log s
  -- The buffer holds one event, so that the key has driven out the focus before it.
  have hkept : s.last.observer.request = [key] := by rfl
  have hsaved : s.first.store.save recipe = .ok s.last.store := rfl
  have hsteps : Steps willing.Goes s.first s.during s.last := by
    refine .cons rfl (.cons ⟨rfl, rfl⟩ (.cons ⟨(), bridge, trivial, rfl⟩ (.cons rfl ?_)))
    refine .cons rfl (.cons rfl (.cons ⟨hkept.symm, rfl⟩ (.cons ⟨(), bridge, trivial, rfl⟩ ?_)))
    refine .cons (.inl ⟨_, hsaved, rfl, rfl⟩) (.cons rfl (.cons ⟨hkept.symm, rfl⟩ ?_))
    exact .cons rfl (.cons rfl (.nil _))
  have hrun : ComesTo (run s.config s.commands) (exchangesAmong s.during) s.report :=
    .ask (.ask (.ask (.ask (.ask (.ask (.ask (.ask (.ask (.ask (.ask (.done _)))))))))))
  have hs : s.Happens willing settings := ⟨⟨0, rfl⟩, rfl, hsteps, .nil, hrun⟩
  exact ⟨hs, recordings_survive (i := 2) hs rfl⟩

end PageScript
