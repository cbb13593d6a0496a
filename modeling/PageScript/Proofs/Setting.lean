import PageScript.Observer
import PageScript.Proofs.Interpreter.Run
import PageScript.Proofs.Transition
import PageScript.Store.Basic

/-!
# Settings

A program runs in a setting of a page, an observer, a bridge and a recipe store. What it asks of the
observer and of the store is done by their operations; everything else, the page, the bridge, the
clocks and the disk, answers as it may. Between two questions the page and the bridge move, events of
the page reach the observer, and a store in a file may be opened anew.

* `Conduct.Goes` — what can happen, and what it does to the setting;
* `Conduct.steps_filter_isOfCommand` — what surrounds the commands of a run does not change a
  setting with listeners installed.
-/

namespace PageScript

open Program

/-- What a program finds around it, with a page of some kind. -/
structure Setting (π : Type) where
  /-- The page, with the clocks and the disk. -/
  page : π
  /-- The observer. -/
  observer : Observer
  /-- The pause bridge. -/
  bridge : Bridge
  /-- The recipe store. -/
  store : Store

/-- How the page and the bridge of a setting behave. -/
structure Conduct (π : Type) where
  /-- A question can be given an answer, and leaves such a page and such a bridge. -/
  Answers : Setting π → (e : Effect) → e.Answer → π → Bridge → Prop
  /-- The page and the bridge can become these by themselves. -/
  Moves : Setting π → π → Bridge → Prop

/-- What happens in a setting. -/
inductive Happening where
  /-- A question is asked and answered. -/
  | asked (x : Exchange)
  /-- An event of the page reaches the observer at a time. -/
  | came (now : Nat) (e : Event)
  /-- The page or the bridge moves. -/
  | moved
  /-- The store, which is in a file, is opened anew. -/
  | reopened

namespace Happening

/-- The question that is asked, with its answer. -/
def exchange? : Happening → Option Exchange
  | .asked x => some x
  | _ => none

/-- It is no question that only the run around the commands asks. -/
def isOfCommand : Happening → Bool
  | .asked x => x.effect.isOfCommand
  | _ => true

end Happening

/-- The questions asked, with their answers. -/
def exchangesAmong (happenings : List Happening) : List Exchange :=
  happenings.filterMap Happening.exchange?

variable {π : Type} {c : Conduct π} {w w' : Setting π} {h : Happening}
  {first second happenings : List Happening} {exchanges : List Exchange}

/-- The exchanges of two stretches, one after the other. -/
theorem exchangesAmong_append (first second : List Happening) :
    exchangesAmong (first ++ second) = exchangesAmong first ++ exchangesAmong second :=
  List.filterMap_append

/-- What was exchanged is what was asked. -/
theorem mem_exchangesAmong_iff {x : Exchange} :
    x ∈ exchangesAmong happenings ↔ .asked x ∈ happenings := by
  rw [exchangesAmong, List.mem_filterMap]
  constructor
  · rintro ⟨happening, hmem, hasked⟩
    cases happening <;> cases hasked
    exact hmem
  · intro h
    exact ⟨_, h, rfl⟩

/-- Questions are asked one after another. -/
theorem exchangesAmong_eq_append_iff {xs ys : List Exchange} :
    exchangesAmong happenings = xs ++ ys ↔
      ∃ first second, happenings = first ++ second ∧ exchangesAmong first = xs ∧
        exchangesAmong second = ys :=
  List.filterMap_eq_append_iff

/-- A question is asked between what happens before and what happens after. -/
theorem exchangesAmong_eq_append_cons_iff {xs ys : List Exchange} {x : Exchange} :
    exchangesAmong happenings = xs ++ x :: ys ↔
      ∃ before after, happenings = before ++ .asked x :: after ∧ exchangesAmong before = xs ∧
        exchangesAmong after = ys := by
  constructor
  · intro h
    obtain ⟨first, second, rfl, hfirst, hsecond⟩ := exchangesAmong_eq_append_iff.mp h
    obtain ⟨quiet, happening, after, rfl, hquiet, hasked, hafter⟩ :=
      List.filterMap_eq_cons_iff.mp hsecond
    obtain rfl : happening = .asked x := by
      cases happening <;> cases hasked
      rfl
    have hnone : exchangesAmong quiet = [] := List.filterMap_eq_nil_iff.mpr hquiet
    refine ⟨first ++ quiet, after, (List.append_assoc ..).symm, ?_, hafter⟩
    rw [exchangesAmong_append, hnone, List.append_nil, hfirst]
  · rintro ⟨before, after, rfl, rfl, rfl⟩
    exact exchangesAmong_append before (.asked x :: after)

/-- The questions of commands are those asked by all that is of commands. -/
theorem exchangesAmong_filter_isOfCommand (happenings : List Happening) :
    exchangesAmong (happenings.filter Happening.isOfCommand) =
      (exchangesAmong happenings).filter fun x => x.effect.isOfCommand := by
  rw [exchangesAmong, exchangesAmong, List.filterMap_filter, List.filter_filterMap]
  congr 1
  funext happening
  cases happening <;> rfl

namespace Conduct

/-- A question is asked and answered: the observer and the store do what they are asked to, and the
page and the bridge do everything else. -/
def Performs (c : Conduct π) (w : Setting π) : (e : Effect) → e.Answer → Setting π → Prop
  | .claimInstall, answer, w' =>
    answer = w.observer.claimInstall.2 ∧ w' = { w with observer := w.observer.claimInstall.1 }
  | .releaseInstall, _, w' => w' = { w with observer := w.observer.releaseInstall }
  | .startObserver, _, w' => w' = { w with observer := w.observer.start }
  | .stopObserver, _, w' => w' = { w with observer := w.observer.stop }
  | .clearObserver, _, w' => w' = { w with observer := w.observer.clear }
  | .observed, answer, w' => answer = w.observer.request ∧ w' = w
  | .saveRecipe recipe, answer, w' =>
    (∃ store, w.store.save recipe = .ok store ∧ answer = .ok () ∧ w' = { w with store := store }) ∨
      ∃ e, w.store.save recipe = .error e ∧ answer = .error e ∧ w' = w
  | .loadRecipe name, answer, w' => answer = w.store.load name ∧ w' = w
  | .enter _, _, w' => w' = w
  | .flush _, _, w' => w' = w
  | e, answer, w' =>
    ∃ page bridge, c.Answers w e answer page bridge ∧ w' = { w with page := page, bridge := bridge }

/-- What happens in a setting of a conduct. -/
def Goes (c : Conduct π) (w : Setting π) : Happening → Setting π → Prop
  | .asked x, w' => c.Performs w x.effect x.answer w'
  | .came now e, w' => w' = { w with observer := (w.observer.ingest now e).1 }
  | .moved, w' =>
    ∃ page bridge, c.Moves w page bridge ∧ w' = { w with page := page, bridge := bridge }
  | .reopened, w' => (∃ content, w.store = .file content) ∧ w' = w

/-- A question is asked in a setting that what happens before it leads to. -/
theorem exists_asked {xs ys : List Exchange} {x : Exchange} (h : Steps c.Goes w happenings w')
    (heq : exchangesAmong happenings = xs ++ x :: ys) :
    ∃ before after v v', happenings = before ++ .asked x :: after ∧ exchangesAmong before = xs ∧
      exchangesAmong after = ys ∧ Steps c.Goes w before v ∧ c.Goes v (.asked x) v' ∧
      Steps c.Goes v' after w' := by
  obtain ⟨before, after, rfl, hbefore, hafter⟩ := exchangesAmong_eq_append_cons_iff.mp heq
  obtain ⟨v, hsteps, hrest⟩ := steps_append_iff.mp h
  obtain ⟨v', hasked, hrest⟩ := steps_cons_iff.mp hrest
  exact ⟨before, after, v, v', rfl, hbefore, hafter, hsteps, hasked, hrest⟩

/-! ### Listeners that are installed -/

variable {happening : Happening}

/-- Taking in an event leaves the listeners as they are. -/
theorem installed_ingest (o : Observer) (now : Nat) (e : Event) :
    (o.ingest now e).1.installed = o.installed := by
  simp only [Observer.ingest, Observer.passOn]
  split_ifs <;> rfl

/-- A claim of listeners that are installed is not new and changes nothing. -/
theorem claimInstall_of_installed {o : Observer} (h : o.installed = true) :
    o.claimInstall = (o, false) := by
  cases o
  cases h
  rfl

/-- A claim is new unless the listeners are installed. -/
theorem Goes.claim_eq {new : Bool} (h : c.Goes w (.asked ⟨.claimInstall, new⟩) w') :
    new = !w.observer.installed :=
  h.1

/-- The claim of the listeners is not given up. -/
def Keeps (happenings : List Happening) : Prop :=
  ∀ x ∈ exchangesAmong happenings, x.effect ≠ .releaseInstall

/-- What is kept is kept by each step. -/
theorem keeps_cons_iff :
    Keeps (happening :: happenings) ↔ Keeps [happening] ∧ Keeps happenings := by
  rw [Keeps, ← List.singleton_append, exchangesAmong_append, List.forall_mem_append]
  exact Iff.rfl

/-- The installation is not kept where it is given up. -/
theorem not_keeps_releaseInstall {answer : Unit} : ¬ Keeps [.asked ⟨.releaseInstall, answer⟩] :=
  fun h => h _ (List.mem_singleton_self _) rfl

/-- Listeners that are installed stay so unless they are given up. -/
theorem Goes.installed (h : c.Goes w happening w') (hw : w.observer.installed = true)
    (hkeeps : Keeps [happening]) : w'.observer.installed = true := by
  cases happening with
  | came now e =>
    obtain rfl := h
    exact (installed_ingest w.observer now e).trans hw
  | moved =>
    obtain ⟨page, bridge, -, rfl⟩ := h
    exact hw
  | reopened =>
    obtain ⟨-, rfl⟩ := h
    exact hw
  | asked x =>
    obtain ⟨effect, answer⟩ := x
    cases effect with
    | claimInstall =>
      obtain ⟨-, rfl⟩ := h
      rfl
    -- To give the claim up is the only step that uninstalls, and it is not kept.
    | releaseInstall => exact absurd hkeeps not_keeps_releaseInstall
    | startObserver | stopObserver | clearObserver | enter | flush =>
      obtain rfl := h
      exact hw
    | observed | loadRecipe =>
      obtain ⟨-, rfl⟩ := h
      exact hw
    | saveRecipe recipe =>
      rcases h with ⟨store, -, -, rfl⟩ | ⟨e, -, -, rfl⟩
      · exact hw
      · exact hw
    | _ =>
      obtain ⟨page, bridge, -, rfl⟩ := h
      exact hw

/-- What surrounds the commands of a run changes nothing in a setting with listeners installed. -/
theorem Goes.eq_of_not_isOfCommand (h : c.Goes w happening w') (hw : w.observer.installed = true)
    (hkeeps : Keeps [happening]) (hcommand : happening.isOfCommand = false) :
    w' = w := by
  cases happening with
  | asked x =>
    obtain ⟨effect, answer⟩ := x
    cases effect with
    | claimInstall =>
      obtain ⟨-, rfl⟩ := h
      rw [claimInstall_of_installed hw]
    | releaseInstall => exact absurd hkeeps not_keeps_releaseInstall
    | enter | flush => exact h
    | _ => cases hcommand
  | _ => cases hcommand

/-- In a setting with listeners installed the steps are the same without what surrounds the commands
of a run. -/
theorem steps_filter_isOfCommand (h : Steps c.Goes w happenings w')
    (hw : w.observer.installed = true) (hkeeps : Keeps happenings) :
    Steps c.Goes w (happenings.filter Happening.isOfCommand) w' ∧ w'.observer.installed = true := by
  induction h with
  | nil => exact ⟨.nil _, hw⟩
  | @cons w v w' happening rest h _ ih =>
    obtain ⟨hfirst, hrest⟩ := keeps_cons_iff.mp hkeeps
    obtain ⟨hsteps, hinstalled⟩ := ih (h.installed hw hfirst) hrest
    refine ⟨?_, hinstalled⟩
    cases hcommand : happening.isOfCommand with
    | true =>
      rw [List.filter_cons_of_pos hcommand]
      exact .cons h hsteps
    | false =>
      rw [List.filter_cons_of_neg (by simp [hcommand])]
      rwa [h.eq_of_not_isOfCommand hw hfirst hcommand] at hsteps

end Conduct

end PageScript
