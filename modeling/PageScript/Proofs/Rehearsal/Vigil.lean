import PageScript.Proofs.Observer.UnboundedLog
import PageScript.Proofs.Transition
import PageScript.Rehearsal.ScriptedPage
import PageScript.Rehearsal.Task

/-!
# Waiting while things happen

A task is under way on a scripted page, and things happen around it, each at an instant that is
fixed beforehand. At one instant the task and what happens around it take turns in any order. Time
passes, a millisecond after the other, when the task cannot go on and nothing more is due. A vigil
ends with its task.

* `Vigil.Goes` — what can come next in a vigil;
* `Incident.befall_now`, `Incident.befall_page`, `Incident.befall_lastActivity` and
  `Incident.length_befall_changes` — what an incident leaves as it is, and what it changes;
* `Vigil.exists_goes` — a vigil goes on as long as its task is not done.
-/

namespace PageScript.Rehearsal

/-- Something that happens around a task. -/
inductive Occurrence where
  /-- Something happens on the page. -/
  | page (action : PageAction)
  /-- Another program asks for something that the world answers at once. -/
  | asked (e : Effect)

/-- Something that happens at an instant. -/
structure Incident where
  /-- The instant. -/
  at_ : Nat
  /-- What happens. -/
  what : Occurrence

/-- What has been observed of a world is the same in another one, and so are the time and the
page. -/
structure World.Agrees {π : Type} (w w' : World π) : Prop where
  now_eq : w'.now = w.now
  page_eq : w'.page = w.page
  lastActivity_eq : w'.observer.lastActivity = w.observer.lastActivity
  changes_eq : w'.observer.changes = w.observer.changes

/-- A world agrees with itself. -/
theorem World.Agrees.refl {π : Type} (w : World π) : w.Agrees w :=
  ⟨rfl, rfl, rfl, rfl⟩

/-- An effect that is carried out at once is nothing that is observed on the page. -/
theorem World.agrees_of_perform? {π : Type} {w w' : World π} {e : Effect} {answer : e.Answer}
    (h : w.perform? e = some (answer, w')) : w.Agrees w' := by
  cases e with
  | saveRecipe recipe =>
    rw [World.perform?] at h
    -- Saving changes the store or nothing, and the world is not compared in its store.
    cases hsave : w.store.save recipe with
    | ok store =>
      rw [hsave] at h
      obtain ⟨-, rfl⟩ := Prod.mk.inj (Option.some.inj h)
      exact ⟨rfl, rfl, rfl, rfl⟩
    | error e =>
      rw [hsave] at h
      obtain ⟨-, rfl⟩ := Prod.mk.inj (Option.some.inj h)
      exact .refl w
  | page | sleep | quiet | awaitChange | toast => cases h
  | _ =>
    obtain ⟨-, rfl⟩ := Prod.mk.inj (Option.some.inj h)
    exact ⟨rfl, rfl, rfl, rfl⟩

/-! ### Incidents -/

namespace Incident

variable {w : World ScriptedPage} {i : Incident}

/-- The event that is observed, if one is. -/
def event? (i : Incident) : Option Event :=
  match i.what with
  | .page (.event e) => some e
  | _ => none

/-- A significant event is observed. -/
def isActivity (i : Incident) : Bool :=
  i.event?.any Event.isSignificant

/-- A change of the document is observed. -/
def isDom (i : Incident) : Bool :=
  i.event?.any Event.isDom

/-- The world after an incident. -/
def befall (i : Incident) (w : World ScriptedPage) : World ScriptedPage :=
  match i.what with
  | .page action => act w action
  | .asked e => ((w.perform? e).map Prod.snd).getD w

/-- What another program asks for is nothing that is observed on the page. -/
theorem agrees_befall_of_asked {e : Effect} (h : i.what = .asked e) : w.Agrees (i.befall w) := by
  rw [befall, h]
  show w.Agrees (((w.perform? e).map Prod.snd).getD w)
  cases hperform : w.perform? e with
  | none => exact .refl w
  | some result => exact World.agrees_of_perform? hperform

/-- What befalls the page takes no time. -/
theorem befall_now (i : Incident) (w : World ScriptedPage) : (i.befall w).now = w.now := by
  match h : i.what with
  | .page (.set _ _) | .page (.remove _) | .page (.event _) =>
    rw [befall, h]
    rfl
  | .asked e => exact (agrees_befall_of_asked h).now_eq

/-- An incident is activity if it is a significant event. -/
theorem befall_lastActivity (i : Incident) (w : World ScriptedPage) :
    (i.befall w).observer.lastActivity =
      if i.isActivity then w.now else w.observer.lastActivity := by
  match h : i.what with
  | .page (.set _ _) | .page (.remove _) =>
    rw [befall, isActivity, event?, h]
    rfl
  | .page (.event e) =>
    rw [befall, isActivity, event?, h]
    refine (w.observer.lastActivity_apply (.ingest w.now e)).trans ?_
    rw [Observer.Operation.activity?, Option.any_some]
    split_ifs <;> rfl
  | .asked e =>
    rw [isActivity, event?, h]
    exact (agrees_befall_of_asked h).lastActivity_eq

/-- An incident is passed on if it is a change of the document. -/
theorem length_befall_changes (i : Incident) (w : World ScriptedPage) :
    (i.befall w).observer.changes.log.length =
      w.observer.changes.log.length + i.isDom.toNat := by
  match h : i.what with
  | .page (.set _ _) | .page (.remove _) =>
    rw [befall, isDom, event?, h]
    rfl
  | .page (.event e) =>
    rw [befall, isDom, event?, h]
    show (w.observer.ingest w.now e).1.changes.log.length = _
    -- Whether the event is kept or not, it is passed on to those who wait for changes.
    have hchanges : (w.observer.ingest w.now e).1.changes = (w.observer.passOn e).changes := by
      rw [Observer.ingest_eq]
      split_ifs <;> rfl
    rw [hchanges, Observer.passOn, Option.any_some]
    cases e.isDom with
    | false => rfl
    | true => exact List.length_append
  | .asked e =>
    rw [isDom, event?, h]
    exact congrArg (fun changes => changes.log.length) (agrees_befall_of_asked h).changes_eq

/-- An incident changes nothing of the page but its elements. -/
theorem befall_page (i : Incident) (w : World ScriptedPage) :
    (i.befall w).page = { w.page with elements := (i.befall w).page.elements } := by
  match h : i.what with
  | .page (.set _ _) | .page (.remove _) | .page (.event _) =>
    rw [befall, h]
    rfl
  | .asked e => rw [(agrees_befall_of_asked h).page_eq]

end Incident

/-! ### Vigils -/

/-- A task under way in a world, and what is still going to happen around it. -/
structure Vigil (ρ : Type) where
  /-- The world. -/
  world : World ScriptedPage
  /-- The task. -/
  task : Task ρ
  /-- What is going to happen, one after another. -/
  ahead : List Incident

namespace Vigil

variable {ρ : Type} {v : Vigil ρ} {now : Nat} {i : Incident} {ahead : List Incident}

/-- A program is started in a world. -/
def start (w : World ScriptedPage) (program : Program ρ) (ahead : List Incident) : Vigil ρ :=
  ⟨w, ⟨"", program, none⟩, ahead⟩

/-- What can come next. -/
inductive Move where
  /-- The task goes on. -/
  | turned
  /-- A wait for a change of the document is over, whether or not there is one. -/
  | timedOut
  /-- Something happens around the task. -/
  | befell
  /-- Time passes. -/
  | passed

/-- What can come next in a vigil. A task that waits for a change of the document or an instant may
go on with either of them when both have come about. Time does not pass over what is due. -/
inductive Goes : Vigil ρ → Move → Vigil ρ → Prop
  | turned {v : Vigil ρ} {w : World ScriptedPage} {t : Task ρ}
      (h : v.task.step? v.world = some (w, t)) :
      Goes v .turned { v with world := w, task := t }
  | timedOut {v : Vigil ρ} {cursor ms until_ : Nat} {next : Nat → Program ρ}
      (hprogram : v.task.program = .ask (.awaitChange cursor ms) next)
      (hwait : v.task.wait = some (.change until_)) (hdue : until_ ≤ v.world.now) :
      Goes v .timedOut { v with task := v.task.goOn (next cursor) }
  | befell {v : Vigil ρ} {i : Incident} {rest : List Incident} (hgoing : v.task.result? = none)
      (hahead : v.ahead = i :: rest) (hdue : i.at_ ≤ v.world.now) :
      Goes v .befell { v with world := i.befall v.world, ahead := rest }
  | passed {v : Vigil ρ} (hgoing : v.task.result? = none) (hwaits : v.task.step? v.world = none)
      (hahead : ∀ i ∈ v.ahead, v.world.now < i.at_) :
      Goes v .passed { v with world := { v.world with now := v.world.now + 1 } }

/-- Incidents that are still ahead, in order of time. -/
structure IsSchedule (now : Nat) (ahead : List Incident) : Prop where
  now_le : ∀ i ∈ ahead, now ≤ i.at_
  ordered : ahead.Pairwise fun i j => i.at_ ≤ j.at_

/-- What is left of a schedule is a schedule. -/
theorem IsSchedule.tail (h : IsSchedule now (i :: ahead)) : IsSchedule now ahead :=
  ⟨fun j hj => h.now_le j (List.mem_cons_of_mem i hj), h.ordered.of_cons⟩

/-- Time may pass where nothing is due. -/
theorem IsSchedule.pass (h : IsSchedule now ahead) (hahead : ∀ i ∈ ahead, now < i.at_) :
    IsSchedule (now + 1) ahead :=
  ⟨hahead, h.ordered⟩

/-- What is next in a schedule and is due is due right now. -/
theorem IsSchedule.at_eq (h : IsSchedule now (i :: ahead)) (hdue : i.at_ ≤ now) : i.at_ = now :=
  Nat.le_antisymm hdue (h.now_le i List.mem_cons_self)

/-- A vigil goes on as long as its task is not done. -/
theorem exists_goes (hgoing : v.task.result? = none) (h : IsSchedule v.world.now v.ahead) :
    ∃ m v', Goes v m v' := by
  cases hstep : v.task.step? v.world with
  | some next => exact ⟨_, _, .turned hstep⟩
  | none =>
    cases hahead : v.ahead with
    | nil => exact ⟨_, _, .passed hgoing hstep (by simp [hahead])⟩
    | cons i rest =>
      rw [hahead] at h
      -- If the first is not due, none is.
      rcases Nat.lt_or_ge v.world.now i.at_ with hlater | hdue
      · refine ⟨_, _, .passed hgoing hstep ?_⟩
        rw [hahead]
        exact List.forall_mem_cons.mpr
          ⟨hlater, fun j hj => Nat.lt_of_lt_of_le hlater (List.rel_of_pairwise_cons h.ordered hj)⟩
      · exact ⟨_, _, .befell hgoing hahead hdue⟩

end Vigil

end PageScript.Rehearsal
