import PageScript.Rehearsal.Task

/-!
# Several programs at once

Programs that run side by side in one world. At each instant every one of them goes on as far as it can, those made
earlier first; then the clock jumps to the next instant.
-/

namespace PageScript.Rehearsal

/-- A world and the tasks in it, in the order in which they were made. A task that has been aborted has come to
nothing. -/
structure Ensemble (π ρ : Type) where
  /-- The world. -/
  world : World π
  /-- The tasks. -/
  tasks : List (Task (Option ρ))

/-- A bound on what can go on at one instant. -/
def instantLimit : Nat := 1000000000

namespace Ensemble

variable {π ρ : Type}

/-- A step of the first task that can take one. -/
def stepFirst? [PlayedPage π] (w : World π) : List (Task ρ) → Option (World π × List (Task ρ))
  | [] => none
  | t :: rest =>
    match t.step? w with
    | some (w, t) => some (w, t :: rest)
    | none => (stepFirst? w rest).map fun stepped => (stepped.1, t :: stepped.2)

/-- Everything goes on that can at this instant. -/
def settleFor [PlayedPage π] : Nat → Ensemble π ρ → Ensemble π ρ
  | 0, e => e
  | fuel + 1, e =>
    match e.world.advance? with
    | some w => settleFor fuel { e with world := w }
    | none =>
      match stepFirst? e.world e.tasks with
      | some (w, tasks) => settleFor fuel ⟨w, tasks⟩
      | none => e

/-- Everything goes on until nothing can at this instant. -/
def settle [PlayedPage π] (e : Ensemble π ρ) : Ensemble π ρ :=
  e.settleFor instantLimit

/-- The next instant at which something can go on. -/
def nextTime? [PlayedPage π] (e : Ensemble π ρ) : Option Nat :=
  earliest (PlayedPage.nextTime? e.world :: e.tasks.map fun t => t.nextTime? e.world)

/-- Time passes until an instant. -/
def passTo [PlayedPage π] (until_ : Nat) : Nat → Ensemble π ρ → Ensemble π ρ
  | 0, e => e
  | fuel + 1, e =>
    match e.nextTime? with
    | some time =>
      if time ≤ until_ then passTo until_ fuel { e with world := { e.world with now := max e.world.now time } }.settle
      else { e with world := { e.world with now := until_ } }
    | none => { e with world := { e.world with now := until_ } }

/-- So many milliseconds pass. -/
def sleep [PlayedPage π] (e : Ensemble π ρ) (ms : Nat) : Ensemble π ρ :=
  e.passTo (e.world.now + ms) (ms + 1)

/-- Every task is done. -/
def isDone (e : Ensemble π ρ) : Bool :=
  e.tasks.all fun t => t.result?.isSome

/-- Time passes until every task is done, or until an instant. -/
def passUntilDone [PlayedPage π] (until_ : Nat) : Nat → Ensemble π ρ → Ensemble π ρ
  | 0, e => e
  | fuel + 1, e =>
    if e.isDone then e
    else
      match e.nextTime? with
      | some time =>
        if time ≤ until_ then
          passUntilDone until_ fuel { e with world := { e.world with now := max e.world.now time } }.settle
        else { e with world := { e.world with now := until_ } }
      | none => { e with world := { e.world with now := until_ } }

/-- Starts a program. -/
def start (e : Ensemble π ρ) (tag : String) (program : Program ρ) : Ensemble π ρ :=
  let task : Task (Option ρ) := ⟨tag, program.bind fun a => .done (some a), none⟩
  { e with tasks := e.tasks ++ [task] }

/-- Aborts the tasks of a list that have a tag and are not done. -/
def abortAll [PlayedPage π] (tag : String) (w : World π) :
    List (Task (Option ρ)) → World π × List (Task (Option ρ))
  | [] => (w, [])
  | t :: rest =>
    if t.tag = tag ∧ t.result?.isNone then
      let (w, rest) := abortAll tag (t.abandon w) rest
      (w, t.goOn (.done none) :: rest)
    else
      let (w, rest) := abortAll tag w rest
      (w, t :: rest)

/-- Aborts the tasks of a tag that are not done. -/
def abort [PlayedPage π] (e : Ensemble π ρ) (tag : String) : Ensemble π ρ :=
  let (w, tasks) := abortAll tag e.world e.tasks
  ⟨w, tasks⟩

/-- The tasks that are done, with what they have come to. -/
def finished (e : Ensemble π ρ) : List (String × Option ρ) :=
  e.tasks.filterMap fun t => t.result?.map fun result => (t.tag, result)

/-- Runs one program in a world, but no longer than so many milliseconds. -/
def runOne [PlayedPage π] (w : World π) (ms : Nat) (program : Program ρ) : World π × Option ρ :=
  let e : Ensemble π ρ := ⟨w, []⟩
  let e := (e.start "" program).settle.passUntilDone (w.now + ms) (ms + 1)
  (e.world, ((e.finished.head?).map Prod.snd).join)

/-- The tasks that are done are forgotten. -/
def clear (e : Ensemble π ρ) : Ensemble π ρ :=
  { e with tasks := e.tasks.filter fun t => t.result?.isNone }

end Ensemble

end PageScript.Rehearsal
