import PageScript.Rehearsal.World

/-!
# Tasks of a rehearsal

A task is a program under way. It runs until it waits for something, and goes on when that has come about.
-/

namespace PageScript.Rehearsal

variable {π ρ : Type}

/-- What a task waits for. -/
inductive Wait where
  /-- An instant. -/
  | time (until_ : Nat)
  /-- A quiet page; the task looks again at an instant. -/
  | quiet (look : Nat)
  /-- A change of the document, or an instant. -/
  | change (until_ : Nat)
  /-- The answer to a toast. -/
  | toast (pause : Pause)
  /-- The answer to a page call. -/
  | page (call : Nat)
deriving DecidableEq, Repr

/-- A program under way. While it waits, its next question is the one it waits on. -/
structure Task (ρ : Type) where
  /-- What the task is called. -/
  tag : String
  /-- What is left of the program. -/
  program : Program ρ
  /-- What the task waits for, nothing while it runs. -/
  wait : Option Wait

namespace Task

/-- What the program has come to. -/
def result? (t : Task ρ) : Option ρ :=
  match t.program with
  | .done a => some a
  | _ => none

/-- The task with what is left of its program, no longer waiting. -/
def goOn (t : Task ρ) (program : Program ρ) : Task ρ :=
  { t with program := program, wait := none }

/-- The instant at which a task goes on by itself. -/
def nextTime? (w : World π) (t : Task ρ) : Option Nat :=
  match t.wait with
  | some (.time t) => some t
  | some (.quiet look) => some look
  | some (.change t) => some t
  | some (.toast pause) => w.bridge.deadline? pause
  | some (.page _) => none
  | none => none

/-- Begins to wait for the answer to a question that takes time. A wait for quiet looks at once. -/
def begin [PlayedPage π] (w : World π) : Effect → World π × Wait
  | .sleep ms => (w, .time (w.now + ms))
  | .awaitChange _ ms => (w, .change (w.now + ms))
  | .toast message options =>
    let id := w.toastIds w.toasts
    let bridge := w.bridge.request w.now ⟨id, message, options⟩
    ({ w with bridge := bridge, toasts := w.toasts + 1 }, .toast ⟨id, w.now⟩)
  | .page request =>
    (PlayedPage.begin { w with calls := w.calls + 1 } w.calls request, .page w.calls)
  | _ => (w, .quiet w.now)

/-- The answer to the question a task waits on, once it has come about, and what the task waits for otherwise. -/
def look [PlayedPage π] (w : World π) (wait : Wait) : (e : Effect) → (e.Answer × World π) ⊕ Wait
  | .sleep _ =>
    match wait with
    | .time t => if t ≤ w.now then .inl ((), w) else .inr wait
    | _ => .inr wait
  | .quiet ms =>
    match wait with
    | .quiet look =>
      if look ≤ w.now then
        match w.observer.quietDelay? w.now ms with
        | none => .inl ((), w)
        | some delay => .inr (.quiet (w.now + delay))
      else .inr wait
    | _ => .inr wait
  | .awaitChange cursor _ =>
    match w.observer.changes.receive? cursor, wait with
    | some (_, next), _ => .inl ((next : Nat), w)
    | none, .change t => if t ≤ w.now then .inl (cursor, w) else .inr wait
    | none, _ => .inr wait
  | .toast _ _ =>
    match wait with
    | .toast pause =>
      match w.bridge.outcome? w.now pause with
      | some outcome => .inl (outcome, { w with bridge := w.bridge.finish pause.id })
      | none => .inr wait
    | _ => .inr wait
  | .page request =>
    match wait with
    | .page call =>
      match PlayedPage.answer? w call request with
      | some (answer, w) => .inl (answer, w)
      | none => .inr wait
    | _ => .inr wait
  | _ => .inr wait

/-- The next step of a task, if it can take one. -/
def step? [PlayedPage π] (w : World π) (t : Task ρ) : Option (World π × Task ρ) :=
  match t.program, t.wait with
  | .done _, _ => none
  | .await wait next, _ => some (w, t.goOn (.unfold wait next))
  | .ask e next, none =>
    match w.perform? e with
    | some (answer, w) => some (w, t.goOn (next answer))
    | none =>
      let (w, wait) := begin w e
      some (w, { t with wait := some wait })
  | .ask e next, some wait =>
    match look w wait e with
    | .inl (answer, w) => some (w, t.goOn (next answer))
    | .inr again => if again = wait then none else some (w, { t with wait := some again })

/-- Gives up what a task waits for. -/
def abandon [PlayedPage π] (w : World π) (t : Task ρ) : World π :=
  match t.wait with
  | some (.toast pause) => { w with bridge := w.bridge.finish pause.id }
  | some (.page call) => PlayedPage.abandon w call
  | _ => w

end Task

end PageScript.Rehearsal
