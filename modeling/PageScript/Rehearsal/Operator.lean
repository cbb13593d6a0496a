import PageScript.Rehearsal.World

/-!
# Operators

An operator who follows the toast channel and answers the toasts one after another as planned: the answers to the
n-th toast are given in order, each after its delay, before the next toast is looked at.
-/

namespace PageScript.Rehearsal

/-- A planned answer. -/
structure PlannedAnswer where
  /-- How long the operator waits first. -/
  delay : Nat
  /-- The id to answer, if it is not that of the toast. -/
  id : Option String
  /-- The answer, nothing for no answer. -/
  action : Option String
deriving DecidableEq, Repr

/-- The operator of a rehearsal. -/
structure Operator where
  /-- The cursor on the channel. -/
  cursor : Nat
  /-- The answers to the toasts to come. -/
  plans : List (List PlannedAnswer)
  /-- The id of the toast that is being answered, the answers left, and the instant of the next one. -/
  busy : Option (String × List PlannedAnswer × Nat)
  /-- The toasts shown since this was last asked. -/
  shown : List ToastRequest
deriving Repr

namespace Operator

/-- An operator with a plan. -/
def new (plans : List (List PlannedAnswer)) : Operator :=
  ⟨0, plans, none, []⟩

/-- Begins to give answers. -/
def answering (o : Operator) (now : Nat) (id : String) : List PlannedAnswer → Operator
  | [] => { o with busy := none }
  | answer :: rest => { o with busy := some (id, answer :: rest, now + answer.delay) }

/-- The message of an answer. -/
def messageOf (toast : String) (answer : PlannedAnswer) : Option BridgeMessage :=
  answer.action.map fun action => .response ⟨answer.id.getD toast, .ofWord action⟩

/-- The next step of the operator, if he can take one. -/
def step? {π : Type} (w : World π) (o : Operator) : Option (World π × Operator) :=
  match o.busy with
  | some (_, [], _) => some (w, { o with busy := none })
  | some (id, answer :: rest, due) =>
    if due ≤ w.now then
      let bridge := match messageOf id answer with
        | some m => w.bridge.post m
        | none => w.bridge
      some ({ w with bridge := bridge }, o.answering w.now id rest)
    else none
  | none =>
    match w.bridge.channel.receive? o.cursor with
    | none => none
    | some (received, cursor) =>
      let o := { o with cursor := cursor }
      match received with
      | .message (.request toast) =>
        let plan := o.plans.headD []
        let o := { o with plans := o.plans.drop 1, shown := o.shown ++ [toast] }
        some (w, o.answering w.now toast.id plan)
      | _ => some (w, o)

/-- The instant of the next answer. -/
def nextTime? (o : Operator) : Option Nat :=
  o.busy.map fun busy => busy.2.2

end Operator

end PageScript.Rehearsal
