import PageScript.Bridge
import PageScript.Event.Basic
import PageScript.Page.Reply
import PageScript.Report
import PageScript.Store.Basic

/-!
# Programs

A program asks its surroundings for one thing after another and goes on with each answer. What it does is a value:
the surroundings may be a page that is played, a page that is elsewhere, or any list of answers. The one thing that
may take any number of questions, waiting for an element, is a program of its own that is unfolded round by round.
-/

namespace PageScript

/-- What a program asks of its surroundings. -/
inductive Effect where
  /-- A request to the page. -/
  | page (request : PageRequest)
  /-- Time passes. -/
  | sleep (ms : Nat)
  /-- The time since some start, in milliseconds. -/
  | clock
  /-- The time since the epoch, in milliseconds. -/
  | wallClock
  /-- Claims the installation of listeners; the answer says whether the page is to be asked. -/
  | claimInstall
  /-- Gives the claim up. -/
  | releaseInstall
  /-- The observer begins to collect into an empty buffer. -/
  | startObserver
  /-- The observer ends collecting. -/
  | stopObserver
  /-- The observer empties its buffer. -/
  | clearObserver
  /-- The events the observer keeps. -/
  | observed
  /-- Time passes until the page has been quiet for so long. -/
  | quiet (ms : Nat)
  /-- Begins to follow the changes of the document; the answer is a cursor. -/
  | followChanges
  /-- Time passes until there is a change to read or so much time is over; the answer is the cursor after it. -/
  | awaitChange (cursor ms : Nat)
  /-- Shows a toast and waits for its answer. -/
  | toast (message : String) (options : ToastOptions)
  /-- Saves a recipe. -/
  | saveRecipe (recipe : Recipe)
  /-- Loads the recipe of a name. -/
  | loadRecipe (name : String)
  /-- Writes an image into a file, making the directories it needs. -/
  | writeImage (path : String) (bytes : List UInt8)
  /-- The interpreter is in a state from now on. -/
  | enter (state : RunState)
  /-- Hands the log of a run to the sink; the answer says whether that succeeded. -/
  | flush (log : RunLog)

namespace Effect

/-- The answer to what a program asks. -/
def Answer : Effect → Type
  | .page request => request.Answer
  | .sleep _ => Unit
  | .clock => Nat
  | .wallClock => UInt64
  | .claimInstall => Bool
  | .releaseInstall => Unit
  | .startObserver => Unit
  | .stopObserver => Unit
  | .clearObserver => Unit
  | .observed => List Event
  | .quiet _ => Unit
  | .followChanges => Nat
  | .awaitChange _ _ => Nat
  | .toast _ _ => Except BridgeError String
  | .saveRecipe _ => Except StoreError Unit
  | .loadRecipe _ => Except StoreError (Option Recipe)
  | .writeImage _ _ => Except FileError Unit
  | .enter _ => Unit
  | .flush _ => Except FileError Unit

end Effect

/-- A wait for an element. -/
structure ElementWait where
  /-- The selector of the element. -/
  selector : String
  /-- When the wait is over. -/
  deadline : Nat
  /-- How much time passes between two looks when the document does not change. -/
  poll : Nat
  /-- The cursor on the changes of the document. -/
  cursor : Nat
deriving DecidableEq, Repr

/-- A program that comes to a value. -/
inductive Program (α : Type) where
  | done (a : α)
  | ask (e : Effect) (next : e.Answer → Program α)
  | await (wait : ElementWait) (next : Except PageError Bool → Program α)

namespace Program

/-- A program followed by another one. -/
def bind : Program α → (α → Program β) → Program β
  | .done a, f => f a
  | .ask e next, f => .ask e fun answer => (next answer).bind f
  | .await wait next, f => .await wait fun found => (next found).bind f

instance : Monad Program where
  pure := .done
  bind := .bind

/-- Asks for one thing. -/
def perform (e : Effect) : Program e.Answer :=
  .ask e .done

end Program

/-- One look for the element, and a pause if it is not there and the wait is not over. Gives the wait that is left,
or whether the element was found. -/
def ElementWait.round (w : ElementWait) : Program (ElementWait ⊕ Except PageError Bool) :=
  .ask (.page (.queryAll w.selector)) fun
    | .error e => .done (.inr (.error e))
    | .ok (_ :: _) => .done (.inr (.ok true))
    | .ok [] =>
      .ask .clock fun (now : Nat) =>
        if w.deadline ≤ now then .done (.inr (.ok false))
        else .ask (.awaitChange w.cursor (min w.poll (w.deadline - now))) fun (cursor : Nat) =>
          .done (.inl { w with cursor := cursor })

/-- A wait followed by a program, with its first round unfolded. -/
def Program.unfold (w : ElementWait) (next : Except PageError Bool → Program α) : Program α :=
  w.round.bind fun
    | .inl rest => .await rest next
    | .inr found => next found

end PageScript
