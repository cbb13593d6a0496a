import PageScript.Observer
import PageScript.Program

/-!
# Rehearsals

A rehearsal runs programs without a browser: the clock is virtual and jumps to the next instant at which something
happens, and the page is played. The world is what surrounds the programs of a rehearsal.
-/

namespace PageScript.Rehearsal

/-- The surroundings of the programs of a rehearsal, with a page of some kind. -/
structure World (π : Type) where
  /-- The time in milliseconds. -/
  now : Nat
  /-- What a clock outside shows, in milliseconds since the epoch. -/
  outside : UInt64
  /-- The observer. -/
  observer : Observer
  /-- Who has been called with which event. -/
  reports : List (String × Event)
  /-- The pause bridge. -/
  bridge : Bridge
  /-- The recipe store. -/
  store : Store
  /-- The page. -/
  page : π
  /-- The paths and contents of the images written. -/
  images : List (String × List UInt8)
  /-- The logs handed to the sink. -/
  flushed : List RunLog
  /-- The state of the interpreter. -/
  state : RunState
  /-- The ids of toasts, by the number of those shown before. -/
  toastIds : Nat → String
  /-- The number of toasts shown. -/
  toasts : Nat
  /-- The number of page calls begun. -/
  calls : Nat

/-- A page that can take part in a rehearsal. Calls are known by numbers. -/
class PlayedPage (π : Type) where
  /-- Begins a call. -/
  begin : World π → Nat → PageRequest → World π
  /-- The answer to a call, once there is one. -/
  answer? : World π → Nat → (request : PageRequest) → Option (request.Answer × World π)
  /-- Gives up a call. -/
  abandon : World π → Nat → World π
  /-- What goes on inside the page, if anything does. -/
  advance? : World π → Option (World π)
  /-- The next instant at which a call may get its answer by itself. -/
  nextTime? : World π → Option Nat

/-- The earliest of some instants. -/
def earliest (times : List (Option Nat)) : Option Nat :=
  (times.filterMap id).min?

namespace World

variable {π : Type}

/-- The world at the beginning of a rehearsal. -/
def new (observer : ObserverConfig) (bridge : BridgeConfig) (store : Store) (page : π) : World π where
  now := 0
  outside := 0
  observer := .new observer 0
  reports := []
  bridge := .new bridge
  store := store
  page := page
  images := []
  flushed := []
  state := .idle
  toastIds n := s!"<toast-{n + 1}>"
  toasts := 0
  calls := 0

/-- An event reaches the observer. -/
def ingest (w : World π) (e : Event) : World π :=
  let (observer, callback) := w.observer.ingest w.now e
  { w with observer := observer, reports := w.reports ++ callback.toList.map fun name => (name, e) }

/-- What goes on by itself, if anything does: the listener of the bridge reads, or something happens in the page. -/
def advance? [PlayedPage π] (w : World π) : Option (World π) :=
  match w.bridge.listen? with
  | some bridge => some { w with bridge := bridge }
  | none => PlayedPage.advance? w

/-- The world with another observer. -/
def observing (w : World π) (f : Observer → Observer) : World π :=
  { w with observer := f w.observer }

/-- What the world answers at once, if it does. -/
def perform? (w : World π) : (e : Effect) → Option (e.Answer × World π)
  | .clock => some (w.now, w)
  | .wallClock => some (w.outside, w)
  | .claimInstall => some (w.observer.claimInstall.2, w.observing fun o => o.claimInstall.1)
  | .releaseInstall => some ((), w.observing Observer.releaseInstall)
  | .startObserver => some ((), w.observing Observer.start)
  | .stopObserver => some ((), w.observing Observer.stop)
  | .clearObserver => some ((), w.observing Observer.clear)
  | .observed => some (w.observer.request, w)
  | .followChanges => some (w.observer.changes.follow, w)
  | .saveRecipe recipe =>
    match w.store.save recipe with
    | .ok store => some (Except.ok (), { w with store := store })
    | .error e => some (Except.error e, w)
  | .loadRecipe name => some (w.store.load name, w)
  | .writeImage path bytes =>
    some (Except.ok (), { w with images := (w.images.filter fun image => image.1 ≠ path) ++ [(path, bytes)] })
  | .enter state => some ((), { w with state := state })
  | .flush log => some (Except.ok (), { w with flushed := RunLog.keepIn w.flushed log })
  | .page _ => none
  | .sleep _ => none
  | .quiet _ => none
  | .awaitChange _ _ => none
  | .toast _ _ => none

end World

end PageScript.Rehearsal
