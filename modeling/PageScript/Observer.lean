import PageScript.Channel
import PageScript.Config.Basic
import PageScript.Event.Basic

/-!
# The observer

The observer takes in the events of a page. Significant ones count as activity, and are kept while the observer
collects, the oldest making room for the newest. Changes of the document are passed on to all who follow them,
significant or not. The listeners of the page are installed once for all runs.
-/

namespace PageScript

/-- The state of an observer. -/
structure Observer where
  /-- The settings. -/
  config : ObserverConfig
  /-- The events kept, the oldest first. -/
  buffer : List Event
  /-- Whether events are kept. -/
  collecting : Bool
  /-- Who is called with each event that is kept. -/
  callback : Option String
  /-- When the last significant event came, or the observer was made. -/
  lastActivity : Nat
  /-- The changes of the document. -/
  changes : Channel Event
  /-- Whether listeners are installed or an attempt to install them is under way. -/
  installed : Bool
deriving Repr

namespace Observer

/-- A new observer, made at a time. -/
def new (config : ObserverConfig) (now : Nat) : Observer where
  config := config
  buffer := []
  collecting := false
  callback := none
  lastActivity := now
  changes := .ofCapacity config.domChannelCapacity.toNat
  installed := false

/-- The number of events that are kept. -/
def capacity (o : Observer) : Nat :=
  max 1 o.config.bufferCapacity.toNat

/-- Begins to collect into an empty buffer. -/
def start (o : Observer) : Observer :=
  { o with buffer := [], collecting := true }

/-- Ends collecting. -/
def stop (o : Observer) : Observer :=
  { o with collecting := false }

/-- Ends collecting for a while. -/
def pause (o : Observer) : Observer :=
  { o with collecting := false }

/-- Goes on collecting into the same buffer. -/
def resume (o : Observer) : Observer :=
  { o with collecting := true }

/-- Empties the buffer. -/
def clear (o : Observer) : Observer :=
  { o with buffer := [] }

/-- The events kept. -/
def request (o : Observer) : List Event :=
  o.buffer

/-- Has someone called with each event kept from now on, and nobody else. -/
def register (o : Observer) (callback : String) : Observer :=
  { o with callback := some callback }

/-- Has nobody called any more. -/
def unregister (o : Observer) : Observer :=
  { o with callback := none }

/-- Appends an event to a buffer of a capacity, dropping the oldest events that find no room. -/
def keep (capacity : Nat) (buffer : List Event) (e : Event) : List Event :=
  (buffer ++ [e]).drop (buffer.length + 1 - capacity)

/-- Passes a change of the document on to those who follow the changes. -/
def passOn (o : Observer) (e : Event) : Observer :=
  if e.isDom then { o with changes := o.changes.post e } else o

/-- Takes in an event at a time. Gives whom it is reported to. -/
def ingest (o : Observer) (now : Nat) (e : Event) : Observer × Option String :=
  let o := o.passOn e
  if !e.isSignificant then (o, none)
  else
    let o := { o with lastActivity := now }
    if !o.collecting then (o, none)
    else ({ o with buffer := keep o.capacity o.buffer e }, o.callback)

/-- The time since the last activity. -/
def idle (o : Observer) (now : Nat) : Nat :=
  now - o.lastActivity

/-- How long a wait for quiet sleeps before it looks again, nothing when the page has been quiet long enough. -/
def quietDelay? (o : Observer) (now quiet : Nat) : Option Nat :=
  if quiet ≤ o.idle now then none
  else some (min (max 1 o.config.pollInterval.toNat) (quiet - o.idle now))

/-- Claims the installation of listeners. Gives whether the claim is new, and so the page is to be asked. -/
def claimInstall (o : Observer) : Observer × Bool :=
  ({ o with installed := true }, !o.installed)

/-- Gives up the claim after the page has refused. -/
def releaseInstall (o : Observer) : Observer :=
  { o with installed := false }

end Observer

end PageScript
