import PageScript.Channel
import PageScript.Record.Text
import PageScript.Wire

/-!
# Connections

A connection is attached from the moment it is accepted: what is sent from then on is kept for it. It reports that it
is there once the other side has been greeted, and then each message that comes in. Whatever else comes in, and
whatever it misses of what is sent, changes nothing. A connection that goes is detached first; that it has gone is
reported last, in a step of its own.
-/

namespace PageScript

/-- What connections report. A connection is known by a number. -/
inductive ServerEvent where
  | connected (peer : Nat)
  | message (message : WireMessage)
  | disconnected (peer : Nat)

/-- A connection that is attached. -/
structure Connection where
  /-- Its number. -/
  peer : Nat
  /-- Its cursor on what is sent. -/
  cursor : Nat
  /-- Whether the other side has been greeted. -/
  greeted : Bool
deriving DecidableEq, Repr

/-- What comes in on a connection. -/
inductive Incoming where
  /-- A text. -/
  | text (s : String)
  /-- Bytes, or a sign of life. -/
  | other
  /-- The other side takes its leave. -/
  | close
  /-- Reading fails. -/
  | failure
  /-- There is nothing left to read. -/
  | ended
deriving DecidableEq, Repr

/-- What a step of a connection comes to. -/
structure Turn where
  /-- What is left of the connection, if it is still attached. -/
  left : Option Connection
  /-- What it reports at once. -/
  reports : List ServerEvent
  /-- What it sends to the other side. -/
  sends : List WireMessage
  /-- Whether it has been detached and is yet to report that it has gone. -/
  leaves : Bool

namespace Connection

/-- A connection that is accepted now. -/
def accept (peer : Nat) (outbound : Channel WireMessage) : Connection :=
  ⟨peer, outbound.follow, false⟩

/-- Nothing is sent or reported. -/
def rest (c : Connection) : Turn :=
  ⟨some c, [], [], false⟩

/-- The connection is given up. Only one that has been greeted is going to report that. -/
def leave (c : Connection) : Turn :=
  ⟨none, [], [], c.greeted⟩

/-- The other side is greeted, if it understands. -/
def greet (c : Connection) (understood : Bool) : Turn :=
  if c.greeted then c.rest
  else if understood then ⟨some { c with greeted := true }, [.connected c.peer], [], false⟩
  else c.leave

/-- Takes in what comes in. A text that is no message is passed over. -/
def read (c : Connection) (incoming : Incoming) : Turn :=
  if c.greeted then
    match incoming with
    | .text s =>
      match WireMessage.decoder.ofText s with
      | .ok m => ⟨some c, [.message m], [], false⟩
      | .error _ => c.rest
    | .other => c.rest
    | .close => c.leave
    | .failure => c.leave
    | .ended => c.leave
  else c.rest

/-- Sends on the next message that is kept, if there is one. The connection is given up if sending fails. -/
def forward (c : Connection) (outbound : Channel WireMessage) (works : Bool) : Turn :=
  if c.greeted then
    match outbound.receive? c.cursor with
    | none => c.rest
    | some (.lagged _, cursor) => ⟨some { c with cursor := cursor }, [], [], false⟩
    | some (.message m, cursor) =>
      if works then ⟨some { c with cursor := cursor }, [], [m], false⟩ else c.leave
  else c.rest

end Connection

end PageScript
