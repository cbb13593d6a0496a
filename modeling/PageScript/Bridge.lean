import PageScript.Channel
import PageScript.Config.Basic
import PageScript.Toast

/-!
# The pause bridge

A request posts a toast on the channel and waits for its answer. A listener reads the channel and hands each answer
to the request that its id names, if that request is in the table of those pending. A request that has been handed
an answer has been settled, even if its time runs out before it looks.
-/

namespace PageScript

/-- Why a pause did not end well. -/
inductive BridgeError where
  | cancelled (id : String)
  | expired (id : String) (timeout : UInt64)
  | closed
deriving DecidableEq, Repr

/-- The wording of a bridge error. -/
def BridgeError.message : BridgeError → String
  | .cancelled id => "User cancelled interaction " ++ id
  | .expired id timeout => s!"No response to interaction {id} within {timeout.toNat}ms"
  | .closed => "Bridge closed before a response arrived"

/-- A request that waits. -/
structure Pause where
  /-- The id of its toast. -/
  id : String
  /-- When it was made. -/
  since : Nat
deriving DecidableEq, Repr

/-- The state of a pause bridge and its channel. -/
structure Bridge where
  /-- The channel. -/
  channel : Channel BridgeMessage
  /-- The cursor of the listener. -/
  cursor : Nat
  /-- The ids of the requests that may be handed an answer. -/
  pending : List String
  /-- The answers handed over and not looked at yet. -/
  answers : List (String × ToastAction)
  /-- The requests that wait. -/
  waiting : List Pause
  /-- How long a request waits. -/
  timeout : Option UInt64
deriving Repr

namespace Bridge

/-- What a request gives when the operator goes on. -/
def continued : String := "User chose to continue"

/-- A bridge on a new channel. -/
def new (config : BridgeConfig) : Bridge where
  channel := .ofCapacity config.channelCapacity.toNat
  cursor := 0
  pending := []
  answers := []
  waiting := []
  timeout := config.responseTimeout

/-- Posts a message. -/
def post (b : Bridge) (m : BridgeMessage) : Bridge :=
  { b with channel := b.channel.post m }

/-- Makes a request for a toast of an id at a time. -/
def request (b : Bridge) (now : Nat) (toast : ToastRequest) : Bridge :=
  let pause : Pause := ⟨toast.id, now⟩
  { b.post (.request toast) with pending := b.pending ++ [toast.id], waiting := b.waiting ++ [pause] }

/-- Hands an answer to the request of its id, if that is pending. -/
def settle (b : Bridge) (r : ToastResponse) : Bridge :=
  if r.id ∈ b.pending then
    { b with pending := b.pending.erase r.id, answers := b.answers ++ [(r.id, r.action)] }
  else b

/-- The listener takes in what it reads. -/
def hear (b : Bridge) : Received BridgeMessage → Bridge
  | .message (.response r) => b.settle r
  | .message (.request _) => b
  | .lagged _ => b

/-- One step of the listener, if there is something to read. -/
def listen? (b : Bridge) : Option Bridge :=
  (b.channel.receive? b.cursor).map fun received => { b.hear received.1 with cursor := received.2 }

/-- The listener reads until nothing is left. -/
def listenAll (b : Bridge) : Bridge :=
  { (b.channel.drain b.cursor).foldl hear b with cursor := b.channel.follow }

/-- When the time of a request runs out. -/
def deadline? (b : Bridge) (p : Pause) : Option Nat :=
  b.timeout.map fun timeout => p.since + timeout.toNat

/-- What a request that looks at a time comes to: an answer handed over counts before the end of its time. A request
without an answer that is no longer in the table can get none. -/
def outcome? (b : Bridge) (now : Nat) (p : Pause) : Option (Except BridgeError String) :=
  match b.answers.lookup p.id with
  | some .continue => some (.ok continued)
  | some _ => some (.error (.cancelled p.id))
  | none =>
    if p.id ∉ b.pending then some (.error .closed)
    else
      match b.timeout with
      | none => none
      | some timeout => if p.since + timeout.toNat ≤ now then some (.error (.expired p.id timeout)) else none

/-- Ends a request, however it ended: it no longer waits and can no longer be handed an answer. -/
def finish (b : Bridge) (id : String) : Bridge :=
  { b with
    pending := b.pending.erase id
    answers := b.answers.filter fun answer => answer.1 ≠ id
    waiting := b.waiting.filter fun p => p.id ≠ id }

end Bridge

end PageScript
