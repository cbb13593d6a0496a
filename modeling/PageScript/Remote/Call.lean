import PageScript.Remote.Basic

/-!
# Calls of a page that is elsewhere

A call first waits for a connection, looking again and again until its time is over. Then it takes a number, and its
request is sent, which fails if nobody is attached any more. From then on it waits for its response.
-/

namespace PageScript

/-- How far a call has come. -/
inductive CallProgress where
  /-- It looks for a connection at an instant, and gives up at the first look at or after its deadline. -/
  | connecting (deadline look : Nat)
  /-- It has taken a number, and is about to be sent. -/
  | numbered (id : Nat)
  /-- It has been sent. -/
  | sent (call : RemoteCall)
deriving DecidableEq, Repr

/-- The number that a request has taken. -/
def CallProgress.id? : CallProgress → Option Nat
  | .connecting _ _ => none
  | .numbered id => some id
  | .sent call => some call.id

/-- A call under way. -/
structure PendingCall where
  /-- The number of the call. -/
  call : Nat
  /-- What is asked. -/
  request : PageRequest
  /-- How far it has come. -/
  progress : CallProgress
deriving DecidableEq, Repr

namespace PendingCall

/-- A call that is made at a time. -/
def begin (r : Remote) (now call : Nat) (request : PageRequest) : PendingCall :=
  ⟨call, request, .connecting (now + r.requestTimeout) now⟩

/-- A call goes on, if it can: it looks for a connection when it is time to, or sends its request. -/
def advance? (r : Remote) (now : Nat) (p : PendingCall) : Option (Remote × PendingCall) :=
  match p.progress with
  | .connecting deadline look =>
    if now < look then none
    else if !r.connections.isEmpty then some (r.register, { p with progress := .numbered r.nextId })
    else if deadline ≤ now then none
    else some (r, { p with progress := .connecting deadline (now + Remote.connectPoll) })
  | .numbered id =>
    (r.send? (.pageRequest (UInt64.ofNat id) p.request)).map fun sent =>
      (sent, { p with progress := .sent ⟨id, now, r.timeoutOf p.request⟩ })
  | .sent _ => none

/-- What a call that looks at a time comes to: it has found no connection in time, could not be sent, or has come to
the outcome of its request. -/
def outcome? (r : Remote) (now : Nat) (p : PendingCall) : Option (Except PageError Json) :=
  match p.progress with
  | .connecting deadline look =>
    if look ≤ now ∧ r.connections.isEmpty ∧ deadline ≤ now then some (.error .notReady) else none
  | .numbered _ => if r.connections.isEmpty then some (.error .connectionLost) else none
  | .sent call => r.outcome? now call

/-- Ends a call, however it ended. -/
def leave (r : Remote) (p : PendingCall) : Remote :=
  match p.progress.id? with
  | some id => r.finish id
  | none => r

/-- The next instant at which a call goes on by itself. -/
def nextTime? (p : PendingCall) : Option Nat :=
  match p.progress with
  | .connecting _ look => some look
  | .numbered _ => none
  | .sent call => some (call.since + call.timeout)

end PendingCall

namespace Remote

/-- A page is asked for something. Once listeners have been asked for, observed events are passed on. -/
def asked (r : Remote) : PageRequest → Remote
  | .installListeners => { r with observing := true }
  | _ => r

end Remote

end PageScript
