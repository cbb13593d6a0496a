import PageScript.Config.Basic
import PageScript.Page.Error
import PageScript.Remote.Connection

/-!
# A page that is elsewhere

Requests go out, numbered from one, to all connections that are attached; a response is handed to the request of its
number if that is in the table of those pending. When no connection is attached any more, or no further event can
come, all pending requests fail.
-/

namespace PageScript

/-- A request that has been sent and waits. -/
structure RemoteCall where
  /-- Its number. -/
  id : Nat
  /-- When it was sent. -/
  since : Nat
  /-- How long it waits. -/
  timeout : Nat
deriving DecidableEq, Repr

/-- The state of a page that is elsewhere. -/
structure Remote where
  /-- How long a request waits, unless it says otherwise. -/
  requestTimeout : Nat
  /-- What is sent to the connections. -/
  outbound : Channel WireMessage
  /-- The connections attached. -/
  connections : List Connection
  /-- The numbers of the connections that have been detached and have not reported it yet. -/
  leaving : List Nat
  /-- The number of connections there have been. -/
  peers : Nat
  /-- The number of the next request. -/
  nextId : Nat
  /-- The numbers of the requests that may be handed a response. -/
  pending : List Nat
  /-- The responses handed over and not looked at yet. -/
  replies : List (Nat × Except PageError Json)
  /-- The cursor of the relay on the channel of toasts. -/
  relayCursor : Nat
  /-- Whether observed events are passed on. -/
  observing : Bool
  /-- The events that have been reported and not been looked at. -/
  events : List ServerEvent
  /-- Whether no further event can come. -/
  ended : Bool

/-- What an event of a connection asks for outside the page. -/
inductive Routed where
  | nothing
  | post (message : BridgeMessage)
  | observe (event : Event)

namespace Remote

/-- The number of messages that are kept for connections. -/
def outboundCapacity : Nat := 100

/-- How long after its own end a wait for an idle network may still be answered. -/
def networkIdleMargin : Nat := 1000

/-- How long a request sleeps between two looks for a connection. -/
def connectPoll : Nat := 50

/-- A page to which nobody is connected yet. -/
def new (config : RemoteConfig) : Remote where
  requestTimeout := config.requestTimeout.toNat
  outbound := .ofCapacity outboundCapacity
  connections := []
  leaving := []
  peers := 0
  nextId := 1
  pending := []
  replies := []
  relayCursor := 0
  observing := false
  events := []
  ended := false

/-- Reports an event, which is lost if nobody looks any more. -/
def report (r : Remote) (e : ServerEvent) : Remote :=
  if r.ended then r else { r with events := r.events ++ [e] }

/-- A connection is accepted, and attached from now on. -/
def accept (r : Remote) : Remote :=
  { r with connections := r.connections ++ [.accept r.peers r.outbound], peers := r.peers + 1 }

/-- The connections after the one of a number has come to what is left of it. -/
def replace (peer : Nat) (left : Option Connection) (connections : List Connection) : List Connection :=
  connections.flatMap fun c => if c.peer = peer then left.toList else [c]

/-- A connection takes a step. If it goes it is detached now, and reports later that it has gone. -/
def turn (r : Remote) (peer : Nat) (step : Connection → Turn) : Remote × List WireMessage :=
  match r.connections.find? fun c => c.peer = peer with
  | none => (r, [])
  | some c =>
    let turn := step c
    let detached := { r with
      connections := replace peer turn.left r.connections
      leaving := if turn.leaves then r.leaving ++ [peer] else r.leaving }
    (turn.reports.foldl report detached, turn.sends)

/-- A connection that has been detached reports that it has gone. -/
def part (r : Remote) (peer : Nat) : Remote :=
  if peer ∈ r.leaving then { r with leaving := r.leaving.erase peer }.report (.disconnected peer) else r

/-- A connection takes a step, and if it goes reports that at once. -/
def proceed (r : Remote) (peer : Nat) (step : Connection → Turn) : Remote × List WireMessage :=
  let (r, sent) := r.turn peer step
  (r.part peer, sent)

/-- A connection is accepted and greeted. -/
def connect (r : Remote) : Remote :=
  (r.accept.turn r.peers fun c => c.greet true).1

/-- A connection is given up by the other side. -/
def disconnect (r : Remote) (peer : Nat) : Remote :=
  (r.proceed peer fun c => c.read .close).1

/-- A connection forwards what is kept for it; the fuel bounds the number of messages. Gives what it sends. -/
def forwardFor (peer : Nat) : Nat → Remote → Remote × List WireMessage
  | 0, r => (r, [])
  | fuel + 1, r =>
    let (r, sent) := r.turn peer fun c => c.forward r.outbound true
    let (r, more) := forwardFor peer fuel r
    (r, sent ++ more)

/-- A connection forwards all that is kept for it. Gives what it sends. -/
def forwardAll (r : Remote) (peer : Nat) : Remote × List WireMessage :=
  forwardFor peer (r.outbound.capacity + 1) r

/-- All connections have read what has been sent. -/
def caughtUp (r : Remote) : Remote :=
  { r with connections := r.connections.map fun c => { c with cursor := r.outbound.follow } }

/-- A message comes in. -/
def inbound (r : Remote) (m : WireMessage) : Remote :=
  r.report (.message m)

/-- Sends a message to all connections. -/
def send (r : Remote) (m : WireMessage) : Remote :=
  { r with outbound := r.outbound.post m }

/-- Sends a message to all connections, unless there is none. -/
def send? (r : Remote) (m : WireMessage) : Option Remote :=
  if r.connections.isEmpty then none else some (r.send m)

/-- The next number is taken by a request, which may be handed a response from now on. -/
def register (r : Remote) : Remote :=
  { r with nextId := r.nextId + 1, pending := r.pending ++ [r.nextId] }

/-- Hands a response to the request of its number, if that is pending. -/
def settle (r : Remote) (id : Nat) (reply : Except PageError Json) : Remote :=
  if id ∈ r.pending then { r with pending := r.pending.erase id, replies := r.replies ++ [(id, reply)] } else r

/-- All pending requests fail. -/
def failAll (r : Remote) : Remote :=
  { r with
    pending := []
    replies := r.replies ++ r.pending.map fun id => (id, .error .connectionLost) }

/-- What a response says. -/
def replyOf (ok : Bool) (value : Json) (error : Option String) : Except PageError Json :=
  if ok then .ok value else .error (.remote (error.getD "unknown error"))

/-- Looks at an event. Requests of the other side are ignored. -/
def route (r : Remote) : ServerEvent → Remote × Routed
  | .connected _ => (r, .nothing)
  | .disconnected _ => (if r.connections.isEmpty then r.failAll else r, .nothing)
  | .message (.pageResponse id ok value error) => (r.settle id.toNat (replyOf ok value error), .nothing)
  | .message (.observed event) => (r, if r.observing then .observe event else .nothing)
  | .message (.toastResponse t) => (r, .post (.response t))
  | .message (.pageRequest _ _) => (r, .nothing)
  | .message (.toastRequest _) => (r, .nothing)

/-- No further event can come. -/
def endEvents (r : Remote) : Remote :=
  { r.failAll with ended := true, events := [] }

/-- The relay takes in what it reads on the channel of toasts: toasts are sent on if anybody is connected, answers are
not. -/
def relay (r : Remote) : Received BridgeMessage → Remote
  | .message (.request t) => (r.send? (.toastRequest t)).getD r
  | .message (.response _) => r
  | .lagged _ => r

/-- What a request that looks at a time comes to: a response handed over counts before the end of its time. -/
def outcome? (r : Remote) (now : Nat) (call : RemoteCall) : Option (Except PageError Json) :=
  match r.replies.lookup call.id with
  | some reply => some reply
  | none =>
    if call.since + call.timeout ≤ now then
      some (.error (.timeout s!"page request {call.id} got no response within {call.timeout}ms"))
    else none

/-- Ends a request, however it ended: it can no longer be handed a response. -/
def finish (r : Remote) (id : Nat) : Remote :=
  { r with
    pending := r.pending.erase id
    replies := r.replies.filter fun reply => reply.1 ≠ id }

/-- How long a request waits for its response. -/
def timeoutOf (r : Remote) : PageRequest → Nat
  | .networkIdle timeout => max r.requestTimeout (timeout.toNat + networkIdleMargin)
  | _ => r.requestTimeout

end Remote

end PageScript
