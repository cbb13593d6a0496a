import PageScript.Remote.Basic

/-!
# Receptions

Clients come to a server over a network, if there is one, and what they send and get is looked at step by step.
-/

namespace PageScript.Rehearsal

/-- Why a client does not get to a server. -/
inductive NetworkError where
  | unreachable
deriving DecidableEq, Repr

/-- The wording of a network error. -/
def NetworkError.message : NetworkError → String
  | .unreachable => "Network is unreachable (os error 101)"

/-- A server and the clients that have come to it. -/
structure Reception where
  /-- Whether there is a network. -/
  network : Bool
  /-- The page behind the server. -/
  remote : Remote
  /-- The numbers of the clients. -/
  clients : List Nat

/-- What is seen of a step. -/
structure Sight where
  /-- What the connections have reported. -/
  events : List ServerEvent
  /-- The number of connections that are attached. -/
  connections : Nat

namespace Reception

/-- A server to which nobody has come. -/
def new (network : Bool) : Reception :=
  ⟨network, .new .standard, []⟩

/-- A client comes to the server and is accepted. -/
def arrive (r : Reception) (understood : Bool) : Except NetworkError Reception :=
  if r.network then
    let peer := r.remote.peers
    .ok { r with
      remote := (r.remote.accept.turn peer fun c => c.greet understood).1
      clients := if understood then r.clients ++ [peer] else r.clients }
  else .error .unreachable

/-- Something comes in from a client. -/
def receive (r : Reception) (peer : Nat) (incoming : Incoming) : Reception :=
  { r with
    remote := (r.remote.proceed peer fun c => c.read incoming).1
    clients := match incoming with
      | .close => r.clients.erase peer
      | .failure => r.clients.erase peer
      | .ended => r.clients.erase peer
      | _ => r.clients }

/-- Messages are sent to all clients. Gives what each of them gets. -/
def send (r : Reception) (messages : List WireMessage) : Reception × List (List WireMessage) :=
  let remote := messages.foldl Remote.send r.remote
  let (remote, got) := r.clients.foldl (fun (remote, got) peer =>
    let (remote, sent) := remote.forwardAll peer
    (remote, got ++ [sent])) (remote, [])
  ({ r with remote := remote }, got)

/-- What is seen now, and the reception with that forgotten. -/
def look (r : Reception) : Sight × Reception :=
  (⟨r.remote.events, r.remote.connections.length⟩, { r with remote := { r.remote with events := [] } })

end Reception

end PageScript.Rehearsal
