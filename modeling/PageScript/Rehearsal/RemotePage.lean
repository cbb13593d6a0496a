import PageScript.Interpreter
import PageScript.Rehearsal.World
import PageScript.Remote.Call
import PageScript.Remote.Reply

/-!
# Pages that are elsewhere

A page behind connections that take part in a rehearsal themselves: what they send comes in when the rehearsal says
so.
-/

namespace PageScript.Rehearsal

/-- A page that is elsewhere, and the calls to it that are under way. -/
structure RemotePage where
  /-- The page. -/
  remote : Remote
  /-- The calls, in the order in which they were made. -/
  underWay : List PendingCall

namespace RemotePage

/-- A page to which nobody is connected yet. -/
def new (config : RemoteConfig) : RemotePage :=
  ⟨.new config, []⟩

/-- Begins a call. -/
def begin (w : World RemotePage) (call : Nat) (request : PageRequest) : World RemotePage :=
  let r := w.page.remote.asked request
  { w with page := ⟨r, w.page.underWay ++ [.begin r w.now call request]⟩ }

/-- The first call that can goes on. -/
def advanceFirst? (r : Remote) (now : Nat) : List PendingCall → Option (Remote × List PendingCall)
  | [] => none
  | p :: rest =>
    match p.advance? r now with
    | some (r, p) => some (r, p :: rest)
    | none => (advanceFirst? r now rest).map fun advanced => (advanced.1, p :: advanced.2)

/-- The world after an event has been looked at. -/
def routed (w : World RemotePage) : Routed → World RemotePage
  | .nothing => w
  | .post m => { w with bridge := w.bridge.post m }
  | .observe e => w.ingest e

/-- What goes on inside: a toast is relayed, an event is looked at, or a call goes on. -/
def advance? (w : World RemotePage) : Option (World RemotePage) :=
  let r := w.page.remote
  match w.bridge.channel.receive? r.relayCursor with
  | some (received, cursor) =>
    some { w with page := { w.page with remote := { r.relay received with relayCursor := cursor } } }
  | none =>
    match r.events with
    | e :: rest =>
      let (r, outside) := { r with events := rest }.route e
      some (routed { w with page := { w.page with remote := r } } outside)
    | [] =>
      (advanceFirst? r w.now w.page.underWay).map fun advanced => { w with page := ⟨advanced.1, advanced.2⟩ }

/-- The call of a number, if it is under way. -/
def find? (p : RemotePage) (call : Nat) : Option PendingCall :=
  p.underWay.find? fun pending => pending.call = call

/-- Ends a call. -/
def finish (p : RemotePage) (pending : PendingCall) : RemotePage :=
  ⟨pending.leave p.remote, p.underWay.filter fun other => other.call ≠ pending.call⟩

/-- The answer to a call, once it has come to an outcome. -/
def answer? (w : World RemotePage) (call : Nat) (request : PageRequest) :
    Option (request.Answer × World RemotePage) := do
  let pending ← w.page.find? call
  let outcome ← pending.outcome? w.page.remote w.now
  return (request.answerOf outcome, { w with page := w.page.finish pending })

/-- Gives up a call. -/
def abandon (w : World RemotePage) (call : Nat) : World RemotePage :=
  match w.page.find? call with
  | some pending => { w with page := w.page.finish pending }
  | none => w

instance : PlayedPage RemotePage where
  begin := begin
  answer? := answer?
  abandon := abandon
  advance? := advance?
  nextTime? w := earliest (w.page.underWay.map PendingCall.nextTime?)

/-- Something happens to the page. -/
def change (f : Remote → Remote) (w : World RemotePage) : World RemotePage :=
  { w with page := { w.page with remote := f w.page.remote } }

end RemotePage

/-- What a task at a page that is elsewhere comes to. -/
inductive RemoteOutcome where
  | called (request : PageRequest) (answer : request.Answer)
  | asked (answer : Except BridgeError String)
  | ran (report : RunReport)
  | unread (error : ScriptError)

namespace RemoteOutcome

/-- Asks a page for one thing. -/
def ofCall (request : PageRequest) : Program RemoteOutcome :=
  .ask (.page request) fun answer => .done (.called request answer)

/-- Asks the operator. -/
def ofToast (message : String) : Program RemoteOutcome :=
  .ask (.toast message .standard) fun answer => .done (.asked answer)

/-- Runs a script. -/
def ofScript (config : InterpreterConfig) (script : String) : Program RemoteOutcome :=
  match Interpreter.runScript config script with
  | .ok run => run.bind fun report => .done (.ran report)
  | .error e => .done (.unread e)

end RemoteOutcome

end PageScript.Rehearsal
