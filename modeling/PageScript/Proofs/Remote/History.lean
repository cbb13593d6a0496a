import PageScript.Proofs.Ledger
import PageScript.Remote.Call

/-!
# Histories of a page that is elsewhere

Any number of calls are under way at a page; connections come, are greeted, bring in whatever they
like and go; what they report is looked at in order; toasts are relayed, and time passes. A call ends
when it comes to an outcome, or when nobody waits for it any more. The module describes these steps
and what the page keeps of each request: the first response to it, or that it was lost, whichever was
first.

* `Remote.Happens.sameRequests`, `Remote.Happens.sameServer` — what a step leaves as it is;
* `Remote.Happens.ledger_eq` — what a step changes in the ledger of requests;
* `Remote.holds_iff` — which call has which number;
* `Remote.keeps_firstReply` — what is kept of a request;
* `Remote.mem_pending_iff` — which numbers are pending.
-/

namespace PageScript

@[simp]
theorem CallProgress.id?_connecting (deadline look : Nat) :
    (CallProgress.connecting deadline look).id? = none :=
  rfl

@[simp]
theorem CallProgress.id?_numbered (id : Nat) : (CallProgress.numbered id).id? = some id :=
  rfl

@[simp]
theorem CallProgress.id?_sent (call : RemoteCall) : (CallProgress.sent call).id? = some call.id :=
  rfl

/-- The ways in which a call goes on. -/
inductive PendingCall.Goes (r : Remote) (now : Nat) (p : PendingCall) : Remote → PendingCall → Prop
  /-- It has found no connection, and will look again. -/
  | looked {deadline look : Nat} (h : p.progress = .connecting deadline look) (hlook : look ≤ now)
      (hnone : r.connections = []) (hbefore : now < deadline) :
      Goes r now p r { p with progress := .connecting deadline (now + Remote.connectPoll) }
  /-- It has found a connection, and takes a number. -/
  | numbered {deadline look : Nat} (h : p.progress = .connecting deadline look) (hlook : look ≤ now)
      (hsome : r.connections ≠ []) :
      Goes r now p r.register { p with progress := .numbered r.nextId }
  /-- Its request is sent. -/
  | sent {id : Nat} (h : p.progress = .numbered id) (hsome : r.connections ≠ []) :
      Goes r now p (r.send (.pageRequest (UInt64.ofNat id) p.request))
        { p with progress := .sent ⟨id, now, r.timeoutOf p.request⟩ }

/-- A call that can advance goes on as it says. -/
theorem PendingCall.goes_of_advance? {r s : Remote} {now : Nat} {p q : PendingCall}
    (h : p.advance? r now = some (s, q)) : p.Goes r now s q := by
  obtain ⟨call, request, progress⟩ := p
  -- A call waits for a connection, takes a number, and sends. Once sent it only waits for its
  -- reply.
  cases progress with
  | connecting deadline look =>
    simp only [advance?] at h
    split at h
    next => cases h
    next hlook =>
      split at h
      next hsome =>
        obtain ⟨rfl, rfl⟩ := Prod.mk.inj (Option.some.inj h)
        exact .numbered rfl (Nat.not_lt.mp hlook) (by simpa using hsome)
      next hnone =>
        split at h
        next => cases h
        next hbefore =>
          obtain ⟨rfl, rfl⟩ := Prod.mk.inj (Option.some.inj h)
          exact .looked rfl (Nat.not_lt.mp hlook) (by simpa using hnone) (Nat.not_le.mp hbefore)
  | numbered id =>
    obtain ⟨sent, hsent, heq⟩ := Option.map_eq_some_iff.mp h
    obtain ⟨rfl, rfl⟩ := Prod.mk.inj heq
    simp only [Remote.send?, Option.ite_none_left_eq_some, Option.some.injEq] at hsent
    obtain ⟨hsome, rfl⟩ := hsent
    exact .sent rfl (by simpa using hsome)
  | sent call => cases h

namespace Remote

/-- A page at an instant, with the calls under way and the number of calls that have been made. -/
structure Moment where
  /-- The page. -/
  remote : Remote
  /-- The calls under way. -/
  calls : List PendingCall
  /-- The number of calls made so far. -/
  made : Nat
  /-- The instant. -/
  now : Nat

/-- A page to which nobody is connected, and which nobody has called. -/
def Moment.start (config : RemoteConfig) : Moment :=
  ⟨.new config, [], 0, 0⟩

/-- The calls under way apart from one. -/
def Moment.others (x : Moment) (p : PendingCall) : List PendingCall :=
  x.calls.filter fun q => q.call ≠ p.call

/-- What happens at a page. -/
inductive Event where
  /-- A call is made. -/
  | called (p : PendingCall)
  /-- A call goes on, and has come so far. -/
  | advanced (p : PendingCall)
  /-- A call comes to an outcome. -/
  | completed (p : PendingCall) (outcome : Except PageError Json)
  /-- Nobody waits for a call any more. -/
  | dropped (p : PendingCall)
  /-- A connection is accepted. -/
  | accepted
  /-- A connection is greeted. -/
  | greeted (peer : Nat) (understood : Bool)
  /-- Something comes in on a connection. -/
  | read (peer : Nat) (incoming : Incoming)
  /-- A connection forwards what is kept for it. -/
  | forwarded (peer : Nat) (works : Bool)
  /-- A connection that has been detached reports that it has gone. -/
  | parted (peer : Nat)
  /-- A report is looked at, while a connection is attached or none is. -/
  | routed (report : ServerEvent) (attached : Bool)
  /-- The relay reads the channel of toasts. -/
  | relayed (received : Received BridgeMessage)
  /-- No further report can come. -/
  | ended
  /-- Time passes. -/
  | passed (ms : Nat)

namespace Event

/-- A call is made. -/
def Makes (call : Nat) : Event → Prop
  | .called p => p.call = call
  | _ => False

/-- A call takes a number, and may be handed a response from now on. -/
def Takes (call id : Nat) : Event → Prop
  | .advanced p => p.call = call ∧ p.progress = .numbered id
  | _ => False

/-- The request of a call is sent, and waits for a response from now on, up to a limit. -/
def Sends (call limit : Nat) : Event → Prop
  | .advanced p => p.call = call ∧ ∃ sent, p.progress = .sent sent ∧ sent.timeout = limit
  | _ => False

/-- A call ends. -/
def Ends (call : Nat) : Event → Prop
  | .completed p _ => p.call = call
  | .dropped p => p.call = call
  | _ => False

/-- What an event says to the request of a number, if that is pending: its response comes in, or all
connections are gone, or no report can come any more. -/
def replyTo (id : Nat) : Event → Option (Except PageError Json)
  | .routed (.message (.pageResponse i ok value error)) _ =>
    if i.toNat = id then some (replyOf ok value error) else none
  | .routed (.disconnected _) false => some (.error .connectionLost)
  | .ended => some (.error .connectionLost)
  | _ => none

/-- How long an event lasts. -/
def lasts : Event → Nat
  | .passed ms => ms
  | _ => 0

end Event

/-- The first that is said to the request of a number. -/
def firstReply (id : Nat) (events : List Event) : Option (Except PageError Json) :=
  events.findSome? (Event.replyTo id)

/-- The time that passes. -/
def elapsed (events : List Event) : Nat :=
  duration Event.lasts events

/-- What can happen at a page. Whatever comes in on a connection, and whatever the relay reads, is
up to others. -/
inductive Happens : Moment → Event → Moment → Prop
  | called (x : Moment) {p : PendingCall}
      (h : p = .begin (x.remote.asked p.request) x.now x.made p.request) :
      Happens x (.called p)
        { x with remote := x.remote.asked p.request, calls := p :: x.calls, made := x.made + 1 }
  | advanced {x : Moment} {p q : PendingCall} {r : Remote} (hp : p ∈ x.calls)
      (h : p.advance? x.remote x.now = some (r, q)) :
      Happens x (.advanced q) { x with remote := r, calls := q :: x.others p }
  | completed {x : Moment} {p : PendingCall} {outcome : Except PageError Json} (hp : p ∈ x.calls)
      (h : p.outcome? x.remote x.now = some outcome) :
      Happens x (.completed p outcome) { x with remote := p.leave x.remote, calls := x.others p }
  | dropped {x : Moment} {p : PendingCall} (hp : p ∈ x.calls) :
      Happens x (.dropped p) { x with remote := p.leave x.remote, calls := x.others p }
  | accepted (x : Moment) : Happens x .accepted { x with remote := x.remote.accept }
  | greeted (x : Moment) (peer : Nat) (understood : Bool) :
      Happens x (.greeted peer understood)
        { x with remote := (x.remote.turn peer fun c => c.greet understood).1 }
  | read (x : Moment) (peer : Nat) (incoming : Incoming) :
      Happens x (.read peer incoming)
        { x with remote := (x.remote.turn peer fun c => c.read incoming).1 }
  | forwarded (x : Moment) (peer : Nat) (works : Bool) :
      Happens x (.forwarded peer works)
        { x with remote := (x.remote.turn peer fun c => c.forward x.remote.outbound works).1 }
  | parted {x : Moment} {peer : Nat} (h : peer ∈ x.remote.leaving) :
      Happens x (.parted peer) { x with remote := x.remote.part peer }
  | routed {x : Moment} {report : ServerEvent} {rest : List ServerEvent}
      (h : x.remote.events = report :: rest) :
      Happens x (.routed report (!x.remote.connections.isEmpty))
        { x with remote := ({ x.remote with events := rest }.route report).1 }
  | relayed (x : Moment) (received : Received BridgeMessage) :
      Happens x (.relayed received) { x with remote := x.remote.relay received }
  | ended {x : Moment} (h : x.remote.events = []) :
      Happens x .ended { x with remote := x.remote.endEvents }
  | passed (x : Moment) (ms : Nat) : Happens x (.passed ms) { x with now := x.now + ms }

variable {config : RemoteConfig} {r : Remote} {call id : Nat} {x y : Moment} {p q : PendingCall}
  {e : Event} {events earlier during : List Event}

/-! ### What the steps leave as it is -/

/-- The number of a request on the wire. -/
def requestId? : WireMessage → Option UInt64
  | .pageRequest id _ => some id
  | _ => none

/-- The numbers of all requests that have been sent. -/
def requestIds (r : Remote) : List UInt64 :=
  r.outbound.log.filterMap requestId?

/-- A page has numbered and sent the same requests before and after, and gives them the same time. -/
structure SameRequests (r s : Remote) : Prop where
  requestTimeout_eq : s.requestTimeout = r.requestTimeout
  nextId_eq : s.nextId = r.nextId
  requestIds_eq : s.requestIds = r.requestIds

/-- A server has the same requests as itself. -/
theorem SameRequests.refl (r : Remote) : SameRequests r r :=
  ⟨rfl, rfl, rfl⟩

/-- Reports are queued as long as somebody looks. -/
theorem foldl_report (reports : List ServerEvent) (r : Remote) :
    reports.foldl report r = if r.ended then r else { r with events := r.events ++ reports } := by
  induction reports generalizing r with
  | nil => simp
  | cons e reports ih =>
    rw [List.foldl_cons, ih, report]
    cases hended : r.ended <;> simp [hended]

/-- A connection that takes a step changes the connections, those that leave and what is reported,
and nothing else. -/
theorem turn_eq (r : Remote) (peer : Nat) (step : Connection → Turn) :
    ∃ connections leaving events, (r.turn peer step).1 =
      { r with connections := connections, leaving := leaving, events := events } := by
  rw [turn]
  split
  next => exact ⟨r.connections, r.leaving, r.events, rfl⟩
  next =>
    simp only [foldl_report]
    split
    · exact ⟨_, _, _, rfl⟩
    · exact ⟨_, _, _, rfl⟩

/-- What becomes of a report that a connection has gone. -/
theorem part_of_mem {peer : Nat} (h : peer ∈ r.leaving) : r.part peer =
    { r with
      leaving := r.leaving.erase peer
      events := r.events ++ if r.ended then [] else [.disconnected peer] } := by
  rw [part, if_pos h, report]
  cases r.ended <;> simp

/-- Looking at a report changes the table and the replies, and nothing else. -/
theorem route_eq (r : Remote) (report : ServerEvent) :
    ∃ pending replies, (r.route report).1 = { r with pending := pending, replies := replies } := by
  -- Only a response and the end of a connection touch the table and the replies.
  match report with
  | .connected _ => exact ⟨_, _, rfl⟩
  | .disconnected _ =>
    simp only [route]
    split
    · exact ⟨_, _, rfl⟩
    · exact ⟨_, _, rfl⟩
  | .message (.pageResponse i ok value error) =>
    simp only [route, settle]
    split
    · exact ⟨_, _, rfl⟩
    · exact ⟨_, _, rfl⟩
  | .message (.observed _) => exact ⟨_, _, rfl⟩
  | .message (.toastResponse _) => exact ⟨_, _, rfl⟩
  | .message (.pageRequest _ _) => exact ⟨_, _, rfl⟩
  | .message (.toastRequest _) => exact ⟨_, _, rfl⟩

/-- To ask the page changes nothing but whether it observes. -/
theorem asked_eq (r : Remote) (request : PageRequest) :
    ∃ observing, r.asked request = { r with observing := observing } := by
  cases request <;> exact ⟨_, rfl⟩

/-- A call that ends changes the table and the replies, and nothing else. -/
theorem leave_eq (r : Remote) (p : PendingCall) :
    ∃ pending replies, p.leave r = { r with pending := pending, replies := replies } := by
  rw [PendingCall.leave]
  split
  · exact ⟨_, _, rfl⟩
  · exact ⟨_, _, rfl⟩

/-- The relay sends a toast, or does nothing. -/
theorem relay_eq (r : Remote) (received : Received BridgeMessage) :
    r.relay received = r ∨ ∃ t, r.relay received = r.send (.toastRequest t) := by
  match received with
  | .message (.request t) =>
    rw [relay, send?]
    split
    · exact .inl rfl
    · exact .inr ⟨t, rfl⟩
  | .message (.response _) => exact .inl rfl
  | .lagged _ => exact .inl rfl

/-- Something happens at the server: a connection comes, takes a step or reports that it has gone, or
a report is looked at. -/
def Event.IsOfServer : Event → Prop
  | .accepted | .greeted _ _ | .read _ _ | .forwarded _ _ | .parted _ | .routed _ _ | .ended => True
  | _ => False

/-- A page has the same connections and the same reports before and after, and has still sent what it
had sent to all. -/
structure SameServer (r s : Remote) : Prop where
  peers_eq : s.peers = r.peers
  connections_eq : s.connections = r.connections
  leaving_eq : s.leaving = r.leaving
  events_eq : s.events = r.events
  ended_eq : s.ended = r.ended
  log_prefix : r.outbound.log <+: s.outbound.log

/-- A page with the same connections and reports that has sent nothing more. -/
theorem SameServer.of_eq {s : Remote} (hpeers : s.peers = r.peers)
    (hconnections : s.connections = r.connections) (hleaving : s.leaving = r.leaving)
    (hevents : s.events = r.events) (hended : s.ended = r.ended)
    (hlog : s.outbound.log = r.outbound.log) : SameServer r s :=
  ⟨hpeers, hconnections, hleaving, hevents, hended, hlog ▸ List.prefix_refl _⟩

/-- Sending a message to all changes only what has been sent. -/
theorem sameServer_send (r : Remote) (m : WireMessage) : SameServer r (r.send m) :=
  ⟨rfl, rfl, rfl, rfl, rfl, List.prefix_append _ _⟩

/-- Calls, the relay and time change neither the connections nor the reports. -/
theorem Happens.sameServer (h : Happens x e y) (hnot : ¬ e.IsOfServer) :
    SameServer x.remote y.remote := by
  have hleave : ∀ p : PendingCall, SameServer x.remote (p.leave x.remote) := by
    intro p
    obtain ⟨_, _, heq⟩ := leave_eq x.remote p
    rw [heq]
    exact .of_eq rfl rfl rfl rfl rfl rfl
  cases h with
  | @called p h =>
    obtain ⟨_, heq⟩ := asked_eq x.remote p.request
    simp only [heq]
    exact .of_eq rfl rfl rfl rfl rfl rfl
  | advanced hp h =>
    cases PendingCall.goes_of_advance? h with
    | looked => exact .of_eq rfl rfl rfl rfl rfl rfl
    | numbered => exact .of_eq rfl rfl rfl rfl rfl rfl
    | sent => exact sameServer_send _ _
  | @completed p outcome hp h => exact hleave p
  | @dropped p hp => exact hleave p
  | relayed received =>
    rcases relay_eq x.remote received with heq | ⟨t, heq⟩
    · simp only [heq]
      exact .of_eq rfl rfl rfl rfl rfl rfl
    · simp only [heq]
      exact sameServer_send _ _
  | passed ms => exact .of_eq rfl rfl rfl rfl rfl rfl
  | _ => exact (hnot trivial).elim

/-- The ids on the channel, and that of the message. -/
theorem requestIds_send (r : Remote) (m : WireMessage) :
    (r.send m).requestIds = r.requestIds ++ (requestId? m).toList := by
  rw [requestIds, send, Channel.post, List.filterMap_append, requestIds]
  cases h : requestId? m <;> simp [h]

/-- Only calls that go on number or send requests. -/
theorem Happens.sameRequests (h : Happens x e y) (hnot : ∀ p, e ≠ .advanced p) :
    SameRequests x.remote y.remote := by
  have hleave : ∀ p : PendingCall, SameRequests x.remote (p.leave x.remote) := by
    intro p
    obtain ⟨_, _, heq⟩ := leave_eq x.remote p
    rw [heq]
    exact ⟨rfl, rfl, rfl⟩
  have hturn : ∀ peer step, SameRequests x.remote (x.remote.turn peer step).1 := by
    intro peer step
    obtain ⟨_, _, _, heq⟩ := turn_eq x.remote peer step
    rw [heq]
    exact ⟨rfl, rfl, rfl⟩
  cases h with
  | @called p h =>
    obtain ⟨_, heq⟩ := asked_eq x.remote p.request
    simp only [heq]
    exact ⟨rfl, rfl, rfl⟩
  | @advanced p q r hp h => exact absurd rfl (hnot q)
  | @completed p outcome hp h => exact hleave p
  | @dropped p hp => exact hleave p
  | accepted => exact ⟨rfl, rfl, rfl⟩
  | greeted peer understood => exact hturn peer _
  | read peer incoming => exact hturn peer _
  | forwarded peer works => exact hturn peer _
  | parted h =>
    simp only [part_of_mem h]
    exact ⟨rfl, rfl, rfl⟩
  | @routed report rest h =>
    obtain ⟨_, _, heq⟩ := route_eq { x.remote with events := rest } report
    simp only [heq]
    exact ⟨rfl, rfl, rfl⟩
  | relayed received =>
    rcases relay_eq x.remote received with heq | ⟨t, heq⟩
    -- What is relayed is no request of the page.
    · simp only [heq]
      exact .refl x.remote
    · simp only [heq]
      exact ⟨rfl, rfl, by rw [requestIds_send]; exact List.append_nil _⟩
  | ended h => exact ⟨rfl, rfl, rfl⟩
  | passed ms => exact .refl x.remote

/-! ### The ledger of requests -/

/-- The requests that wait at a page, as a ledger. -/
def ledger (r : Remote) : Ledger Nat (Except PageError Json) :=
  ⟨r.pending, r.replies⟩

/-- What an event changes in the ledger. -/
def Event.change : Event → Ledger.Change Nat (Except PageError Json)
  | .advanced ⟨_, _, .numbered id⟩ => .enter id
  | .routed (.message (.pageResponse i ok value error)) _ => .settle i.toNat (replyOf ok value error)
  | .routed (.disconnected _) false => .settleAll (.error .connectionLost)
  | .ended => .settleAll (.error .connectionLost)
  | .completed p _ => p.progress.id?.elim .keep .strike
  | .dropped p => p.progress.id?.elim .keep .strike
  | _ => .keep

/-- A call that ends enters no id. -/
theorem elim_ne_enter (number : Option Nat) :
    number.elim .keep .strike ≠ (.enter id : Ledger.Change Nat (Except PageError Json)) := by
  cases number <;> nofun

/-- An id enters the table with the call that takes it. -/
theorem Event.change_eq_enter_iff : e.change = .enter id ↔ ∃ call, e.Takes call id := by
  cases e with
  | advanced p =>
    obtain ⟨call, request, progress⟩ := p
    cases progress <;> simp [change, Takes]
  | completed p _ => exact iff_of_false (elim_ne_enter p.progress.id?) (by simp [Takes])
  | dropped p => exact iff_of_false (elim_ne_enter p.progress.id?) (by simp [Takes])
  | routed report attached =>
    refine iff_of_false (fun h => ?_) (by simp [Takes])
    match report, attached, h with
    | .message m, _, h => cases m <;> cases h
  | _ => simp [change, Takes]

/-- What an event answers in the ledger is its reply. -/
theorem Event.answerTo_change : e.change.answerTo id = e.replyTo id := by
  -- A call that ends answers nothing, whether it had a number or not.
  have helim : ∀ number : Option Nat, (number.elim .keep .strike :
      Ledger.Change Nat (Except PageError Json)).answerTo id = none := by
    intro number
    cases number <;> rfl
  cases e with
  | advanced p =>
    obtain ⟨_, _, progress⟩ := p
    cases progress <;> rfl
  | completed p _ => exact helim p.progress.id?
  | dropped p => exact helim p.progress.id?
  | routed report attached =>
    match report, attached with
    | .connected _, _ => rfl
    | .disconnected _, true => rfl
    | .disconnected _, false => rfl
    | .message m, _ => cases m <;> rfl
  | _ => rfl

/-- The first answer in the ledger is the first reply. -/
theorem findSome?_answerTo_change :
    (events.findSome? fun e => e.change.answerTo id) = firstReply id events := by
  rw [firstReply]
  congr 1
  funext e
  exact Event.answerTo_change

/-- A call that ends strikes its number out. -/
theorem ledger_leave (r : Remote) (p : PendingCall) :
    (p.leave r).ledger = r.ledger.apply (p.progress.id?.elim .keep .strike) := by
  rw [PendingCall.leave]
  cases p.progress.id? <;> rfl

/-- A reply settles its number in the ledger. -/
theorem ledger_settle (r : Remote) (id : Nat) (reply : Except PageError Json) :
    (r.settle id reply).ledger = r.ledger.apply (.settle id reply) := by
  by_cases h : id ∈ r.pending
  · have h' : id ∈ r.ledger.pending := h
    rw [settle, if_pos h, Ledger.apply, if_pos h']
    rfl
  · have h' : id ∉ r.ledger.pending := h
    rw [settle, if_neg h, Ledger.apply, if_neg h']

/-- What is routed changes the ledger as its event says. -/
theorem ledger_route (r : Remote) (report : ServerEvent) :
    (r.route report).1.ledger =
      r.ledger.apply (Event.routed report (!r.connections.isEmpty)).change := by
  match report with
  | .message (.pageResponse i ok value error) => exact ledger_settle r i.toNat (replyOf ok value error)
  | .disconnected _ =>
    simp only [route]
    cases h : r.connections.isEmpty with
    | true => rfl
    | false => rfl
  | .connected _ => rfl
  | .message (.observed _) => rfl
  | .message (.toastResponse _) => rfl
  | .message (.pageRequest _ _) => rfl
  | .message (.toastRequest _) => rfl

/-- A step changes the ledger as its event says. -/
theorem Happens.ledger_eq (h : Happens x e y) : y.remote.ledger = x.remote.ledger.apply e.change := by
  -- What connections do does not touch the tables.
  have hturn : ∀ peer step, (x.remote.turn peer step).1.ledger = x.remote.ledger := by
    intro peer step
    obtain ⟨_, _, _, heq⟩ := turn_eq x.remote peer step
    rw [heq]
    rfl
  cases h with
  | @called p h =>
    obtain ⟨_, heq⟩ := asked_eq x.remote p.request
    simp only [heq]
    rfl
  | advanced hp h =>
    cases PendingCall.goes_of_advance? h with
    | looked => rfl
    | numbered => rfl
    | sent => rfl
  | @completed p outcome hp h => exact ledger_leave x.remote p
  | @dropped p hp => exact ledger_leave x.remote p
  | accepted => rfl
  | greeted peer understood => exact hturn peer _
  | read peer incoming => exact hturn peer _
  | forwarded peer works => exact hturn peer _
  | parted h =>
    simp only [part_of_mem h]
    rfl
  | @routed report rest h => exact ledger_route { x.remote with events := rest } report
  | relayed received =>
    rcases relay_eq x.remote received with heq | ⟨t, heq⟩
    · simp only [heq]
      rfl
    · simp only [heq]
      rfl
  | ended h => rfl
  | passed ms => rfl

/-- The ledger of the server is that of its events. -/
theorem tracks_ledger :
    Ledger.Tracks Happens (.start config) (fun x => x.remote.ledger) Event.change :=
  ⟨rfl, fun _ _ _ h => h.ledger_eq⟩

/-! ### Who waits -/

/-- The others are the calls with another number. -/
theorem mem_others_iff : q ∈ x.others p ↔ q ∈ x.calls ∧ q.call ≠ p.call := by
  rw [Moment.others, List.mem_filter, decide_eq_true_iff]

/-- A call that goes on stays the same call. -/
theorem call_eq_of_goes {s : Remote} {now : Nat} (h : p.Goes r now s q) : q.call = p.call := by
  cases h <;> rfl

/-- Calls are numbered, and so are their requests: no two have the same number. -/
structure Numbering (made nextId : Nat) (calls : List PendingCall) : Prop where
  call_lt : ∀ p ∈ calls, p.call < made
  call_inj : ∀ p ∈ calls, ∀ q ∈ calls, p.call = q.call → p = q
  id_lt : ∀ p ∈ calls, ∀ id, p.progress.id? = some id → id < nextId
  id_inj : ∀ p ∈ calls, ∀ q ∈ calls, ∀ id, p.progress.id? = some id → q.progress.id? = some id → p = q

section Numbering

variable {made made' nextId nextId' : Nat} {calls calls' : List PendingCall}

/-- No calls at all are numbered, whatever numbers have been given out. -/
theorem Numbering.nil (made nextId : Nat) : Numbering made nextId [] where
  call_lt _ hp := absurd hp List.not_mem_nil
  call_inj _ hp := absurd hp List.not_mem_nil
  id_lt _ hp := absurd hp List.not_mem_nil
  id_inj _ hp := absurd hp List.not_mem_nil

/-- Fewer calls are numbered as they were. -/
theorem Numbering.subset (h : Numbering made nextId calls) (hsub : calls' ⊆ calls) :
    Numbering made nextId calls' where
  call_lt p hp := h.call_lt p (hsub hp)
  call_inj p hp q hq := h.call_inj p (hsub hp) q (hsub hq)
  id_lt p hp := h.id_lt p (hsub hp)
  id_inj p hp q hq := h.id_inj p (hsub hp) q (hsub hq)

/-- Calls are numbered as they were when more are made. -/
theorem Numbering.mono (h : Numbering made nextId calls) (hmade : made ≤ made')
    (hnext : nextId ≤ nextId') : Numbering made' nextId' calls where
  call_lt p hp := Nat.lt_of_lt_of_le (h.call_lt p hp) hmade
  call_inj := h.call_inj
  id_lt p hp id hid := Nat.lt_of_lt_of_le (h.id_lt p hp id hid) hnext
  id_inj := h.id_inj

/-- A call with numbers of its own can be added. -/
theorem Numbering.cons (h : Numbering made nextId calls) (hlt : q.call < made)
    (hcall : ∀ p ∈ calls, p.call ≠ q.call)
    (hid : ∀ id, q.progress.id? = some id → id < nextId ∧ ∀ p ∈ calls, p.progress.id? ≠ some id) :
    Numbering made nextId (q :: calls) where
  call_lt := List.forall_mem_cons.mpr ⟨hlt, h.call_lt⟩
  call_inj := by
    intro p hp p' hp' heq
    -- The new call differs from all others, and those differ among themselves.
    rcases List.mem_cons.mp hp with rfl | hq <;> rcases List.mem_cons.mp hp' with rfl | hq'
    · rfl
    · exact absurd heq.symm (hcall p' hq')
    · exact absurd heq (hcall p hq)
    · exact h.call_inj p hq p' hq' heq
  id_lt := List.forall_mem_cons.mpr ⟨fun id hq => (hid id hq).1, h.id_lt⟩
  id_inj := by
    intro p hp p' hp' id hpid hpid'
    rcases List.mem_cons.mp hp with rfl | hq <;> rcases List.mem_cons.mp hp' with rfl | hq'
    · rfl
    · exact absurd hpid' ((hid id hpid).2 p' hq')
    · exact absurd hpid ((hid id hpid').2 p hq)
    · exact h.id_inj p hq p' hq' id hpid hpid'

end Numbering

/-- The numbers at an instant. -/
def Moment.Numbered (x : Moment) : Prop :=
  Numbering x.made x.remote.nextId x.calls

/-- The others are among the calls. -/
theorem others_subset (x : Moment) (p : PendingCall) : x.others p ⊆ x.calls :=
  fun _ hq => (mem_others_iff.mp hq).1

/-- The numbers stay distinct when a call goes on. -/
theorem numbered_of_goes {s : Remote} (hx : x.Numbered) (hp : p ∈ x.calls)
    (h : p.Goes x.remote x.now s q) : Numbering x.made s.nextId (q :: x.others p) := by
  have hothers : Numbering x.made x.remote.nextId (x.others p) := hx.subset (others_subset x p)
  have hlt : q.call < x.made := call_eq_of_goes h ▸ hx.call_lt p hp
  have hcall : ∀ p' ∈ x.others p, p'.call ≠ q.call :=
    fun p' hp' => call_eq_of_goes h ▸ (mem_others_iff.mp hp').2
  cases h with
  | looked _ _ _ _ => exact hothers.cons hlt hcall nofun
  | numbered _ _ _ =>
    refine (hothers.mono (Nat.le_refl _) (Nat.le_succ _)).cons hlt hcall fun id hid => ?_
    obtain rfl : x.remote.nextId = id := Option.some.inj hid
    exact ⟨Nat.lt_succ_self _, fun p' hp' hid' => Nat.lt_irrefl _ (hothers.id_lt p' hp' _ hid')⟩
  | @sent number hprogress _ =>
    refine hothers.cons hlt hcall fun id hid => ?_
    obtain rfl : number = id := Option.some.inj hid
    have hpid : p.progress.id? = some number := by simp [hprogress]
    refine ⟨hx.id_lt p hp _ hpid, fun p' hp' hid' => ?_⟩
    -- Nobody but the call itself has its number.
    obtain ⟨hmem, hne⟩ := mem_others_iff.mp hp'
    exact hne (congrArg PendingCall.call (hx.id_inj p' hmem p hp _ hid' hpid))

/-- Every step numbers its calls. -/
theorem Happens.numbered (h : Happens x e y) (hx : x.Numbered) : y.Numbered := by
  -- Only a call that advances can take a number. All other steps keep the count of numbers.
  by_cases hadvanced : ∃ p, e = .advanced p
  · obtain ⟨p, rfl⟩ := hadvanced
    cases h with
    | advanced hp h => exact numbered_of_goes hx hp (PendingCall.goes_of_advance? h)
  · have hsame := h.sameRequests fun p hp => hadvanced ⟨p, hp⟩
    rw [Moment.Numbered, hsame.nextId_eq]
    clear hsame
    cases h with
    | @called p h =>
      have hcall : p.call = x.made := by
        rw [h]
        rfl
      have hid : p.progress.id? = none := by
        rw [h]
        rfl
      refine (hx.mono (Nat.le_succ _) (Nat.le_refl _)).cons (hcall ▸ Nat.lt_succ_self _) ?_ (by simp [hid])
      exact fun p' hp' heq => Nat.ne_of_lt (hx.call_lt p' hp') (heq.trans hcall)
    | @advanced p q r hp h => exact absurd ⟨q, rfl⟩ hadvanced
    | @completed p outcome hp h => exact hx.subset (others_subset x p)
    | @dropped p hp => exact hx.subset (others_subset x p)
    | _ => exact hx

/-- The calls are numbered in every reachable state. -/
theorem numbered_of_steps (h : Steps Happens (.start config) events x) : x.Numbered :=
  h.invariant (fun _ _ _ hx hstep => hstep.numbered hx) (.nil 0 1)

/-- A call under way has a number. -/
def Moment.Holds (x : Moment) (call id : Nat) : Prop :=
  ∃ p ∈ x.calls, p.call = call ∧ p.progress.id? = some id

/-- A call is under way. -/
def Moment.Awaits (x : Moment) (call : Nat) : Prop :=
  ∃ p ∈ x.calls, p.call = call

/-- One of the others is one of the calls, and not that call. -/
theorem exists_mem_others_iff {P : PendingCall → Prop} :
    (∃ q ∈ x.others p, q.call = call ∧ P q) ↔
      (∃ q ∈ x.calls, q.call = call ∧ P q) ∧ ¬ p.call = call := by
  constructor
  · rintro ⟨q, hq, rfl, hP⟩
    obtain ⟨hmem, hne⟩ := mem_others_iff.mp hq
    exact ⟨⟨q, hmem, rfl, hP⟩, hne ∘ Eq.symm⟩
  · rintro ⟨⟨q, hmem, rfl, hP⟩, hne⟩
    exact ⟨q, mem_others_iff.mpr ⟨hmem, hne ∘ Eq.symm⟩, rfl, hP⟩

/-- A call is among the others just if it is awaited and is not that call. -/
theorem exists_call_others_iff :
    (∃ q ∈ x.others p, q.call = call) ↔ x.Awaits call ∧ ¬ p.call = call := by
  simpa [Moment.Awaits] using exists_mem_others_iff (x := x) (p := p) (P := fun _ => True)

/-- A call has a number after a step just if it takes it, or has had it and has not ended. -/
theorem Happens.holds_iff (h : Happens x e y) (hx : x.Numbered) :
    y.Holds call id ↔ e.Takes call id ∨ (x.Holds call id ∧ ¬ e.Ends call) := by
  cases h with
  | @called p h =>
    have hid : p.progress.id? = none := by
      rw [h]
      rfl
    simp [Moment.Holds, Event.Takes, Event.Ends, hid]
  | @advanced p q r hp h =>
    have hgoes := PendingCall.goes_of_advance? h
    have hcall := call_eq_of_goes hgoes
    -- The number of the call that goes on is the one that it takes, or that it has had.
    have hid : q.progress.id? = some id ↔ q.progress = .numbered id ∨ p.progress.id? = some id := by
      cases hgoes with
      | looked hprogress _ _ _ => simp [hprogress]
      | numbered hprogress _ _ => simp [hprogress]
      | sent hprogress _ => simp [hprogress]
    constructor
    · rintro ⟨p', hp', rfl, hid'⟩
      rcases List.mem_cons.mp hp' with rfl | hp'
      · rcases hid.mp hid' with hnumbered | hid'
        · exact .inl ⟨rfl, hnumbered⟩
        · exact .inr ⟨⟨p, hp, hcall.symm, hid'⟩, False.elim⟩
      · exact .inr ⟨⟨p', (mem_others_iff.mp hp').1, rfl, hid'⟩, False.elim⟩
    · rintro (⟨hq, hnumbered⟩ | ⟨⟨p', hp', rfl, hid'⟩, -⟩)
      · exact ⟨q, List.mem_cons_self, hq, hid.mpr (.inl hnumbered)⟩
      · by_cases heq : p'.call = p.call
        · obtain rfl := hx.call_inj p' hp' p hp heq
          exact ⟨q, List.mem_cons_self, hcall, hid.mpr (.inr hid')⟩
        · exact ⟨p', List.mem_cons_of_mem _ (mem_others_iff.mpr ⟨hp', heq⟩), rfl, hid'⟩
  | completed hp h =>
    simp only [Event.Takes, Event.Ends, false_or]
    exact exists_mem_others_iff
  | dropped hp =>
    simp only [Event.Takes, Event.Ends, false_or]
    exact exists_mem_others_iff
  | _ => simp [Moment.Holds, Event.Takes, Event.Ends]

/-- A call is under way after a step just if it is made, or has been under way and has not ended. -/
theorem Happens.awaits_iff (h : Happens x e y) :
    y.Awaits call ↔ e.Makes call ∨ (x.Awaits call ∧ ¬ e.Ends call) := by
  cases h with
  | called h => simp [Moment.Awaits, Event.Makes, Event.Ends]
  | @advanced p q r hp h =>
    have hcall := call_eq_of_goes (PendingCall.goes_of_advance? h)
    simp only [Event.Makes, Event.Ends, false_or, not_false_eq_true, and_true]
    constructor
    -- The call that advances is awaited as before, and so are the others.
    · rintro ⟨p', hp', rfl⟩
      rcases List.mem_cons.mp hp' with rfl | hp'
      · exact ⟨p, hp, hcall.symm⟩
      · exact ⟨p', (mem_others_iff.mp hp').1, rfl⟩
    · rintro ⟨p', hp', rfl⟩
      by_cases heq : p'.call = p.call
      · exact ⟨q, List.mem_cons_self, hcall.trans heq.symm⟩
      · exact ⟨p', List.mem_cons_of_mem _ (mem_others_iff.mpr ⟨hp', heq⟩), rfl⟩
  | @completed p outcome hp h =>
    simp only [Event.Makes, Event.Ends, false_or]
    exact exists_call_others_iff
  | @dropped p hp =>
    simp only [Event.Makes, Event.Ends, false_or]
    exact exists_call_others_iff
  | _ => simp [Moment.Awaits, Event.Makes, Event.Ends]

/-- A call holds an id from when it takes it until it ends. -/
theorem holds_iff_since (h : Steps Happens (.start config) events x) :
    x.Holds call id ↔ Since (Event.Takes call id) (Event.Ends call) events :=
  Steps.since_iff (P := Moment.Numbered) (W := fun x => x.Holds call id)
    (fun _ _ _ hx hstep => hstep.numbered hx) (fun _ _ _ hx hstep => hstep.holds_iff hx) h
    (numbered_of_steps (.nil _)) fun ⟨_, hp, _⟩ => List.not_mem_nil hp

/-- A call is awaited from when it is made until it ends. -/
theorem awaits_iff_since (h : Steps Happens (.start config) events x) :
    x.Awaits call ↔ Since (Event.Makes call) (Event.Ends call) events :=
  Steps.since_iff (P := fun _ => True) (W := fun x => x.Awaits call) (fun _ _ _ _ _ => trivial)
    (fun _ _ _ _ hstep => hstep.awaits_iff) h trivial fun ⟨_, hp, _⟩ => List.not_mem_nil hp

/-- An event ends a call that has come so far. -/
def Event.Leaves (p : PendingCall) : Event → Prop
  | .completed q _ => q = p
  | .dropped q => q = p
  | _ => False

/-- A call ends when it leaves. -/
theorem Event.ends_iff : e.Ends call ↔ ∃ p, e.Leaves p ∧ p.call = call := by
  cases e <;> simp [Ends, Leaves]

/-- Only a call with a number strikes one out. -/
theorem elim_eq_strike_iff {number : Option Nat} :
    number.elim .keep .strike = (.strike id : Ledger.Change Nat (Except PageError Json)) ↔
      number = some id := by
  cases number <;> simp

/-- A number is struck out when the call that has it leaves. -/
theorem Event.change_eq_strike_iff :
    e.change = .strike id ↔ ∃ p, e.Leaves p ∧ p.progress.id? = some id := by
  cases e with
  | advanced p =>
    obtain ⟨call, request, progress⟩ := p
    cases progress <;> simp [change, Leaves]
  | completed p _ => simp [change, Leaves, elim_eq_strike_iff]
  | dropped p => simp [change, Leaves, elim_eq_strike_iff]
  | routed report attached =>
    refine iff_of_false (fun h => ?_) (by simp [Leaves])
    match report, attached, h with
    | .message m, _, h => cases m <;> cases h
  | _ => simp [change, Leaves]

/-- Only a call under way can end. -/
theorem Happens.mem_calls_of_leaves (h : Happens x e y) (he : e.Leaves p) : p ∈ x.calls := by
  cases h with
  | completed hp _ => exact he ▸ hp
  | dropped hp => exact he ▸ hp
  | _ => exact he.elim

/-- The call of a number ends just if the number is struck out. -/
theorem Happens.strikes_iff (h : Happens x e y) (hx : x.Numbered) (hholds : x.Holds call id) :
    e.change = .strike id ↔ e.Ends call := by
  obtain ⟨p, hp, rfl, hid⟩ := hholds
  rw [Event.change_eq_strike_iff, Event.ends_iff]
  refine exists_congr fun q => and_congr_right fun hleaves => ?_
  have hq : q ∈ x.calls := h.mem_calls_of_leaves hleaves
  constructor
  · intro hqid
    rw [hx.id_inj q hq p hp id hqid hid]
  · intro hcall
    rw [hx.call_inj q hq p hp hcall, hid]

/-- The call of a number has not ended just if the number has not been struck out. -/
theorem ne_strike_iff (h : Steps Happens (.start config) events x)
    (heq : events = earlier ++ e :: during) (he : e.Takes call id) :
    (∀ e ∈ during, e.change ≠ .strike id) ↔ ∀ e ∈ during, ¬ e.Ends call := by
  induction during using List.reverseRecOn generalizing events x with
  | nil => simp
  | append_singleton during last ih =>
    subst heq
    rw [← List.cons_append, ← List.append_assoc] at h
    obtain ⟨u, hevents, hlast⟩ := steps_append_iff.mp h
    rw [List.forall_mem_append, List.forall_mem_append, ih hevents rfl, List.forall_mem_singleton,
      List.forall_mem_singleton]
    -- As long as the call has not ended, the number is its own.
    refine and_congr_right fun hends => not_congr ?_
    exact (steps_singleton_iff.mp hlast).strikes_iff (numbered_of_steps hevents)
      ((holds_iff_since hevents).mpr ⟨earlier, e, during, rfl, he, hends⟩)

/-! ### The table -/

/-- A request that takes a number takes the next one. -/
theorem Happens.eq_nextId (h : Happens x e y) (he : e.Takes call id) :
    id = x.remote.nextId ∧ y.remote.nextId = id + 1 := by
  cases h with
  | advanced hp h =>
    cases PendingCall.goes_of_advance? h with
    | looked _ _ _ _ => cases he.2
    | numbered _ _ _ =>
      obtain rfl : x.remote.nextId = id := CallProgress.numbered.inj he.2
      exact ⟨rfl, rfl⟩
    | sent _ _ => cases he.2
  | _ => exact he.elim

/-- Numbers are given out, and none is taken back. -/
theorem Happens.nextId_le (h : Happens x e y) : x.remote.nextId ≤ y.remote.nextId := by
  by_cases hadvanced : ∃ p, e = .advanced p
  · obtain ⟨p, rfl⟩ := hadvanced
    cases h with
    | advanced hp h =>
      cases PendingCall.goes_of_advance? h with
      | looked _ _ _ _ => exact Nat.le_refl _
      | numbered _ _ _ => exact Nat.le_succ _
      | sent _ _ => exact Nat.le_refl _
  · exact Nat.le_of_eq (h.sameRequests fun p hp => hadvanced ⟨p, hp⟩).nextId_eq.symm

/-- No id enters twice, and each one that has entered was given out. -/
theorem entered_of_steps (h : Steps Happens (.start config) events x) :
    (Ledger.entered (events.map Event.change)).Nodup ∧
      ∀ id ∈ Ledger.entered (events.map Event.change), id < x.remote.nextId := by
  induction events using List.reverseRecOn generalizing x with
  | nil => exact ⟨List.nodup_nil, nofun⟩
  | append_singleton events e ih =>
    obtain ⟨u, hevents, hlast⟩ := steps_append_iff.mp h
    have hstep := steps_singleton_iff.mp hlast
    obtain ⟨hnodup, hlt⟩ := ih hevents
    have hle := hstep.nextId_le
    rw [List.map_append, Ledger.entered, List.filterMap_append]
    -- An id that enters is the next one, so it is beyond all that have entered.
    cases hentered : e.change.entered? with
    | none =>
      simp only [List.map_cons, List.map_nil, List.filterMap_cons, hentered, List.filterMap_nil,
        List.append_nil]
      exact ⟨hnodup, fun id hid => Nat.lt_of_lt_of_le (hlt id hid) hle⟩
    | some id =>
      obtain ⟨call, htakes⟩ := Event.change_eq_enter_iff.mp (Ledger.Change.eq_enter_of_entered? hentered)
      obtain ⟨rfl, hnext⟩ := hstep.eq_nextId htakes
      simp only [List.map_cons, List.map_nil, List.filterMap_cons, hentered, List.filterMap_nil]
      refine ⟨List.nodup_append.mpr ⟨hnodup, by simp, ?_⟩, fun id hid => ?_⟩
      · intro id hid other hother
        rw [List.mem_singleton.mp hother]
        exact Nat.ne_of_lt (hlt id hid)
      · rw [hnext]
        rcases List.mem_append.mp hid with hid | hid
        · exact Nat.lt_succ_of_lt (hlt id hid)
        · rw [List.mem_singleton.mp hid]
          exact Nat.lt_succ_self _

/-- What is kept of a request whose call has not ended: the first that has been said to it since it
took its number. -/
theorem keeps_firstReply (h : Steps Happens (.start config) events x)
    (heq : events = earlier ++ e :: during) (he : e.Takes call id)
    (hends : ∀ e ∈ during, ¬ e.Ends call) : x.remote.ledger.Keeps id (firstReply id during) := by
  rw [← findSome?_answerTo_change]
  exact tracks_ledger.keeps (entered_of_steps h).1 h heq (Event.change_eq_enter_iff.mpr ⟨call, he⟩)
    ((ne_strike_iff h heq he).mpr hends)

/-- A call whose number is pending has not ended, and nothing has been said to its request. -/
theorem firstReply_eq_none_of_mem_pending (h : Steps Happens (.start config) events x)
    (heq : events = earlier ++ e :: during) (he : e.Takes call id) (hmem : id ∈ x.remote.pending) :
    (∀ e ∈ during, ¬ e.Ends call) ∧ firstReply id during = none := by
  have hstrike := tracks_ledger.ne_strike (entered_of_steps h).1 h heq
    (Event.change_eq_enter_iff.mpr ⟨call, he⟩) hmem
  have hends := (ne_strike_iff h heq he).mp hstrike
  exact ⟨hends, (keeps_firstReply h heq he hends).mem_pending_iff.mp hmem⟩

/-- The numbers that are pending are those of the calls that have taken them and have not ended, and
to whose requests nothing has been said since. -/
theorem mem_pending_iff (h : Steps Happens (.start config) events x) :
    id ∈ x.remote.pending ↔
      ∃ earlier e during call, events = earlier ++ e :: during ∧ e.Takes call id ∧
        (∀ e ∈ during, ¬ e.Ends call) ∧ firstReply id during = none := by
  constructor
  · intro hmem
    obtain ⟨earlier, e, during, heq, henter, -⟩ :=
      (tracks_ledger.mem_pending_iff (entered_of_steps h).1 h).mp hmem
    obtain ⟨call, he⟩ := Event.change_eq_enter_iff.mp henter
    exact ⟨earlier, e, during, call, heq, he, firstReply_eq_none_of_mem_pending h heq he hmem⟩
  · rintro ⟨earlier, e, during, call, heq, he, hends, hfirst⟩
    exact (keeps_firstReply h heq he hends).mem_pending_iff.mpr hfirst

end Remote

end PageScript
