import PageScript.Proofs.Bridge.Pending
import PageScript.Proofs.Remote.History
import PageScript.Proofs.Wire

/-!
# Toasts between a bridge and a page that is elsewhere

A bridge and a page share a channel of toasts. A relay reads the channel and sends the toasts it
finds there to the connections of the page, and the router looks at what comes in on them and posts
the responses to toasts on the channel. Each of the two reads what the other one writes, and so does
the listener of the bridge.

* `Relay.Happens.bridge_steps` — what happens at the bridge in a step of both;
* `Relay.Attended.unrelayed_eq`, `Relay.Attended.toasts_eq` — what the relay reads and sends;
* `Relay.Happens.unrouted_eq` — what comes in, and what is looked at;
* `Relay.carries_toasts` — toasts go out and responses come in, each of them once and in order, and
  nothing else passes.
-/

namespace PageScript

/-- A message about a toast on the socket, as one on the channel of toasts. -/
def WireMessage.toast? : WireMessage → Option BridgeMessage
  | .toastRequest t => some (.request t)
  | .toastResponse r => some (.response r)
  | _ => none

/-- A message that asks for something. -/
def WireMessage.isRequest : WireMessage → Bool
  | .pageRequest _ _ => true
  | .toastRequest _ => true
  | _ => false

/-- A toast on the channel. -/
def BridgeMessage.request? : BridgeMessage → Option ToastRequest
  | .request t => some t
  | .response _ => none

/-- A response on the channel. -/
def BridgeMessage.response? : BridgeMessage → Option ToastResponse
  | .request _ => none
  | .response r => some r

/-- A report that a response to a toast has come in. -/
def ServerEvent.response? : ServerEvent → Option ToastResponse
  | .message (.toastResponse r) => some r
  | _ => none

/-! ### What connections report of toasts -/

namespace Connection

/-- A connection that leaves reports no response. -/
theorem responses_leave (c : Connection) :
    c.leave.reports.filterMap ServerEvent.response? = [] :=
  rfl

/-- A greeting is no response. -/
theorem responses_greet (c : Connection) (understood : Bool) :
    (c.greet understood).reports.filterMap ServerEvent.response? = [] := by
  rw [greet]
  split
  · rfl
  · split
    · rfl
    · exact c.responses_leave

/-- A connection that forwards reports no response. -/
theorem responses_forward (c : Connection) (outbound : Channel WireMessage) (works : Bool) :
    (c.forward outbound works).reports.filterMap ServerEvent.response? = [] := by
  rw [forward]
  split
  · split
    · rfl
    · rfl
    · split
      · rfl
      · exact c.responses_leave
  · rfl

/-- What is no message is not reported as one. -/
theorem responses_read (c : Connection) {incoming : Incoming}
    (h : ∀ s m, incoming = .text s → WireMessage.decoder.ofText s ≠ .ok m) :
    (c.read incoming).reports.filterMap ServerEvent.response? = [] := by
  rw [read.eq_def]
  split
  · match incoming with
    | .text s =>
      simp only
      split
      next m hm => exact absurd hm (h s m rfl)
      next => rfl
    | .other => rfl
    | .close => exact c.responses_leave
    | .failure => exact c.responses_leave
    | .ended => exact c.responses_leave
  · rfl

/-- A text that is a message is reported as it is. -/
private theorem read_of_message {c : Connection} {s : String} {m : WireMessage}
    (hgreeted : c.greeted = true) (hm : WireMessage.decoder.ofText s = .ok m) :
    c.read (.text s) = ⟨some c, [.message m], [], false⟩ := by
  simp [read, hgreeted, hm]

end Connection

/-! ### What happens at the page alone -/

namespace Remote

/-- The messages about toasts that have been sent to the connections. -/
def toasts (r : Remote) : List BridgeMessage :=
  r.outbound.log.filterMap WireMessage.toast?

/-- The responses to toasts that have come in and not been looked at. -/
def unrouted (r : Remote) : List ToastResponse :=
  r.events.filterMap ServerEvent.response?

/-- What happens concerns the page alone. -/
def Event.IsInner : Event → Prop
  | .read _ (.text s) => ∀ m, WireMessage.decoder.ofText s ≠ .ok m
  | .routed _ _ => False
  | .relayed _ => False
  | .passed _ => False
  | _ => True

/-- Reports come from connections and from where these are accepted. So they end with the last
connection at the earliest, and none is accepted after that. -/
def Event.IsTimely (r : Remote) : Event → Prop
  | .accepted => r.ended = false
  | .ended => r.connections = []
  | _ => True

/-- The reports have not ended as long as there is a connection. -/
def IsOpen (r : Remote) : Prop :=
  r.ended = true → r.connections = []

/-- A page has to do with the same toasts before and after. -/
structure SameToasts (r s : Remote) : Prop where
  relayCursor_eq : s.relayCursor = r.relayCursor
  toasts_eq : s.toasts = r.toasts
  unrouted_eq : s.unrouted = r.unrouted

variable {r : Remote} {x y : Moment} {e : Event}

/-- The toasts on the channel, and that of the message. -/
theorem toasts_send (r : Remote) (m : WireMessage) :
    (r.send m).toasts = r.toasts ++ m.toast?.toList := by
  rw [toasts, send, Channel.post, List.filterMap_append, toasts]
  cases h : m.toast? <;> simp [h]

/-- A turn that reports no response changes no toast, and none is lost. -/
theorem sameToasts_turn {step : Connection → Turn} (r : Remote) (peer : Nat)
    (hstep : ∀ c, (step c).reports.filterMap ServerEvent.response? = []) :
    SameToasts r (r.turn peer step).1 := by
  rw [turn]
  split
  next => exact ⟨rfl, rfl, rfl⟩
  next c _ =>
    simp only [foldl_report]
    split
    · exact ⟨rfl, rfl, rfl⟩
    · refine ⟨rfl, rfl, ?_⟩
      rw [unrouted, List.filterMap_append, hstep c, List.append_nil, unrouted]

/-- That a connection has gone is no response. -/
theorem sameToasts_part {peer : Nat} (h : peer ∈ r.leaving) : SameToasts r (r.part peer) := by
  rw [part_of_mem h]
  refine ⟨rfl, rfl, ?_⟩
  rw [unrouted, List.filterMap_append, unrouted]
  cases r.ended <;> exact List.append_nil _

/-- A turn leaves the server open. -/
theorem isOpen_turn {step : Connection → Turn} (h : r.IsOpen) (peer : Nat) :
    (r.turn peer step).1.IsOpen := by
  obtain ⟨_, _, _, heq⟩ := turn_eq r peer step
  intro hended
  rw [heq] at hended
  -- There is no connection that could take a step.
  have hnone := h hended
  rw [turn, hnone]
  exact hnone

/-- A message that comes in is reported, if anybody looks. -/
theorem turn_of_message {peer : Nat} {c : Connection} {s : String} {m : WireMessage}
    (hc : r.connections.find? (fun c => c.peer = peer) = some c) (hgreeted : c.greeted = true)
    (hm : WireMessage.decoder.ofText s = .ok m) :
    (r.turn peer fun c => c.read (.text s)).1 =
      { r with
        connections := replace peer (some c) r.connections
        events := r.events ++ if r.ended then [] else [.message m] } := by
  simp only [turn, hc, Connection.read_of_message hgreeted hm, foldl_report]
  split <;> simp

/-- What concerns the page alone has nothing to do with toasts. -/
theorem Happens.sameToasts (h : Happens x e y) (hinner : e.IsInner) :
    SameToasts x.remote y.remote := by
  have hleave : ∀ p : PendingCall, SameToasts x.remote (p.leave x.remote) := by
    intro p
    obtain ⟨_, _, heq⟩ := leave_eq x.remote p
    rw [heq]
    exact ⟨rfl, rfl, rfl⟩
  cases h with
  | @called p h =>
    obtain ⟨_, heq⟩ := asked_eq x.remote p.request
    simp only [heq]
    exact ⟨rfl, rfl, rfl⟩
  | advanced hp h =>
    cases PendingCall.goes_of_advance? h with
    | looked _ _ _ _ => exact ⟨rfl, rfl, rfl⟩
    | numbered _ _ _ => exact ⟨rfl, rfl, rfl⟩
    -- A request of the page is no toast.
    | sent _ _ => exact ⟨rfl, by rw [toasts_send]; exact List.append_nil _, rfl⟩
  | @completed p outcome hp h => exact hleave p
  | @dropped p hp => exact hleave p
  | accepted => exact ⟨rfl, rfl, rfl⟩
  | greeted peer understood => exact sameToasts_turn _ peer fun c => c.responses_greet understood
  | read peer incoming =>
    refine sameToasts_turn _ peer fun c => c.responses_read ?_
    rintro s m rfl
    exact hinner m
  | forwarded peer works => exact sameToasts_turn _ peer fun c => c.responses_forward _ works
  | parted h => exact sameToasts_part h
  | routed h => exact hinner.elim
  | relayed received => exact hinner.elim
  | ended h => exact ⟨rfl, rfl, by rw [unrouted, unrouted, h]; rfl⟩
  | passed ms => exact hinner.elim

/-- A timely step leaves the server open. -/
theorem Happens.isOpen (h : Happens x e y) (htimely : e.IsTimely x.remote)
    (hx : x.remote.IsOpen) : y.remote.IsOpen := by
  by_cases hserver : e.IsOfServer
  · cases h with
    -- A timely step accepts no connection once the reports have ended.
    | accepted => exact fun hended => absurd (htimely.symm.trans hended) Bool.false_ne_true
    | greeted peer understood => exact isOpen_turn hx peer
    | read peer incoming => exact isOpen_turn hx peer
    | forwarded peer works => exact isOpen_turn hx peer
    | parted h =>
      rw [part_of_mem h]
      exact hx
    | @routed report rest h =>
      obtain ⟨_, _, heq⟩ := route_eq { x.remote with events := rest } report
      rw [heq]
      exact hx
    | ended h => exact fun _ => htimely
    | _ => exact hserver.elim
  · have hsame := h.sameServer hserver
    exact fun hended => hsame.connections_eq.trans (hx (hsame.ended_eq.symm.trans hended))

end Remote

/-! ### Both together -/

/-- A bridge after what the router asks for outside the page. -/
def Bridge.Moment.take (x : Bridge.Moment) : Routed → Bridge.Moment
  | .post m => { x with bridge := x.bridge.post m }
  | .observe _ => x
  | .nothing => x

namespace Relay

/-- A bridge and a page on one channel of toasts, at an instant. -/
structure Moment where
  /-- The bridge, with the channel. -/
  bridge : Bridge.Moment
  /-- The page. -/
  page : Remote.Moment

/-- A new bridge, and a page to which nobody is connected. -/
def Moment.start (bridge : BridgeConfig) (page : RemoteConfig) : Moment :=
  ⟨.start bridge, .start page⟩

/-- What happens at a bridge and a page. -/
inductive Event where
  /-- Something happens at the bridge or on the channel. -/
  | atBridge (e : Bridge.Event)
  /-- Something happens at the page. -/
  | atPage (e : Remote.Event)
  /-- A message comes in on a connection. -/
  | said (peer : Nat) (m : WireMessage)
  /-- The relay reads the channel. -/
  | relayed (received : Received BridgeMessage)
  /-- The router looks at a report. -/
  | routed (report : ServerEvent)
  /-- Time passes. -/
  | passed (ms : Nat)

/-- What can happen at a bridge and a page. The relay reads what anyone has posted, and the router
posts what it finds. -/
inductive Happens : Moment → Event → Moment → Prop
  | atBridge {x : Moment} {e : Bridge.Event} {b : Bridge.Moment} (h : Bridge.Happens x.bridge e b)
      (htime : ∀ ms, e ≠ .passed ms) : Happens x (.atBridge e) { x with bridge := b }
  | atPage {x : Moment} {e : Remote.Event} {p : Remote.Moment} (h : Remote.Happens x.page e p)
      (hinner : e.IsInner) (htimely : e.IsTimely x.page.remote) :
      Happens x (.atPage e) { x with page := p }
  | said {x : Moment} {peer : Nat} {c : Connection} {s : String} {m : WireMessage}
      (hc : x.page.remote.connections.find? (fun c => c.peer = peer) = some c)
      (hgreeted : c.greeted = true) (hm : WireMessage.decoder.ofText s = .ok m) :
      Happens x (.said peer m)
        { x with page.remote := (x.page.remote.turn peer fun c => c.read (.text s)).1 }
  | relayed {x : Moment} {received : Received BridgeMessage} {cursor : Nat}
      (h : x.bridge.bridge.channel.receive? x.page.remote.relayCursor = some (received, cursor)) :
      Happens x (.relayed received)
        { x with page.remote := { x.page.remote.relay received with relayCursor := cursor } }
  | routed {x : Moment} {report : ServerEvent} {rest : List ServerEvent}
      (h : x.page.remote.events = report :: rest) :
      Happens x (.routed report)
        { bridge := x.bridge.take ({ x.page.remote with events := rest }.route report).2
          page := { x.page with remote := ({ x.page.remote with events := rest }.route report).1 } }
  | passed (x : Moment) (ms : Nat) :
      Happens x (.passed ms)
        { x with bridge.now := x.bridge.now + ms, page.now := x.page.now + ms }

/-! ### What passes -/

namespace Moment

/-- All messages on the channel. -/
def posted (x : Moment) : List BridgeMessage :=
  x.bridge.bridge.channel.log

/-- The messages on the channel that the relay has still to read, or to miss. -/
def unrelayed (x : Moment) : List BridgeMessage :=
  x.posted.drop x.page.remote.relayCursor

/-- The relay has read no more than there is. -/
def RelaysPosted (x : Moment) : Prop :=
  x.page.remote.relayCursor ≤ x.posted.length

end Moment

namespace Event

/-- What is seen of an event at the bridge. -/
def atBridge? : Event → Option Bridge.Event
  | .atBridge e => some e
  | .routed (.message (.toastResponse r)) => some (.posted (.response r))
  | .passed ms => some (.passed ms)
  | _ => none

/-- The messages that are posted on the channel. -/
def posts (e : Event) : List BridgeMessage :=
  e.atBridge?.toList.flatMap Bridge.Event.sends

/-- The messages that the relay reads. -/
def relays : Event → List BridgeMessage
  | .relayed (.message m) => [m]
  | _ => []

/-- The responses to toasts that somebody posts who has not been shown them on a connection. -/
def given : Event → List ToastResponse
  | .atBridge (.posted (.response r)) => [r]
  | _ => []

/-- The responses to toasts that come in. -/
def arrives : Event → List ToastResponse
  | .said _ (.toastResponse r) => [r]
  | _ => []

/-- The responses to toasts that the router posts. -/
def routes : Event → List ToastResponse
  | .routed (.message (.toastResponse r)) => [r]
  | _ => []

/-- The relay or the listener has fallen behind. -/
def FallsBehind : Event → Prop
  | .relayed (.lagged _) => True
  | .atBridge (.heard (.lagged _)) => True
  | _ => False

/-- Something is asked on a connection, or it is looked at. -/
def Asks : Event → Prop
  | .said _ m => m.isRequest
  | .routed (.message m) => m.isRequest
  | _ => False

end Event

/-- What is seen at the bridge. -/
def atBridge (events : List Event) : List Bridge.Event :=
  events.flatMap fun e => e.atBridge?.toList

/-- A step while a connection is attached, in which nobody falls behind. -/
structure Attended (x : Moment) (e : Event) (y : Moment) : Prop where
  happens : Happens x e y
  attached : x.page.remote.connections ≠ []
  keepsUp : ¬ e.FallsBehind

variable {bridge : BridgeConfig} {page : RemoteConfig} {id : String} {x y : Moment} {e : Event}
  {earlier events : List Event}

/-- A step shows at the bridge what the bridge itself does, and what the router posts. -/
theorem Happens.bridge_steps (h : Happens x e y) :
    Steps Bridge.Happens x.bridge e.atBridge?.toList y.bridge := by
  cases h with
  | atBridge h _ => exact steps_singleton_iff.mpr h
  | atPage _ _ _ => exact .nil x.bridge
  | said _ _ _ => exact .nil x.bridge
  | relayed _ => exact .nil x.bridge
  -- Of all that is routed only a response is posted at the bridge.
  | @routed report rest h =>
    match report with
    | .message (.toastResponse r) => exact steps_singleton_iff.mpr (.posted x.bridge (.response r))
    | .message (.observed event) =>
      simp only [Remote.route]
      split <;> exact .nil x.bridge
    | .message (.pageResponse _ _ _ _) => exact .nil x.bridge
    | .message (.pageRequest _ _) => exact .nil x.bridge
    | .message (.toastRequest _) => exact .nil x.bridge
    | .connected _ => exact .nil x.bridge
    | .disconnected _ => exact .nil x.bridge
  | passed ms => exact steps_singleton_iff.mpr (.passed x.bridge ms)

/-- What happens at the bridge is a history of it. -/
theorem bridge_steps (h : Steps Happens x events y) :
    Steps Bridge.Happens x.bridge (atBridge events) y.bridge :=
  h.project fun _ _ _ hstep => hstep.bridge_steps

/-- What is sent at the bridge is what is posted. -/
theorem sends_atBridge (events : List Event) :
    (atBridge events).flatMap Bridge.Event.sends = events.flatMap Event.posts := by
  rw [atBridge, List.flatMap_assoc]
  rfl

/-- A step posts what its event says. -/
theorem Happens.posted_eq (h : Happens x e y) : y.posted = x.posted ++ e.posts :=
  Bridge.log_of_steps h.bridge_steps

/-- What has been posted is what all events have posted. -/
theorem posted_of_steps (h : Steps Happens x events y) :
    y.posted = x.posted ++ events.flatMap Event.posts := by
  rw [Moment.posted, Bridge.log_of_steps (bridge_steps h), sends_atBridge, Moment.posted]

/-- The relay reads, or else what it has read and what has been sent about toasts stays as it is. -/
theorem Happens.relay_cases (h : Happens x e y) :
    (∃ received cursor, e = .relayed received ∧
      x.bridge.bridge.channel.receive? x.page.remote.relayCursor = some (received, cursor) ∧
      y = { x with page.remote := { x.page.remote.relay received with relayCursor := cursor } }) ∨
    (e.relays = [] ∧ y.page.remote.relayCursor = x.page.remote.relayCursor ∧
      y.page.remote.toasts = x.page.remote.toasts) := by
  -- Only the relay itself moves its cursor, and only requests of the page are sent besides.
  cases h with
  | atBridge _ _ => exact .inr ⟨rfl, rfl, rfl⟩
  | atPage h hinner _ =>
    obtain ⟨hcursor, htoasts, -⟩ := h.sameToasts hinner
    exact .inr ⟨rfl, hcursor, htoasts⟩
  | @said peer c s m hc hgreeted hm =>
    obtain ⟨_, _, _, heq⟩ := Remote.turn_eq x.page.remote peer fun c => c.read (.text s)
    rw [heq]
    exact .inr ⟨rfl, rfl, rfl⟩
  | relayed h => exact .inl ⟨_, _, rfl, h, rfl⟩
  | @routed report rest h =>
    obtain ⟨_, _, heq⟩ := Remote.route_eq { x.page.remote with events := rest } report
    rw [heq]
    exact .inr ⟨rfl, rfl, rfl⟩
  | passed ms => exact .inr ⟨rfl, rfl, rfl⟩

/-- A step relays no more than was posted. -/
theorem Happens.relaysPosted (h : Happens x e y) (hx : x.RelaysPosted) : y.RelaysPosted := by
  obtain ⟨received, cursor, rfl, hread, rfl⟩ | ⟨-, hcursor, -⟩ := h.relay_cases
  · exact Channel.le_of_receive? hread
  · rw [Moment.RelaysPosted, hcursor, h.posted_eq, List.length_append]
    exact Nat.le_add_right_of_le hx

/-- A relay that does not fall behind reads the first of the messages that are left to it. -/
theorem Attended.unrelayed_eq (h : Attended x e y) (hx : x.RelaysPosted) :
    x.unrelayed ++ e.posts = e.relays ++ y.unrelayed := by
  -- What is posted is to be read after what was left before.
  have hposts : x.unrelayed ++ e.posts = y.posted.drop x.page.remote.relayCursor := by
    rw [h.happens.posted_eq, List.drop_append_of_le_length hx, Moment.unrelayed]
  rw [hposts, Moment.unrelayed]
  obtain ⟨received, cursor, rfl, hread, rfl⟩ | ⟨hrelays, hcursor, -⟩ := h.happens.relay_cases
  · cases received with
    | lagged missed => exact absurd trivial h.keepsUp
    | message m => exact (Channel.drop_of_receive?_message hread).2
  · rw [hrelays, hcursor, List.nil_append]

/-- A relay that somebody is connected to sends on the toasts that it reads, and nothing else about
toasts is sent. -/
theorem Attended.toasts_eq (h : Attended x e y) :
    y.page.remote.toasts =
      x.page.remote.toasts ++ (e.relays.filterMap BridgeMessage.request?).map .request := by
  obtain ⟨received, cursor, rfl, -, rfl⟩ | ⟨hrelays, -, htoasts⟩ := h.happens.relay_cases
  · cases received with
    | lagged missed => exact absurd trivial h.keepsUp
    | message m =>
      cases m with
      | response r => exact (List.append_nil _).symm
      | request t =>
        have hsend : x.page.remote.send? (.toastRequest t) =
            some (x.page.remote.send (.toastRequest t)) := if_neg (by simpa using h.attached)
        simp only [Remote.relay, hsend]
        exact Remote.toasts_send x.page.remote (.toastRequest t)
  · rw [hrelays, htoasts]
    exact (List.append_nil _).symm

/-- What comes in is queued as long as somebody looks, and it is the first of what is queued that is
looked at. -/
theorem Happens.unrouted_eq (h : Happens x e y) :
    x.page.remote.unrouted ++ (if x.page.remote.ended then [] else e.arrives) =
      e.routes ++ y.page.remote.unrouted := by
  cases h with
  | atBridge _ _ => simp [Event.arrives, Event.routes]
  | atPage h hinner _ => simp [Event.arrives, Event.routes, (h.sameToasts hinner).unrouted_eq]
  -- What is said is queued, unless nobody looks any more.
  | @said peer c s m hc hgreeted hm =>
    rw [Remote.turn_of_message hc hgreeted hm]
    simp only [Remote.unrouted, List.filterMap_append, Event.routes, List.nil_append]
    split
    · rfl
    · cases m <;> rfl
  | @relayed received cursor h =>
    rcases Remote.relay_eq x.page.remote received with heq | ⟨t, heq⟩
    · simp [heq, Event.arrives, Event.routes, Remote.unrouted]
    · simp [heq, Event.arrives, Event.routes, Remote.unrouted, Remote.send]
  | @routed report rest h =>
    obtain ⟨_, _, heq⟩ := Remote.route_eq { x.page.remote with events := rest } report
    rw [heq]
    simp only [Event.arrives, ite_self, List.append_nil, Remote.unrouted, h]
    cases report with
    | message m => cases m <;> rfl
    | connected _ => rfl
    | disconnected _ => rfl
  | passed ms => simp [Event.arrives, Event.routes]

/-- A step leaves the page open. -/
theorem Happens.isOpen (h : Happens x e y) (hx : x.page.remote.IsOpen) : y.page.remote.IsOpen := by
  cases h with
  | atBridge _ _ => exact hx
  | atPage h _ htimely => exact h.isOpen htimely hx
  | @said peer c s m hc hgreeted hm => exact Remote.isOpen_turn hx peer
  | @relayed received cursor h =>
    exact (Remote.Happens.relayed x.page received).isOpen trivial hx
  | @routed report rest h => exact (Remote.Happens.routed h).isOpen trivial hx
  | passed ms => exact hx

/-- Every response on the channel has been posted by the router or by somebody else. -/
theorem Event.responses_posts (e : Event) :
    e.posts.filterMap BridgeMessage.response? = e.given ++ e.routes := by
  cases e with
  | atBridge e =>
    cases e with
    | posted m => cases m <;> rfl
    | _ => rfl
  | routed report =>
    cases report with
    | message m => cases m <;> rfl
    | connected _ => rfl
    | disconnected _ => rfl
  | _ => rfl

/-- No response to a toast is sent. -/
theorem Happens.response_notMem_toasts (h : Happens x e y)
    (hx : ∀ r, .response r ∉ x.page.remote.toasts) : ∀ r, .response r ∉ y.page.remote.toasts := by
  obtain ⟨received, cursor, rfl, -, rfl⟩ | ⟨-, -, htoasts⟩ := h.relay_cases
  · rcases Remote.relay_eq x.page.remote received with heq | ⟨t, heq⟩
    · rwa [heq]
    · intro r hr
      rw [heq] at hr
      change _ ∈ (x.page.remote.send (.toastRequest t)).toasts at hr
      rw [Remote.toasts_send, List.mem_append] at hr
      rcases hr with hr | hr
      · exact hx r hr
      · cases List.mem_singleton.mp hr
  · rwa [htoasts]

/-- A step changes neither the bridge with its channel nor what has been sent, and the calls may be
handed the same as before. -/
structure Unnoticed (x y : Moment) : Prop where
  bridge_eq : y.bridge = x.bridge
  outbound_eq : y.page.remote.outbound = x.page.remote.outbound
  calls_eq : y.page.calls = x.page.calls
  ledger_eq : y.page.remote.ledger = x.page.remote.ledger

/-- What only asks the page is noticed neither at the bridge nor by a call. -/
theorem Happens.unnoticed (h : Happens x e y) (hasks : e.Asks) : Unnoticed x y := by
  cases h with
  | @said peer c s m hc hgreeted hm =>
    obtain ⟨_, _, _, heq⟩ := Remote.turn_eq x.page.remote peer fun c => c.read (.text s)
    rw [heq]
    exact ⟨rfl, rfl, rfl, rfl⟩
  | @routed report rest h =>
    match report, hasks with
    | .message (.pageRequest _ _), _ => exact ⟨rfl, rfl, rfl, rfl⟩
    | .message (.toastRequest _), _ => exact ⟨rfl, rfl, rfl, rfl⟩
  | _ => exact hasks.elim

/-! ### Responses of one id -/

/-- No response of an id is on the channel, and none has come in that may be posted there. -/
structure Moment.Quiet (x : Moment) (id : String) : Prop where
  posted : ∀ r, .response r ∈ x.posted → r.id ≠ id
  unrouted : ∀ r ∈ x.page.remote.unrouted, r.id ≠ id

/-- An id that no response has stays without one. -/
theorem Happens.quiet (h : Happens x e y) (hx : x.Quiet id)
    (he : ∀ r ∈ e.given ++ e.arrives, r.id ≠ id) : y.Quiet id := by
  obtain ⟨hgiven, harrives⟩ := List.forall_mem_append.mp he
  -- What is looked at, or still to be looked at, has come in before or comes in now.
  have hroutes : ∀ r ∈ e.routes ++ y.page.remote.unrouted, r.id ≠ id := by
    rw [← h.unrouted_eq]
    refine List.forall_mem_append.mpr ⟨hx.unrouted, fun r hr => ?_⟩
    split at hr
    · cases hr
    · exact harrives r hr
  obtain ⟨hroutes, hunrouted⟩ := List.forall_mem_append.mp hroutes
  refine ⟨fun r hr => ?_, hunrouted⟩
  rw [h.posted_eq, List.mem_append] at hr
  rcases hr with hr | hr
  · exact hx.posted r hr
  · have hmem : r ∈ e.given ++ e.routes := by
      rw [← e.responses_posts]
      exact List.mem_filterMap.mpr ⟨_, hr, rfl⟩
    exact List.forall_mem_append.mpr ⟨hgiven, hroutes⟩ r hmem

/-- An id has no response if none came in or was given. -/
theorem quiet_of_steps (h : Steps Happens (.start bridge page) events x)
    (hevents : ∀ e ∈ events, ∀ r ∈ e.given ++ e.arrives, r.id ≠ id) : x.Quiet id :=
  (h.and_events hevents).invariant (P := fun x => x.Quiet id)
    (fun _ _ _ hz hstep => hstep.1.quiet hz hstep.2) ⟨nofun, nofun⟩

/-- The responses of an id, in order. -/
def responsesTo (id : String) (responses : List ToastResponse) : List ToastResponse :=
  responses.filter fun r => r.id = id

/-- The responses of an id in two stretches, one after the other. -/
theorem responsesTo_append (first second : List ToastResponse) :
    responsesTo id (first ++ second) = responsesTo id first ++ responsesTo id second :=
  List.filter_append ..

/-- An id has no responses where all are of others. -/
theorem responsesTo_eq_nil {responses : List ToastResponse} (h : ∀ r ∈ responses, r.id ≠ id) :
    responsesTo id responses = [] :=
  List.filter_eq_nil_iff.mpr fun r hr => by simpa using h r hr

/-- The responses that the listener reads. -/
def heard (events : List Bridge.Event) : List ToastResponse :=
  (events.flatMap Bridge.Event.hears).filterMap BridgeMessage.response?

/-- The first response of an id. -/
def firstTo (id : String) (responses : List ToastResponse) : Option ToastAction :=
  (responsesTo id responses).head?.map ToastResponse.action

/-- The first response of an id is the first one that the listener hears. -/
theorem firstResponse_eq (events : List Bridge.Event) :
    Bridge.firstResponse id events = firstTo id (heard events) := by
  induction events with
  | nil => rfl
  | cons e events ih =>
    have hheard : heard (e :: events) =
        e.hears.filterMap BridgeMessage.response? ++ heard events := by
      rw [heard, List.flatMap_cons, List.filterMap_append, heard]
    rw [Bridge.firstResponse] at ih
    rw [Bridge.firstResponse, List.findSome?_cons, ih, firstTo, firstTo, hheard, responsesTo_append]
    cases e with
    | heard received =>
      cases received with
      | lagged missed => rfl
      | message m =>
        cases m with
        | request t => rfl
        | response r =>
          -- The first response counts if it has the id, and those behind it do if not.
          by_cases h : r.id = id
          · simp [Bridge.Event.responseTo, Bridge.Event.hears, BridgeMessage.response?,
              responsesTo, h]
          · simp [Bridge.Event.responseTo, Bridge.Event.hears, BridgeMessage.response?,
              responsesTo, h]
    | _ => rfl

/-- Attended steps are steps. -/
theorem steps_of_attended (h : Steps Attended x events y) : Steps Happens x events y :=
  h.mono fun _ _ _ hstep => hstep.happens

/-- While a connection is attached, what comes in is not lost. -/
theorem Attended.unrouted_eq (h : Attended x e y) (hx : x.page.remote.IsOpen) :
    x.page.remote.unrouted ++ e.arrives = e.routes ++ y.page.remote.unrouted := by
  have hlistening : x.page.remote.ended = false :=
    Bool.eq_false_iff.mpr fun hended => h.attached (hx hended)
  rw [← h.happens.unrouted_eq, hlistening]
  rfl

/-- While connections are attached all that comes in is looked at, or still to be. -/
theorem unrouted_of_attended (h : Steps Attended x events y) (hx : x.page.remote.IsOpen) :
    x.page.remote.unrouted ++ events.flatMap Event.arrives =
      events.flatMap Event.routes ++ y.page.remote.unrouted :=
  h.flow_eq (P := fun x => x.page.remote.IsOpen) (fun x => x.page.remote.unrouted)
    (fun _ _ _ hz hstep => hstep.happens.isOpen hz) (fun _ _ _ hz hstep => hstep.unrouted_eq hz) hx

/-- While connections are attached the listener hears all that is posted, or is still to. -/
theorem unread_of_attended (h : Steps Attended x events y)
    (hx : x.bridge.bridge.cursor ≤ x.posted.length) :
    x.bridge.bridge.unread ++ events.flatMap Event.posts =
      (atBridge events).flatMap Bridge.Event.hears ++ y.bridge.bridge.unread := by
  have hlag : ∀ missed, .heard (.lagged missed) ∉ atBridge events := by
    intro missed hmem
    obtain ⟨e, he, hlagged⟩ := List.mem_flatMap.mp hmem
    rw [Option.mem_toList] at hlagged
    refine h.forall_events (P := fun _ => True) (fun _ _ _ _ _ => trivial)
      (fun _ _ _ _ hstep => hstep.keepsUp) trivial e he ?_
    -- It is the bridge itself that reads, and not the router that posts.
    cases e with
    | atBridge e =>
      obtain rfl := Option.some.inj hlagged
      trivial
    | routed report =>
      cases report with
      | message m => cases m <;> cases hlagged
      | _ => cases hlagged
    | _ => cases hlagged
  have hunread := Bridge.unread_of_steps (bridge_steps (steps_of_attended h)) hx hlag
  rwa [sends_atBridge] at hunread

/-- What the relay reads, followed by what it has still to read, is what it had to read before,
followed by what has been posted since. -/
theorem unrelayed_of_attended (h : Steps Attended x events y) (hx : x.RelaysPosted) :
    x.unrelayed ++ events.flatMap Event.posts = events.flatMap Event.relays ++ y.unrelayed :=
  h.flow_eq Moment.unrelayed (fun _ _ _ hz hstep => hstep.happens.relaysPosted hz)
    (fun _ _ _ hz hstep => hstep.unrelayed_eq hz) hx

/-- What is sent about toasts are the toasts that the relay reads. -/
theorem toasts_of_attended (h : Steps Attended x events y) :
    y.page.remote.toasts = x.page.remote.toasts ++
      ((events.flatMap Event.relays).filterMap BridgeMessage.request?).map .request := by
  rw [h.append_eq (fun x => x.page.remote.toasts) fun _ _ _ hstep => hstep.toasts_eq,
    List.filterMap_flatMap, List.map_flatMap]

/-- The responses of an id that come in are those that the listener has read, those that it has yet
to read and those that have not been looked at, if nobody else gives any. -/
theorem responsesTo_arrives (h : Steps Attended x events y)
    (hx : x.bridge.bridge.cursor ≤ x.posted.length) (hopen : x.page.remote.IsOpen)
    (hquiet : x.Quiet id) (hgiven : ∀ e ∈ events, ∀ r ∈ e.given, r.id ≠ id) :
    responsesTo id (events.flatMap Event.arrives) =
      responsesTo id (heard (atBridge events)) ++
        (responsesTo id (y.bridge.bridge.unread.filterMap BridgeMessage.response?) ++
          responsesTo id y.page.remote.unrouted) := by
  have hunread :
      responsesTo id (x.bridge.bridge.unread.filterMap BridgeMessage.response?) = [] := by
    refine responsesTo_eq_nil fun r hr => ?_
    obtain ⟨m, hm, hresponse⟩ := List.mem_filterMap.mp hr
    match m, hresponse with
    | .response r, rfl => exact hquiet.posted r (List.mem_of_mem_drop hm)
  -- The responses of the id that are posted are those that the router posts.
  have hposts : responsesTo id ((events.flatMap Event.posts).filterMap BridgeMessage.response?) =
      responsesTo id (events.flatMap Event.routes) := by
    rw [List.filterMap_flatMap, responsesTo, responsesTo, List.filter_flatMap, List.filter_flatMap]
    refine List.flatMap_congr fun e he => ?_
    rw [Event.responses_posts, ← responsesTo, responsesTo_append,
      responsesTo_eq_nil (hgiven e he), List.nil_append, responsesTo]
  -- The listener and the router each read on from where they were, one behind the other.
  have hlistener := congrArg (fun ms => responsesTo id (ms.filterMap BridgeMessage.response?))
    (unread_of_attended h hx)
  have hrouter := congrArg (responsesTo id) (unrouted_of_attended h hopen)
  simp only [List.filterMap_append, responsesTo_append, hunread, hposts, List.nil_append]
    at hlistener
  rw [responsesTo_append, responsesTo_append, responsesTo_eq_nil hquiet.unrouted, List.nil_append,
    hlistener, List.append_assoc] at hrouter
  exact hrouter

/-- If nobody but those on the connections responds to a toast, what is kept of it is nothing or the
first response to it that has come in. -/
theorem firstResponse_eq_firstTo (h : Steps Attended x events y)
    (hx : x.bridge.bridge.cursor ≤ x.posted.length) (hopen : x.page.remote.IsOpen)
    (hquiet : x.Quiet id) (hgiven : ∀ e ∈ events, ∀ r ∈ e.given, r.id ≠ id) :
    (Bridge.firstResponse id (atBridge events) = none ∨
      Bridge.firstResponse id (atBridge events) = firstTo id (events.flatMap Event.arrives)) ∧
    (y.page.remote.events = [] → y.bridge.bridge.listen? = none →
      Bridge.firstResponse id (atBridge events) = firstTo id (events.flatMap Event.arrives)) := by
  rw [firstResponse_eq, firstTo, firstTo, responsesTo_arrives h hx hopen hquiet hgiven]
  constructor
  -- The first response that came in is the first that was read, once one was read.
  · cases responsesTo id (heard (atBridge events)) with
    | nil => exact .inl rfl
    | cons r rest => exact .inr rfl
  · intro hrouted hlistened
    rw [Bridge.unread_eq_nil_of_listen? hlistened, Remote.unrouted, hrouted]
    simp [responsesTo]

/-- No more is relayed than was posted, in every reachable state. -/
theorem relaysPosted_of_steps (h : Steps Happens (.start bridge page) events x) : x.RelaysPosted :=
  h.invariant (fun _ _ _ hz hstep => hstep.relaysPosted hz) (Nat.le_refl 0)

/-- The page is open in every reachable state. -/
theorem isOpen_of_steps (h : Steps Happens (.start bridge page) events x) :
    x.page.remote.IsOpen :=
  h.invariant (P := fun x => x.page.remote.IsOpen) (fun _ _ _ hz hstep => hstep.isOpen hz)
    fun _ => rfl

/-- No response goes out to the pages: they only send them. -/
theorem toastResponse_notMem (h : Steps Happens (.start bridge page) events x) (r : ToastResponse) :
    .toastResponse r ∉ x.page.remote.outbound.log := by
  have hnot : ∀ r, .response r ∉ x.page.remote.toasts :=
    h.invariant (P := fun x => ∀ r, .response r ∉ x.page.remote.toasts)
      (fun _ _ _ hz hstep => hstep.response_notMem_toasts hz) nofun
  exact fun hmem => hnot r (List.mem_filterMap.mpr ⟨_, hmem, rfl⟩)

/-- What a request of a bridge comes to. -/
theorem completed_iff {outcome : Except BridgeError String} :
    (∃ z, Happens x (.atBridge (.completed id outcome)) z) ↔
      ∃ b, Bridge.Happens x.bridge (.completed id outcome) b := by
  constructor
  · rintro ⟨_, h⟩
    cases h with
    | atBridge h _ => exact ⟨_, h⟩
  · rintro ⟨b, h⟩
    exact ⟨_, .atBridge h nofun⟩

/-! ### Both ways -/

/-- A bridge and a page that is elsewhere share a channel of toasts. While a connection is attached
and neither the relay nor the listener falls behind: what is sent to the connections about toasts
are the toasts that have been posted on the channel, each once and in order, and never a response;
the responses on the channel are those that others have posted there and those that have come in on
a connection, each of these once and in order. What is asked on a connection changes neither the
channel nor what any call may be handed. So if only those on the connections respond to a toast, and
only once it has been shown, it is settled by the first response to it that has come in. -/
theorem carries_toasts (hx : Steps Happens (.start bridge page) earlier x)
    (h : Steps Attended x events y) :
    (∃ sent, y.page.remote.toasts = x.page.remote.toasts ++ sent.map .request ∧
      sent ++ y.unrelayed.filterMap BridgeMessage.request? =
        x.unrelayed.filterMap BridgeMessage.request? ++
          (events.flatMap Event.posts).filterMap BridgeMessage.request?) ∧
    (∀ r, .toastResponse r ∉ y.page.remote.outbound.log) ∧
    y.posted = x.posted ++ events.flatMap Event.posts ∧
    (∀ e ∈ events, e.posts.filterMap BridgeMessage.response? = e.given ++ e.routes) ∧
    events.flatMap Event.routes ++ y.page.remote.unrouted =
      x.page.remote.unrouted ++ events.flatMap Event.arrives ∧
    (∀ e z, Happens y e z → e.Asks → Unnoticed y z) ∧
    ∀ before toast during, events = before ++ .atBridge (.requested toast) :: during →
      (∀ e ∈ atBridge during, ¬ e.Ends toast.id) →
      (∀ e ∈ earlier ++ before, ∀ r ∈ e.given ++ e.arrives, r.id ≠ toast.id) →
      (∀ e ∈ during, ∀ r ∈ e.given, r.id ≠ toast.id) →
      ∃ first, y.bridge.bridge.ledger.Keeps toast.id first ∧
        (∀ outcome, (∃ z, Happens y (.atBridge (.completed toast.id outcome)) z) ↔
          Bridge.ComesTo bridge.responseTimeout toast.id first (Bridge.elapsed (atBridge during))
            outcome) ∧
        (first = none ∨ first = firstTo toast.id (during.flatMap Event.arrives)) ∧
        (y.page.remote.events = [] → y.bridge.bridge.listen? = none →
          first = firstTo toast.id (during.flatMap Event.arrives)) := by
  have hy := hx.append (steps_of_attended h)
  have hopen := isOpen_of_steps hx
  refine ⟨⟨_, toasts_of_attended h, ?_⟩, toastResponse_notMem hy,
    posted_of_steps (steps_of_attended h), fun e _ => e.responses_posts,
    (unrouted_of_attended h hopen).symm, fun e z hstep hasks => hstep.unnoticed hasks, ?_⟩
  · rw [← List.filterMap_append, ← List.filterMap_append,
      unrelayed_of_attended h (relaysPosted_of_steps hx)]
  · rintro before toast during rfl hends hbefore hgiven
    -- The toast is shown in the step from `u` to `v`.
    obtain ⟨u, hu, hrest⟩ := steps_append_iff.mp h
    obtain ⟨v, hv, hduring⟩ := steps_cons_iff.mp hrest
    -- When it is shown, no response to the toast is under way.
    have hbeforehand := hx.append (steps_of_attended hu)
    have hshown := hbeforehand.append (steps_singleton_iff.mpr hv.happens)
    have hquiet : v.Quiet toast.id :=
      hv.happens.quiet (quiet_of_steps hbeforehand hbefore) (List.forall_mem_nil _)
    have hall : Steps Bridge.Happens (.start bridge) _ y.bridge := bridge_steps hy
    have hsplit : atBridge (earlier ++ (before ++ .atBridge (.requested toast) :: during)) =
        atBridge (earlier ++ before) ++ .requested toast :: atBridge during := by
      simp [atBridge, Event.atBridge?]
    have hcursor := Bridge.cursor_le_of_steps (bridge_steps hshown)
    obtain ⟨hfirst, hdrained⟩ := firstResponse_eq_firstTo hduring hcursor
      (isOpen_of_steps hshown) hquiet hgiven
    exact ⟨_, Bridge.keeps_firstResponse hall hsplit hends,
      fun outcome => completed_iff.trans (Bridge.exists_completed_iff hall hsplit hends), hfirst,
      hdrained⟩

/-- A toast is shown on a connection, which answers it, and then answers it once more. Meanwhile it
shows the toast back, which is passed over. -/
def answeredEvents : List Event :=
  let toast : ToastRequest := ⟨"1", "Ready?", .standard⟩
  [.routed (.connected 0), .atBridge (.requested toast), .relayed (.message (.request toast)),
    .said 0 (.toastRequest toast), .said 0 (.toastResponse ⟨"1", .continue⟩),
    .routed (.message (.toastRequest toast)), .said 0 (.toastResponse ⟨"1", .cancel⟩),
    .routed (.message (.toastResponse ⟨"1", .continue⟩)),
    .atBridge (.heard (.message (.request toast))),
    .relayed (.message (.response ⟨"1", .continue⟩)),
    .routed (.message (.toastResponse ⟨"1", .cancel⟩)),
    .atBridge (.heard (.message (.response ⟨"1", .continue⟩))),
    .atBridge (.heard (.message (.response ⟨"1", .cancel⟩))),
    .relayed (.message (.response ⟨"1", .cancel⟩))]

/-- The toast that is shown, and its two answers. -/
def answeredPosts : List BridgeMessage :=
  [.request ⟨"1", "Ready?", .standard⟩, .response ⟨"1", .continue⟩, .response ⟨"1", .cancel⟩]

/-- The bridge once it has shown the toast, with so many messages posted and so many of them heard. -/
def answeredBridge (posted heard : Nat) (pending : List String)
    (answers : List (String × ToastAction)) : Bridge.Moment where
  bridge := { Bridge.new ⟨some 5, 8⟩ with
    channel := { (Bridge.new ⟨some 5, 8⟩).channel with log := answeredPosts.take posted }
    cursor := heard
    pending := pending
    answers := answers
    waiting := [⟨"1", 0⟩] }
  now := 0
  used := ["1"]

/-- The page with its only connection, to which so much has been sent; so much of the channel has
been read by the relay, and so much has been reported and not been looked at. -/
def answeredPage (sent : List BridgeMessage) (relayed : Nat) (reports : List ServerEvent) :
    Remote.Moment where
  remote := { Remote.new ⟨0, 5⟩ with
    outbound := { (Remote.new ⟨0, 5⟩).outbound with log := sent.map .ofBridge }
    connections := [⟨0, 0, true⟩]
    peers := 1
    relayCursor := relayed
    events := reports }
  calls := []
  made := 0
  now := 0

variable {b : Bridge.Moment} {sent : List BridgeMessage} {relayed : Nat} {reports : List ServerEvent}

/-- A message about toasts comes in on the only connection. -/
private theorem happens_said_answeredPage (b : Bridge.Moment) (sent : List BridgeMessage)
    (relayed : Nat) (reports : List ServerEvent) (m : BridgeMessage) :
    Happens ⟨b, answeredPage sent relayed reports⟩ (.said 0 (.ofBridge m))
      ⟨b, answeredPage sent relayed (reports ++ [.message (.ofBridge m)])⟩ := by
  have hfind : (answeredPage sent relayed reports).remote.connections.find?
      (fun c => c.peer = 0) = some ⟨0, 0, true⟩ := rfl
  have hsaid := Happens.said (x := ⟨b, answeredPage sent relayed reports⟩) hfind rfl
    (WireMessage.ofText_ofBridge m)
  rwa [Remote.turn_of_message hfind rfl (WireMessage.ofText_ofBridge m)] at hsaid

/-- The connection is there all the time. -/
private theorem attended_answeredPage (h : Happens ⟨b, answeredPage sent relayed reports⟩ e y)
    (hkeeps : ¬ e.FallsBehind) : Attended ⟨b, answeredPage sent relayed reports⟩ e y :=
  ⟨h, List.cons_ne_nil _ _, hkeeps⟩

/-- The toast is shown on the connection. -/
private theorem steps_shown :
    Steps Attended ⟨.start ⟨some 5, 8⟩, answeredPage [] 0 [.connected 0]⟩ (answeredEvents.take 3)
      ⟨answeredBridge 1 0 ["1"] [], answeredPage (answeredPosts.take 1) 1 []⟩ := by
  have hlooked : Happens ⟨.start ⟨some 5, 8⟩, answeredPage [] 0 [.connected 0]⟩
      (.routed (.connected 0)) ⟨.start ⟨some 5, 8⟩, answeredPage [] 0 []⟩ :=
    .routed rfl
  have hrequested : Happens ⟨.start ⟨some 5, 8⟩, answeredPage [] 0 []⟩
      (.atBridge (.requested ⟨"1", "Ready?", .standard⟩))
      ⟨answeredBridge 1 0 ["1"] [], answeredPage [] 0 []⟩ :=
    .atBridge (.requested List.not_mem_nil) nofun
  have hrelayed : Happens ⟨answeredBridge 1 0 ["1"] [], answeredPage [] 0 []⟩
      (.relayed (.message (.request ⟨"1", "Ready?", .standard⟩)))
      ⟨answeredBridge 1 0 ["1"] [], answeredPage (answeredPosts.take 1) 1 []⟩ :=
    .relayed (by decide +kernel)
  exact .cons (attended_answeredPage hlooked id) (.cons (attended_answeredPage hrequested id)
    (.cons (attended_answeredPage hrelayed id) (.nil _)))

/-- The connection shows the toast back and answers it twice. The router has looked at the first
answer, and not at the second one. -/
private theorem steps_answered :
    Steps Attended ⟨answeredBridge 1 0 ["1"] [], answeredPage (answeredPosts.take 1) 1 []⟩
      ((answeredEvents.drop 3).take 5)
      ⟨answeredBridge 2 0 ["1"] [], answeredPage (answeredPosts.take 1) 1
        [.message (.toastResponse ⟨"1", .cancel⟩)]⟩ := by
  have hshown := happens_said_answeredPage (answeredBridge 1 0 ["1"] []) (answeredPosts.take 1) 1
    [] (.request ⟨"1", "Ready?", .standard⟩)
  have hcontinued := happens_said_answeredPage (answeredBridge 1 0 ["1"] [])
    (answeredPosts.take 1) 1 [.message (.toastRequest ⟨"1", "Ready?", .standard⟩)]
    (.response ⟨"1", .continue⟩)
  have hpassed : Happens
      ⟨answeredBridge 1 0 ["1"] [], answeredPage (answeredPosts.take 1) 1
        [.message (.toastRequest ⟨"1", "Ready?", .standard⟩),
          .message (.toastResponse ⟨"1", .continue⟩)]⟩
      (.routed (.message (.toastRequest ⟨"1", "Ready?", .standard⟩)))
      ⟨answeredBridge 1 0 ["1"] [], answeredPage (answeredPosts.take 1) 1
        [.message (.toastResponse ⟨"1", .continue⟩)]⟩ :=
    .routed rfl
  -- The page answers twice, and the second answer comes before the first one is posted.
  have hcancelled := happens_said_answeredPage (answeredBridge 1 0 ["1"] [])
    (answeredPosts.take 1) 1 [.message (.toastResponse ⟨"1", .continue⟩)] (.response ⟨"1", .cancel⟩)
  have hposted : Happens
      ⟨answeredBridge 1 0 ["1"] [], answeredPage (answeredPosts.take 1) 1
        [.message (.toastResponse ⟨"1", .continue⟩), .message (.toastResponse ⟨"1", .cancel⟩)]⟩
      (.routed (.message (.toastResponse ⟨"1", .continue⟩)))
      ⟨answeredBridge 2 0 ["1"] [], answeredPage (answeredPosts.take 1) 1
        [.message (.toastResponse ⟨"1", .cancel⟩)]⟩ :=
    .routed rfl
  exact .cons (attended_answeredPage hshown id) (.cons (attended_answeredPage hcontinued id)
    (.cons (attended_answeredPage hpassed id) (.cons (attended_answeredPage hcancelled id)
      (.cons (attended_answeredPage hposted id) (.nil _)))))

/-- The listener hears all that has been posted, and the relay reads it. -/
private theorem steps_settled :
    Steps Attended
      ⟨answeredBridge 2 0 ["1"] [], answeredPage (answeredPosts.take 1) 1
        [.message (.toastResponse ⟨"1", .cancel⟩)]⟩
      (answeredEvents.drop 8)
      ⟨answeredBridge 3 3 [] [("1", .continue)], answeredPage (answeredPosts.take 1) 3 []⟩ := by
  have hheard : Happens
      ⟨answeredBridge 2 0 ["1"] [], answeredPage (answeredPosts.take 1) 1
        [.message (.toastResponse ⟨"1", .cancel⟩)]⟩
      (.atBridge (.heard (.message (.request ⟨"1", "Ready?", .standard⟩))))
      ⟨answeredBridge 2 1 ["1"] [], answeredPage (answeredPosts.take 1) 1
        [.message (.toastResponse ⟨"1", .cancel⟩)]⟩ :=
    .atBridge (.heard (by decide +kernel)) nofun
  have hrelayed : Happens
      ⟨answeredBridge 2 1 ["1"] [], answeredPage (answeredPosts.take 1) 1
        [.message (.toastResponse ⟨"1", .cancel⟩)]⟩
      (.relayed (.message (.response ⟨"1", .continue⟩)))
      ⟨answeredBridge 2 1 ["1"] [], answeredPage (answeredPosts.take 1) 2
        [.message (.toastResponse ⟨"1", .cancel⟩)]⟩ :=
    .relayed (by decide +kernel)
  have hposted : Happens
      ⟨answeredBridge 2 1 ["1"] [], answeredPage (answeredPosts.take 1) 2
        [.message (.toastResponse ⟨"1", .cancel⟩)]⟩
      (.routed (.message (.toastResponse ⟨"1", .cancel⟩)))
      ⟨answeredBridge 3 1 ["1"] [], answeredPage (answeredPosts.take 1) 2 []⟩ :=
    .routed rfl
  -- The first answer settles the request, so the second one comes too late.
  have hfirst : Happens
      ⟨answeredBridge 3 1 ["1"] [], answeredPage (answeredPosts.take 1) 2 []⟩
      (.atBridge (.heard (.message (.response ⟨"1", .continue⟩))))
      ⟨answeredBridge 3 2 [] [("1", .continue)], answeredPage (answeredPosts.take 1) 2 []⟩ :=
    .atBridge (.heard (by decide +kernel)) nofun
  have hsecond : Happens
      ⟨answeredBridge 3 2 [] [("1", .continue)], answeredPage (answeredPosts.take 1) 2 []⟩
      (.atBridge (.heard (.message (.response ⟨"1", .cancel⟩))))
      ⟨answeredBridge 3 3 [] [("1", .continue)], answeredPage (answeredPosts.take 1) 2 []⟩ :=
    .atBridge (.heard (by decide +kernel)) nofun
  have hlast : Happens
      ⟨answeredBridge 3 3 [] [("1", .continue)], answeredPage (answeredPosts.take 1) 2 []⟩
      (.relayed (.message (.response ⟨"1", .cancel⟩)))
      ⟨answeredBridge 3 3 [] [("1", .continue)], answeredPage (answeredPosts.take 1) 3 []⟩ :=
    .relayed (by decide +kernel)
  exact .cons (attended_answeredPage hheard id) (.cons (attended_answeredPage hrelayed id)
    (.cons (attended_answeredPage hposted id) (.cons (attended_answeredPage hfirst id)
      (.cons (attended_answeredPage hsecond id) (.cons (attended_answeredPage hlast id)
        (.nil _))))))

/-- Bridge and page can go through these events, and then nothing is left to relay or to hear. -/
theorem exists_steps_answeredEvents : ∃ x y,
    Steps Happens (.start ⟨some 5, 8⟩ ⟨0, 5⟩) [.atPage .accepted, .atPage (.greeted 0 true)] x ∧
      Steps Attended x answeredEvents y ∧ x.page.remote.toasts = [] ∧ x.unrelayed = [] ∧
      y.unrelayed = [] ∧ y.page.remote.events = [] ∧ y.bridge.bridge.listen? = none := by
  have hjoined : Steps Happens (.start ⟨some 5, 8⟩ ⟨0, 5⟩)
      [.atPage .accepted, .atPage (.greeted 0 true)]
      ⟨.start ⟨some 5, 8⟩, answeredPage [] 0 [.connected 0]⟩ :=
    .cons (.atPage (.accepted _) trivial rfl)
      (.cons (.atPage (.greeted _ 0 true) trivial trivial) (.nil _))
  have hall := steps_shown.append (steps_answered.append steps_settled)
  have hlistened : (answeredBridge 3 3 [] [("1", .continue)]).bridge.listen? = none :=
    Option.isNone_iff_eq_none.mp (by decide +kernel)
  exact ⟨_, _, hjoined, hall, rfl, rfl, rfl, rfl, hlistened⟩

/-- The toast is shown once, and it is settled by the first answer. -/
theorem carries_toasts_answered : ∃ x y,
    Steps Happens (.start ⟨some 5, 8⟩ ⟨0, 5⟩) [.atPage .accepted, .atPage (.greeted 0 true)] x ∧
      Steps Attended x answeredEvents y ∧
      y.page.remote.toasts = [.request ⟨"1", "Ready?", .standard⟩] ∧
      ∃ z, Happens y (.atBridge (.completed "1" (.ok Bridge.continued))) z := by
  obtain ⟨x, y, hx, h, htoasts, hunrelayed, hrelayed, hrouted, hlistened⟩ :=
    exists_steps_answeredEvents
  obtain ⟨⟨sent, hsent, hall⟩, -, -, -, -, -, hsettled⟩ := carries_toasts hx h
  obtain ⟨first, -, hcomes, -, hfirst⟩ := hsettled [.routed (.connected 0)]
    ⟨"1", "Ready?", .standard⟩ (answeredEvents.drop 2) rfl
    (by simp [answeredEvents, atBridge, Event.atBridge?, Bridge.Event.Ends])
    (by simp [Event.given, Event.arrives]) (by simp [answeredEvents, Event.given])
  refine ⟨x, y, hx, h, ?_, ?_⟩
  -- Nothing was left to relay and nothing is, so all that was posted has been sent.
  · rw [hrelayed, hunrelayed, List.filterMap_nil, List.append_nil, List.nil_append] at hall
    rw [hsent, htoasts, hall]
    rfl
  · rw [hcomes, hfirst hrouted hlistened]
    exact .continued _

end Relay

end PageScript
