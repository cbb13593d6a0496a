import PageScript.Proofs.Remote.Correlation

/-!
# Requests of connections that have gone

All pending requests fail when it is looked at that a connection has gone, and no connection is
attached by then. So a request fails once all connections that were attached when it was sent have
gone and this has been looked at, unless somebody else, accepted since, is attached at that moment:
then the request stays pending, although nobody is left to whom it was sent.

* `Remote.Happens.shifts` — how the connections change in a step;
* `Remote.consistent_of_steps` — a connection is detached before it reports that it has gone;
* `Remote.closed_connections_fail_request` — what becomes of a request whose connections have gone;
* `Remote.pending_after_reconnection` — that it need not fail otherwise.
-/

namespace PageScript

/-- A step of a connection leaves the connection itself or nothing; one that is to report that it has
gone is not left, and does not report it in that step. -/
structure Turn.Fair (peer : Nat) (t : Turn) : Prop where
  peer_eq : ∀ c, t.left = some c → c.peer = peer
  left_eq_none : t.leaves = true → t.left = none
  silent : ∀ q, .disconnected q ∉ t.reports

namespace Connection

/-- A step in which nothing happens is fair. -/
theorem fair_rest (c : Connection) : c.rest.Fair c.peer where
  peer_eq _ h := by rw [Option.some.inj h]
  left_eq_none h := Bool.noConfusion h
  silent _ := List.not_mem_nil

/-- A connection that is given up is detached, and has not reported it yet. -/
theorem fair_leave (c : Connection) : c.leave.Fair c.peer where
  peer_eq _ h := nomatch h
  left_eq_none _ := rfl
  silent _ := List.not_mem_nil

/-- A connection that stays attached is the same connection. -/
theorem fair_some {c : Connection} {reports : List ServerEvent} {sends : List WireMessage}
    {cursor : Nat} {greeted : Bool} (hsilent : ∀ q, .disconnected q ∉ reports) :
    Turn.Fair c.peer ⟨some ⟨c.peer, cursor, greeted⟩, reports, sends, false⟩ where
  peer_eq c' h := by rw [← Option.some.inj h]
  left_eq_none h := Bool.noConfusion h
  silent := hsilent

/-- Greeting the other side is fair. -/
theorem fair_greet (c : Connection) (understood : Bool) : (c.greet understood).Fair c.peer := by
  rw [greet]
  split
  · exact c.fair_rest
  · split
    · exact fair_some (by simp)
    · exact c.fair_leave

/-- Taking in what comes in is fair. -/
theorem fair_read (c : Connection) (incoming : Incoming) : (c.read incoming).Fair c.peer := by
  rw [read.eq_def]
  split
  · match incoming with
    | .text s =>
      simp only
      split
      · exact fair_some (by simp)
      · exact c.fair_rest
    | .other => exact c.fair_rest
    | .close => exact c.fair_leave
    | .failure => exact c.fair_leave
    | .ended => exact c.fair_leave
  · exact c.fair_rest

/-- Sending on what is kept is fair. -/
theorem fair_forward (c : Connection) (outbound : Channel WireMessage) (works : Bool) :
    (c.forward outbound works).Fair c.peer := by
  rw [forward]
  split
  · split
    · exact c.fair_rest
    · exact fair_some (by simp)
    · split
      · exact fair_some (by simp)
      · exact c.fair_leave
  · exact c.fair_rest

end Connection

namespace Remote

variable {config : RemoteConfig} {r s : Remote} {peer q : Nat} {x y z : Moment} {e : Event}
  {p : PendingCall} {sent : RemoteCall} {events earlier before during after : List Event}

/-- The numbers of the connections that are attached. -/
def attached (r : Remote) : List Nat :=
  r.connections.map Connection.peer

/-! ### How connections change -/

/-- In a step connections go, or one with the next number comes. Those that newly leave have been
attached before and are not any more, and those that newly report to have gone have been leaving. -/
structure Shifts (r s : Remote) : Prop where
  peers_le : r.peers ≤ s.peers
  attached : ∀ q ∈ s.attached, q ∈ r.attached ∨ q = r.peers ∧ q < s.peers
  leaving : ∀ q ∈ s.leaving, q ∈ r.leaving ∨ q ∈ r.attached ∧ q ∉ s.attached
  gone : ∀ q, .disconnected q ∈ s.events → .disconnected q ∈ r.events ∨ q ∈ r.leaving

/-- Nothing changes about the connections, and nothing is newly reported. -/
theorem Shifts.of_eq (hpeers : s.peers = r.peers) (hconnections : s.connections = r.connections)
    (hleaving : s.leaving = r.leaving) (hevents : s.events ⊆ r.events) : Shifts r s where
  peers_le := Nat.le_of_eq hpeers.symm
  attached q hq := by
    rw [Remote.attached, hconnections] at hq
    exact .inl hq
  leaving q hq := .inl (hleaving ▸ hq)
  gone q hq := .inl (hevents hq)

/-- The connections that are left after a step of one of them were there before it, and this one is
among them only if it is left. -/
theorem mem_replace {left : Option Connection} {connections : List Connection}
    (hleft : ∀ c, left = some c → c.peer = peer)
    (hq : q ∈ (replace peer left connections).map Connection.peer) :
    q ∈ connections.map Connection.peer ∧ (q = peer → left ≠ none) := by
  obtain ⟨d, hd, rfl⟩ := List.mem_map.mp hq
  obtain ⟨c, hc, hdc⟩ := List.mem_flatMap.mp hd
  split at hdc
  next hpeer =>
    have hsome : left = some d := Option.mem_toList.mp hdc
    refine ⟨List.mem_map.mpr ⟨c, hc, hpeer.trans (hleft d hsome).symm⟩, fun _ hnone => ?_⟩
    rw [hsome] at hnone
    cases hnone
  next hpeer =>
    obtain rfl : d = c := List.mem_singleton.mp hdc
    exact ⟨List.mem_map.mpr ⟨d, hc, rfl⟩, fun heq => absurd heq hpeer⟩

/-- A step of a connection detaches at most this connection, and reports of none that it has gone. -/
theorem shifts_turn {step : Connection → Turn} (r : Remote) (peer : Nat)
    (hstep : ∀ c, (step c).Fair c.peer) : Shifts r (r.turn peer step).1 := by
  rw [turn]
  split
  next => exact .of_eq rfl rfl rfl (fun _ h => h)
  next c hfind =>
    have hmem : c ∈ r.connections := List.mem_of_find?_eq_some hfind
    have hpeer : c.peer = peer := by simpa using List.find?_some hfind
    obtain ⟨hleft, hnone, hsilent⟩ := hpeer ▸ hstep c
    have hattached : ∀ q ∈ (replace peer (step c).left r.connections).map Connection.peer,
        q ∈ r.attached ∧ (q = peer → (step c).left ≠ none) := fun q hq => mem_replace hleft hq
    -- A connection that detaches was attached, and is not any more.
    have hleaving : ∀ q ∈ (if (step c).leaves then r.leaving ++ [peer] else r.leaving),
        q ∈ r.leaving ∨ q ∈ r.attached ∧
          q ∉ (replace peer (step c).left r.connections).map Connection.peer := by
      intro q hq
      split at hq
      next hleaves =>
        rcases List.mem_append.mp hq with hq | hq
        · exact .inl hq
        · obtain rfl := List.mem_singleton.mp hq
          exact .inr ⟨List.mem_map.mpr ⟨c, hmem, hpeer⟩,
            fun hq => (hattached q hq).2 rfl (hnone hleaves)⟩
      next => exact .inl hq
    simp only [foldl_report]
    split
    · exact ⟨Nat.le_refl _, fun q hq => .inl (hattached q hq).1, hleaving, fun q hq => .inl hq⟩
    · refine ⟨Nat.le_refl _, fun q hq => .inl (hattached q hq).1, hleaving, fun q hq => .inl ?_⟩
      exact (List.mem_append.mp hq).resolve_right (hsilent q)

/-- A connection that reports that it has gone has been leaving. -/
theorem shifts_part (h : peer ∈ r.leaving) : Shifts r (r.part peer) := by
  rw [part_of_mem h]
  refine ⟨Nat.le_refl _, fun q hq => .inl hq, fun q hq => .inl (List.mem_of_mem_erase hq),
    fun q hq => ?_⟩
  rcases List.mem_append.mp hq with hq | hq
  · exact .inl hq
  · split at hq
    · exact absurd hq List.not_mem_nil
    · exact .inr (ServerEvent.disconnected.inj (List.mem_singleton.mp hq) ▸ h)

/-- What any step does to the connections. -/
theorem Happens.shifts (h : Happens x e y) : Shifts x.remote y.remote := by
  by_cases hserver : e.IsOfServer
  · cases h with
    | accepted =>
      refine ⟨Nat.le_succ _, fun q hq => ?_, fun q hq => .inl hq, fun q hq => .inl hq⟩
      -- The peer of a new connection is one that no other has had.
      rw [attached, accept, List.map_append] at hq
      rcases List.mem_append.mp hq with hq | hq
      · exact .inl hq
      · obtain rfl : q = x.remote.peers := List.mem_singleton.mp hq
        exact .inr ⟨rfl, Nat.lt_succ_self _⟩
    | greeted peer understood => exact shifts_turn x.remote peer fun c => c.fair_greet understood
    | read peer incoming => exact shifts_turn x.remote peer fun c => c.fair_read incoming
    | forwarded peer works => exact shifts_turn x.remote peer fun c => c.fair_forward _ works
    | parted h => exact shifts_part h
    | @routed report rest h =>
      obtain ⟨_, _, heq⟩ := route_eq { x.remote with events := rest } report
      simp only [heq]
      exact .of_eq rfl rfl rfl fun e he => h ▸ List.mem_cons_of_mem _ he
    | ended h => exact .of_eq rfl rfl rfl (List.nil_subset _)
    | _ => exact hserver.elim
  · have hsame := h.sameServer hserver
    exact .of_eq hsame.peers_eq hsame.connections_eq hsame.leaving_eq
      (fun _ hq => hsame.events_eq ▸ hq)

/-- Connections are numbered. One that is yet to report that it has gone is detached already, and so
is one that has reported it. -/
structure Consistent (r : Remote) : Prop where
  attached_lt : ∀ q ∈ r.attached, q < r.peers
  leaving : ∀ q ∈ r.leaving, q < r.peers ∧ q ∉ r.attached
  gone : ∀ q, .disconnected q ∈ r.events → q < r.peers ∧ q ∉ r.attached

/-- A connection that is not attached does not come back. -/
theorem Shifts.detached (h : Shifts r s) (hq : q < r.peers ∧ q ∉ r.attached) :
    q < s.peers ∧ q ∉ s.attached := by
  obtain ⟨hlt, hnot⟩ := hq
  refine ⟨Nat.lt_of_lt_of_le hlt h.peers_le, fun hq => ?_⟩
  rcases h.attached q hq with hq | ⟨heq, -⟩
  · exact hnot hq
  · exact Nat.ne_of_lt hlt heq

/-- What moves connections alone keeps the server consistent. -/
theorem Shifts.consistent (h : Shifts r s) (hr : r.Consistent) : s.Consistent where
  attached_lt q hq := by
    rcases h.attached q hq with hq | ⟨-, hlt⟩
    · exact Nat.lt_of_lt_of_le (hr.attached_lt q hq) h.peers_le
    · exact hlt
  leaving q hq := by
    rcases h.leaving q hq with hq | ⟨hq, hnot⟩
    · exact h.detached (hr.leaving q hq)
    · exact ⟨Nat.lt_of_lt_of_le (hr.attached_lt q hq) h.peers_le, hnot⟩
  gone q hq := by
    rcases h.gone q hq with hq | hq
    · exact h.detached (hr.gone q hq)
    · exact h.detached (hr.leaving q hq)

/-- The server is consistent in every reachable state. -/
theorem consistent_of_steps (h : Steps Happens (.start config) events x) : x.remote.Consistent :=
  h.invariant (P := fun x => x.remote.Consistent) (fun _ _ _ hx hstep => hstep.shifts.consistent hx)
    ⟨fun _ hq => absurd hq List.not_mem_nil, fun _ hq => absurd hq List.not_mem_nil,
      fun _ hq => absurd hq List.not_mem_nil⟩

/-- A connection that was accepted before an instant and is attached after it was attached then. -/
theorem attached_of_steps (h : Steps Happens x events y) (hq : q ∈ y.remote.attached)
    (hlt : q < x.remote.peers) : q ∈ x.remote.attached := by
  induction h with
  | nil => exact hq
  | cons hstep _ ih =>
    have hmem := ih hq (Nat.lt_of_lt_of_le hlt hstep.shifts.peers_le)
    rcases hstep.shifts.attached q hmem with hmem | ⟨heq, -⟩
    · exact hmem
    · exact absurd heq (Nat.ne_of_lt hlt)

/-- What is looked at has been reported. -/
theorem Happens.mem_events_of_routed {report : ServerEvent} {attached : Bool}
    (h : Happens x (.routed report attached) y) :
    report ∈ x.remote.events ∧ attached = !x.remote.connections.isEmpty := by
  cases h with
  | routed h => exact ⟨h ▸ List.mem_cons_self, rfl⟩

/-- A connection is not attached any more once it has been looked at that it has gone. -/
theorem notMem_attached_of_routed {attached : Bool} (hx : x.remote.Consistent)
    (h : Steps Happens x events y) (hmem : .routed (.disconnected q) attached ∈ events) :
    q ∉ y.remote.attached := by
  obtain ⟨first, second, rfl⟩ := List.append_of_mem hmem
  obtain ⟨u, hfirst, hrest⟩ := steps_append_iff.mp h
  obtain ⟨v, hrouted, -⟩ := steps_cons_iff.mp hrest
  have hu : u.remote.Consistent := hfirst.invariant (P := fun x => x.remote.Consistent)
    (fun _ _ _ hx hstep => hstep.shifts.consistent hx) hx
  obtain ⟨hlt, hnot⟩ := hu.gone q hrouted.mem_events_of_routed.1
  exact fun hq => hnot (attached_of_steps hrest hq hlt)

/-! ### What becomes of requests -/

/-- A call whose reply is there has that outcome, whatever the time is. -/
private theorem outcome?_of_lookup {r : Remote} {now : Nat} {p : PendingCall} {sent : RemoteCall}
    {reply : Except PageError Json} (hsent : p.progress = .sent sent)
    (hreply : r.replies.lookup sent.id = some reply) : p.outcome? r now = some reply := by
  rw [PendingCall.outcome?, hsent]
  simp only [Remote.outcome?, hreply]

/-- A drain replies to every request that the connection is lost. -/
private theorem Event.Drains.replyTo_eq (h : e.Drains) (id : Nat) :
    e.replyTo id = some (.error .connectionLost) := by
  rcases h with ⟨peer, rfl⟩ | rfl
  · rfl
  · rfl

/-- If all requests have failed since a request was sent, it is not pending any more. If its call has
not ended by itself, it has been answered or has been lost, and comes to this. -/
theorem drained_request (h : Steps Happens (.start config) events x)
    (heq : events = earlier ++ .advanced p :: during) (hsent : p.progress = .sent sent)
    (hmem : e ∈ during) (hdrain : e.Drains) :
    sent.id ∉ x.remote.pending ∧
      ((∀ e ∈ during, ¬ e.Ends p.call) →
        ∃ reply, (Answered events p.call reply ∨ reply = .error .connectionLost) ∧
          ∀ outcome, (∃ y, Happens x (.completed p outcome) y) ↔ outcome = reply) := by
  have hsplit : events = (earlier ++ [.advanced p]) ++ during := by simp [heq]
  -- The request took its number before it was sent.
  obtain ⟨y, hy, -⟩ := steps_append_iff.mp (hsplit ▸ h)
  have hp : p ∈ y.calls := (mem_calls_iff_since hy hsent).mpr ⟨earlier, _, [], rfl, rfl, by simp⟩
  obtain ⟨first, d, second, third, hfirst, htakes, hnot, -, -⟩ := exists_sending hy hp hsent
  have hsince : events = first ++ d :: ((second ++ .advanced p :: third) ++ during) := by
    rw [hsplit, hfirst]
    simp
  have hsaid : firstReply sent.id ((second ++ .advanced p :: third) ++ during) ≠ none := by
    rw [firstReply, Ne, List.findSome?_eq_none_iff]
    intro hnone
    have hnothing := hnone e (List.mem_append_right _ hmem)
    rw [hdrain.replyTo_eq] at hnothing
    cases hnothing
  refine ⟨fun hid => hsaid (firstReply_eq_none_of_mem_pending h hsince htakes hid).2, fun hends => ?_⟩
  obtain ⟨reply, hreply⟩ := Option.ne_none_iff_exists'.mp hsaid
  have hkeeps := keeps_firstReply h hsince htakes (List.forall_mem_append.mpr ⟨hnot, hends⟩)
  have houtcome : p.outcome? x.remote x.now = some reply :=
    outcome?_of_lookup hsent (hkeeps.lookup_eq.trans hreply)
  refine ⟨reply, (reply_cases hsince htakes hreply).imp_right And.left, fun outcome => ⟨?_, ?_⟩⟩
  · rintro ⟨y, hcompleted⟩
    cases hcompleted with
    | completed _ h => exact Option.some.inj (h.symm.trans houtcome)
  · rintro rfl
    have hwaits : p ∈ x.calls :=
      (mem_calls_iff_since h hsent).mpr ⟨earlier, _, during, heq, rfl, hends⟩
    exact ⟨_, .completed hwaits houtcome⟩

/-- All connections that were attached at one instant have gone, and those that are attached at
another have been attached since then. -/
theorem connections_eq_nil (hx : x.remote.Consistent) (hz : z.remote.Consistent)
    (h : Steps Happens x before z) (hpeer : .disconnected peer ∈ z.remote.events)
    (hgone : ∀ q ∈ x.remote.attached,
      q = peer ∨ ∃ attached, .routed (.disconnected q) attached ∈ before)
    (hnew : ∀ q ∈ z.remote.attached, q < x.remote.peers) : z.remote.connections = [] := by
  have hnone : ∀ q, q ∉ z.remote.attached := by
    intro q hq
    rcases hgone q (attached_of_steps h hq (hnew q hq)) with rfl | ⟨attached, hmem⟩
    · exact (hz.gone q hpeer).2 hq
    · exact notMem_attached_of_routed hx h hmem hq
  rw [List.eq_nil_iff_forall_not_mem]
  exact fun c hc => hnone c.peer (List.mem_map.mpr ⟨c, hc, rfl⟩)

/-- If all connections that were attached when a request was sent have gone, this has been looked
at, and nobody who was accepted since is attached when the last of their reports is looked at, then
the request is not pending any more. If its call has not ended by itself, it has been answered or has
been lost, and comes to this. -/
theorem closed_connections_fail_request {attached : Bool} {v w : Moment}
    (hearlier : Steps Happens (.start config) earlier x) (hsend : Happens x (.advanced p) y)
    (hsent : p.progress = .sent sent) (hbefore : Steps Happens y before z)
    (hrouted : Happens z (.routed (.disconnected peer) attached) w)
    (hgone : ∀ q ∈ x.remote.attached,
      q = peer ∨ ∃ attached, .routed (.disconnected q) attached ∈ before)
    (hnew : ∀ q ∈ z.remote.attached, q < x.remote.peers) (hafter : Steps Happens w after v) :
    sent.id ∉ v.remote.pending ∧
      ((∀ e ∈ before ++ .routed (.disconnected peer) attached :: after, ¬ e.Ends p.call) →
        ∃ reply, (Answered (earlier ++ .advanced p ::
            (before ++ .routed (.disconnected peer) attached :: after)) p.call reply ∨
              reply = .error .connectionLost) ∧
          ∀ outcome, (∃ u, Happens v (.completed p outcome) u) ↔ outcome = reply) := by
  have hx := consistent_of_steps hearlier
  have hsteps : Steps Happens x (.advanced p :: before) z := .cons hsend hbefore
  have hz := consistent_of_steps (hearlier.append hsteps)
  obtain ⟨hreport, hattached⟩ := hrouted.mem_events_of_routed
  -- Nobody is attached when the last report is looked at, so all requests fail then.
  have hempty : z.remote.connections = [] := by
    refine connections_eq_nil hx hz hsteps hreport (fun q hq => ?_) hnew
    exact (hgone q hq).imp_right fun ⟨attached, hmem⟩ => ⟨attached, List.mem_cons_of_mem _ hmem⟩
  have hfalse : attached = false := by simpa [hempty] using hattached
  have hall := hearlier.append (hsteps.append (.cons hrouted hafter))
  exact drained_request hall rfl hsent (List.mem_append_right _ List.mem_cons_self)
    (.inl ⟨peer, by rw [hfalse]⟩)

/-- A call of a page. -/
def clickCall (progress : CallProgress) : PendingCall :=
  ⟨0, .click "a", progress⟩

/-- Two connections are attached, and a call is made and takes its number. -/
def numberedEvents : List Event :=
  [.accepted, .greeted 0 true, .accepted, .greeted 1 true, .routed (.connected 0) true,
    .routed (.connected 1) true, .called (clickCall (.connecting 5 0)),
    .advanced (clickCall (.numbered 1))]

/-- A third connection is accepted and is not understood. The first one closes, and then the second
one; each reports later that it has gone. -/
def closingEvents : List Event :=
  [.accepted, .greeted 2 false, .read 0 .close, .parted 0, .routed (.disconnected 0) true,
    .read 1 .close, .parted 1]

/-- The call has been made on a page, and has taken the first number. -/
def Moment.numbered (r : Remote) : Moment :=
  ⟨r.register, [clickCall (.numbered 1)], 1, 0⟩

/-- The request of the call has been sent on a page. -/
def Moment.requested (r : Remote) : Moment :=
  ⟨r.register.send (.pageRequest 1 (.click "a")), [clickCall (.sent ⟨1, 0, 5⟩)], 1, 0⟩

/-- A call that is made on a page with a connection takes its number. -/
private theorem steps_numbered (hnext : r.nextId = 1) (htimeout : r.requestTimeout = 5)
    (hsome : r.connections ≠ []) :
    Steps Happens ⟨r, [], 0, 0⟩
      [.called (clickCall (.connecting 5 0)), .advanced (clickCall (.numbered 1))]
      (.numbered r) := by
  have hcalled : Happens ⟨r, [], 0, 0⟩ (.called (clickCall (.connecting 5 0)))
      ⟨r, [clickCall (.connecting 5 0)], 1, 0⟩ :=
    .called _ (by simp [PendingCall.begin, clickCall, asked, htimeout])
  have hadvance : (clickCall (.connecting 5 0)).advance? r 0 =
      some (r.register, clickCall (.numbered 1)) := by
    simp [PendingCall.advance?, clickCall, hsome, hnext]
  exact .cons hcalled (.cons (.advanced List.mem_cons_self hadvance) (.nil _))

/-- The request of a call that has its number is sent as long as there is a connection. -/
private theorem happens_requested (htimeout : r.requestTimeout = 5) (hsome : r.connections ≠ []) :
    Happens (.numbered r) (.advanced (clickCall (.sent ⟨1, 0, 5⟩))) (.requested r) := by
  have hadvance : (clickCall (.numbered 1)).advance? r.register 0 = some
      (r.register.send (.pageRequest 1 (.click "a")), clickCall (.sent ⟨1, 0, 5⟩)) := by
    have hsome' : r.register.connections ≠ [] := hsome
    have htimeout' : r.register.requestTimeout = 5 := htimeout
    simp [PendingCall.advance?, clickCall, send?, hsome', timeoutOf, htimeout']
  exact .advanced (x := .numbered r) List.mem_cons_self hadvance

/-- The last connection can leave while a request is pending. -/
private theorem exists_steps_closingEvents : ∃ x y z w,
    Steps Happens (.start ⟨0, 5⟩) numberedEvents x ∧
      Happens x (.advanced (clickCall (.sent ⟨1, 0, 5⟩))) y ∧ Steps Happens y closingEvents z ∧
      Happens z (.routed (.disconnected 1) false) w ∧ x.remote.attached = [0, 1] ∧
      z.remote.attached = [] := by
  have hfirst : Steps Happens (.start ⟨0, 5⟩) [.accepted, .greeted 0 true]
      ⟨attendedPage [⟨0, 0, true⟩] 1 [.connected 0], [], 0, 0⟩ :=
    .cons (.accepted _) (.cons (.greeted _ 0 true) (.nil _))
  have hsecond : Steps Happens ⟨attendedPage [⟨0, 0, true⟩] 1 [.connected 0], [], 0, 0⟩
      [.accepted, .greeted 1 true]
      ⟨attendedPage [⟨0, 0, true⟩, ⟨1, 0, true⟩] 2 [.connected 0, .connected 1], [], 0, 0⟩ :=
    .cons (.accepted _) (.cons (.greeted _ 1 true) (.nil _))
  have hlooked : Steps Happens
      ⟨attendedPage [⟨0, 0, true⟩, ⟨1, 0, true⟩] 2 [.connected 0, .connected 1], [], 0, 0⟩
      [.routed (.connected 0) true, .routed (.connected 1) true] ⟨attendedPage _ 2 [], [], 0, 0⟩ :=
    .cons (.routed rfl) (.cons (.routed rfl) (.nil _))
  have hnumbered := steps_numbered (r := attendedPage [⟨0, 0, true⟩, ⟨1, 0, true⟩] 2 []) rfl rfl
    (List.cons_ne_nil _ _)
  have hsend := happens_requested (r := attendedPage [⟨0, 0, true⟩, ⟨1, 0, true⟩] 2 []) rfl
    (List.cons_ne_nil _ _)
  -- The third connection comes and goes, and nothing is reported of it.
  have hthird : Steps Happens (.requested (attendedPage [⟨0, 0, true⟩, ⟨1, 0, true⟩] 2 []))
      [.accepted, .greeted 2 false]
      (.requested (attendedPage [⟨0, 0, true⟩, ⟨1, 0, true⟩] 3 [])) :=
    .cons (.accepted _) (.cons (.greeted _ 2 false) (.nil _))
  have hgone : Steps Happens (.requested (attendedPage [⟨0, 0, true⟩, ⟨1, 0, true⟩] 3 []))
      [.read 0 .close, .parted 0, .routed (.disconnected 0) true]
      (.requested (attendedPage [⟨1, 0, true⟩] 3 [])) :=
    .cons (.read _ 0 .close) (.cons (.parted (by decide)) (.cons (.routed rfl) (.nil _)))
  have hlast : Steps Happens (.requested (attendedPage [⟨1, 0, true⟩] 3 []))
      [.read 1 .close, .parted 1] (.requested (attendedPage [] 3 [.disconnected 1])) :=
    .cons (.read _ 1 .close) (.cons (.parted (by decide)) (.nil _))
  have hrouted : Happens (.requested (attendedPage [] 3 [.disconnected 1]))
      (.routed (.disconnected 1) false)
      { Moment.requested (attendedPage [] 3 []) with
        remote := (Moment.requested (attendedPage [] 3 [])).remote.failAll } :=
    .routed rfl
  exact ⟨_, _, _, _, hfirst.append (hsecond.append (hlooked.append hnumbered)), hsend,
    hthird.append (hgone.append hlast), hrouted, rfl, rfl⟩

/-- The request was sent to both connections. When it is looked at that the second one has gone too,
it fails. -/
theorem closed_connections_fail_request_closing : ∃ x y z w,
    Steps Happens (.start ⟨0, 5⟩) numberedEvents x ∧
      Happens x (.advanced (clickCall (.sent ⟨1, 0, 5⟩))) y ∧ Steps Happens y closingEvents z ∧
      Happens z (.routed (.disconnected 1) false) w ∧ 1 ∉ w.remote.pending := by
  obtain ⟨x, y, z, w, hx, hsend, hz, hrouted, hsent, hnone⟩ := exists_steps_closingEvents
  refine ⟨x, y, z, w, hx, hsend, hz, hrouted, ?_⟩
  refine (closed_connections_fail_request hx hsend rfl hz hrouted ?_ ?_ (.nil w)).1
  · rw [hsent]
    simp [closingEvents]
  · simp [hnone]

/-- A call is made on one connection. Another one is accepted when that one closes, before it is
looked at that it has gone. -/
def reconnectedEvents : List Event :=
  [.accepted, .greeted 0 true, .routed (.connected 0) true, .called (clickCall (.connecting 5 0)),
    .advanced (clickCall (.numbered 1)), .advanced (clickCall (.sent ⟨1, 0, 5⟩)), .read 0 .close,
    .parted 0, .accepted, .routed (.disconnected 0) true]

/-- No report can come any more when a call is made, and the only connection closes. -/
def unreportedEvents : List Event :=
  [.accepted, .greeted 0 true, .routed (.connected 0) true, .ended,
    .called (clickCall (.connecting 5 0)), .advanced (clickCall (.numbered 1)),
    .advanced (clickCall (.sent ⟨1, 0, 5⟩)), .read 0 .close, .parted 0]

/-- A call is made on a page with a connection, and its request is sent. -/
private theorem steps_requested (hnext : r.nextId = 1) (htimeout : r.requestTimeout = 5)
    (hsome : r.connections ≠ []) :
    Steps Happens ⟨r, [], 0, 0⟩
      [.called (clickCall (.connecting 5 0)), .advanced (clickCall (.numbered 1)),
        .advanced (clickCall (.sent ⟨1, 0, 5⟩))]
      (.requested r) :=
  (steps_numbered hnext htimeout hsome).append
    (steps_singleton_iff.mpr (happens_requested htimeout hsome))

/-- A connection can come back before the other one is reported to have left. -/
private theorem exists_steps_reconnectedEvents : ∃ x y,
    Steps Happens (.start ⟨0, 5⟩) (reconnectedEvents.take 6) x ∧
      Steps Happens x (reconnectedEvents.drop 6) y ∧ x.remote.attached = [0] ∧
      y.remote.attached = [1] ∧ y.remote.events = [] ∧ 1 ∈ y.remote.pending := by
  have hrequested := steps_requested (r := attendedPage [⟨0, 0, true⟩] 1 []) rfl rfl
    (List.cons_ne_nil _ _)
  have hgone : Steps Happens (.requested (attendedPage [⟨0, 0, true⟩] 1 []))
      [.read 0 .close, .parted 0] (.requested (attendedPage [] 1 [.disconnected 0])) :=
    .cons (.read _ 0 .close) (.cons (.parted (by decide)) (.nil _))
  -- The new connection gets what is sent from now on, and not the request.
  have haccepted : Happens (.requested (attendedPage [] 1 [.disconnected 0])) .accepted
      (.requested (attendedPage [⟨1, 1, false⟩] 2 [.disconnected 0])) :=
    .accepted _
  have hlooked : Happens (.requested (attendedPage [⟨1, 1, false⟩] 2 [.disconnected 0]))
      (.routed (.disconnected 0) true) (.requested (attendedPage [⟨1, 1, false⟩] 2 [])) :=
    .routed rfl
  exact ⟨_, _, steps_attended.append hrequested,
    hgone.append (.cons haccepted (.cons hlooked (.nil _))), rfl, rfl, rfl, List.mem_cons_self⟩

/-- The last connection can leave without being reported yet. -/
private theorem exists_steps_unreportedEvents : ∃ x y,
    Steps Happens (.start ⟨0, 5⟩) (unreportedEvents.take 7) x ∧
      Steps Happens x (unreportedEvents.drop 7) y ∧ x.remote.attached = [0] ∧
      y.remote.attached = [] ∧ y.remote.events = [] ∧ 1 ∈ y.remote.pending := by
  have hended : Happens ⟨attendedPage [⟨0, 0, true⟩] 1 [], [], 0, 0⟩ .ended
      ⟨{ attendedPage [⟨0, 0, true⟩] 1 [] with ended := true }, [], 0, 0⟩ :=
    .ended rfl
  have hrequested := steps_requested
    (r := { attendedPage [⟨0, 0, true⟩] 1 [] with ended := true }) rfl rfl (List.cons_ne_nil _ _)
  -- The report that the connection has gone is lost.
  have hgone : Steps Happens (.requested { attendedPage [⟨0, 0, true⟩] 1 [] with ended := true })
      [.read 0 .close, .parted 0] (.requested { attendedPage [] 1 [] with ended := true }) :=
    .cons (.read _ 0 .close) (.cons (.parted (by decide)) (.nil _))
  exact ⟨_, _, steps_attended.append (.cons hended hrequested), hgone, rfl, rfl, rfl,
    List.mem_cons_self⟩

/-- In both cases the connection has gone to which the request was sent, and whatever has been
reported has been looked at, but the request stays pending. -/
theorem pending_after_reconnection :
    (∃ x y, Steps Happens (.start ⟨0, 5⟩) (reconnectedEvents.take 6) x ∧
      Steps Happens x (reconnectedEvents.drop 6) y ∧ x.remote.attached = [0] ∧
      y.remote.attached = [1] ∧ y.remote.events = [] ∧ 1 ∈ y.remote.pending) ∧
    ∃ x y, Steps Happens (.start ⟨0, 5⟩) (unreportedEvents.take 7) x ∧
      Steps Happens x (unreportedEvents.drop 7) y ∧ x.remote.attached = [0] ∧
      y.remote.attached = [] ∧ y.remote.events = [] ∧ 1 ∈ y.remote.pending :=
  ⟨exists_steps_reconnectedEvents, exists_steps_unreportedEvents⟩

end Remote

end PageScript
