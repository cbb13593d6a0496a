import PageScript.Proofs.Remote.History

/-!
# What calls come to

Whatever happens at a page, a call ends at most once. It is answered by the first response with its
own number that is looked at while the number is pending; it is lost only if there has been an
instant without any connection, or without any further report to come; and it runs out of time only
if there has been no such response within its limit. The numbers on the wire are distinct as long as
there are fewer requests than numbers.

* `Remote.completed_cases` — what a call that comes to an outcome has found;
* `Remote.call_correlation` — what each call comes to, and which numbers are pending.
-/

namespace PageScript

/-- What a call finds when it looks. -/
inductive PendingCall.Finds (r : Remote) (now : Nat) (p : PendingCall) : Except PageError Json → Prop
  /-- It has found no connection in time. -/
  | notReady {deadline look : Nat} (h : p.progress = .connecting deadline look) (hlook : look ≤ now)
      (hnone : r.connections = []) (hdeadline : deadline ≤ now) : Finds r now p (.error .notReady)
  /-- It could not be sent. -/
  | unsent {id : Nat} (h : p.progress = .numbered id) (hnone : r.connections = []) :
      Finds r now p (.error .connectionLost)
  /-- Something has been said to its request. -/
  | replied {sent : RemoteCall} {reply : Except PageError Json} (h : p.progress = .sent sent)
      (hreply : r.replies.lookup sent.id = some reply) : Finds r now p reply
  /-- Its time is over. -/
  | late {sent : RemoteCall} (h : p.progress = .sent sent) (hnone : r.replies.lookup sent.id = none)
      (hlate : sent.since + sent.timeout ≤ now) :
      Finds r now p (.error (.timeout
        s!"page request {sent.id} got no response within {sent.timeout}ms"))

/-- An outcome that a call has is one that it finds. -/
private theorem PendingCall.finds_of_outcome? {r : Remote} {now : Nat} {p : PendingCall}
    {outcome : Except PageError Json} (h : p.outcome? r now = some outcome) :
    p.Finds r now outcome := by
  rw [outcome?] at h
  -- A call is not sent yet, or numbered, or sent.
  split at h
  next deadline look hprogress =>
    rw [Option.ite_none_right_eq_some, Option.some.injEq] at h
    obtain ⟨⟨hlook, hnone, hdeadline⟩, rfl⟩ := h
    exact .notReady hprogress hlook (List.isEmpty_iff.mp hnone) hdeadline
  next id hprogress =>
    rw [Option.ite_none_right_eq_some, Option.some.injEq] at h
    obtain ⟨hnone, rfl⟩ := h
    exact .unsent hprogress (List.isEmpty_iff.mp hnone)
  next sent hprogress =>
    rw [Remote.outcome?] at h
    split at h
    next reply hreply =>
      obtain rfl : reply = outcome := Option.some.inj h
      exact .replied hprogress hreply
    next hnone =>
      rw [Option.ite_none_right_eq_some, Option.some.injEq] at h
      obtain ⟨hlate, rfl⟩ := h
      exact .late hprogress hnone hlate

namespace Remote

variable {config : RemoteConfig} {call id : Nat} {x y : Moment} {p : PendingCall} {e : Event}
  {events earlier during before after : List Event} {outcome reply : Except PageError Json}

/-! ### Calls end once -/

/-- A call that ends was awaited. -/
theorem Happens.awaits_of_ends (h : Happens x e y) (he : e.Ends call) : x.Awaits call := by
  obtain ⟨p, hleaves, hcall⟩ := Event.ends_iff.mp he
  exact ⟨p, h.mem_calls_of_leaves hleaves, hcall⟩

/-- A call that is made has a number of its own. -/
theorem Happens.made_eq (h : Happens x e y) (he : e.Makes call) : call = x.made := by
  cases h with
  | @called p h =>
    rw [← he, h]
    rfl
  | _ => exact he.elim

/-- Calls are made, and never unmade. -/
theorem Happens.made_le (h : Happens x e y) : x.made ≤ y.made := by
  cases h with
  | called h => exact Nat.le_succ _
  | _ => exact Nat.le_refl _

/-- A call has been made and is not under way any more. -/
def Moment.Over (x : Moment) (call : Nat) : Prop :=
  call < x.made ∧ ¬ x.Awaits call

/-- A call that is over stays so. -/
theorem Happens.over (h : Happens x e y) (hx : x.Over call) : y.Over call := by
  obtain ⟨hlt, hnot⟩ := hx
  refine ⟨Nat.lt_of_lt_of_le hlt h.made_le, fun hawaits => ?_⟩
  rcases h.awaits_iff.mp hawaits with hmakes | ⟨hawaits, -⟩
  · exact Nat.ne_of_lt hlt (h.made_eq hmakes)
  · exact hnot hawaits

/-- A call that ends is over. -/
theorem Happens.over_of_ends (h : Happens x e y) (hx : x.Numbered) (he : e.Ends call) :
    y.Over call := by
  obtain ⟨p, hp, rfl⟩ := h.awaits_of_ends he
  have hlt : p.call < x.made := hx.call_lt p hp
  refine ⟨Nat.lt_of_lt_of_le hlt h.made_le, fun hawaits => ?_⟩
  rcases h.awaits_iff.mp hawaits with hmakes | ⟨-, hnot⟩
  · exact Nat.ne_of_lt hlt (h.made_eq hmakes)
  · exact hnot he

/-- A call ends once. -/
theorem not_ends_of_ends (h : Steps Happens (.start config) events x)
    (heq : events = before ++ e :: after) (he : e.Ends call) : ∀ e' ∈ after, ¬ e'.Ends call := by
  rw [heq] at h
  obtain ⟨u, hbefore, hrest⟩ := steps_append_iff.mp h
  obtain ⟨v, hend, hafter⟩ := steps_cons_iff.mp hrest
  have hover : v.Over call := hend.over_of_ends (numbered_of_steps hbefore) he
  exact hafter.forall_events (fun _ _ _ hz hstep => hstep.over hz)
    (fun _ _ _ hz hstep hends => hz.2 (hstep.awaits_of_ends hends)) hover

/-! ### Numbers on the wire -/

/-- The numbers of the requests that have been sent are distinct, and those of the requests that have
not been sent yet are not among them. -/
structure Moment.Sent (x : Moment) (sent : List Nat) : Prop where
  requestIds_eq : x.remote.requestIds = sent.map UInt64.ofNat
  nodup : sent.Nodup
  lt : ∀ id ∈ sent, id < x.remote.nextId
  notMem : ∀ p ∈ x.calls, ∀ id, p.progress = .numbered id → id ∉ sent

/-- Only a call that goes on takes a number. -/
theorem Happens.mem_calls_of_numbered (h : Happens x e y) (hnot : ∀ p, e ≠ .advanced p)
    (hp : p ∈ y.calls) (hnumbered : p.progress = .numbered id) : p ∈ x.calls := by
  cases h with
  | @called q h =>
    rcases List.mem_cons.mp hp with rfl | hp
    · rw [h] at hnumbered
      cases hnumbered
    · exact hp
  | advanced _ _ => exact absurd rfl (hnot _)
  | completed _ _ => exact (mem_others_iff.mp hp).1
  | dropped _ => exact (mem_others_iff.mp hp).1
  | _ => exact hp

/-- A call that goes on sends no id twice. -/
private theorem sent_of_goes {r : Remote} {q : PendingCall} {sent : List Nat} (hx : x.Numbered)
    (hsent : x.Sent sent) (hp : p ∈ x.calls) (h : p.Goes x.remote x.now r q) :
    ∃ sent, ({ x with remote := r, calls := q :: x.others p } : Moment).Sent sent := by
  have hothers : ∀ p' ∈ x.others p, ∀ id, p'.progress = .numbered id → id ∉ sent :=
    fun p' hp' => hsent.notMem p' (others_subset x p hp')
  cases h with
  | looked _ _ _ _ =>
    exact ⟨sent, hsent.requestIds_eq, hsent.nodup, hsent.lt,
      List.forall_mem_cons.mpr ⟨nofun, hothers⟩⟩
  | numbered _ _ _ =>
    refine ⟨sent, hsent.requestIds_eq, hsent.nodup, fun id hid => Nat.lt_succ_of_lt (hsent.lt id hid),
      List.forall_mem_cons.mpr ⟨fun id hid hmem => ?_, hothers⟩⟩
    obtain rfl : x.remote.nextId = id := CallProgress.numbered.inj hid
    exact Nat.lt_irrefl _ (hsent.lt _ hmem)
  -- The number that is sent now was only one call's, and that call has not sent it before.
  | @sent number hprogress _ =>
    have hpid : p.progress.id? = some number := by simp [hprogress]
    refine ⟨sent ++ [number], ?_, ?_, ?_, List.forall_mem_cons.mpr ⟨nofun, fun p' hp' id hid => ?_⟩⟩
    · rw [requestIds_send, hsent.requestIds_eq, List.map_append]
      rfl
    · refine List.nodup_append.mpr ⟨hsent.nodup, by simp, fun id hid other hother heq => ?_⟩
      rw [heq, List.mem_singleton.mp hother] at hid
      exact hsent.notMem p hp number hprogress hid
    · intro id hid
      rcases List.mem_append.mp hid with hid | hid
      · exact hsent.lt id hid
      · exact hx.id_lt p hp id (List.mem_singleton.mp hid ▸ hpid)
    · rw [List.mem_append, List.mem_singleton, not_or]
      refine ⟨hothers p' hp' id hid, ?_⟩
      rintro rfl
      obtain ⟨hmem, hne⟩ := mem_others_iff.mp hp'
      exact hne (congrArg PendingCall.call (hx.id_inj p' hmem p hp id (by simp [hid]) hpid))

/-- A step sends no id twice. -/
theorem Happens.exists_sent {sent : List Nat} (h : Happens x e y) (hx : x.Numbered)
    (hsent : x.Sent sent) : ∃ sent, y.Sent sent := by
  by_cases hadvanced : ∃ p, e = .advanced p
  · obtain ⟨p, rfl⟩ := hadvanced
    cases h with
    | advanced hp h => exact sent_of_goes hx hsent hp (PendingCall.goes_of_advance? h)
  · have hnot : ∀ p, e ≠ .advanced p := fun p hp => hadvanced ⟨p, hp⟩
    obtain ⟨-, hnext, hids⟩ := h.sameRequests hnot
    exact ⟨sent, hids.trans hsent.requestIds_eq, hsent.nodup, hnext ▸ hsent.lt,
      fun p hp id hid => hsent.notMem p (h.mem_calls_of_numbered hnot hp hid) id hid⟩

/-- The numbers on the wire are distinct as long as there are fewer requests than numbers. -/
theorem nodup_requestIds (h : Steps Happens (.start config) events x)
    (hfew : x.remote.nextId ≤ UInt64.size) : x.remote.requestIds.Nodup := by
  have hinv : x.Numbered ∧ ∃ sent, x.Sent sent := by
    refine h.invariant (P := fun x => x.Numbered ∧ ∃ sent, x.Sent sent) ?_ ?_
    · rintro x e y ⟨hx, sent, hsent⟩ hstep
      exact ⟨hstep.numbered hx, hstep.exists_sent hx hsent⟩
    · exact ⟨.nil 0 1, [], rfl, List.nodup_nil, nofun, fun _ hp => absurd hp List.not_mem_nil⟩
  obtain ⟨-, sent, hsent⟩ := hinv
  rw [hsent.requestIds_eq]
  refine List.Nodup.map_on (fun a ha b hb heq => ?_) hsent.nodup
  have hlt : ∀ id ∈ sent, id < UInt64.size := fun id hid => Nat.lt_of_lt_of_le (hsent.lt id hid) hfew
  have htoNat := congrArg UInt64.toNat heq
  rwa [UInt64.toNat_ofNat_of_lt' (hlt a ha), UInt64.toNat_ofNat_of_lt' (hlt b hb)] at htoNat

/-! ### How long a request has waited -/

/-- How long a request waits for its response. -/
def limitOf (config : RemoteConfig) : PageRequest → Nat
  | .networkIdle idle => max config.requestTimeout.toNat (idle.toNat + 1000)
  | _ => config.requestTimeout.toNat

/-- A step lasts as long as its event says. -/
theorem Happens.now_eq (h : Happens x e y) : y.now = x.now + e.lasts := by
  cases h <;> rfl

/-- The time that has passed is that of all events. -/
theorem now_of_steps (h : Steps Happens x events y) : y.now = x.now + elapsed events :=
  h.clock_eq fun _ _ _ hstep => hstep.now_eq

/-- No step changes how long requests wait. -/
theorem Happens.requestTimeout_eq (h : Happens x e y) :
    y.remote.requestTimeout = x.remote.requestTimeout := by
  by_cases hadvanced : ∃ p, e = .advanced p
  · obtain ⟨p, rfl⟩ := hadvanced
    cases h with
    | advanced hp h => cases PendingCall.goes_of_advance? h <;> rfl
  · exact (h.sameRequests fun p hp => hadvanced ⟨p, hp⟩).requestTimeout_eq

/-- The limit of a request is the one of the configuration. -/
theorem timeoutOf_of_steps (h : Steps Happens (.start config) events x) (request : PageRequest) :
    x.remote.timeoutOf request = limitOf config request := by
  have htimeout : x.remote.requestTimeout = config.requestTimeout.toNat :=
    h.invariant (P := fun x => x.remote.requestTimeout = config.requestTimeout.toNat)
      (fun _ _ _ hx hstep => hstep.requestTimeout_eq.trans hx) rfl
  cases request <;> simp only [timeoutOf, limitOf, htimeout, networkIdleMargin]

/-- A call that has been sent goes on no further: it stays as it is until it ends. -/
theorem Happens.mem_calls_iff {sent : RemoteCall} (h : Happens x e y) (hx : x.Numbered)
    (hsent : p.progress = .sent sent) :
    p ∈ y.calls ↔ e = .advanced p ∨ (p ∈ x.calls ∧ ¬ e.Ends p.call) := by
  cases h with
  | @called q h =>
    have hne : p ≠ q := by
      rintro rfl
      rw [h] at hsent
      cases hsent
    simp [hne, Event.Ends]
  | @advanced q q' r hq h =>
    have hcall := call_eq_of_goes (PendingCall.goes_of_advance? h)
    -- A call that has been sent does not advance, so it is not the one that does.
    have hstays : p ∈ x.calls → p.call ≠ q.call := by
      intro hp heq
      obtain rfl := hx.call_inj p hp q hq heq
      rw [PendingCall.advance?, hsent] at h
      cases h
    rw [List.mem_cons, mem_others_iff]
    constructor
    · rintro (rfl | ⟨hp, -⟩)
      · exact .inl rfl
      · exact .inr ⟨hp, False.elim⟩
    · rintro (heq | ⟨hp, -⟩)
      · exact .inl (Event.advanced.inj heq).symm
      · exact .inr ⟨hp, hstays hp⟩
  | completed hq _ => simp [mem_others_iff, Event.Ends, eq_comm]
  | dropped hq => simp [mem_others_iff, Event.Ends, eq_comm]
  | _ => simp [Event.Ends]

/-- A call that waits for its response has been sent and has not ended since. -/
theorem mem_calls_iff_since {sent : RemoteCall} (h : Steps Happens (.start config) events x)
    (hsent : p.progress = .sent sent) :
    p ∈ x.calls ↔ Since (· = .advanced p) (Event.Ends p.call) events :=
  Steps.since_iff (P := Moment.Numbered) (W := fun x => p ∈ x.calls)
    (fun _ _ _ hx hstep => hstep.numbered hx) (fun _ _ _ hx hstep => hstep.mem_calls_iff hx hsent) h
    (numbered_of_steps (.nil _)) List.not_mem_nil

/-- What a call that waits for its response has gone through: it has taken its number, it has been
sent with its limit, and it has waited since then. -/
theorem exists_sending {sent : RemoteCall} (h : Steps Happens (.start config) events x)
    (hp : p ∈ x.calls) (hsent : p.progress = .sent sent) :
    ∃ earlier e first second, events = earlier ++ e :: (first ++ .advanced p :: second) ∧
      e.Takes p.call sent.id ∧ (∀ e ∈ first ++ .advanced p :: second, ¬ e.Ends p.call) ∧
      sent.timeout = limitOf config p.request ∧ x.now = sent.since + elapsed second := by
  obtain ⟨before, _, second, rfl, rfl, hsecond⟩ := (mem_calls_iff_since h hsent).mp hp
  obtain ⟨u, hbefore, hrest⟩ := steps_append_iff.mp h
  obtain ⟨v, hadvanced, hafter⟩ := steps_cons_iff.mp hrest
  have hnow : v.now = u.now := hadvanced.now_eq
  cases hadvanced with
  | @advanced q _ r hq hadvance =>
    cases PendingCall.goes_of_advance? hadvance with
    | looked _ _ _ _ => cases hsent
    | numbered _ _ _ => cases hsent
    | @sent id hprogress _ =>
      obtain rfl := CallProgress.sent.inj hsent
      -- Before it was sent, it had taken its number.
      have hholds : u.Holds q.call id := ⟨q, hq, rfl, by simp [hprogress]⟩
      obtain ⟨earlier, e, first, rfl, he, hfirst⟩ := (holds_iff_since hbefore).mp hholds
      refine ⟨earlier, e, first, second, by simp, he, ?_, timeoutOf_of_steps hbefore _, ?_⟩
      · intro e' he'
        rcases List.mem_append.mp he' with he' | he'
        · exact hfirst e' he'
        · rcases List.mem_cons.mp he' with rfl | he'
          · exact False.elim
          · exact hsecond e' he'
      · rw [now_of_steps hafter, hnow]

/-! ### What has been said to a request -/

/-- All requests fail: a connection has gone and no other is attached, or no report can come any
more. -/
def Event.Drains (e : Event) : Prop :=
  (∃ peer, e = .routed (.disconnected peer) false) ∨ e = .ended

/-- A reply is that of a response with the id, or that of a drain. -/
private theorem Event.eq_of_replyTo (h : e.replyTo id = some reply) :
    (∃ i ok value error attached,
      e = .routed (.message (.pageResponse i ok value error)) attached ∧ i.toNat = id ∧
        reply = replyOf ok value error) ∨ e.Drains ∧ reply = .error .connectionLost := by
  cases e with
  | routed report attached =>
    match report, attached with
    | .message (.pageResponse i ok value error), attached =>
      simp only [replyTo, Option.ite_none_right_eq_some, Option.some.injEq] at h
      obtain ⟨hid, rfl⟩ := h
      exact .inl ⟨i, ok, value, error, attached, rfl, hid, rfl⟩
    | .disconnected peer, false => exact .inr ⟨.inl ⟨peer, rfl⟩, (Option.some.inj h).symm⟩
  | ended => exact .inr ⟨.inr rfl, (Option.some.inj h).symm⟩
  | _ => cases h

/-- The first that has been said to the request of a call, since it took its number, is a response. -/
def Answered (before : List Event) (call : Nat) (reply : Except PageError Json) : Prop :=
  ∃ earlier e during i ok value error attached later,
    before = earlier ++ e ::
      (during ++ .routed (.message (.pageResponse i ok value error)) attached :: later) ∧
    e.Takes call i.toNat ∧ firstReply i.toNat during = none ∧
    reply = if ok then .ok value else .error (.remote (error.getD "unknown error"))

/-- An answer that came in is a value or an error of the page. -/
private theorem Answered.eq_ok_or_eq_remote (h : Answered before call reply) :
    (∃ value, reply = .ok value) ∨ ∃ text, reply = .error (.remote text) := by
  obtain ⟨_, _, _, _, ok, value, error, _, _, -, -, -, rfl⟩ := h
  cases ok
  · exact .inr ⟨_, rfl⟩
  · exact .inl ⟨value, rfl⟩

/-- What has first been said to the request of a call is a response, or that it is lost. -/
theorem reply_cases (heq : before = earlier ++ e :: during) (he : e.Takes call id)
    (hfirst : firstReply id during = some reply) :
    Answered before call reply ∨ reply = .error .connectionLost ∧
      ∃ first drain second, during = first ++ drain :: second ∧ drain.Drains := by
  obtain ⟨first, e', second, rfl, he', hnone⟩ := List.findSome?_eq_some_iff.mp hfirst
  rcases Event.eq_of_replyTo he' with ⟨i, ok, value, error, attached, rfl, rfl, rfl⟩ | ⟨hdrain, rfl⟩
  · refine .inl ⟨earlier, e, first, i, ok, value, error, attached, second, heq, he, ?_, rfl⟩
    rwa [firstReply, List.findSome?_eq_none_iff]
  · exact .inr ⟨rfl, first, e', second, rfl, hdrain⟩

/-- At some instant since a call was made, no connection was attached or no report could come. -/
def Lost (config : RemoteConfig) (before : List Event) (call : Nat) : Prop :=
  ∃ earlier e first second u, before = earlier ++ e :: (first ++ second) ∧ e.Makes call ∧
    Steps Happens (.start config) (earlier ++ e :: first) u ∧
    (u.remote.connections = [] ∨ u.remote.ended = true)

/-- The limit of a call has passed since its request was sent, and nothing has been said to it since
it took its number. -/
def TimedOut (config : RemoteConfig) (before : List Event) (p : PendingCall) (text : String) : Prop :=
  ∃ earlier e first sends second id, before = earlier ++ e :: (first ++ sends :: second) ∧
    e.Takes p.call id ∧ firstReply id (first ++ sends :: second) = none ∧
    sends.Sends p.call (limitOf config p.request) ∧ limitOf config p.request ≤ elapsed second ∧
    text = s!"page request {id} got no response within {limitOf config p.request}ms"

/-- A call that is under way at an instant has been made before. -/
theorem lost_of_instant {u : Moment} (h : Steps Happens (.start config) earlier u)
    (hawaits : u.Awaits call) (hlost : u.remote.connections = [] ∨ u.remote.ended = true)
    (hrest : before = earlier ++ during) : Lost config before call := by
  obtain ⟨first, e, second, rfl, he, -⟩ := (awaits_iff_since h).mp hawaits
  exact ⟨first, e, second, during, u, by simp [hrest], he, h, hlost⟩

/-- A call that has taken its number and has not ended is under way. -/
theorem awaits_of_takes (h : Steps Happens (.start config) events x)
    (heq : events = earlier ++ e :: during) (he : e.Takes call id)
    (hends : ∀ e ∈ during, ¬ e.Ends call) : x.Awaits call := by
  obtain ⟨p, hp, hcall, -⟩ := (holds_iff_since h).mpr ⟨earlier, e, during, heq, he, hends⟩
  exact ⟨p, hp, hcall⟩

/-- A request that has been told that it is lost has been lost. -/
theorem lost_of_drained {drain : Event} (h : Steps Happens (.start config) before x)
    (heq : before = earlier ++ e :: (during ++ drain :: after)) (he : e.Takes call id)
    (hends : ∀ e ∈ during ++ drain :: after, ¬ e.Ends call)
    (hdrain : drain.Drains) : Lost config before call := by
  have hsplit : before = (earlier ++ e :: during) ++ drain :: after := by simp [heq]
  rw [hsplit] at h
  obtain ⟨u, hfirst, hrest⟩ := steps_append_iff.mp h
  obtain ⟨v, hstep, -⟩ := steps_cons_iff.mp hrest
  -- The drain is that of the last connection that leaves, or that of the server that ends.
  rcases hdrain with ⟨peer, rfl⟩ | rfl
  · have hawaits : u.Awaits call :=
      awaits_of_takes hfirst rfl he fun e' he' => hends e' (List.mem_append_left _ he')
    refine lost_of_instant hfirst hawaits (.inl ?_) hsplit
    generalize hevent : Event.routed (.disconnected peer) false = event at hstep
    cases hstep with
    | routed hreport =>
      have hattached := (Event.routed.inj hevent).2
      simpa using hattached.symm
    | _ => cases hevent
  · have hsteps : Steps Happens (.start config) (earlier ++ e :: (during ++ [.ended])) v := by
      have happend := hfirst.append (steps_singleton_iff.mpr hstep)
      rwa [List.append_assoc, List.cons_append] at happend
    have hawaits : v.Awaits call := by
      refine awaits_of_takes hsteps rfl he fun e' he' => ?_
      rcases List.mem_append.mp he' with he' | he'
      · exact hends e' (List.mem_append_left _ he')
      · rw [List.mem_singleton.mp he']
        exact False.elim
    have hrest : before = (earlier ++ e :: (during ++ [.ended])) ++ after := by simp [heq]
    refine lost_of_instant hsteps hawaits (.inr ?_) hrest
    cases hstep with
    | ended _ => rfl

/-- A call that comes to an outcome has found no connection in time, has been answered, has been
lost, or has run out of time. -/
theorem completed_cases (h : Steps Happens (.start config) before x)
    (hstep : Happens x (.completed p outcome) y) :
    outcome = .error .notReady ∨ Answered before p.call outcome ∨
      (outcome = .error .connectionLost ∧ Lost config before p.call) ∨
      ∃ text, outcome = .error (.timeout text) ∧ TimedOut config before p text := by
  cases hstep with
  | completed hp houtcome =>
    cases PendingCall.finds_of_outcome? houtcome with
    | notReady _ _ _ _ => exact .inl rfl
    | unsent _ hnone =>
      have hlost := lost_of_instant h ⟨p, hp, rfl⟩ (.inl hnone) (List.append_nil before).symm
      exact .inr (.inr (.inl ⟨rfl, hlost⟩))
    -- The reply in the table is the first since the call was sent, and comes from a response or a
    -- drain.
    | @replied sent _ hprogress hreply =>
      obtain ⟨earlier, e, first, second, heq, he, hends, -, -⟩ := exists_sending h hp hprogress
      have hfirst : firstReply sent.id (first ++ .advanced p :: second) = some outcome :=
        (keeps_firstReply h heq he hends).lookup_eq ▸ hreply
      rcases reply_cases heq he hfirst with hanswered | ⟨rfl, during, drain, after, hsplit, hdrain⟩
      · exact .inr (.inl hanswered)
      · rw [hsplit] at heq hends
        exact .inr (.inr (.inl ⟨rfl, lost_of_drained h heq he hends hdrain⟩))
    | @late sent hprogress hnone hlate =>
      obtain ⟨earlier, e, first, second, heq, he, hends, hlimit, hnow⟩ :=
        exists_sending h hp hprogress
      have hfirst : firstReply sent.id (first ++ .advanced p :: second) = none :=
        (keeps_firstReply h heq he hends).lookup_eq ▸ hnone
      rw [hnow, Nat.add_le_add_iff_left, hlimit] at hlate
      exact .inr (.inr (.inr ⟨_, rfl, earlier, e, first, .advanced p, second, sent.id, heq, he, hfirst,
        ⟨rfl, sent, hprogress, hlimit⟩, hlate, by rw [hlimit]⟩))

/-! ### Calls -/

/-- Whatever happens at a page. The numbers on the wire are distinct as long as there are fewer
requests than numbers. A call that comes to an outcome ends then and at no other time. It succeeds,
or fails as the other side says, only if it has been answered so; it is lost only if there has been
an instant since it was made without any connection or without any further report to come; it runs
out of time only if its limit has passed without a response; and otherwise it has found no connection
in time. A number is pending just if a call has taken it that has not ended and to whose request
nothing has been said; so none is pending if no call is under way. -/
theorem call_correlation (h : Steps Happens (.start config) events x) :
    (x.remote.nextId ≤ UInt64.size → x.remote.requestIds.Nodup) ∧
      (∀ before p outcome after, events = before ++ .completed p outcome :: after →
        (∀ e ∈ before ++ after, ¬ e.Ends p.call) ∧
          (∀ value, outcome = .ok value → Answered before p.call outcome) ∧
          (∀ text, outcome = .error (.remote text) → Answered before p.call outcome) ∧
          (outcome = .error .connectionLost → Lost config before p.call) ∧
          (∀ text, outcome = .error (.timeout text) → TimedOut config before p text) ∧
          ∀ error, outcome = .error error → error = .notReady ∨ error = .connectionLost ∨
            (∃ text, error = .timeout text) ∨ ∃ text, error = .remote text) ∧
      x.remote.pending.Nodup ∧
      (∀ id, id ∈ x.remote.pending ↔
        ∃ earlier e during call, events = earlier ++ e :: during ∧ e.Takes call id ∧
          (∀ e ∈ during, ¬ e.Ends call) ∧ firstReply id during = none) ∧
      ((∀ earlier e during call, events = earlier ++ e :: during → e.Makes call →
        ∃ e' ∈ during, e'.Ends call) → x.remote.pending.length = 0) := by
  refine ⟨nodup_requestIds h, ?_, ?_, fun id => mem_pending_iff h, ?_⟩
  · intro before p outcome after heq
    have honce := forall_not_of_once (fun _ _ _ heq he => not_ends_of_ends h heq he) heq
      (show Event.Ends p.call (.completed p outcome) from rfl)
    subst heq
    obtain ⟨u, hbefore, hrest⟩ := steps_append_iff.mp h
    obtain ⟨v, hcompleted, -⟩ := steps_cons_iff.mp hrest
    refine ⟨honce, ?_⟩
    rcases completed_cases hbefore hcompleted with
      rfl | hanswered | ⟨rfl, hlost⟩ | ⟨text, rfl, htimedOut⟩
    · exact ⟨nofun, nofun, nofun, nofun, by simp⟩
    · obtain ⟨value, rfl⟩ | ⟨text, rfl⟩ := hanswered.eq_ok_or_eq_remote
      · exact ⟨fun _ _ => hanswered, nofun, nofun, nofun, nofun⟩
      · exact ⟨nofun, fun _ _ => hanswered, nofun, nofun, by simp⟩
    · exact ⟨nofun, nofun, fun _ => hlost, nofun, by simp⟩
    · refine ⟨nofun, nofun, nofun, fun text' heq => ?_, by simp⟩
      obtain rfl : text = text' := PageError.timeout.inj (Except.error.inj heq)
      exact htimedOut
  · have hledger := Ledger.nodup_pending_after (entered_of_steps h).1
    rwa [← tracks_ledger.eq_after h] at hledger
  · intro hall
    rw [List.length_eq_zero_iff, List.eq_nil_iff_forall_not_mem]
    intro id hmem
    -- A call whose number is pending is under way, so it has been made and has not ended.
    obtain ⟨earlier, e, during, call, heq, he, hends, -⟩ := (mem_pending_iff h).mp hmem
    obtain ⟨first, made, second, hsplit, hmakes, hnot⟩ :=
      (awaits_iff_since h).mp (awaits_of_takes h heq he hends)
    obtain ⟨e', he', hend⟩ := hall first made second call hsplit hmakes
    exact hnot e' he' hend

/-- A message that comes in on the only connection is reported. -/
theorem Happens.read_message {c : Connection} {s : String} {m : WireMessage}
    (hc : x.remote.connections = [c]) (hgreeted : c.greeted = true)
    (hs : WireMessage.decoder.ofText s = .ok m) (hended : x.remote.ended = false) :
    Happens x (.read c.peer (.text s))
      { x with remote := { x.remote with events := x.remote.events ++ [.message m] } } := by
  have hturn : (x.remote.turn c.peer fun c => c.read (.text s)).1 =
      { x.remote with events := x.remote.events ++ [.message m] } := by
    simp [turn, hc, Connection.read, hgreeted, hs, report, hended, replace]
  exact hturn ▸ .read x c.peer (.text s)

/-- A response to the second request. -/
def secondResponse : String :=
  "\x7b\"type\":\"PAGE_RESPONSE\",\"id\":2,\"ok\":true,\"value\":null\x7d"

/-- A text has been read as the success of a request, without a value. -/
def readsAsSuccess {ε : Type} (id : UInt64) : Except ε WireMessage → Bool
  | .ok (.pageResponse i true .null none) => i == id
  | _ => false

/-- Only a response without error and value reads as the one of the sample. -/
private theorem eq_of_readsAsSuccess {ε : Type} {i : UInt64} {result : Except ε WireMessage}
    (h : readsAsSuccess i result = true) : result = .ok (.pageResponse i true .null none) := by
  unfold readsAsSuccess at h
  split at h
  · rw [eq_of_beq h]
  · cases h

/-- The text of the sample is the second response. -/
private theorem ofText_secondResponse :
    WireMessage.decoder.ofText secondResponse = .ok (.pageResponse 2 true .null none) :=
  eq_of_readsAsSuccess (by decide +kernel)

/-- Two calls are made on one connection. The second one is answered, and the first one is not. -/
def answeredEvents : List Event :=
  [.accepted, .greeted 0 true, .routed (.connected 0) true,
    .called ⟨0, .click "a", .connecting 5 0⟩, .called ⟨1, .click "b", .connecting 5 0⟩,
    .advanced ⟨0, .click "a", .numbered 1⟩, .advanced ⟨1, .click "b", .numbered 2⟩,
    .advanced ⟨1, .click "b", .sent ⟨2, 0, 5⟩⟩, .advanced ⟨0, .click "a", .sent ⟨1, 0, 5⟩⟩,
    .read 0 (.text secondResponse), .routed (.message (.pageResponse 2 true .null none)) true,
    .passed 5, .completed ⟨1, .click "b", .sent ⟨2, 0, 5⟩⟩ (.ok .null),
    .completed ⟨0, .click "a", .sent ⟨1, 0, 5⟩⟩
      (.error (.timeout "page request 1 got no response within 5ms"))]

/-- A page with some connections, which have reported some events, and nothing else so far. -/
def attendedPage (connections : List Connection) (peers : Nat) (events : List ServerEvent) : Remote :=
  { Remote.new ⟨0, 5⟩ with connections := connections, peers := peers, events := events }

/-- A connection is accepted and greeted, and the page has looked at that. -/
theorem steps_attended : Steps Happens (.start ⟨0, 5⟩)
    [.accepted, .greeted 0 true, .routed (.connected 0) true]
    ⟨attendedPage [⟨0, 0, true⟩] 1 [], [], 0, 0⟩ := by
  have hgreeted : Steps Happens (.start ⟨0, 5⟩) [.accepted, .greeted 0 true]
      ⟨attendedPage [⟨0, 0, true⟩] 1 [.connected 0], [], 0, 0⟩ :=
    .cons (.accepted _) (.cons (.greeted _ 0 true) (.nil _))
  have hlooked : Happens ⟨attendedPage [⟨0, 0, true⟩] 1 [.connected 0], [], 0, 0⟩
      (.routed (.connected 0) true) ⟨attendedPage [⟨0, 0, true⟩] 1 [], [], 0, 0⟩ :=
    .routed rfl
  exact hgreeted.append (steps_singleton_iff.mpr hlooked)

/-- The page of the two calls once both have taken their numbers, with what has been sent to its
connection, what has been reported, and what is kept of the requests. -/
def answeredPage (sent : List WireMessage) (reports : List ServerEvent) (pending : List Nat)
    (replies : List (Nat × Except PageError Json)) : Remote :=
  { attendedPage [⟨0, 0, true⟩] 1 reports with
    outbound := { (Remote.new ⟨0, 5⟩).outbound with log := sent }
    nextId := 3
    pending := pending
    replies := replies }

/-- The requests of both calls, in the order in which they are sent. -/
def answeredRequests : List WireMessage :=
  [.pageRequest 2 (.click "b"), .pageRequest 1 (.click "a")]

/-- Both calls are made, numbered and sent. -/
private theorem steps_bothSent :
    Steps Happens ⟨attendedPage [⟨0, 0, true⟩] 1 [], [], 0, 0⟩ ((answeredEvents.drop 3).take 6)
      ⟨answeredPage answeredRequests [] [1, 2] [],
        [⟨0, .click "a", .sent ⟨1, 0, 5⟩⟩, ⟨1, .click "b", .sent ⟨2, 0, 5⟩⟩], 2, 0⟩ := by
  have hcalled : Steps Happens ⟨attendedPage [⟨0, 0, true⟩] 1 [], [], 0, 0⟩
      [.called ⟨0, .click "a", .connecting 5 0⟩, .called ⟨1, .click "b", .connecting 5 0⟩]
      ⟨attendedPage [⟨0, 0, true⟩] 1 [],
        [⟨1, .click "b", .connecting 5 0⟩, ⟨0, .click "a", .connecting 5 0⟩], 2, 0⟩ :=
    .cons (.called _ rfl) (.cons (.called _ rfl) (.nil _))
  have hfirst : Happens
      ⟨attendedPage [⟨0, 0, true⟩] 1 [],
        [⟨1, .click "b", .connecting 5 0⟩, ⟨0, .click "a", .connecting 5 0⟩], 2, 0⟩
      (.advanced ⟨0, .click "a", .numbered 1⟩)
      ⟨(attendedPage [⟨0, 0, true⟩] 1 []).register,
        [⟨0, .click "a", .numbered 1⟩, ⟨1, .click "b", .connecting 5 0⟩], 2, 0⟩ :=
    .advanced (p := ⟨0, .click "a", .connecting 5 0⟩) (by decide) rfl
  have hsecond : Happens
      ⟨(attendedPage [⟨0, 0, true⟩] 1 []).register,
        [⟨0, .click "a", .numbered 1⟩, ⟨1, .click "b", .connecting 5 0⟩], 2, 0⟩
      (.advanced ⟨1, .click "b", .numbered 2⟩)
      ⟨answeredPage [] [] [1, 2] [],
        [⟨1, .click "b", .numbered 2⟩, ⟨0, .click "a", .numbered 1⟩], 2, 0⟩ :=
    .advanced (p := ⟨1, .click "b", .connecting 5 0⟩) (by decide) rfl
  -- The call that was made last is the first one to send.
  have hsecondSent : Happens
      ⟨answeredPage [] [] [1, 2] [],
        [⟨1, .click "b", .numbered 2⟩, ⟨0, .click "a", .numbered 1⟩], 2, 0⟩
      (.advanced ⟨1, .click "b", .sent ⟨2, 0, 5⟩⟩)
      ⟨answeredPage (answeredRequests.take 1) [] [1, 2] [],
        [⟨1, .click "b", .sent ⟨2, 0, 5⟩⟩, ⟨0, .click "a", .numbered 1⟩], 2, 0⟩ :=
    .advanced (p := ⟨1, .click "b", .numbered 2⟩) (by decide) rfl
  have hfirstSent : Happens
      ⟨answeredPage (answeredRequests.take 1) [] [1, 2] [],
        [⟨1, .click "b", .sent ⟨2, 0, 5⟩⟩, ⟨0, .click "a", .numbered 1⟩], 2, 0⟩
      (.advanced ⟨0, .click "a", .sent ⟨1, 0, 5⟩⟩)
      ⟨answeredPage answeredRequests [] [1, 2] [],
        [⟨0, .click "a", .sent ⟨1, 0, 5⟩⟩, ⟨1, .click "b", .sent ⟨2, 0, 5⟩⟩], 2, 0⟩ :=
    .advanced (p := ⟨0, .click "a", .numbered 1⟩) (by decide) rfl
  exact hcalled.append (.cons hfirst (.cons hsecond (.cons hsecondSent
    (.cons hfirstSent (.nil _)))))

/-- The second call is answered; then the time of the first one is over, and both end. -/
private theorem steps_bothCompleted :
    Steps Happens
      ⟨answeredPage answeredRequests [] [1, 2] [],
        [⟨0, .click "a", .sent ⟨1, 0, 5⟩⟩, ⟨1, .click "b", .sent ⟨2, 0, 5⟩⟩], 2, 0⟩
      (answeredEvents.drop 9) ⟨answeredPage answeredRequests [] [] [], [], 2, 5⟩ := by
  have hread : Happens
      ⟨answeredPage answeredRequests [] [1, 2] [],
        [⟨0, .click "a", .sent ⟨1, 0, 5⟩⟩, ⟨1, .click "b", .sent ⟨2, 0, 5⟩⟩], 2, 0⟩
      (.read 0 (.text secondResponse))
      ⟨answeredPage answeredRequests [.message (.pageResponse 2 true .null none)] [1, 2] [],
        [⟨0, .click "a", .sent ⟨1, 0, 5⟩⟩, ⟨1, .click "b", .sent ⟨2, 0, 5⟩⟩], 2, 0⟩ :=
    .read_message (c := ⟨0, 0, true⟩) rfl rfl ofText_secondResponse rfl
  have hrouted : Happens
      ⟨answeredPage answeredRequests [.message (.pageResponse 2 true .null none)] [1, 2] [],
        [⟨0, .click "a", .sent ⟨1, 0, 5⟩⟩, ⟨1, .click "b", .sent ⟨2, 0, 5⟩⟩], 2, 0⟩
      (.routed (.message (.pageResponse 2 true .null none)) true)
      ⟨answeredPage answeredRequests [] [1] [(2, .ok .null)],
        [⟨0, .click "a", .sent ⟨1, 0, 5⟩⟩, ⟨1, .click "b", .sent ⟨2, 0, 5⟩⟩], 2, 0⟩ :=
    .routed rfl
  have hpassed : Happens
      ⟨answeredPage answeredRequests [] [1] [(2, .ok .null)],
        [⟨0, .click "a", .sent ⟨1, 0, 5⟩⟩, ⟨1, .click "b", .sent ⟨2, 0, 5⟩⟩], 2, 0⟩
      (.passed 5)
      ⟨answeredPage answeredRequests [] [1] [(2, .ok .null)],
        [⟨0, .click "a", .sent ⟨1, 0, 5⟩⟩, ⟨1, .click "b", .sent ⟨2, 0, 5⟩⟩], 2, 5⟩ :=
    .passed _ 5
  -- The second call has been answered in time, although it looks only now.
  have hsecond : Happens
      ⟨answeredPage answeredRequests [] [1] [(2, .ok .null)],
        [⟨0, .click "a", .sent ⟨1, 0, 5⟩⟩, ⟨1, .click "b", .sent ⟨2, 0, 5⟩⟩], 2, 5⟩
      (.completed ⟨1, .click "b", .sent ⟨2, 0, 5⟩⟩ (.ok .null))
      ⟨answeredPage answeredRequests [] [1] [], [⟨0, .click "a", .sent ⟨1, 0, 5⟩⟩], 2, 5⟩ :=
    .completed (by decide) rfl
  have hfirst : Happens
      ⟨answeredPage answeredRequests [] [1] [], [⟨0, .click "a", .sent ⟨1, 0, 5⟩⟩], 2, 5⟩
      (.completed ⟨0, .click "a", .sent ⟨1, 0, 5⟩⟩
        (.error (.timeout "page request 1 got no response within 5ms")))
      ⟨answeredPage answeredRequests [] [] [], [], 2, 5⟩ :=
    .completed (by decide) rfl
  exact .cons hread (.cons hrouted (.cons hpassed (.cons hsecond (.cons hfirst (.nil _)))))

/-- A page can go through these events, with the second request answered first. -/
theorem exists_steps_answeredEvents :
    ∃ x, Steps Happens (.start ⟨0, 5⟩) answeredEvents x ∧ x.remote.nextId = 3 :=
  ⟨_, steps_attended.append (steps_bothSent.append steps_bothCompleted), rfl⟩

/-- Both requests are numbered, the second call has been answered, and the first one has run out of
time. -/
theorem call_correlation_answered :
    ∃ x, Steps Happens (.start ⟨0, 5⟩) answeredEvents x ∧ x.remote.requestIds.Nodup ∧
      Answered (answeredEvents.take 12) 1 (.ok .null) ∧
      TimedOut ⟨0, 5⟩ (answeredEvents.take 13) ⟨0, .click "a", .sent ⟨1, 0, 5⟩⟩
        "page request 1 got no response within 5ms" := by
  obtain ⟨x, hsteps, hnext⟩ := exists_steps_answeredEvents
  obtain ⟨hnodup, hcompleted, -⟩ := call_correlation hsteps
  obtain ⟨-, hanswered, -⟩ := hcompleted (answeredEvents.take 12) _ _ _ rfl
  obtain ⟨-, -, -, -, htimedOut, -⟩ := hcompleted (answeredEvents.take 13) _ _ [] rfl
  exact ⟨x, hsteps, hnodup (by rw [hnext]; decide), hanswered .null rfl, htimedOut _ rfl⟩

end Remote

end PageScript
