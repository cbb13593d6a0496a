import PageScript.Proofs.Bridge.History
import PageScript.Proofs.Remote.Watch
import PageScript.Proofs.Wire

/-!
# The life of a connection

What a connection reports, and when, follows from what it goes through, whatever else happens at the
page. What it sends on are messages that were sent to all connections since it was accepted, in
order.

What is sent on always has a form that can be written, and the page holds the channel of what is
sent as long as it is there. So the only ways to go are those of `Connection.leave`.

The model is:

* `Remote.told peer` — what a connection is to report of what it goes through;
* `Remote.Occurrence.sent?` — what it sends on in a step.

The module proves:

* `Remote.Lives.followed` — what a step of either sort keeps;
* `Remote.connection_lifecycle` — what a connection has reported and sent, whatever it went through.
-/

namespace PageScript.Remote

variable {config : RemoteConfig} {peer : Nat} {x y : Moment} {e : Event} {c : Connection}
  {m : WireMessage} {w w' : Watch} {o : Occurrence} {events : List Occurrence}

/-! ### What it is to report -/

namespace Occurrence

/-- The connection goes. -/
def departs : Occurrence → Bool
  | .greeted understood => !understood
  | .read .close => true
  | .read .failure => true
  | .read .ended => true
  | .failed _ => true
  | _ => false

/-- The other side is greeted, and understands. -/
def greets : Occurrence → Bool
  | .greeted understood => understood
  | _ => false

/-- The connection reports that it has gone. -/
def parts : Occurrence → Bool
  | .parted => true
  | _ => false

/-- The message that comes in, if it is one. -/
def message? : Occurrence → Option WireMessage
  | .read (.text s) => (WireMessage.decoder.ofText s).toOption
  | _ => none

/-- The message that is sent on, if one is. -/
def sent? : Occurrence → Option WireMessage
  | .sent m => some m
  | _ => none

/-- A text that reads as a message brings it in. -/
theorem message?_of_ok {text : String} (h : WireMessage.decoder.ofText text = .ok m) :
    (Occurrence.read (.text text)).message? = some m := by
  rw [message?, h]
  rfl

/-- A text that is no message brings none in. -/
theorem message?_of_error {text : String} {e : Record.TextFailure}
    (h : WireMessage.decoder.ofText text = .error e) :
    (Occurrence.read (.text text)).message? = none := by
  rw [message?, h]
  rfl

/-- Messages have been missed. -/
def isLag : Occurrence → Bool
  | .lagged _ => true
  | _ => false

end Occurrence

/-- What a connection goes through before it goes. -/
def beforeGoing (events : List Occurrence) : List Occurrence :=
  events.takeWhile fun o => !o.departs

/-- What a connection is to report: nothing unless it is greeted; then that it is there, each
message that comes in before it goes, and that it has gone, once it has come to that. -/
def told (peer : Nat) (events : List Occurrence) : List ServerEvent :=
  if events.any Occurrence.greets then
    .connected peer :: (((beforeGoing events).filterMap Occurrence.message?).map .message ++
      if events.any Occurrence.parts then [.disconnected peer] else [])
  else []

/-- While a connection is there, all that it goes through is before it goes. -/
theorem beforeGoing_append_of_stays (hstays : events.any Occurrence.departs = false)
    (more : List Occurrence) : beforeGoing (events ++ more) = events ++ beforeGoing more := by
  refine List.takeWhile_append_of_pos fun o ho => ?_
  simpa using List.any_eq_false.mp hstays o ho

/-- A connection that has not gone has gone through nothing else yet. -/
theorem beforeGoing_eq_self (hstays : events.any Occurrence.departs = false) :
    beforeGoing events = events := by
  simpa [beforeGoing] using beforeGoing_append_of_stays hstays []

/-- What comes after a connection has gone does not count. -/
theorem beforeGoing_append_of_departs (hgone : events.any Occurrence.departs = true)
    (more : List Occurrence) : beforeGoing (events ++ more) = beforeGoing events := by
  rw [beforeGoing, List.takeWhile_append, if_neg, beforeGoing]
  intro hlength
  have hall := (List.takeWhile_prefix fun o : Occurrence => !o.departs).eq_of_length hlength
  obtain ⟨o, ho, hdeparts⟩ := List.any_eq_true.mp hgone
  simpa [hdeparts] using List.takeWhile_eq_self_iff.mp hall o ho

/-- What comes in is reported as long as the connection is there. -/
theorem told_append_of_stays (hgreeted : events.any Occurrence.greets = true)
    (hstays : events.any Occurrence.departs = false)
    (hsilent : events.any Occurrence.parts = false) (ho : o.departs = false)
    (hparts : o.parts = false) :
    told peer (events ++ [o]) = told peer events ++ o.message?.toList.map .message := by
  have hboth : (events ++ [o]).any Occurrence.departs = false := by simp [hstays, ho]
  rw [told, told, beforeGoing_eq_self hboth, beforeGoing_eq_self hstays, List.any_append,
    List.any_append, hgreeted, hsilent]
  cases hmessage : o.message? <;> simp [hmessage, hparts]

/-- That the connection is there is reported first. -/
theorem told_append_greeted (hgreets : events.any Occurrence.greets = false)
    (hstays : events.any Occurrence.departs = false)
    (hsilent : events.any Occurrence.parts = false)
    (hmessages : events.filterMap Occurrence.message? = []) :
    told peer (events ++ [Occurrence.greeted true]) = told peer events ++ [.connected peer] := by
  have hboth : (events ++ [Occurrence.greeted true]).any Occurrence.departs = false := by
    simp [hstays, Occurrence.departs]
  rw [told, told, beforeGoing_eq_self hboth, List.any_append, List.any_append, hgreets, hsilent,
    List.filterMap_append, hmessages]
  simp [Occurrence.greets, Occurrence.message?, Occurrence.parts]

/-- That the connection has gone is reported last. -/
theorem told_append_parted (hgreeted : events.any Occurrence.greets = true)
    (hgone : events.any Occurrence.departs = true)
    (hsilent : events.any Occurrence.parts = false) :
    told peer (events ++ [Occurrence.parted]) = told peer events ++ [.disconnected peer] := by
  rw [told, told, beforeGoing_append_of_departs hgone, List.any_append, List.any_append, hgreeted,
    hsilent]
  simp [Occurrence.parts]

/-- A step in which the connection goes, or in which no message comes in, is not reported by
itself. -/
theorem told_append_of_silent (hgreets : o.greets = false) (hparts : o.parts = false)
    (hsilent : o.departs = true ∨ o.message? = none) :
    told peer (events ++ [o]) = told peer events := by
  have hmessages : (beforeGoing (events ++ [o])).filterMap Occurrence.message? =
      (beforeGoing events).filterMap Occurrence.message? := by
    cases hstays : events.any Occurrence.departs with
    | true => rw [beforeGoing_append_of_departs hstays]
    | false =>
      rw [beforeGoing_append_of_stays hstays, beforeGoing_eq_self hstays, List.filterMap_append]
      cases ho : o.departs with
      | true => simp [beforeGoing, ho]
      | false => simp [beforeGoing, ho, hsilent.resolve_left (by simp [ho])]
  rw [told, told, hmessages]
  simp [hgreets, hparts]

/-! ### What it sends on -/

/-- Of the messages of a log from one cursor to another some have been sent, in order, and all of
them unless some have been missed. -/
structure Passes (log : List WireMessage) (first last : Nat) (sent : List WireMessage)
    (missed : Bool) : Prop where
  first_le : first ≤ last
  last_le : last ≤ log.length
  sublist : sent.Sublist ((log.take last).drop first)
  eq_of_kept : missed = false → sent = (log.take last).drop first

namespace Passes

variable {log more : List WireMessage} {first middle last : Nat} {sent later : List WireMessage}
  {missed missed' : Bool} {outbound : Channel WireMessage} {cursor next : Nat}

/-- From a cursor to itself nothing is sent. -/
theorem refl (h : first ≤ log.length) (missed : Bool) : Passes log first first [] missed where
  first_le := Nat.le_refl _
  last_le := h
  sublist := List.nil_sublist _
  eq_of_kept _ := by rw [List.drop_take, Nat.sub_self, List.take_zero]

/-- What is between two cursors is what is before a cursor between them, and what is after it. -/
theorem drop_take_append (hfirst : first ≤ middle) (hmiddle : middle ≤ last)
    (hlast : last ≤ log.length) :
    (log.take middle).drop first ++ (log.take last).drop middle = (log.take last).drop first := by
  have htake : log.take middle = (log.take last).take middle := by
    rw [List.take_take, Nat.min_eq_left hmiddle]
  have hlength : first ≤ (log.take middle).length := by
    rw [List.length_take]
    omega
  calc (log.take middle).drop first ++ (log.take last).drop middle
    _ = (log.take middle ++ (log.take last).drop middle).drop first :=
      (List.drop_append_of_le_length hlength).symm
    _ = (log.take last).drop first := by rw [htake, List.take_append_drop]

/-- Messages are sent one after another. -/
theorem trans (h : Passes log first middle sent missed)
    (hlater : Passes log middle last later missed') :
    Passes log first last (sent ++ later) (missed || missed') where
  first_le := Nat.le_trans h.first_le hlater.first_le
  last_le := hlater.last_le
  sublist :=
    drop_take_append h.first_le hlater.first_le hlater.last_le ▸ h.sublist.append hlater.sublist
  eq_of_kept hkept := by
    obtain ⟨hmissed, hmissed'⟩ := Bool.or_eq_false_iff.mp hkept
    rw [h.eq_of_kept hmissed, hlater.eq_of_kept hmissed',
      drop_take_append h.first_le hlater.first_le hlater.last_le]

/-- What is added to a log later makes no difference. -/
theorem of_prefix (h : Passes log first last sent missed) (hmore : log <+: more) :
    Passes more first last sent missed := by
  have htake : more.take last = log.take last := by
    obtain ⟨added, rfl⟩ := hmore
    exact List.take_append_of_le_length h.last_le
  exact ⟨h.first_le, Nat.le_trans h.last_le hmore.length_le, htake ▸ h.sublist,
    htake ▸ h.eq_of_kept⟩

/-- A message that is read is sent. -/
theorem of_message (h : outbound.receive? cursor = some (.message m, next)) :
    Passes outbound.log cursor next [m] false := by
  obtain ⟨rfl, hdrop⟩ := Channel.drop_of_receive?_message h
  have heq : (outbound.log.take (cursor + 1)).drop cursor = [m] := by
    rw [List.drop_take, hdrop, Nat.add_sub_cancel_left]
    rfl
  exact ⟨Nat.le_succ _, Channel.le_of_receive? h, heq ▸ .refl _, fun _ => heq.symm⟩

/-- Messages that are missed are not sent. -/
theorem of_lagged {n : Nat} (h : outbound.receive? cursor = some (.lagged n, next)) :
    Passes outbound.log cursor next [] true where
  first_le := Nat.le_of_lt (Channel.lt_of_receive? h)
  last_le := Channel.le_of_receive? h
  sublist := List.nil_sublist _
  eq_of_kept h := Bool.noConfusion h

end Passes

/-! ### What every step keeps -/

/-- What a connection that was accepted when so much had been sent has done, after it went through
some occurrences. -/
structure Watch.Followed (peer accepted : Nat) (events : List Occurrence) (w : Watch) : Prop where
  lt_peers : peer < w.moment.remote.peers
  reported_eq : w.reported = told peer events
  sent_eq : w.sent = events.filterMap Occurrence.sent?
  gone : events.any Occurrence.departs = true → w.moment.remote.connection? peer = none
  stays : events.any Occurrence.departs = false →
    ∃ c, w.moment.remote.connection? peer = some c ∧ c.greeted = events.any Occurrence.greets ∧
      (c.greeted = false → events.filterMap Occurrence.message? = [])
  departs_of_parts : events.any Occurrence.parts = true → events.any Occurrence.departs = true
  leaving : w.moment.remote.leaving.count peer =
    if events.any Occurrence.departs ∧ events.any Occurrence.greets ∧
      events.any Occurrence.parts = false then 1 else 0
  passes : ∃ cursor, Passes w.moment.remote.outbound.log accepted cursor w.sent
      (events.any Occurrence.isLag) ∧
    ∀ c, w.moment.remote.connection? peer = some c → c.cursor = cursor

variable {accepted : Nat}

/-- A connection that is attached has not gone. -/
theorem Watch.Followed.any_departs (hw : w.Followed peer accepted events)
    (hc : w.moment.remote.connection? peer = some c) : events.any Occurrence.departs = false := by
  rw [← Bool.not_eq_true]
  intro hgone
  rw [hw.gone hgone] at hc
  cases hc

/-- A connection that has not gone has not reported that it has. -/
theorem Watch.Followed.any_parts (hw : w.Followed peer accepted events)
    (hstays : events.any Occurrence.departs = false) : events.any Occurrence.parts = false := by
  rw [← Bool.not_eq_true]
  intro hparts
  exact Bool.false_ne_true (hstays.symm.trans (hw.departs_of_parts hparts))

/-- A connection is yet to report that it has gone just if it has been greeted, has gone, and has not
reported it. -/
theorem Watch.Followed.mem_leaving_iff (hw : w.Followed peer accepted events) :
    peer ∈ w.moment.remote.leaving ↔
      events.any Occurrence.departs = true ∧ events.any Occurrence.greets = true ∧
        events.any Occurrence.parts = false := by
  rw [← List.count_pos_iff, hw.leaving]
  split
  next h => exact iff_of_true Nat.one_pos h
  next h => exact iff_of_false (Nat.lt_irrefl 0) h

/-- The page after a step of the connection that comes to something. -/
def Watch.after (w : Watch) (peer : Nat) (t : Turn) : Watch where
  moment := { w.moment with
    remote := { w.moment.remote with
      connections := replace peer t.left w.moment.remote.connections
      leaving :=
        if t.leaves then w.moment.remote.leaving ++ [peer] else w.moment.remote.leaving
      events := w.moment.remote.events ++ t.reports } }
  reported := w.reported ++ t.reports
  sent := w.sent ++ t.sends

/-- A turn changes no peer that was given out. -/
@[simp]
theorem Watch.remote_after_peers (w : Watch) (peer : Nat) (t : Turn) :
    (w.after peer t).moment.remote.peers = w.moment.remote.peers :=
  rfl

/-- A turn posts nothing on the channel. -/
@[simp]
theorem Watch.remote_after_outbound (w : Watch) (peer : Nat) (t : Turn) :
    (w.after peer t).moment.remote.outbound = w.moment.remote.outbound :=
  rfl

/-- A turn lets its peer leave or does not. -/
@[simp]
theorem Watch.remote_after_leaving (w : Watch) (peer : Nat) (t : Turn) :
    (w.after peer t).moment.remote.leaving =
      if t.leaves then w.moment.remote.leaving ++ [peer] else w.moment.remote.leaving :=
  rfl

/-- A turn reports what it says, after what was reported. -/
@[simp]
theorem Watch.reported_after (w : Watch) (peer : Nat) (t : Turn) :
    (w.after peer t).reported = w.reported ++ t.reports :=
  rfl

/-- A turn sends what it says, after what was sent. -/
@[simp]
theorem Watch.sent_after (w : Watch) (peer : Nat) (t : Turn) :
    (w.after peer t).sent = w.sent ++ t.sends :=
  rfl

/-- What a step of the connection that is attached comes to. -/
theorem Watch.turn_eq {step : Connection → Turn} (hc : w.moment.remote.connection? peer = some c)
    (hopen : w.moment.remote.ended = false) : w.turn peer step = w.after peer (step c) := by
  rw [Watch.turn, turn_of_connection? hc hopen]
  simp only [Watch.comeTo, List.drop_left, Watch.after]

/-- After a step of the connection there is what the step leaves of it. -/
theorem Watch.connection?_after {t : Turn} (hc : w.moment.remote.connection? peer = some c)
    (ht : t.Fair c.peer) : (w.after peer t).moment.remote.connection? peer = t.left := by
  rw [peer_of_connection? hc] at ht
  rw [connection?] at hc ⊢
  rw [Watch.after, find?_replace ht.peer_eq, if_pos rfl, hc]
  rfl

/-- What a report that the connection has gone comes to. -/
theorem Watch.part_eq (h : peer ∈ w.moment.remote.leaving)
    (hopen : w.moment.remote.ended = false) :
    w.part peer =
      ⟨{ w.moment with
          remote := { w.moment.remote with
            leaving := w.moment.remote.leaving.erase peer
            events := w.moment.remote.events ++ [.disconnected peer] } },
        w.reported ++ [.disconnected peer], w.sent⟩ := by
  have hevents : (if w.moment.remote.ended then [] else [ServerEvent.disconnected peer]) =
      [.disconnected peer] := by
    rw [hopen]
    rfl
  rw [Watch.part, part_of_mem h, hevents]
  simp only [Watch.comeTo, List.drop_left, List.append_nil]

/-- A step of the connection, as far as it says itself what comes of it. -/
theorem Watch.Followed.after {t : Turn} (hw : w.Followed peer accepted events)
    (hc : w.moment.remote.connection? peer = some c) (ht : t.Fair c.peer)
    (htold : told peer (events ++ [o]) = told peer events ++ t.reports)
    (hsent : t.sends = o.sent?.toList) (hparts : o.parts = false)
    (hgone : t.left = none → o.departs = true ∧ t.sends = [] ∧
      t.leaves = (events ++ [o]).any Occurrence.greets)
    (hleft : ∀ d, t.left = some d → o.departs = false ∧
      d.greeted = (events ++ [o]).any Occurrence.greets ∧
      (d.greeted = false → (events ++ [o]).filterMap Occurrence.message? = []) ∧
      Passes w.moment.remote.outbound.log c.cursor d.cursor t.sends o.isLag) :
    (w.after peer t).Followed peer accepted (events ++ [o]) := by
  have hconnection := Watch.connection?_after hc ht
  obtain ⟨cursor, hpasses, hcursor⟩ := hw.passes
  obtain rfl := hcursor c hc
  have hstays := hw.any_departs hc
  have hsilent := hw.any_parts hstays
  have hdeparts : (events ++ [o]).any Occurrence.departs = o.departs := by simp [hstays]
  have hparts' : (events ++ [o]).any Occurrence.parts = false := by simp [hsilent, hparts]
  have hnone : w.moment.remote.leaving.count peer = 0 := by rw [hw.leaving, hstays]; simp
  refine {
    lt_peers := hw.lt_peers
    reported_eq := ?reported
    sent_eq := ?sent
    gone := fun h => ?gone
    stays := fun h => ?stays
    departs_of_parts := fun h => absurd (hparts'.symm.trans h) Bool.false_ne_true
    leaving := ?leaving
    passes := ?passes }
  case reported => rw [htold, ← hw.reported_eq, Watch.reported_after]
  case sent =>
    rw [List.filterMap_append, ← hw.sent_eq, Watch.sent_after, hsent]
    cases ho : o.sent? <;> simp [ho]
  case gone =>
    rw [hconnection]
    by_contra hsome
    obtain ⟨d, hd⟩ := Option.ne_none_iff_exists'.mp hsome
    simp [hdeparts, (hleft d hd).1] at h
  case stays =>
    rw [hconnection]
    cases hd : t.left with
    | none => simp [hdeparts, (hgone hd).1] at h
    | some d =>
      obtain ⟨-, hgreeted, hquiet, -⟩ := hleft d hd
      exact ⟨d, rfl, hgreeted, hquiet⟩
  case leaving =>
    rw [Watch.remote_after_leaving, hdeparts, hparts']
    cases hd : t.left with
    | none =>
      obtain ⟨ho, -, hleaves⟩ := hgone hd
      rw [ho, ← hleaves]
      cases t.leaves <;> simp [hnone]
    | some d =>
      have hleaves : t.leaves = false := by
        rw [← Bool.not_eq_true]
        intro hleaves
        rw [ht.left_eq_none hleaves] at hd
        cases hd
      rw [(hleft d hd).1, hleaves]
      simp [hnone]
  case passes =>
    rw [Watch.remote_after_outbound, Watch.sent_after, hconnection, List.any_append]
    cases hd : t.left with
    | none =>
      -- A connection that goes sends nothing in that step, so it has come no further.
      rw [(hgone hd).2.1, List.append_nil]
      refine ⟨c.cursor, ?_, by simp⟩
      have hrest := hpasses.trans (.refl hpasses.last_le ([o].any Occurrence.isLag))
      rwa [List.append_nil] at hrest
    | some d =>
      refine ⟨d.cursor, ?_, fun c' hc' => by rw [Option.some.inj hc']⟩
      simpa using hpasses.trans (hleft d hd).2.2.2

/-- A connection that goes is going to report so if it has been greeted. -/
theorem Watch.Followed.leaves (hw : w.Followed peer accepted events)
    (hc : w.moment.remote.connection? peer = some c) (hdeparts : o.departs = true)
    (hgreets : o.greets = false) (hparts : o.parts = false) (hsent : o.sent? = none) :
    (w.after peer c.leave).Followed peer accepted (events ++ [o]) := by
  have hstays := hw.any_departs hc
  obtain ⟨c', hc', hgreeted, -⟩ := hw.stays hstays
  obtain rfl : c = c' := Option.some.inj (hc.symm.trans hc')
  refine hw.after hc c.fair_leave ?_ (by rw [hsent]; rfl) hparts (fun _ => ⟨hdeparts, rfl, ?_⟩) ?_
  · rw [told_append_of_silent hgreets hparts (.inl hdeparts)]
    exact (List.append_nil _).symm
  · rw [List.any_append, ← hgreeted]
    simp [Connection.leave, hgreets]
  · rintro d ⟨⟩

/-- A connection that has been greeted and stays reports the message that has come in, if any. -/
theorem Watch.Followed.remains {sends : List WireMessage} {cursor : Nat}
    (hw : w.Followed peer accepted events) (hc : w.moment.remote.connection? peer = some c)
    (hgreeted : c.greeted = true) (hdeparts : o.departs = false) (hparts : o.parts = false)
    (hsent : sends = o.sent?.toList)
    (hpasses : Passes w.moment.remote.outbound.log c.cursor cursor sends o.isLag) :
    (w.after peer ⟨some { c with cursor := cursor }, o.message?.toList.map .message, sends,
      false⟩).Followed peer accepted (events ++ [o]) := by
  have hstays := hw.any_departs hc
  obtain ⟨c', hc', hgreeted', -⟩ := hw.stays hstays
  obtain rfl : c = c' := Option.some.inj (hc.symm.trans hc')
  have hany : events.any Occurrence.greets = true := hgreeted'.symm.trans hgreeted
  refine hw.after hc (Connection.fair_some (by simp)) ?_ hsent hparts ?_ ?_
  · exact told_append_of_stays hany hstays (hw.any_parts hstays) hdeparts hparts
  · rintro ⟨⟩
  · rintro _ ⟨⟩
    exact ⟨hdeparts, by simp [hgreeted, hany], by simp [hgreeted], hpasses⟩

/-- A connection that is greeted and understood reports that it is there. -/
theorem Watch.Followed.greeted (hw : w.Followed peer accepted events)
    (hc : w.moment.remote.connection? peer = some c) (hgreeted : c.greeted = false) :
    (w.after peer (c.greet true)).Followed peer accepted (events ++ [.greeted true]) := by
  have hstays := hw.any_departs hc
  obtain ⟨c', hc', hgreeted', hquiet⟩ := hw.stays hstays
  obtain rfl : c = c' := Option.some.inj (hc.symm.trans hc')
  obtain ⟨cursor, hpasses, hcursor⟩ := hw.passes
  -- A connection is greeted once, and is reported then.
  have hstep : c.greet true =
      ⟨some { c with greeted := true }, [.connected c.peer], [], false⟩ := by
    simp [Connection.greet, hgreeted]
  have htold : told peer (events ++ [.greeted true]) = told peer events ++ [.connected peer] :=
    told_append_greeted (hgreeted'.symm.trans hgreeted) hstays (hw.any_parts hstays)
      (hquiet hgreeted)
  refine hw.after hc (c.fair_greet true) ?_ (by rw [hstep]; rfl) rfl ?_ ?_
  · rw [htold, hstep, peer_of_connection? hc]
  · rw [hstep]
    rintro ⟨⟩
  · rw [hstep]
    rintro _ ⟨⟩
    exact ⟨rfl, by simp [Occurrence.greets], fun h => Bool.noConfusion h,
      .refl (hcursor c hc ▸ hpasses.last_le) _⟩

/-- A connection that reports that it has gone has been greeted and detached before, and does not
report it again. -/
theorem Watch.Followed.part (hw : w.Followed peer accepted events)
    (hopen : w.moment.remote.ended = false) (h : peer ∈ w.moment.remote.leaving) :
    (w.part peer).Followed peer accepted (events ++ [.parted]) := by
  -- The connection has detached and has not been reported, so it is reported now and never again.
  obtain ⟨hgone, hgreeted, hsilent⟩ := hw.mem_leaving_iff.mp h
  have hdeparts : (events ++ [Occurrence.parted]).any Occurrence.departs = true := by simp [hgone]
  have hparts : (events ++ [Occurrence.parted]).any Occurrence.parts = true := by
    simp [Occurrence.parts]
  have hcount : w.moment.remote.leaving.count peer = 1 := by
    rw [hw.leaving, if_pos ⟨hgone, hgreeted, hsilent⟩]
  obtain ⟨cursor, hpasses, hcursor⟩ := hw.passes
  rw [Watch.part_eq h hopen]
  refine {
    lt_peers := hw.lt_peers
    reported_eq := ?reported
    sent_eq := ?sent
    gone := fun _ => hw.gone hgone
    stays := fun h => absurd (h.symm.trans hdeparts) Bool.false_ne_true
    departs_of_parts := fun _ => hdeparts
    leaving := ?leaving
    passes := ⟨cursor, ?passes, hcursor⟩ }
  case reported => rw [told_append_parted hgreeted hgone hsilent, ← hw.reported_eq]
  case sent =>
    rw [List.filterMap_append, ← hw.sent_eq]
    exact (List.append_nil _).symm
  case leaving => simp [List.count_erase_self, hcount, hparts]
  case passes =>
    rw [List.any_append]
    exact (Bool.or_false _).symm ▸ hpasses

/-- Whatever else happens, nothing changes for the connection. -/
theorem Watch.Followed.other (hw : w.Followed peer accepted events) (h : Happens w.moment e y)
    (hnot : ¬ e.IsTurnOf peer w.moment.remote) :
    Watch.Followed peer accepted (events ++ [.other e]) { w with moment := y } := by
  -- What is no turn of this connection leaves it alone, and only adds to the channel.
  have hundisturbed := h.undisturbed hw.lt_peers hnot
  obtain ⟨cursor, hpasses, hcursor⟩ := hw.passes
  have hany : ∀ f : Occurrence → Bool, f (.other e) = false →
      (events ++ [Occurrence.other e]).any f = events.any f := fun f hf => by simp [hf]
  have hfilterMap : ∀ f : Occurrence → Option WireMessage, f (.other e) = none →
      (events ++ [Occurrence.other e]).filterMap f = events.filterMap f := fun f hf => by simp [hf]
  refine {
    lt_peers := Nat.lt_of_lt_of_le hw.lt_peers h.shifts.peers_le
    reported_eq := hw.reported_eq.trans (told_append_of_silent rfl rfl (.inr rfl)).symm
    sent_eq := hw.sent_eq.trans (hfilterMap Occurrence.sent? rfl).symm
    gone := ?gone
    stays := ?stays
    departs_of_parts := ?parts
    leaving := ?leaving
    passes := ⟨cursor, ?passes, ?cursor⟩ }
  case gone =>
    rw [hany Occurrence.departs rfl, hundisturbed.connection_eq]
    exact hw.gone
  case stays =>
    rw [hany Occurrence.departs rfl, hany Occurrence.greets rfl,
      hfilterMap Occurrence.message? rfl, hundisturbed.connection_eq]
    exact hw.stays
  case parts =>
    rw [hany Occurrence.departs rfl, hany Occurrence.parts rfl]
    exact hw.departs_of_parts
  case leaving =>
    rw [hany Occurrence.departs rfl, hany Occurrence.greets rfl, hany Occurrence.parts rfl,
      hundisturbed.leaving_eq]
    exact hw.leaving
  case passes =>
    rw [hany Occurrence.isLag rfl]
    exact hpasses.of_prefix hundisturbed.log_prefix
  case cursor =>
    rw [hundisturbed.connection_eq]
    exact hcursor

/-- The page can be reported to before a step if it can be after it. -/
theorem Lives.ended_of_ended (h : Lives peer w o w') (hlt : peer < w.moment.remote.peers)
    (hopen : w'.moment.remote.ended = false) : w.moment.remote.ended = false := by
  have hturn : ∀ step, (w.turn peer step).moment.remote.ended = w.moment.remote.ended := by
    intro step
    obtain ⟨_, _, _, heq⟩ := turn_eq w.moment.remote peer step
    rw [Watch.turn, Watch.comeTo, heq]
  cases h with
  | parted h =>
    rw [Watch.part, Watch.comeTo, part_of_mem h] at hopen
    exact hopen
  | other h hnot => exact (h.undisturbed hlt hnot).ended_of_ended hopen
  | _ => exact (hturn _).symm.trans hopen

/-- What a connection goes through, one step at a time, keeps what is said of it. -/
theorem Lives.followed (h : Lives peer w o w') (hopen : w.moment.remote.ended = false)
    (hw : w.Followed peer accepted events) : w'.Followed peer accepted (events ++ [o]) := by
  -- A turn that forwards nothing leaves the cursor where it is.
  have hrest : ∀ c, w.moment.remote.connection? peer = some c →
      Passes w.moment.remote.outbound.log c.cursor c.cursor [] false := by
    intro c hc
    obtain ⟨cursor, hpasses, hcursor⟩ := hw.passes
    exact .refl (hcursor c hc ▸ hpasses.last_le) false
  cases h with
  | @greeted c hc hgreeted understood =>
    rw [Watch.turn_eq hc hopen]
    cases understood with
    | true => exact hw.greeted hc hgreeted
    | false =>
      have hgreet : c.greet false = c.leave := by simp [Connection.greet, hgreeted]
      exact hgreet ▸ hw.leaves hc rfl rfl rfl rfl
  | @read c hc hgreeted incoming =>
    rw [Watch.turn_eq hc hopen]
    cases incoming with
    | text s =>
      cases hs : WireMessage.decoder.ofText s with
      | ok m =>
        have hread : c.read (.text s) = ⟨some c, [.message m], [], false⟩ := by
          simp [Connection.read, hgreeted, hs]
        have hremains := hw.remains (o := .read (.text s)) hc hgreeted rfl rfl rfl (hrest c hc)
        rw [Occurrence.message?_of_ok hs] at hremains
        exact hread ▸ hremains
      | error e =>
        have hread : c.read (.text s) = c.rest := by simp [Connection.read, hgreeted, hs]
        have hremains := hw.remains (o := .read (.text s)) hc hgreeted rfl rfl rfl (hrest c hc)
        rw [Occurrence.message?_of_error hs] at hremains
        exact hread ▸ hremains
    | other =>
      have hread : c.read .other = c.rest := by simp [Connection.read, hgreeted]
      exact hread ▸ hw.remains (o := .read .other) hc hgreeted rfl rfl rfl (hrest c hc)
    | close =>
      have hread : c.read .close = c.leave := by simp [Connection.read, hgreeted]
      exact hread ▸ hw.leaves hc rfl rfl rfl rfl
    | failure =>
      have hread : c.read .failure = c.leave := by simp [Connection.read, hgreeted]
      exact hread ▸ hw.leaves hc rfl rfl rfl rfl
    | ended =>
      have hread : c.read .ended = c.leave := by simp [Connection.read, hgreeted]
      exact hread ▸ hw.leaves hc rfl rfl rfl rfl
  | @sent c m cursor hc hgreeted h =>
    have hforward : c.forward w.moment.remote.outbound true =
        ⟨some { c with cursor := cursor }, [], [m], false⟩ := by
      simp [Connection.forward, hgreeted, h]
    rw [Watch.turn_eq hc hopen]
    exact hforward ▸ hw.remains (o := .sent m) hc hgreeted rfl rfl rfl (.of_message h)
  | @failed c m cursor hc hgreeted h =>
    have hforward : c.forward w.moment.remote.outbound false = c.leave := by
      simp [Connection.forward, hgreeted, h]
    rw [Watch.turn_eq hc hopen]
    exact hforward ▸ hw.leaves hc rfl rfl rfl rfl
  | @lagged c missed cursor hc hgreeted h works =>
    have hforward : c.forward w.moment.remote.outbound works =
        ⟨some { c with cursor := cursor }, [], [], false⟩ := by
      simp [Connection.forward, hgreeted, h]
    rw [Watch.turn_eq hc hopen]
    exact hforward ▸ hw.remains (o := .lagged missed) hc hgreeted rfl rfl rfl (.of_lagged h)
  | parted h => exact hw.part hopen h
  | other h hnot => exact hw.other h hnot

/-- A connection that has just been accepted has done nothing. -/
theorem Happens.followed (h : Happens x .accepted y) (hx : x.remote.Consistent) :
    Watch.Followed x.remote.peers x.remote.outbound.log.length [] ⟨y, [], []⟩ := by
  cases h
  -- The peer is new, so that no connection has had it.
  have hnone : x.remote.connection? x.remote.peers = none :=
    connection?_eq_none_iff.mpr fun hmem => Nat.lt_irrefl _ (hx.attached_lt _ hmem)
  have hc : x.remote.accept.connection? x.remote.peers =
      some (.accept x.remote.peers x.remote.outbound) := by
    rw [connection?] at hnone
    rw [connection?, accept, List.find?_append, hnone,
      List.find?_cons_of_pos (by simp [Connection.accept])]
    rfl
  have hcursor : ∀ c, x.remote.accept.connection? x.remote.peers = some c →
      c.cursor = x.remote.outbound.log.length := by
    intro c hc'
    obtain rfl := Option.some.inj (hc.symm.trans hc')
    rfl
  exact {
    lt_peers := Nat.lt_succ_self _
    reported_eq := rfl
    sent_eq := rfl
    gone := fun h => Bool.noConfusion h
    stays := fun _ => ⟨_, hc, rfl, fun _ => rfl⟩
    departs_of_parts := fun h => Bool.noConfusion h
    leaving := List.count_eq_zero.mpr fun hmem => Nat.lt_irrefl _ (hx.leaving _ hmem).1
    passes := ⟨_, .refl (Nat.le_refl _) _, hcursor⟩ }

/-- What is said of a connection is kept by all that it goes through. -/
theorem followed_of_lives (h : Steps (Lives peer) w events w')
    (hopen : w'.moment.remote.ended = false) (hw : w.Followed peer accepted []) :
    w'.Followed peer accepted events := by
  -- The steps are taken from the end, since each adds to the end of what is to be reported.
  induction events using List.reverseRecOn generalizing w' with
  | nil =>
    rw [steps_nil_iff.mp h]
    exact hw
  | append_singleton events o ih =>
    obtain ⟨u, hevents, ho⟩ := steps_append_iff.mp h
    rw [steps_singleton_iff] at ho
    have hlt : peer < u.moment.remote.peers := by
      refine hevents.invariant (P := fun u => peer < u.moment.remote.peers) ?_ hw.lt_peers
      intro s o t hs hstep
      obtain ⟨e, he⟩ := hstep.happens
      exact Nat.lt_of_lt_of_le hs he.shifts.peers_le
    have hopen' := ho.ended_of_ended hlt hopen
    exact ho.followed hopen' (ih hevents hopen')

/-! ### A whole life -/

/-- A connection that has been greeted and has something left to send sends the first of it if the
channel still keeps that, and finds that it has missed something otherwise. -/
theorem Watch.exists_forwards {rest : List WireMessage}
    (hc : w.moment.remote.connection? peer = some c) (hgreeted : c.greeted = true)
    (hleft : w.moment.remote.outbound.log.drop c.cursor = m :: rest) :
    ((m :: rest).length ≤ w.moment.remote.outbound.capacity → ∃ u, Lives peer w (.sent m) u) ∧
      (w.moment.remote.outbound.capacity < (m :: rest).length →
        ∃ missed u, Lives peer w (.lagged missed) u) := by
  have hfirst : w.moment.remote.outbound.log[c.cursor]? = some m := by
    rw [← List.head?_drop, hleft]
    rfl
  have hlength : w.moment.remote.outbound.log.length - c.cursor = (m :: rest).length := by
    rw [← List.length_drop, hleft]
  -- The next message is still on the channel if what is left fits there. Otherwise the oldest of it
  -- is gone.
  constructor
  · intro hkept
    have hgone : w.moment.remote.outbound.gone ≤ c.cursor := by
      rw [Channel.gone]
      omega
    exact ⟨_, .sent hc hgreeted (Channel.receive?_of_gone_le hgone hfirst)⟩
  · intro hmore
    have hgone : c.cursor < w.moment.remote.outbound.gone := by
      rw [Channel.gone]
      omega
    have hlagged : w.moment.remote.outbound.receive? c.cursor =
        some (.lagged (w.moment.remote.outbound.gone - c.cursor),
          w.moment.remote.outbound.gone) := by
      rw [Channel.receive?, if_pos hgone]
    exact ⟨_, _, .lagged hc hgreeted hlagged true⟩

/-- A connection is accepted, and goes through whatever it likes while anything else happens at the
page, and the page can still be reported to.

Then it has reported what it is to report: nothing if it was not greeted, and otherwise that it is
there, the messages that came in before it went, in order, and once that it has gone, if it has come
to that. It is attached as long as it has not gone. It can report that it has gone just when it has
been greeted, has gone, and has not reported it yet; so it is never attached any more when that is
reported.

What it has sent is what it sent on in its steps, one message in each. These are messages sent to all
connections since it was accepted, none of them twice and in order. If it has missed none, it has
sent all of them up to some point, and as long as it is there, the first of those that are left comes
next, unless the channel does not keep it any more. -/
theorem connection_lifecycle {earlier : List Event} (hx : Steps Happens (.start config) earlier x)
    (haccepted : Happens x .accepted y) (h : Steps (Lives x.remote.peers) ⟨y, [], []⟩ events w)
    (hopen : w.moment.remote.ended = false) :
    w.reported = told x.remote.peers events ∧
      (x.remote.peers ∈ w.moment.remote.attached ↔ events.any Occurrence.departs = false) ∧
      ((∃ u, Lives x.remote.peers w .parted u) ↔
        events.any Occurrence.departs = true ∧ events.any Occurrence.greets = true ∧
          events.any Occurrence.parts = false) ∧
      (.disconnected x.remote.peers ∈ w.reported → x.remote.peers ∉ w.moment.remote.attached) ∧
      w.sent = events.filterMap Occurrence.sent? ∧
      w.sent.Sublist (w.moment.remote.outbound.log.drop x.remote.outbound.log.length) ∧
      (events.any Occurrence.isLag = false →
        ∃ left, w.moment.remote.outbound.log.drop x.remote.outbound.log.length = w.sent ++ left ∧
          (events.any Occurrence.departs = false → events.any Occurrence.greets = true →
            ∀ m rest, left = m :: rest →
              (left.length ≤ w.moment.remote.outbound.capacity →
                ∃ u, Lives x.remote.peers w (.sent m) u) ∧
              (w.moment.remote.outbound.capacity < left.length →
                ∃ missed u, Lives x.remote.peers w (.lagged missed) u))) := by
  have hw := followed_of_lives h hopen (haccepted.followed (consistent_of_steps hx))
  have hattached :
      x.remote.peers ∈ w.moment.remote.attached ↔ events.any Occurrence.departs = false := by
    rw [← not_iff_not, ← connection?_eq_none_iff, Bool.not_eq_false]
    refine ⟨fun hnone => ?_, hw.gone⟩
    by_contra hstays
    obtain ⟨c, hc, -, -⟩ := hw.stays (by simpa using hstays)
    rw [hnone] at hc
    cases hc
  have hparted : (∃ u, Lives x.remote.peers w .parted u) ↔
      x.remote.peers ∈ w.moment.remote.leaving := by
    constructor
    · rintro ⟨u, hu⟩
      cases hu with
      | parted hmem => exact hmem
    · exact fun hmem => ⟨_, .parted hmem⟩
  obtain ⟨cursor, hpasses, hcursor⟩ := hw.passes
  -- What was sent to all since the accept is what this connection has passed and what is left.
  have hcut : w.moment.remote.outbound.log.drop x.remote.outbound.log.length =
      (w.moment.remote.outbound.log.take cursor).drop x.remote.outbound.log.length ++
        w.moment.remote.outbound.log.drop cursor := by
    have happend := Passes.drop_take_append hpasses.first_le hpasses.last_le (Nat.le_refl _)
    rwa [List.take_length, eq_comm] at happend
  refine ⟨hw.reported_eq, hattached, hparted.trans hw.mem_leaving_iff, fun hgone => ?_,
    hw.sent_eq, ?_, fun hkept => ?_⟩
  · rw [hattached, Bool.not_eq_false]
    by_contra hstays
    rw [Bool.not_eq_true] at hstays
    rw [hw.reported_eq, told, hw.any_parts hstays] at hgone
    split at hgone <;> simp at hgone
  · rw [hcut]
    exact hpasses.sublist.trans (List.sublist_append_left _ _)
  · refine ⟨w.moment.remote.outbound.log.drop cursor, hpasses.eq_of_kept hkept ▸ hcut, ?_⟩
    intro hstays hgreets m rest hleft
    obtain ⟨c, hc, hgreeted, -⟩ := hw.stays hstays
    obtain rfl := hcursor c hc
    rw [hleft]
    exact w.exists_forwards hc (hgreeted.trans hgreets) hleft

/-- A toast that is sent to all connections. -/
def shownToast : ToastRequest :=
  ⟨"1", "Ready?", .standard⟩

/-- The text in which the other side answers it. -/
def answerText : String :=
  (WireMessage.ofBridge (.response ⟨"1", .continue⟩)).toJson.compact

/-- The text of the sample is a response to its toast. -/
theorem ofText_answerText :
    WireMessage.decoder.ofText answerText = .ok (.toastResponse ⟨"1", .continue⟩) :=
  WireMessage.ofText_ofBridge (.response ⟨"1", .continue⟩)

/-- A connection is greeted, a toast is sent, and it is answered while it has not been sent on. Then
it is, something that is no text comes in, and the other side takes its leave; this is reported
later. -/
def livedEvents : List Occurrence :=
  [.greeted true, .other (.relayed (.message (.request shownToast))), .read (.text answerText),
    .sent (.toastRequest shownToast), .read .other, .read .close, .parted]

/-- What the connection reports: that it is there, the answer, and that it has gone. -/
def livedReports : List ServerEvent :=
  [.connected 0, .message (.toastResponse ⟨"1", .continue⟩), .disconnected 0]

/-- What the events of the sample report is what is listed. -/
private theorem told_livedEvents : told 0 livedEvents = livedReports := by
  have hmessages : (beforeGoing livedEvents).filterMap Occurrence.message? =
      [.toastResponse ⟨"1", .continue⟩] := by
    have hbefore : beforeGoing livedEvents = livedEvents.take 5 := rfl
    rw [hbefore]
    simp only [livedEvents, List.take_succ_cons, List.take_zero, List.filterMap_cons,
      Occurrence.message?_of_ok ofText_answerText]
    rfl
  rw [told, hmessages]
  rfl

/-- The page and what is left of its only connection, which has reported so much and sent as much as
its cursor says. -/
def livedWatch (left : Option Connection) (leaving : List Nat) (posted sent : List WireMessage)
    (reports : Nat) : Watch where
  moment :=
    { Moment.start ⟨0, 5⟩ with
      remote := { Remote.new ⟨0, 5⟩ with
        outbound := { (Remote.new ⟨0, 5⟩).outbound with log := posted }
        connections := left.toList
        leaving := leaving
        peers := 1
        events := livedReports.take reports } }
  reported := livedReports.take reports
  sent := sent

/-- A step of the only connection whose turn is known. -/
private theorem Lives.after {step : Connection → Turn} {t : Turn}
    (h : Lives 0 w o (w.turn 0 step)) (hc : w.moment.remote.connection? 0 = some c)
    (hopen : w.moment.remote.ended = false) (hstep : step c = t) : Lives 0 w o (w.after 0 t) := by
  rwa [Watch.turn_eq hc hopen, hstep] at h

/-- A connection can go through these events. -/
theorem steps_livedEvents :
    Steps (Lives 0) (livedWatch (some ⟨0, 0, false⟩) [] [] [] 0) livedEvents
      (livedWatch none [] [.toastRequest shownToast] [.toastRequest shownToast] 3) := by
  have hgreeted : Lives 0 (livedWatch (some ⟨0, 0, false⟩) [] [] [] 0) (.greeted true)
      (livedWatch (some ⟨0, 0, true⟩) [] [] [] 1) :=
    .greeted rfl rfl true
  have hshown : Lives 0 (livedWatch (some ⟨0, 0, true⟩) [] [] [] 1)
      (.other (.relayed (.message (.request shownToast))))
      (livedWatch (some ⟨0, 0, true⟩) [] [.toastRequest shownToast] [] 1) :=
    .other (.relayed _ _) id
  have hread : Connection.read ⟨0, 0, true⟩ (.text answerText) =
      ⟨some ⟨0, 0, true⟩, [.message (.toastResponse ⟨"1", .continue⟩)], [], false⟩ := by
    simp [Connection.read, ofText_answerText]
  have hanswered : Lives 0 (livedWatch (some ⟨0, 0, true⟩) [] [.toastRequest shownToast] [] 1)
      (.read (.text answerText))
      (livedWatch (some ⟨0, 0, true⟩) [] [.toastRequest shownToast] [] 2) :=
    (Lives.read rfl rfl (.text answerText)).after rfl rfl hread
  have hreceive : (livedWatch (some ⟨0, 0, true⟩) [] [.toastRequest shownToast] []
      2).moment.remote.outbound.receive? 0 = some (.message (.toastRequest shownToast), 1) :=
    Channel.receive?_of_gone_le (by decide +kernel) rfl
  have hforward : Connection.forward ⟨0, 0, true⟩ (livedWatch (some ⟨0, 0, true⟩) []
      [.toastRequest shownToast] [] 2).moment.remote.outbound true =
        ⟨some ⟨0, 1, true⟩, [], [.toastRequest shownToast], false⟩ := by
    simp [Connection.forward, hreceive]
  have hsent : Lives 0 (livedWatch (some ⟨0, 0, true⟩) [] [.toastRequest shownToast] [] 2)
      (.sent (.toastRequest shownToast))
      (livedWatch (some ⟨0, 1, true⟩) [] [.toastRequest shownToast]
        [.toastRequest shownToast] 2) :=
    (Lives.sent rfl rfl hreceive).after rfl rfl hforward
  have hpassed : Lives 0
      (livedWatch (some ⟨0, 1, true⟩) [] [.toastRequest shownToast] [.toastRequest shownToast] 2)
      (.read .other)
      (livedWatch (some ⟨0, 1, true⟩) [] [.toastRequest shownToast]
        [.toastRequest shownToast] 2) :=
    .read rfl rfl .other
  -- The connection is detached, and nothing new is reported yet.
  have hclosed : Lives 0
      (livedWatch (some ⟨0, 1, true⟩) [] [.toastRequest shownToast] [.toastRequest shownToast] 2)
      (.read .close)
      (livedWatch none [0] [.toastRequest shownToast] [.toastRequest shownToast] 2) :=
    .read rfl rfl .close
  have hparted : Lives 0
      (livedWatch none [0] [.toastRequest shownToast] [.toastRequest shownToast] 2) .parted
      (livedWatch none [] [.toastRequest shownToast] [.toastRequest shownToast] 3) :=
    .parted List.mem_cons_self
  exact .cons hgreeted (.cons hshown (.cons hanswered (.cons hsent (.cons hpassed
    (.cons hclosed (.cons hparted (.nil _)))))))

/-- The connection reports that it is there, the answer, and that it has gone, and has sent the toast
and nothing else. -/
theorem connection_lifecycle_closed : ∃ y w,
    Steps Happens (.start ⟨0, 5⟩) [] (.start ⟨0, 5⟩) ∧ Happens (.start ⟨0, 5⟩) .accepted y ∧
      Steps (Lives 0) ⟨y, [], []⟩ livedEvents w ∧ w.moment.remote.ended = false ∧
      w.reported = [.connected 0, .message (.toastResponse ⟨"1", .continue⟩), .disconnected 0] ∧
      0 ∉ w.moment.remote.attached ∧ w.sent = [.toastRequest shownToast] := by
  have haccepted : Happens (.start ⟨0, 5⟩) .accepted
      (livedWatch (some ⟨0, 0, false⟩) [] [] [] 0).moment :=
    .accepted _
  obtain ⟨hreported, -, -, hgone, hsent, -⟩ :=
    connection_lifecycle (.nil _) haccepted steps_livedEvents rfl
  replace hreported := hreported.trans told_livedEvents
  have hmem : .disconnected 0 ∈ livedReports := by simp [livedReports]
  exact ⟨_, _, .nil _, haccepted, steps_livedEvents, rfl, hreported, hgone (hreported ▸ hmem),
    hsent⟩

end PageScript.Remote
