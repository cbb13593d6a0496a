import PageScript.Proofs.Remote.Closing

/-!
# One connection among others

One connection is followed from the moment it is accepted, while everything else at the page goes on
in between: other connections come and go, calls are made and sent, toasts are relayed, and reports
are looked at. The connection takes its steps one at a time, each when it can: it is greeted once,
and from then on it takes in what comes in and sends on what is kept for it, in any order, until it
goes. When it goes it is detached, and it reports that it has gone in a later step.

The model is:

* `Remote.Watch` — a page at an instant, with what the connection has reported and sent so far;
* `Remote.Lives peer` — what the connection goes through, and what else happens at the page.

The module proves:

* `Remote.Happens.undisturbed` — nothing else changes a connection, nor what has been sent;
* `Remote.exists_lives` — whatever happens at a page, the connection lives through it.
-/

namespace PageScript.Remote

variable {config : RemoteConfig} {r s : Remote} {peer q : Nat} {x y : Moment} {e : Event}
  {c : Connection} {m : WireMessage}

/-! ### One connection among others -/

/-- The connection of a number, if it is attached. -/
def connection? (r : Remote) (peer : Nat) : Option Connection :=
  r.connections.find? fun c => c.peer = peer

/-- A connection is found under its own number. -/
theorem peer_of_connection? (h : r.connection? peer = some c) : c.peer = peer := by
  simpa using List.find?_some h

/-- No connection is found under a number just if none of that number is attached. -/
theorem connection?_eq_none_iff : r.connection? peer = none ↔ peer ∉ r.attached := by
  simp [connection?, attached]

/-- A step of a connection is one of the connection of its number, and leaves the others alone. -/
theorem find?_replace {left : Option Connection} {connections : List Connection}
    (hleft : ∀ c, left = some c → c.peer = peer) :
    (replace peer left connections).find? (fun c => c.peer = q) =
      if q = peer then (connections.find? fun c => c.peer = peer).bind fun _ => left
      else connections.find? fun c => c.peer = q := by
  induction connections with
  | nil => simp [replace]
  | cons d connections ih =>
    rw [replace, List.flatMap_cons, ← replace]
    -- A connection of the peer gives way to what is left of it. All others stay.
    by_cases hd : d.peer = peer
    · rw [if_pos hd]
      cases left with
      | none =>
        rw [Option.toList_none, List.nil_append, ih]
        split
        · simp [hd]
        · next hq => rw [List.find?_cons_of_neg (by simpa [hd] using Ne.symm hq)]
      | some c =>
        have hc : c.peer = peer := hleft c rfl
        rw [Option.toList_some, List.singleton_append]
        split
        next hq => simp [hq, hc, hd]
        next hq =>
          have hne : ¬ peer = q := Ne.symm hq
          rw [List.find?_cons_of_neg (by simpa [hc] using hne), ih, if_neg hq,
            List.find?_cons_of_neg (by simpa [hd] using hne)]
    · rw [if_neg hd, List.singleton_append]
      by_cases hq : d.peer = q
      · have hne : ¬ q = peer := hq ▸ hd
        rw [List.find?_cons_of_pos (by simpa using hq), if_neg hne,
          List.find?_cons_of_pos (by simpa using hq)]
      · rw [List.find?_cons_of_neg (by simpa using hq), ih,
          List.find?_cons_of_neg (by simpa using hd), List.find?_cons_of_neg (by simpa using hq)]

/-- What a step of a connection that is attached changes. -/
theorem turn_of_connection? {step : Connection → Turn} (hc : r.connection? peer = some c)
    (hopen : r.ended = false) :
    r.turn peer step =
      ({ r with
          connections := replace peer (step c).left r.connections
          leaving := if (step c).leaves then r.leaving ++ [peer] else r.leaving
          events := r.events ++ (step c).reports }, (step c).sends) := by
  rw [connection?] at hc
  simp only [turn, hc, foldl_report, hopen, Bool.false_eq_true, if_false]

/-! ### What else happens -/

/-- A page has kept a connection as it was, with what it has still to report, and all that was sent,
and can be reported to if it could before. -/
structure Undisturbed (peer : Nat) (r s : Remote) : Prop where
  connection_eq : s.connection? peer = r.connection? peer
  leaving_eq : s.leaving.count peer = r.leaving.count peer
  log_prefix : r.outbound.log <+: s.outbound.log
  ended_of_ended : s.ended = false → r.ended = false

/-- A page that has the same connections has kept each of them. -/
theorem Undisturbed.of_eq (hconnections : s.connections = r.connections)
    (hleaving : s.leaving = r.leaving) (hlog : r.outbound.log <+: s.outbound.log)
    (hended : s.ended = r.ended) : Undisturbed peer r s where
  connection_eq := by rw [connection?, hconnections, connection?]
  leaving_eq := by rw [hleaving]
  log_prefix := hlog
  ended_of_ended h := hended ▸ h

/-- A connection takes a step: it has not been greeted and is, or it has been and something comes in
or is kept for it, or it reports that it has gone. -/
def Event.IsTurnOf (peer : Nat) (r : Remote) : Event → Prop
  | .greeted q _ => q = peer ∧ ∃ c, r.connection? peer = some c ∧ c.greeted = false
  | .read q _ => q = peer ∧ ∃ c, r.connection? peer = some c ∧ c.greeted = true
  | .forwarded q _ => q = peer ∧ ∃ c, r.connection? peer = some c ∧ c.greeted = true ∧
      r.outbound.receive? c.cursor ≠ none
  | .parted q => q = peer
  | _ => False

/-- A step of another connection, or one that comes to nothing, leaves a connection as it is. -/
theorem undisturbed_turn {step : Connection → Turn} (hstep : ∀ c, (step c).Fair c.peer)
    (hrest : ∀ c, q = peer → r.connection? peer = some c → step c = c.rest) :
    Undisturbed peer r (r.turn q step).1 := by
  rw [turn]
  split
  next => exact .of_eq rfl rfl (List.prefix_refl _) rfl
  next c hfind =>
    have hpeer : c.peer = q := peer_of_connection? hfind
    have hleft : ∀ d, (step c).left = some d → d.peer = q := hpeer ▸ (hstep c).peer_eq
    have hconnections : ∀ r' : Remote, r'.connections = replace q (step c).left r.connections →
        r'.connection? peer = r.connection? peer := by
      intro r' hr'
      rw [connection?, hr', find?_replace hleft]
      split
      next hq =>
        have hc : r.connection? peer = some c := by rw [hq]; exact hfind
        rw [hrest c hq.symm hc, hfind, hc]
        rfl
      next => rfl
    have hleaving : (if (step c).leaves then r.leaving ++ [q] else r.leaving).count peer =
        r.leaving.count peer := by
      split
      next hleaves =>
        -- Only another connection can leave in this step, since one that rests does not.
        have hq : q ≠ peer := by
          rintro rfl
          rw [hrest c rfl hfind] at hleaves
          cases hleaves
        rw [List.count_append, List.count_singleton, beq_false_of_ne hq]
        rfl
      next => rfl
    simp only [foldl_report]
    split
    · exact ⟨hconnections _ rfl, hleaving, List.prefix_refl _, id⟩
    · exact ⟨hconnections _ rfl, hleaving, List.prefix_refl _, id⟩

/-- What another connection reports when it has gone leaves a connection as it is. -/
theorem undisturbed_part (h : q ∈ r.leaving) (hq : q ≠ peer) : Undisturbed peer r (r.part q) := by
  rw [part_of_mem h]
  exact ⟨rfl, List.count_erase_of_ne hq.symm, List.prefix_refl _, id⟩

/-- Whatever happens leaves a connection as it is, unless it takes a step. -/
theorem Happens.undisturbed (h : Happens x e y) (hlt : peer < x.remote.peers)
    (hnot : ¬ e.IsTurnOf peer x.remote) : Undisturbed peer x.remote y.remote := by
  by_cases hserver : e.IsOfServer
  · cases h with
    | accepted =>
      refine ⟨?_, rfl, List.prefix_refl _, id⟩
      -- The new connection has another number.
      have hnew : (Connection.accept x.remote.peers x.remote.outbound).peer ≠ peer :=
        (Nat.ne_of_lt hlt).symm
      rw [connection?, accept, List.find?_append, List.find?_cons_of_neg (by simpa using hnew),
        List.find?_nil, Option.or_none, connection?]
    | greeted q understood =>
      refine undisturbed_turn (fun c => c.fair_greet understood) fun c hq hc => ?_
      have hgreeted : c.greeted = true := by
        rw [← Bool.not_eq_false]
        exact fun hgreeted => hnot ⟨hq, c, hc, hgreeted⟩
      rw [Connection.greet, if_pos hgreeted]
    | read q incoming =>
      refine undisturbed_turn (fun c => c.fair_read incoming) fun c hq hc => ?_
      have hgreeted : ¬ c.greeted = true := fun hgreeted => hnot ⟨hq, c, hc, hgreeted⟩
      rw [Connection.read.eq_def, if_neg hgreeted]
    | forwarded q works =>
      refine undisturbed_turn (fun c => c.fair_forward _ works) fun c hq hc => ?_
      rw [Connection.forward]
      split
      next hgreeted =>
        have hnone : x.remote.outbound.receive? c.cursor = none := by
          by_contra hsome
          exact hnot ⟨hq, c, hc, hgreeted, hsome⟩
        rw [hnone]
      next => rfl
    | parted h => exact undisturbed_part h fun hq => hnot hq
    | @routed report rest h =>
      obtain ⟨_, _, heq⟩ := route_eq { x.remote with events := rest } report
      simp only [heq]
      exact .of_eq rfl rfl (List.prefix_refl _) rfl
    | ended h => exact ⟨rfl, rfl, List.prefix_refl _, fun hopen => Bool.noConfusion hopen⟩
    | _ => exact hserver.elim
  · have hsame := h.sameServer hserver
    exact .of_eq hsame.connections_eq hsame.leaving_eq hsame.log_prefix hsame.ended_eq

/-! ### What a connection goes through -/

/-- A page at an instant, with what one connection has reported and sent so far. -/
structure Watch where
  /-- The page. -/
  moment : Moment
  /-- What the connection has reported. -/
  reported : List ServerEvent
  /-- What it has sent to the other side. -/
  sent : List WireMessage

/-- The page comes to a state in a step of the connection, which sends some messages in it. What the
connection reports is what is there to be looked at that was not before. -/
def Watch.comeTo (w : Watch) (r : Remote) (sends : List WireMessage) : Watch where
  moment := { w.moment with remote := r }
  reported := w.reported ++ r.events.drop w.moment.remote.events.length
  sent := w.sent ++ sends

/-- A connection that is attached takes a step. -/
def Watch.turn (w : Watch) (peer : Nat) (step : Connection → Turn) : Watch :=
  w.comeTo (w.moment.remote.turn peer step).1 (w.moment.remote.turn peer step).2

/-- A connection that has been detached reports that it has gone. -/
def Watch.part (w : Watch) (peer : Nat) : Watch :=
  w.comeTo (w.moment.remote.part peer) []

/-- What a connection goes through, and what else happens at the page. -/
inductive Occurrence where
  /-- It is greeted. -/
  | greeted (understood : Bool)
  /-- Something comes in on it. -/
  | read (incoming : Incoming)
  /-- It sends on a message. -/
  | sent (m : WireMessage)
  /-- Sending a message fails. -/
  | failed (m : WireMessage)
  /-- It has missed some messages. -/
  | lagged (missed : Nat)
  /-- It has been detached, and reports that it has gone. -/
  | parted
  /-- It takes no step. -/
  | other (e : Event)

/-- One step of a connection, or of anything else at the page. -/
inductive Lives (peer : Nat) : Watch → Occurrence → Watch → Prop
  | greeted {w : Watch} {c : Connection} (hc : w.moment.remote.connection? peer = some c)
      (hgreeted : c.greeted = false) (understood : Bool) :
      Lives peer w (.greeted understood) (w.turn peer fun c => c.greet understood)
  | read {w : Watch} {c : Connection} (hc : w.moment.remote.connection? peer = some c)
      (hgreeted : c.greeted = true) (incoming : Incoming) :
      Lives peer w (.read incoming) (w.turn peer fun c => c.read incoming)
  | sent {w : Watch} {c : Connection} {m : WireMessage} {cursor : Nat}
      (hc : w.moment.remote.connection? peer = some c) (hgreeted : c.greeted = true)
      (h : w.moment.remote.outbound.receive? c.cursor = some (.message m, cursor)) :
      Lives peer w (.sent m) (w.turn peer fun c => c.forward w.moment.remote.outbound true)
  | failed {w : Watch} {c : Connection} {m : WireMessage} {cursor : Nat}
      (hc : w.moment.remote.connection? peer = some c) (hgreeted : c.greeted = true)
      (h : w.moment.remote.outbound.receive? c.cursor = some (.message m, cursor)) :
      Lives peer w (.failed m) (w.turn peer fun c => c.forward w.moment.remote.outbound false)
  | lagged {w : Watch} {c : Connection} {missed cursor : Nat}
      (hc : w.moment.remote.connection? peer = some c) (hgreeted : c.greeted = true)
      (h : w.moment.remote.outbound.receive? c.cursor = some (.lagged missed, cursor))
      (works : Bool) :
      Lives peer w (.lagged missed) (w.turn peer fun c => c.forward w.moment.remote.outbound works)
  | parted {w : Watch} (h : peer ∈ w.moment.remote.leaving) : Lives peer w .parted (w.part peer)
  | other {w : Watch} {e : Event} {y : Moment} (h : Happens w.moment e y)
      (hnot : ¬ e.IsTurnOf peer w.moment.remote) :
      Lives peer w (.other e) { w with moment := y }

variable {w w' : Watch} {o : Occurrence} {events : List Occurrence}

/-- What a connection goes through happens at the page. -/
theorem Lives.happens (h : Lives peer w o w') : ∃ e, Happens w.moment e w'.moment := by
  cases h with
  | greeted _ _ understood => exact ⟨_, .greeted _ peer understood⟩
  | read _ _ incoming => exact ⟨_, .read _ peer incoming⟩
  | sent => exact ⟨_, .forwarded _ peer true⟩
  | failed => exact ⟨_, .forwarded _ peer false⟩
  | lagged _ _ _ works => exact ⟨_, .forwarded _ peer works⟩
  | parted h => exact ⟨_, .parted h⟩
  | other h _ => exact ⟨_, h⟩

/-- A connection lives through whatever happens at the page. -/
theorem Happens.exists_lives (h : Happens x e y) (peer : Nat) (reported : List ServerEvent)
    (sent : List WireMessage) : ∃ o w, Lives peer ⟨x, reported, sent⟩ o w ∧ w.moment = y := by
  -- Each turn of this connection is one of its occurrences. All that is not is an occurrence of
  -- others.
  by_cases hturn : e.IsTurnOf peer x.remote
  · cases h with
    | greeted q understood =>
      obtain ⟨rfl, c, hc, hgreeted⟩ := hturn
      exact ⟨_, _, .greeted hc hgreeted understood, rfl⟩
    | read q incoming =>
      obtain ⟨rfl, c, hc, hgreeted⟩ := hturn
      exact ⟨_, _, .read hc hgreeted incoming, rfl⟩
    | forwarded q works =>
      obtain ⟨rfl, c, hc, hgreeted, hsome⟩ := hturn
      obtain ⟨⟨received, cursor⟩, hreceive⟩ := Option.ne_none_iff_exists'.mp hsome
      cases received with
      | lagged missed => exact ⟨_, _, .lagged hc hgreeted hreceive works, rfl⟩
      | message m =>
        cases works with
        | true => exact ⟨_, _, .sent hc hgreeted hreceive, rfl⟩
        | false => exact ⟨_, _, .failed hc hgreeted hreceive, rfl⟩
    | parted h =>
      obtain rfl := hturn
      exact ⟨_, _, .parted h, rfl⟩
    | _ => exact hturn.elim
  · exact ⟨_, _, .other h hturn, rfl⟩

/-- A connection lives through every history of the page. -/
theorem exists_lives {history : List Event} (h : Steps Happens x history y) (peer : Nat)
    (reported : List ServerEvent) (sent : List WireMessage) :
    ∃ events w, Steps (Lives peer) ⟨x, reported, sent⟩ events w ∧ w.moment = y := by
  induction h generalizing reported sent with
  | nil => exact ⟨[], _, .nil _, rfl⟩
  | cons hstep _ ih =>
    obtain ⟨o, ⟨_, reported', sent'⟩, hlives, rfl⟩ := hstep.exists_lives peer reported sent
    obtain ⟨events, w, hrest, heq⟩ := ih reported' sent'
    exact ⟨o :: events, w, .cons hlives hrest, heq⟩

end PageScript.Remote
