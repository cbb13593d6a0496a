import PageScript.Bridge
import PageScript.Proofs.Ledger
import PageScript.Proofs.Transition

/-!
# Histories of a pause bridge

Anyone may post on the channel of a bridge, any number of requests wait at it, its listener reads at
its own pace, and time passes; a request ends when it looks at what has come of it, or when nobody
waits for it any more. No two requests show toasts of one id. The module describes these steps and
what the bridge keeps of each request: the first response that its listener has read since the
request was made.

* `Bridge.Happens.ledger_eq` — what a step changes in the ledger of requests;
* `Bridge.keeps_firstResponse` — what is kept of a request that waits;
* `Bridge.mem_pending_iff` — which ids are pending;
* `Bridge.exists_completed_iff` — what a request can come to.
-/

namespace PageScript

namespace Channel

variable {α : Type} {c : Channel α} {cursor next : Nat} {m : α}

/-- A follower that has not fallen behind reads the message at its cursor. -/
theorem receive?_of_gone_le (hgone : c.gone ≤ cursor) (hm : c.log[cursor]? = some m) :
    c.receive? cursor = some (.message m, cursor + 1) := by
  rw [receive?, if_neg (Nat.not_lt.mpr hgone), hm]
  rfl

/-- A follower who reads a message reads the first one that is left to him. -/
theorem drop_of_receive?_message (h : c.receive? cursor = some (.message m, next)) :
    next = cursor + 1 ∧ c.log.drop cursor = m :: c.log.drop next := by
  rw [receive?] at h
  split at h
  next => cases h
  next =>
    obtain ⟨_, hm, ⟨⟩⟩ := Option.map_eq_some_iff.mp h
    obtain ⟨hlt, rfl⟩ := List.getElem?_eq_some_iff.mp hm
    exact ⟨rfl, List.drop_eq_getElem_cons hlt⟩

/-- Nothing is left to a follower who has nothing to read. -/
theorem drop_of_receive?_none (h : c.receive? cursor = none) : c.log.drop cursor = [] := by
  rw [receive?] at h
  split at h
  next => cases h
  next =>
    rw [Option.map_eq_none_iff, List.getElem?_eq_none_iff] at h
    exact List.drop_eq_nil_iff.mpr h

/-- A follower has read no more than there is. -/
theorem le_of_receive? {received : Received α} (h : c.receive? cursor = some (received, next)) :
    next ≤ c.log.length := by
  rw [receive?] at h
  split at h
  next =>
    obtain ⟨-, rfl⟩ := Prod.mk.inj (Option.some.inj h)
    exact Nat.sub_le _ _
  next =>
    obtain ⟨m, hm, ⟨⟩⟩ := Option.map_eq_some_iff.mp h
    exact (List.getElem?_eq_some_iff.mp hm).1

/-- A follower who reads goes on by at least one message. -/
theorem lt_of_receive? {received : Received α} (h : c.receive? cursor = some (received, next)) :
    cursor < next := by
  rw [receive?] at h
  split at h
  next hgone =>
    obtain ⟨-, rfl⟩ := Prod.mk.inj (Option.some.inj h)
    exact hgone
  next =>
    obtain ⟨m, -, ⟨⟩⟩ := Option.map_eq_some_iff.mp h
    exact Nat.lt_succ_self cursor

/-- Every channel keeps at least one message. -/
theorem capacity_ofCapacity_pos (n : Nat) :
    0 < (Channel.ofCapacity (α := α) n).capacity :=
  Nat.pos_of_isPowerOfTwo (Nat.isPowerOfTwo_nextPowerOfTwo _)

end Channel

namespace Bridge

/-- A bridge at an instant, with the ids of all toasts that requests have shown on it. -/
structure Moment where
  /-- The bridge. -/
  bridge : Bridge
  /-- The instant. -/
  now : Nat
  /-- The ids of the toasts shown so far. -/
  used : List String

/-- A new bridge. -/
def Moment.start (config : BridgeConfig) : Moment :=
  ⟨.new config, 0, []⟩

/-- What happens at a bridge. -/
inductive Event where
  /-- Someone posts a message on the channel. -/
  | posted (m : BridgeMessage)
  /-- A request is made. -/
  | requested (toast : ToastRequest)
  /-- The listener reads. -/
  | heard (received : Received BridgeMessage)
  /-- Time passes. -/
  | passed (ms : Nat)
  /-- A request comes to an outcome. -/
  | completed (id : String) (outcome : Except BridgeError String)
  /-- Nobody waits for a request any more. -/
  | dropped (id : String)

namespace Event

/-- The listener reads a response of an id. -/
def responseTo (id : String) : Event → Option ToastAction
  | .heard (.message (.response r)) => if r.id = id then some r.action else none
  | _ => none

/-- The request of an id ends. -/
def Ends (id : String) : Event → Prop
  | .completed id' _ => id' = id
  | .dropped id' => id' = id
  | _ => False

/-- The request of an id is made. -/
def Makes (id : String) : Event → Prop
  | .requested toast => toast.id = id
  | _ => False

end Event

/-- How long an event lasts. -/
def Event.lasts : Event → Nat
  | .passed ms => ms
  | _ => 0

/-- The time that passes. -/
def elapsed (events : List Event) : Nat :=
  duration Event.lasts events

/-- The first response of an id that the listener reads. -/
def firstResponse (id : String) (events : List Event) : Option ToastAction :=
  events.findSome? (Event.responseTo id)

/-- What can happen at a bridge. Every request shows a toast of an id of its own. -/
inductive Happens : Moment → Event → Moment → Prop
  | posted (x : Moment) (m : BridgeMessage) :
      Happens x (.posted m) { x with bridge := x.bridge.post m }
  | requested {x : Moment} {toast : ToastRequest} (hnew : toast.id ∉ x.used) :
      Happens x (.requested toast)
        { x with bridge := x.bridge.request x.now toast, used := toast.id :: x.used }
  | heard {x : Moment} {received : Received BridgeMessage} {cursor : Nat}
      (h : x.bridge.channel.receive? x.bridge.cursor = some (received, cursor)) :
      Happens x (.heard received)
        { x with bridge := { x.bridge.hear received with cursor := cursor } }
  | passed (x : Moment) (ms : Nat) : Happens x (.passed ms) { x with now := x.now + ms }
  | completed {x : Moment} {p : Pause} {outcome : Except BridgeError String}
      (hp : p ∈ x.bridge.waiting) (h : x.bridge.outcome? x.now p = some outcome) :
      Happens x (.completed p.id outcome) { x with bridge := x.bridge.finish p.id }
  | dropped {x : Moment} {p : Pause} (hp : p ∈ x.bridge.waiting) :
      Happens x (.dropped p.id) { x with bridge := x.bridge.finish p.id }

/-! ### The ledger of requests -/

/-- The requests that wait at a bridge, as a ledger. -/
def ledger (b : Bridge) : Ledger String ToastAction :=
  ⟨b.pending, b.answers⟩

/-- What an event changes in the ledger. -/
def Event.change : Event → Ledger.Change String ToastAction
  | .requested toast => .enter toast.id
  | .heard (.message (.response r)) => .settle r.id r.action
  | .completed id _ => .strike id
  | .dropped id => .strike id
  | _ => .keep

variable {config : BridgeConfig} {b : Bridge} {id : String} {first : Option ToastAction}
  {x y : Moment} {e : Event} {events earlier during : List Event}

/-- A number enters the ledger just when its toast is requested. -/
theorem Event.change_eq_enter_iff :
    e.change = .enter id ↔ ∃ toast, e = .requested toast ∧ toast.id = id := by
  constructor
  · intro h
    match e, h with
    | .requested toast, h => exact ⟨toast, rfl, Ledger.Change.enter.inj h⟩
  · rintro ⟨toast, rfl, rfl⟩
    rfl

/-- A number is struck out of the ledger just when its request ends. -/
theorem Event.change_eq_strike_iff : e.change = .strike id ↔ e.Ends id := by
  constructor
  · intro h
    match e, h with
    | .completed _ _, h => exact Ledger.Change.strike.inj h
    | .dropped _, h => exact Ledger.Change.strike.inj h
  · intro h
    match e, h with
    | .completed _ _, h => exact congrArg Ledger.Change.strike h
    | .dropped _, h => exact congrArg Ledger.Change.strike h

/-- What an event answers in the ledger is the response that it hands over. -/
theorem Event.answerTo_change : e.change.answerTo id = e.responseTo id := by
  match e with
  | .heard (.message (.response r)) => rfl
  | .heard (.message (.request _)) => rfl
  | .heard (.lagged _) => rfl
  | .posted _ => rfl
  | .requested _ => rfl
  | .passed _ => rfl
  | .completed _ _ => rfl
  | .dropped _ => rfl

/-- The first answer in the ledger is the first response that is handed over. -/
theorem findSome?_answerTo_change :
    (events.findSome? fun e => e.change.answerTo id) = firstResponse id events := by
  rw [firstResponse]
  congr 1
  funext e
  exact Event.answerTo_change

/-- Settling a request at the bridge is settling it in the ledger. -/
theorem ledger_settle (b : Bridge) (r : ToastResponse) :
    (b.settle r).ledger = b.ledger.apply (.settle r.id r.action) := by
  by_cases h : r.id ∈ b.pending
  · have h' : r.id ∈ b.ledger.pending := h
    rw [settle, if_pos h, Ledger.apply, if_pos h']
    rfl
  · have h' : r.id ∉ b.ledger.pending := h
    rw [settle, if_neg h, Ledger.apply, if_neg h']

/-- A step changes the ledger as its event says. -/
theorem Happens.ledger_eq (h : Happens x e y) : y.bridge.ledger = x.bridge.ledger.apply e.change := by
  -- Posting, falling behind and the passing of time do not touch the tables.
  cases h with
  | posted m => rfl
  | requested hnew => rfl
  | @heard received cursor h =>
    match received with
    | .message (.response r) => exact ledger_settle x.bridge r
    | .message (.request _) => rfl
    | .lagged _ => rfl
  | passed ms => rfl
  | completed _ _ => rfl
  | dropped _ => rfl

/-- The bridge changes its ledger as its events say. -/
theorem tracks_ledger :
    Ledger.Tracks Happens (.start config) (fun x => x.bridge.ledger) Event.change :=
  ⟨rfl, fun _ _ _ h => h.ledger_eq⟩

/-- The ids that have been used are those that have been entered. -/
theorem Happens.used_eq (h : Happens x e y) :
    y.used = e.change.entered?.toList ++ x.used := by
  cases h with
  | @heard received cursor h =>
    match received with
    | .message (.response r) => rfl
    | .message (.request _) => rfl
    | .lagged _ => rfl
  | _ => rfl

/-- The id of a request is new. -/
theorem Happens.notMem_used {toast : ToastRequest} (h : Happens x (.requested toast) y) :
    toast.id ∉ x.used := by
  cases h with
  | requested hnew => exact hnew

/-- No id is used twice in a step. -/
theorem Happens.nodup_used (h : Happens x e y) (hx : x.used.Nodup) : y.used.Nodup := by
  cases h with
  | requested hnew => exact List.nodup_cons.mpr ⟨hnew, hx⟩
  | _ => exact hx

/-- The ids that have been used are those that have entered the ledger, the last one first. -/
theorem used_of_steps (h : Steps Happens (.start config) events x) :
    x.used = (Ledger.entered (events.map Event.change)).reverse := by
  induction events using List.reverseRecOn generalizing x with
  | nil =>
    rw [steps_nil_iff.mp h]
    rfl
  | append_singleton events e ih =>
    obtain ⟨y, hevents, he⟩ := steps_append_iff.mp h
    rw [(steps_singleton_iff.mp he).used_eq, ih hevents, List.map_append, Ledger.entered,
      Ledger.entered, List.filterMap_append, List.reverse_append]
    cases hentered : e.change.entered? <;> simp [hentered]

/-- No id is entered twice. -/
theorem nodup_entered (h : Steps Happens (.start config) events x) :
    (Ledger.entered (events.map Event.change)).Nodup := by
  have hused : x.used.Nodup :=
    h.invariant (P := fun x => x.used.Nodup) (fun _ _ _ hx hstep => hstep.nodup_used hx)
      List.nodup_nil
  rwa [used_of_steps h, List.nodup_reverse] at hused

/-- What is kept of a request as long as it has not ended: the first response to it that the
listener has read since it was made. -/
theorem keeps_firstResponse {toast : ToastRequest} (h : Steps Happens (.start config) events x)
    (heq : events = earlier ++ .requested toast :: during)
    (hends : ∀ e ∈ during, ¬ e.Ends toast.id) :
    x.bridge.ledger.Keeps toast.id (firstResponse toast.id during) := by
  rw [← findSome?_answerTo_change]
  exact tracks_ledger.keeps (nodup_entered h) h heq rfl
    fun e he hstrike => hends e he (Event.change_eq_strike_iff.mp hstrike)

/-- A request that is pending has not ended. -/
theorem not_ends_of_mem_pending {toast : ToastRequest} (h : Steps Happens (.start config) events x)
    (heq : events = earlier ++ .requested toast :: during) (hmem : toast.id ∈ x.bridge.pending) :
    ∀ e ∈ during, ¬ e.Ends toast.id := by
  intro e he hends
  have hstrike := tracks_ledger.ne_strike (nodup_entered h) h heq rfl hmem e he
  exact hstrike (Event.change_eq_strike_iff.mpr hends)

/-- The ids that are pending are those of the requests that have not ended and to which the
listener has not read any response since they were made. -/
theorem mem_pending_iff (h : Steps Happens (.start config) events x) :
    id ∈ x.bridge.pending ↔
      ∃ earlier toast during, events = earlier ++ .requested toast :: during ∧ toast.id = id ∧
        (∀ e ∈ during, ¬ e.Ends id) ∧ firstResponse id during = none := by
  refine (tracks_ledger.mem_pending_iff (nodup_entered h) h).trans ⟨?_, ?_⟩
  · rintro ⟨earlier, e, during, heq, he, hstrike, hfirst⟩
    obtain ⟨toast, rfl, hid⟩ := Event.change_eq_enter_iff.mp he
    refine ⟨earlier, toast, during, heq, hid, fun e he hends => hstrike e he ?_, ?_⟩
    · exact Event.change_eq_strike_iff.mpr hends
    · rwa [← findSome?_answerTo_change]
  · rintro ⟨earlier, toast, during, heq, rfl, hends, hfirst⟩
    refine ⟨earlier, _, during, heq, rfl, fun e he hstrike => hends e he ?_, ?_⟩
    · exact Event.change_eq_strike_iff.mp hstrike
    · rwa [findSome?_answerTo_change]

/-! ### Who waits, and how long -/

/-- A step lasts as long as its event says. -/
theorem Happens.now_eq (h : Happens x e y) : y.now = x.now + e.lasts := by
  cases h <;> rfl

/-- The time that has passed is that of all events. -/
theorem now_of_steps (h : Steps Happens x events y) : y.now = x.now + elapsed events := by
  rw [elapsed]
  exact h.clock_eq fun _ _ _ hstep => hstep.now_eq

/-- Settling a request changes no limit. -/
private theorem timeout_settle (b : Bridge) (r : ToastResponse) :
    (b.settle r).timeout = b.timeout := by
  rw [settle]
  split <;> rfl

/-- No step changes how long requests wait. -/
theorem Happens.timeout_eq (h : Happens x e y) : y.bridge.timeout = x.bridge.timeout := by
  cases h with
  | @heard received cursor h =>
    match received with
    | .message (.response r) => exact timeout_settle x.bridge r
    | .message (.request _) => rfl
    | .lagged _ => rfl
  | _ => rfl

/-- Requests wait as long as the configuration says. -/
theorem timeout_of_steps (h : Steps Happens (.start config) events x) :
    x.bridge.timeout = config.responseTimeout :=
  h.invariant (P := fun x => x.bridge.timeout = config.responseTimeout)
    (fun _ _ _ hx hstep => hstep.timeout_eq.trans hx) rfl

/-- Settling a request ends none. -/
private theorem waiting_settle (b : Bridge) (r : ToastResponse) :
    (b.settle r).waiting = b.waiting := by
  rw [settle]
  split <;> rfl

/-- Ending a request leaves the others waiting. -/
theorem mem_waiting_finish {p : Pause} :
    p ∈ (b.finish id).waiting ↔ p ∈ b.waiting ∧ ¬ id = p.id := by
  rw [finish, List.mem_filter, decide_eq_true_iff]
  exact and_congr_right fun _ => not_congr eq_comm

/-- Who waits after a step: those who have made a request, and those who waited before and have not
come to an end. -/
theorem Happens.mem_waiting_iff (h : Happens x e y) {p : Pause} :
    p ∈ y.bridge.waiting ↔
      (∃ toast, e = .requested toast ∧ p = ⟨toast.id, x.now⟩) ∨
        (p ∈ x.bridge.waiting ∧ ¬ e.Ends p.id) := by
  cases h with
  | posted m => simp [Event.Ends, post]
  | requested hnew => simp [Event.Ends, request, post, or_comm]
  | @heard received cursor h =>
    match received with
    | .message (.response r) => simp [Event.Ends, hear, waiting_settle]
    | .message (.request _) => simp [Event.Ends, hear]
    | .lagged _ => simp [Event.Ends, hear]
  | passed ms => simp [Event.Ends]
  | completed _ _ => simpa [Event.Ends] using mem_waiting_finish
  | dropped _ => simpa [Event.Ends] using mem_waiting_finish

/-- A request waits just if it has been made and has not ended since. -/
theorem exists_waiting_iff (h : Steps Happens (.start config) events x) :
    (∃ p ∈ x.bridge.waiting, p.id = id) ↔ Since (Event.Makes id) (Event.Ends id) events := by
  refine h.since_iff (P := fun _ => True) (W := fun x => ∃ p ∈ x.bridge.waiting, p.id = id)
    (fun _ _ _ _ _ => trivial) (fun x e y _ hstep => ?_) trivial (by simp [Moment.start, new])
  constructor
  · rintro ⟨p, hp, rfl⟩
    rcases hstep.mem_waiting_iff.mp hp with ⟨toast, rfl, rfl⟩ | ⟨hp, hends⟩
    · exact .inl rfl
    · exact .inr ⟨⟨p, hp, rfl⟩, hends⟩
  · rintro (hmakes | ⟨⟨p, hp, rfl⟩, hends⟩)
    · match e, hmakes with
      | .requested toast, hid =>
        exact ⟨⟨toast.id, x.now⟩, hstep.mem_waiting_iff.mpr (.inl ⟨toast, rfl, rfl⟩), hid⟩
    · exact ⟨p, hstep.mem_waiting_iff.mpr (.inr ⟨hp, hends⟩), rfl⟩

/-- Nobody waits for an id that has not been used. -/
theorem mem_used_of_mem_waiting (h : Steps Happens (.start config) events x) {p : Pause}
    (hp : p ∈ x.bridge.waiting) : p.id ∈ x.used := by
  obtain ⟨earlier, e, during, rfl, hmakes, -⟩ := (exists_waiting_iff h).mp ⟨p, hp, rfl⟩
  rw [used_of_steps h, List.mem_reverse, Ledger.mem_entered_iff, List.mem_map]
  match e, hmakes with
  | .requested toast, hid => exact ⟨.requested toast, by simp, congrArg Ledger.Change.enter hid⟩

/-- Only a request that waits can end. -/
theorem Happens.exists_waiting_of_ends (h : Happens x e y) (he : e.Ends id) :
    ∃ p ∈ x.bridge.waiting, p.id = id := by
  cases h with
  | completed hp _ => exact ⟨_, hp, he⟩
  | dropped hp => exact ⟨_, hp, he⟩
  | _ => exact False.elim he

/-- An id has been used, and whoever waits for it has a property. -/
def Moment.Admits (x : Moment) (id : String) (P : Pause → Prop) : Prop :=
  id ∈ x.used ∧ ∀ p ∈ x.bridge.waiting, p.id = id → P p

/-- An id that has been used is not used again, so nobody else can come to wait for it. -/
theorem Happens.admits {P : Pause → Prop} (h : Happens x e y) (hx : x.Admits id P) :
    y.Admits id P := by
  obtain ⟨hused, hwaiting⟩ := hx
  refine ⟨?_, fun p hp hid => ?_⟩
  · rw [h.used_eq]
    exact List.mem_append_right _ hused
  · rcases h.mem_waiting_iff.mp hp with ⟨toast, rfl, rfl⟩ | ⟨hp, -⟩
    · have hid : toast.id = id := hid
      exact absurd (hid ▸ hused) h.notMem_used
    · exact hwaiting p hp hid

/-- Nobody waits for the id of a request that has ended. -/
theorem Happens.admits_of_ends (h : Happens x e y) (hused : ∀ p ∈ x.bridge.waiting, p.id ∈ x.used)
    (he : e.Ends id) : y.Admits id fun _ => False := by
  obtain ⟨p, hp, rfl⟩ := h.exists_waiting_of_ends he
  refine ⟨?_, fun q hq hid => ?_⟩
  · rw [h.used_eq]
    exact List.mem_append_right _ (hused p hp)
  · rcases h.mem_waiting_iff.mp hq with ⟨toast, rfl, -⟩ | ⟨-, hends⟩
    · exact he
    · exact hends (hid ▸ he)

/-- Whoever waits for the id of a request has waited since it was made. -/
theorem Happens.admits_of_requested {toast : ToastRequest} (h : Happens x (.requested toast) y)
    (hused : ∀ p ∈ x.bridge.waiting, p.id ∈ x.used) :
    y.Admits toast.id fun p => p.since = x.now := by
  refine ⟨?_, fun p hp hid => ?_⟩
  · rw [h.used_eq]
    exact List.mem_cons_self
  · rcases h.mem_waiting_iff.mp hp with ⟨other, -, rfl⟩ | ⟨hp, -⟩
    · rfl
    · exact absurd (hid ▸ hused p hp) h.notMem_used

/-- A request ends once. -/
theorem not_ends_of_ends {before after : List Event} (h : Steps Happens (.start config) events x)
    (heq : events = before ++ e :: after) (he : e.Ends id) : ∀ e' ∈ after, ¬ e'.Ends id := by
  rw [heq] at h
  obtain ⟨u, hbefore, hrest⟩ := steps_append_iff.mp h
  obtain ⟨v, hend, hafter⟩ := steps_cons_iff.mp hrest
  have hover := hend.admits_of_ends (fun p hp => mem_used_of_mem_waiting hbefore hp) he
  refine hafter.forall_events (fun _ _ _ hz hstep => hstep.admits hz) (fun _ _ _ hz hstep hends => ?_)
    hover
  obtain ⟨p, hp, hid⟩ := hstep.exists_waiting_of_ends hends
  exact hz.2 p hp hid

/-- A request has waited since it was made. -/
theorem since_add_elapsed {toast : ToastRequest} (h : Steps Happens (.start config) events x)
    (heq : events = earlier ++ .requested toast :: during) {p : Pause}
    (hp : p ∈ x.bridge.waiting) (hid : p.id = toast.id) : x.now = p.since + elapsed during := by
  rw [heq] at h
  obtain ⟨u, hearlier, hrest⟩ := steps_append_iff.mp h
  obtain ⟨v, hrequested, hduring⟩ := steps_cons_iff.mp hrest
  have hmade := hrequested.admits_of_requested fun p hp => mem_used_of_mem_waiting hearlier hp
  have hsince : p.since = u.now :=
    (hduring.invariant (fun _ _ _ hz hstep => Happens.admits hstep hz) hmade).2 p hp hid
  have hnow : v.now = u.now := hrequested.now_eq
  rw [now_of_steps hduring, hnow, hsince]

/-! ### What a request comes to -/

/-- A request that comes to an outcome waits, and has found it at the bridge. -/
theorem exists_outcome_of_completed {outcome : Except BridgeError String}
    (h : Happens x (.completed id outcome) y) :
    ∃ p ∈ x.bridge.waiting, p.id = id ∧ x.bridge.outcome? x.now p = some outcome := by
  cases h with
  | completed hp houtcome => exact ⟨_, hp, rfl, houtcome⟩

/-- What a request of an id comes to, given the first response to it and how long it has waited. -/
inductive ComesTo (timeout : Option UInt64) (id : String) :
    Option ToastAction → Nat → Except BridgeError String → Prop
  /-- The operator goes on. -/
  | continued (waited : Nat) : ComesTo timeout id (some .continue) waited (.ok continued)
  /-- The operator does anything else. -/
  | cancelled {action : ToastAction} (h : action ≠ .continue) (waited : Nat) :
      ComesTo timeout id (some action) waited (.error (.cancelled id))
  /-- The time is over without a response. -/
  | expired {limit : UInt64} {waited : Nat} (hlimit : timeout = some limit)
      (h : limit.toNat ≤ waited) : ComesTo timeout id none waited (.error (.expired id limit))

/-- What a request comes to is read off the response that is kept of it. -/
theorem outcome?_eq_some_iff {p : Pause} (h : b.ledger.Keeps p.id first) (waited : Nat)
    {outcome : Except BridgeError String} :
    b.outcome? (p.since + waited) p = some outcome ↔ ComesTo b.timeout p.id first waited outcome := by
  have hlookup : b.answers.lookup p.id = first := h.lookup_eq
  rw [outcome?, hlookup]
  match first with
  | some .continue =>
    constructor
    · rintro ⟨⟩
      exact .continued waited
    · rintro (_ | ⟨h, -⟩)
      · rfl
      · exact absurd rfl h
  | some .cancel =>
    constructor
    · rintro ⟨⟩
      exact .cancelled (by decide) waited
    · rintro ⟨⟩
      rfl
  | some .other =>
    constructor
    · rintro ⟨⟩
      exact .cancelled (by decide) waited
    · rintro ⟨⟩
      rfl
  | none =>
    -- Without a response the request is pending, so it has not been closed.
    have hpending : p.id ∈ b.pending := h.mem_pending_iff.mpr rfl
    simp only [hpending, not_true_eq_false, if_false]
    constructor
    · intro houtcome
      cases htimeout : b.timeout with
      | none => simp [htimeout] at houtcome
      | some limit =>
        simp only [htimeout, Option.ite_none_right_eq_some, Option.some.injEq,
          Nat.add_le_add_iff_left] at houtcome
        obtain ⟨hle, rfl⟩ := houtcome
        exact .expired rfl hle
    · intro hcomes
      generalize htimeout : b.timeout = timeout at hcomes
      cases hcomes with
      | expired hlimit hle =>
        subst hlimit
        simp [hle]

/-- What a request can come to is read off the responses to it that the listener has read since it
was made, and off the time that has passed. -/
theorem exists_completed_iff {toast : ToastRequest} (h : Steps Happens (.start config) events x)
    (heq : events = earlier ++ .requested toast :: during)
    (hends : ∀ e ∈ during, ¬ e.Ends toast.id) {outcome : Except BridgeError String} :
    (∃ y, Happens x (.completed toast.id outcome) y) ↔
      ComesTo config.responseTimeout toast.id (firstResponse toast.id during) (elapsed during)
        outcome := by
  have hkeeps := keeps_firstResponse h heq hends
  -- Whoever waits for this id has waited since the request was made.
  have hiff : ∀ p ∈ x.bridge.waiting, p.id = toast.id →
      (x.bridge.outcome? x.now p = some outcome ↔
        ComesTo config.responseTimeout toast.id (firstResponse toast.id during) (elapsed during)
          outcome) := by
    intro p hp hid
    rw [since_add_elapsed h heq hp hid, ← timeout_of_steps h]
    rw [← hid] at hkeeps ⊢
    exact outcome?_eq_some_iff hkeeps (elapsed during)
  constructor
  · rintro ⟨y, hy⟩
    obtain ⟨p, hp, hid, houtcome⟩ := exists_outcome_of_completed hy
    exact (hiff p hp hid).mp houtcome
  · intro hcomes
    obtain ⟨p, hp, hid⟩ := (exists_waiting_iff h).mpr ⟨earlier, _, during, heq, rfl, hends⟩
    rw [← hid]
    exact ⟨_, .completed hp ((hiff p hp hid).mpr hcomes)⟩

end Bridge

end PageScript
