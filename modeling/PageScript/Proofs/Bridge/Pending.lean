import PageScript.Proofs.Bridge.History

/-!
# The table of pending requests

A bridge keeps a table of the ids that may be handed a response. Whatever happens, an id is in it as
long as its request waits and no response to it has been read. A listener that does not fall behind
reads everything that is sent, in order, so that once it has read all there is to read, no request
that is in the table has been sent a response.

* `Bridge.unread_of_steps` — what is read and what is still to be read is what has been sent;
* `Bridge.pending_table` — what is in the table.
-/

namespace PageScript.Bridge

variable {config : BridgeConfig} {id : String} {x y : Moment} {e : Event} {events : List Event}

/-! ### What the listener reads -/

/-- The messages that the listener has still to read, or to miss. -/
def unread (b : Bridge) : List BridgeMessage :=
  b.channel.log.drop b.cursor

/-- The messages that an event sends on the channel. -/
def Event.sends : Event → List BridgeMessage
  | .posted m => [m]
  | .requested toast => [.request toast]
  | _ => []

/-- The messages that the listener reads. -/
def Event.hears : Event → List BridgeMessage
  | .heard (.message m) => [m]
  | _ => []

/-- A listener that has read all there is to read has left nothing unread. -/
theorem unread_eq_nil_of_listen? {b : Bridge} (h : b.listen? = none) : b.unread = [] := by
  rw [listen?, Option.map_eq_none_iff] at h
  exact Channel.drop_of_receive?_none h

/-- Hearing a message posts none. -/
theorem channel_hear (b : Bridge) (received : Received BridgeMessage) :
    (b.hear received).channel = b.channel := by
  match received with
  | .message (.response r) =>
    rw [hear, settle]
    split <;> rfl
  | .message (.request _) => rfl
  | .lagged _ => rfl

/-- The channel holds what it held before, followed by what is sent. -/
theorem Happens.log_eq (h : Happens x e y) :
    y.bridge.channel.log = x.bridge.channel.log ++ e.sends := by
  cases h with
  | posted m => rfl
  | requested hnew => rfl
  | heard h =>
    simp only [channel_hear]
    exact (List.append_nil _).symm
  | passed ms => exact (List.append_nil _).symm
  | completed _ _ => exact (List.append_nil _).symm
  | dropped _ => exact (List.append_nil _).symm

/-- What has been posted since an instant is what the events since then have posted. -/
theorem log_of_steps (h : Steps Happens x events y) :
    y.bridge.channel.log = x.bridge.channel.log ++ events.flatMap Event.sends :=
  h.append_eq (fun x => x.bridge.channel.log) fun _ _ _ hstep => hstep.log_eq

/-- The listener has read no more than has been sent. -/
theorem Happens.cursor_le (h : Happens x e y)
    (hx : x.bridge.cursor ≤ x.bridge.channel.log.length) :
    y.bridge.cursor ≤ y.bridge.channel.log.length := by
  have hle : x.bridge.cursor ≤ y.bridge.channel.log.length := by
    rw [h.log_eq, List.length_append]
    exact Nat.le_add_right_of_le hx
  cases h with
  | @heard received cursor h =>
    simp only [channel_hear]
    exact Channel.le_of_receive? h
  | _ => exact hle

/-- The listener has heard no more than has been posted. -/
theorem cursor_le_of_steps (h : Steps Happens (.start config) events x) :
    x.bridge.cursor ≤ x.bridge.channel.log.length :=
  h.invariant (P := fun x => x.bridge.cursor ≤ x.bridge.channel.log.length)
    (fun _ _ _ hz hstep => hstep.cursor_le hz) (Nat.zero_le _)

/-- A listener that does not fall behind reads the first of the unread messages. -/
theorem Happens.unread_eq (h : Happens x e y)
    (hx : x.bridge.cursor ≤ x.bridge.channel.log.length)
    (hlag : ∀ missed, e ≠ .heard (.lagged missed)) :
    x.bridge.unread ++ e.sends = e.hears ++ y.bridge.unread := by
  have hsends : x.bridge.unread ++ e.sends = y.bridge.channel.log.drop x.bridge.cursor := by
    rw [h.log_eq, List.drop_append_of_le_length hx, unread]
  rw [hsends]
  cases h with
  | @heard received cursor h =>
    match received with
    | .lagged missed => exact absurd rfl (hlag missed)
    | .message m =>
      simp only [unread, channel_hear]
      exact (Channel.drop_of_receive?_message h).2
  | _ => rfl

/-- What the listener reads, followed by what it has still to read, is what it had to read before,
followed by what has been sent since. -/
theorem unread_of_steps (h : Steps Happens x events y)
    (hx : x.bridge.cursor ≤ x.bridge.channel.log.length)
    (hlag : ∀ missed, .heard (.lagged missed) ∉ events) :
    x.bridge.unread ++ events.flatMap Event.sends =
      events.flatMap Event.hears ++ y.bridge.unread := by
  have hkeeps : ∀ e ∈ events, ∀ missed, e ≠ .heard (.lagged missed) :=
    fun e he missed heq => hlag missed (heq ▸ he)
  exact (h.and_events hkeeps).flow_eq
    (P := fun x => x.bridge.cursor ≤ x.bridge.channel.log.length) (fun x => x.bridge.unread)
    (fun _ _ _ hz hstep => hstep.1.cursor_le hz)
    (fun _ _ _ hz hstep => hstep.1.unread_eq hz hstep.2) hx

/-- If the listener has read a response of an id, there is a first one. -/
theorem firstResponse_ne_none {r : ToastResponse} (h : .heard (.message (.response r)) ∈ events) :
    firstResponse r.id events ≠ none := by
  rw [firstResponse, Ne, List.findSome?_eq_none_iff, not_forall]
  exact ⟨_, fun hnone => by simpa [Event.responseTo] using hnone h⟩

/-- A listener that has not fallen behind since a request was made, and has read all there is to
read, has read every response to it that has been posted since. -/
theorem firstResponse_ne_none_of_posted {earlier during : List Event} {toast : ToastRequest}
    {r : ToastResponse} (h : Steps Happens (.start config) events x)
    (heq : events = earlier ++ .requested toast :: during)
    (hlag : ∀ missed, .heard (.lagged missed) ∉ during) (hdrained : x.bridge.listen? = none)
    (hposted : .posted (.response r) ∈ during) : firstResponse r.id during ≠ none := by
  subst heq
  obtain ⟨u, hearlier, hrest⟩ := steps_append_iff.mp h
  obtain ⟨v, hrequested, hduring⟩ := steps_cons_iff.mp hrest
  have hcursor := hrequested.cursor_le (cursor_le_of_steps hearlier)
  -- Nothing is left unread, so what was posted since the request has been heard.
  have hall := unread_of_steps hduring hcursor hlag
  rw [unread_eq_nil_of_listen? hdrained, List.append_nil] at hall
  have hsent : .response r ∈ during.flatMap Event.sends :=
    List.mem_flatMap.mpr ⟨_, hposted, List.mem_singleton.mpr rfl⟩
  have hheard : .response r ∈ during.flatMap Event.hears := hall ▸ List.mem_append_right _ hsent
  obtain ⟨e, he, hm⟩ := List.mem_flatMap.mp hheard
  match e, hm with
  | .heard (.message m), hm =>
    obtain rfl : .response r = m := List.mem_singleton.mp hm
    exact firstResponse_ne_none he

/-! ### The table -/

/-- No id is twice in the table. -/
theorem nodup_pending (h : Steps Happens (.start config) events x) : x.bridge.pending.Nodup := by
  have hledger := Ledger.nodup_pending_after (nodup_entered h)
  rwa [← tracks_ledger.eq_after h] at hledger

/-- A response to a request that is not pending is passed over. -/
theorem eq_of_heard {r : ToastResponse} (h : Happens x (.heard (.message (.response r))) y)
    (hr : r.id ∉ x.bridge.pending) :
    y = { x with bridge := { x.bridge with cursor := x.bridge.cursor + 1 } } := by
  cases h with
  | @heard _ cursor h =>
    rw [hear, settle, if_neg hr, (Channel.drop_of_receive?_message h).1]

/-- Whatever happens at a bridge: its table holds each id once, and an id is in it just if its
request has been made and has not ended, and the listener has read no response to it since. So the
table is empty if no request is outstanding. A response of an id that is not in the table changes
nothing but how much has been read. If the listener has not fallen behind since a request was made
and has read all there is to read, and the request is in the table, then no response to it has been
posted since it was made. -/
theorem pending_table (h : Steps Happens (.start config) events x) :
    x.bridge.pending.Nodup ∧
      (∀ id, id ∈ x.bridge.pending ↔
        ∃ earlier toast during, events = earlier ++ .requested toast :: during ∧ toast.id = id ∧
          (∀ e ∈ during, ¬ e.Ends id) ∧ firstResponse id during = none) ∧
      ((∀ earlier toast during, events = earlier ++ .requested toast :: during →
        ∃ e ∈ during, e.Ends toast.id) → x.bridge.pending.length = 0) ∧
      (∀ r y, Happens x (.heard (.message (.response r))) y → r.id ∉ x.bridge.pending →
        y = { x with bridge := { x.bridge with cursor := x.bridge.cursor + 1 } }) ∧
      ∀ earlier toast during, events = earlier ++ .requested toast :: during →
        (∀ missed, .heard (.lagged missed) ∉ during) → x.bridge.listen? = none →
          toast.id ∈ x.bridge.pending → ∀ r, .posted (.response r) ∈ during → r.id ≠ toast.id := by
  refine ⟨nodup_pending h, fun id => mem_pending_iff h, ?_, fun r y => eq_of_heard, ?_⟩
  · intro hall
    rw [List.length_eq_zero_iff, List.eq_nil_iff_forall_not_mem]
    intro id hmem
    obtain ⟨earlier, toast, during, heq, rfl, hends, -⟩ := (mem_pending_iff h).mp hmem
    obtain ⟨e, he, hend⟩ := hall earlier toast during heq
    exact hends e he hend
  -- A response that was posted would have been heard, and the id would not be pending.
  · intro earlier toast during heq hlag hdrained hmem r hposted hid
    have hends := not_ends_of_mem_pending h heq hmem
    have hfirst := (keeps_firstResponse h heq hends).mem_pending_iff.mp hmem
    rw [← hid] at hfirst
    exact firstResponse_ne_none_of_posted h heq hlag hdrained hposted hfirst

/-- One request is given up, another one is settled and has not looked yet, and a third one waits
when the listener has read everything, among it a response to nobody. -/
def quietEvents : List Event :=
  [.requested ⟨"1", "Ready?", .standard⟩, .requested ⟨"2", "Sure?", .standard⟩, .dropped "1",
    .posted (.response ⟨"2", .continue⟩), .posted (.response ⟨"9", .cancel⟩),
    .requested ⟨"3", "Really?", .standard⟩, .heard (.message (.request ⟨"1", "Ready?", .standard⟩)),
    .heard (.message (.request ⟨"2", "Sure?", .standard⟩)),
    .heard (.message (.response ⟨"2", .continue⟩)), .heard (.message (.response ⟨"9", .cancel⟩)),
    .heard (.message (.request ⟨"3", "Really?", .standard⟩))]

/-- What is posted on the channel. -/
def quietPosts : List BridgeMessage :=
  [.request ⟨"1", "Ready?", .standard⟩, .request ⟨"2", "Sure?", .standard⟩,
    .response ⟨"2", .continue⟩, .response ⟨"9", .cancel⟩, .request ⟨"3", "Really?", .standard⟩]

/-- The bridge with the second and the third request, when so much of what was posted has been heard. -/
def quietMoment (heard : Nat) (pending : List String) (answers : List (String × ToastAction)) :
    Moment where
  bridge := { Bridge.new ⟨none, 8⟩ with
    channel := { (Bridge.new ⟨none, 8⟩).channel with log := quietPosts }
    cursor := heard
    pending := pending
    answers := answers
    waiting := [⟨"2", 0⟩, ⟨"3", 0⟩] }
  now := 0
  used := ["3", "2", "1"]

/-- The requests are made, and the first one is given up; nothing has been heard yet. -/
private theorem steps_quietMoment :
    Steps Happens (.start ⟨none, 8⟩) (quietEvents.take 6) (quietMoment 0 ["2", "3"] []) := by
  have hrequested : Steps Happens (.start ⟨none, 8⟩)
      [.requested ⟨"1", "Ready?", .standard⟩, .requested ⟨"2", "Sure?", .standard⟩]
      ⟨((Bridge.new ⟨none, 8⟩).request 0 ⟨"1", "Ready?", .standard⟩).request 0
        ⟨"2", "Sure?", .standard⟩, 0, ["2", "1"]⟩ :=
    .cons (.requested (by decide)) (.cons (.requested (by decide)) (.nil _))
  have hdropped : Happens
      ⟨((Bridge.new ⟨none, 8⟩).request 0 ⟨"1", "Ready?", .standard⟩).request 0
        ⟨"2", "Sure?", .standard⟩, 0, ["2", "1"]⟩
      (.dropped "1")
      ⟨(((Bridge.new ⟨none, 8⟩).request 0 ⟨"1", "Ready?", .standard⟩).request 0
        ⟨"2", "Sure?", .standard⟩).finish "1", 0, ["2", "1"]⟩ :=
    .dropped (p := ⟨"1", 0⟩) (by decide)
  have hposted : Steps Happens
      ⟨(((Bridge.new ⟨none, 8⟩).request 0 ⟨"1", "Ready?", .standard⟩).request 0
        ⟨"2", "Sure?", .standard⟩).finish "1", 0, ["2", "1"]⟩
      [.posted (.response ⟨"2", .continue⟩), .posted (.response ⟨"9", .cancel⟩),
        .requested ⟨"3", "Really?", .standard⟩]
      (quietMoment 0 ["2", "3"] []) :=
    .cons (.posted _ _) (.cons (.posted _ _) (.cons (.requested (by decide)) (.nil _)))
  exact hrequested.append (.cons hdropped hposted)

/-- A bridge can go through these events, and then nothing is left to hear. -/
private theorem exists_steps_quietEvents :
    ∃ x, Steps Happens (.start ⟨none, 8⟩) quietEvents x ∧ x.bridge.listen? = none := by
  have hrequests : Steps Happens (quietMoment 0 ["2", "3"] [])
      [.heard (.message (.request ⟨"1", "Ready?", .standard⟩)),
        .heard (.message (.request ⟨"2", "Sure?", .standard⟩))]
      (quietMoment 2 ["2", "3"] []) :=
    .cons (.heard (show _ = some (_, 1) by decide +kernel))
      (.cons (.heard (show _ = some (_, 2) by decide +kernel)) (.nil _))
  have hsettled : Happens (quietMoment 2 ["2", "3"] [])
      (.heard (.message (.response ⟨"2", .continue⟩)))
      (quietMoment 3 ["3"] [("2", .continue)]) :=
    .heard (by decide +kernel)
  -- Nobody waits for the response to this id.
  have hignored : Happens (quietMoment 3 ["3"] [("2", .continue)])
      (.heard (.message (.response ⟨"9", .cancel⟩)))
      (quietMoment 4 ["3"] [("2", .continue)]) :=
    .heard (by decide +kernel)
  have hlast : Happens (quietMoment 4 ["3"] [("2", .continue)])
      (.heard (.message (.request ⟨"3", "Really?", .standard⟩)))
      (quietMoment 5 ["3"] [("2", .continue)]) :=
    .heard (by decide +kernel)
  have hdrained : (quietMoment 5 ["3"] [("2", .continue)]).bridge.listen? = none :=
    Option.isNone_iff_eq_none.mp (by decide +kernel)
  exact ⟨_, steps_quietMoment.append (hrequests.append (.cons hsettled (.cons hignored
    (.cons hlast (.nil _))))), hdrained⟩

/-- The third request is in the table, and no response to it has been posted. -/
theorem pending_table_quiet :
    ∃ x, Steps Happens (.start ⟨none, 8⟩) quietEvents x ∧ x.bridge.listen? = none ∧
      "3" ∈ x.bridge.pending ∧ ∀ r, .posted (.response r) ∈ quietEvents.drop 6 → r.id ≠ "3" := by
  obtain ⟨x, hsteps, hdrained⟩ := exists_steps_quietEvents
  obtain ⟨-, hiff, -, -, hposted⟩ := pending_table hsteps
  have hmem : "3" ∈ x.bridge.pending :=
    (hiff "3").mpr ⟨quietEvents.take 5, ⟨"3", "Really?", .standard⟩, quietEvents.drop 6, rfl, rfl,
      by simp [quietEvents, Event.Ends], by decide⟩
  refine ⟨x, hsteps, hdrained, hmem, ?_⟩
  exact hposted (quietEvents.take 5) ⟨"3", "Really?", .standard⟩ (quietEvents.drop 6) rfl
    (by simp [quietEvents]) hdrained hmem

end PageScript.Bridge
