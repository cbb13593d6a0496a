import PageScript.Proofs.Bridge.History

/-!
# What requests come to

Whatever happens at a bridge, a request comes to an end at most once, and what it comes to is decided
by what concerns the request itself: the first response to it that the listener has read since it was
made, and the time that has passed. A response that the listener reads before the request has looked
at the clock counts, even if the time is over by then.

* `Bridge.request_correlation` — what each request comes to, and what it can come to.
-/

namespace PageScript.Bridge

variable {config : BridgeConfig} {events : List Event} {x : Moment} {timeout : Option UInt64}
  {id : String} {first : Option ToastAction} {waited : Nat} {outcome : Except BridgeError String}

/-! ### What the outcome says -/

/-- A request goes on just if the first response to it was to continue. -/
theorem ComesTo.eq_continued_iff (h : ComesTo timeout id first waited outcome) :
    outcome = .ok Bridge.continued ↔ first = some .continue := by
  cases h with
  | continued _ => exact iff_of_true rfl rfl
  | cancelled hne _ => exact iff_of_false nofun fun h => hne (Option.some.inj h)
  | expired _ _ => exact iff_of_false nofun nofun

/-- A request is cancelled just if the first response to it was any other. -/
theorem ComesTo.eq_cancelled_iff (h : ComesTo timeout id first waited outcome) :
    outcome = .error (.cancelled id) ↔ ∃ action, action ≠ .continue ∧ first = some action := by
  cases h with
  | continued _ =>
    refine iff_of_false nofun ?_
    rintro ⟨action, hne, h⟩
    exact hne (Option.some.inj h).symm
  | cancelled hne _ => exact iff_of_true rfl ⟨_, hne, rfl⟩
  | expired _ _ =>
    refine iff_of_false nofun ?_
    rintro ⟨action, -, h⟩
    cases h

/-- A request expires just if its time was over before there was a response. -/
theorem ComesTo.eq_expired_iff (h : ComesTo timeout id first waited outcome) (limit : UInt64) :
    outcome = .error (.expired id limit) ↔
      timeout = some limit ∧ limit.toNat ≤ waited ∧ first = none := by
  cases h with
  | continued _ => exact iff_of_false nofun fun h => nomatch h.2.2
  | cancelled _ _ => exact iff_of_false nofun fun h => nomatch h.2.2
  | @expired limit' _ hlimit hle =>
    constructor
    · rintro ⟨⟩
      exact ⟨hlimit, hle, rfl⟩
    · rintro ⟨hlimit', -, -⟩
      obtain rfl : limit' = limit := Option.some.inj (hlimit.symm.trans hlimit')
      rfl

/-- No request finds the bridge closed. -/
theorem ComesTo.ne_closed (h : ComesTo timeout id first waited outcome) :
    outcome ≠ .error .closed := by
  cases h <;> nofun

/-! ### Requests -/

/-- Whatever happens at a bridge: a request that comes to an outcome ends then and at no other time,
and comes to what follows from the first response to it that the listener has read since it was made.
It goes on just if that response was to continue; it is cancelled just if the response was any other;
it has expired just if the time limit had passed and the listener had read no response to it; and it
has never been closed. A request that has not ended can come to just the outcome that follows in this
way from what has happened so far. -/
theorem request_correlation (h : Steps Happens (.start config) events x) :
    (∀ before id outcome after, events = before ++ .completed id outcome :: after →
      (∀ e ∈ before ++ after, ¬ e.Ends id) ∧
        ∃ earlier toast during, before = earlier ++ .requested toast :: during ∧ toast.id = id ∧
          ComesTo config.responseTimeout id (firstResponse id during) (elapsed during) outcome ∧
          (outcome = .ok continued ↔ firstResponse id during = some .continue) ∧
          (outcome = .error (.cancelled id) ↔
            ∃ action, action ≠ .continue ∧ firstResponse id during = some action) ∧
          (∀ limit, outcome = .error (.expired id limit) ↔
            config.responseTimeout = some limit ∧ limit.toNat ≤ elapsed during ∧
              firstResponse id during = none) ∧
          outcome ≠ .error .closed) ∧
      ∀ earlier toast during, events = earlier ++ .requested toast :: during →
        (∀ e ∈ during, ¬ e.Ends toast.id) → ∀ outcome,
          (∃ y, Happens x (.completed toast.id outcome) y) ↔
            ComesTo config.responseTimeout toast.id (firstResponse toast.id during)
              (elapsed during) outcome := by
  refine ⟨?_, fun earlier toast during heq hends outcome => exists_completed_iff h heq hends⟩
  intro before id outcome after heq
  have honce := forall_not_of_once (fun _ _ _ heq he => not_ends_of_ends h heq he) heq
    (show Event.Ends id (.completed id outcome) from rfl)
  subst heq
  -- A request that completes has waited since it was made, and the events before it decide how.
  obtain ⟨u, hsteps, hrest⟩ := steps_append_iff.mp h
  obtain ⟨v, hcompleted, -⟩ := steps_cons_iff.mp hrest
  obtain ⟨p, hp, hid, -⟩ := exists_outcome_of_completed hcompleted
  obtain ⟨earlier, e, during, rfl, hmakes, hends⟩ := (exists_waiting_iff hsteps).mp ⟨p, hp, hid⟩
  match e, hmakes with
  | .requested toast, hmade =>
    obtain rfl : toast.id = id := hmade
    have hcomes := (exists_completed_iff hsteps rfl hends).mp ⟨v, hcompleted⟩
    exact ⟨honce, earlier, toast, during, rfl, rfl, hcomes, hcomes.eq_continued_iff,
      hcomes.eq_cancelled_iff, hcomes.eq_expired_iff, hcomes.ne_closed⟩

/-- Two requests wait on a channel that keeps one message. The listener falls behind and misses that
the first one is cancelled; it reads that the first one goes on and then, again, that it is cancelled.
Nobody answers the second one in time. -/
def lossyEvents : List Event :=
  [.requested ⟨"1", "Ready?", .standard⟩, .requested ⟨"2", "Sure?", .standard⟩,
    .posted (.response ⟨"1", .cancel⟩), .posted (.response ⟨"1", .continue⟩), .heard (.lagged 3),
    .heard (.message (.response ⟨"1", .continue⟩)), .posted (.response ⟨"1", .cancel⟩),
    .heard (.message (.response ⟨"1", .cancel⟩)), .passed 5, .completed "2" (.error (.expired "2" 5)),
    .completed "1" (.ok continued)]

/-- What is posted on the channel. -/
def lossyPosts : List BridgeMessage :=
  [.request ⟨"1", "Ready?", .standard⟩, .request ⟨"2", "Sure?", .standard⟩,
    .response ⟨"1", .cancel⟩, .response ⟨"1", .continue⟩, .response ⟨"1", .cancel⟩]

/-- The bridge with both requests, when so much has been posted and so much of it heard or missed. -/
def lossyMoment (posted heard : Nat) (pending : List String)
    (answers : List (String × ToastAction)) (now : Nat) : Moment where
  bridge := { Bridge.new ⟨some 5, 1⟩ with
    channel := { (Bridge.new ⟨some 5, 1⟩).channel with log := lossyPosts.take posted }
    cursor := heard
    pending := pending
    answers := answers
    waiting := [⟨"1", 0⟩, ⟨"2", 0⟩] }
  now := now
  used := ["2", "1"]

/-- The listener has missed that the first request is cancelled, and has heard that it goes on. -/
private theorem steps_lossyMoment :
    Steps Happens (.start ⟨some 5, 1⟩) (lossyEvents.take 6)
      (lossyMoment 4 4 ["2"] [("1", .continue)] 0) := by
  have hrequested : Steps Happens (.start ⟨some 5, 1⟩)
      [.requested ⟨"1", "Ready?", .standard⟩, .requested ⟨"2", "Sure?", .standard⟩]
      (lossyMoment 2 0 ["1", "2"] [] 0) :=
    .cons (.requested (by decide)) (.cons (.requested (by decide)) (.nil _))
  have hposted : Steps Happens (lossyMoment 2 0 ["1", "2"] [] 0)
      [.posted (.response ⟨"1", .cancel⟩), .posted (.response ⟨"1", .continue⟩)]
      (lossyMoment 4 0 ["1", "2"] [] 0) :=
    .cons (.posted _ _) (.cons (.posted _ _) (.nil _))
  have hlagged : Happens (lossyMoment 4 0 ["1", "2"] [] 0) (.heard (.lagged 3))
      (lossyMoment 4 3 ["1", "2"] [] 0) :=
    .heard (by decide +kernel)
  have hcontinued : Happens (lossyMoment 4 3 ["1", "2"] [] 0)
      (.heard (.message (.response ⟨"1", .continue⟩)))
      (lossyMoment 4 4 ["2"] [("1", .continue)] 0) :=
    .heard (by decide +kernel)
  exact hrequested.append (hposted.append (.cons hlagged (.cons hcontinued (.nil _))))

/-- A bridge can go through these events. -/
private theorem exists_steps_lossyEvents :
    ∃ x, Steps Happens (.start ⟨some 5, 1⟩) lossyEvents x := by
  have hposted : Happens (lossyMoment 4 4 ["2"] [("1", .continue)] 0)
      (.posted (.response ⟨"1", .cancel⟩)) (lossyMoment 5 4 ["2"] [("1", .continue)] 0) :=
    .posted _ _
  -- The first request has been settled, so that it is cancelled later changes nothing.
  have hcancelled : Happens (lossyMoment 5 4 ["2"] [("1", .continue)] 0)
      (.heard (.message (.response ⟨"1", .cancel⟩)))
      (lossyMoment 5 5 ["2"] [("1", .continue)] 0) :=
    .heard (by decide +kernel)
  have hpassed : Happens (lossyMoment 5 5 ["2"] [("1", .continue)] 0) (.passed 5)
      (lossyMoment 5 5 ["2"] [("1", .continue)] 5) :=
    .passed _ 5
  have hexpired : Happens (lossyMoment 5 5 ["2"] [("1", .continue)] 5)
      (.completed "2" (.error (.expired "2" 5)))
      { lossyMoment 5 5 ["2"] [("1", .continue)] 5 with
        bridge := (lossyMoment 5 5 ["2"] [("1", .continue)] 5).bridge.finish "2" } :=
    .completed (p := ⟨"2", 0⟩) (by decide) rfl
  have hcompleted := @Happens.completed
    { lossyMoment 5 5 ["2"] [("1", .continue)] 5 with
      bridge := (lossyMoment 5 5 ["2"] [("1", .continue)] 5).bridge.finish "2" }
    ⟨"1", 0⟩ (.ok continued) (by decide) rfl
  exact ⟨_, steps_lossyMoment.append (.cons hposted (.cons hcancelled (.cons hpassed
    (.cons hexpired (.cons hcompleted (.nil _))))))⟩

/-- The first request goes on, for the first response to it that was read was to continue, and the
second one has expired, for none was read in time. -/
theorem request_correlation_lossy : ∃ x, Steps Happens (.start ⟨some 5, 1⟩) lossyEvents x ∧
    (∃ earlier toast during, lossyEvents.take 10 = earlier ++ .requested toast :: during ∧
      toast.id = "1" ∧ firstResponse "1" during = some .continue) ∧
    ∃ earlier toast during, lossyEvents.take 9 = earlier ++ .requested toast :: during ∧
      toast.id = "2" ∧ 5 ≤ elapsed during ∧ firstResponse "2" during = none := by
  obtain ⟨x, hsteps⟩ := exists_steps_lossyEvents
  refine ⟨x, hsteps, ?_, ?_⟩
  · obtain ⟨-, earlier, toast, during, heq, hid, -, hiff, -⟩ :=
      (request_correlation hsteps).1 (lossyEvents.take 10) "1" (.ok continued) [] rfl
    exact ⟨earlier, toast, during, heq, hid, hiff.mp rfl⟩
  · obtain ⟨-, earlier, toast, during, heq, hid, -, -, -, hiff, -⟩ :=
      (request_correlation hsteps).1 (lossyEvents.take 9) "2" (.error (.expired "2" 5)) _ rfl
    obtain ⟨-, hle, hfirst⟩ := (hiff 5).mp rfl
    exact ⟨earlier, toast, during, heq, hid, hle, hfirst⟩

end PageScript.Bridge
