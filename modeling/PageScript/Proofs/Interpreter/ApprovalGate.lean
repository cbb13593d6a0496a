import Mathlib.Data.List.Induction
import PageScript.Proofs.Bridge.History
import PageScript.Proofs.Interpreter.Progress

/-!
# The approval gate

While a run goes on, other things happen at its bridge: toasts of other runs, responses of any ids,
a listener that falls behind, deadlines. Whatever happens and however everything the run asks is
answered, the run does not come to a command after a toast unless the first response to that toast
that the listener read in time was to continue.

* `Interpreter.Scene.Goes` — what a run and those around it can do next;
* `Interpreter.exists_paused_of_resumed` — what a run goes on with after a toast;
* `Interpreter.approval_gate` — the gate.
-/

namespace PageScript

open Program

/-- Shows a toast. -/
def Effect.isToast : Effect → Bool
  | .toast _ _ => true
  | _ => false

namespace Interpreter

/-! ### Runs at a bridge -/

/-- What a run waits for. -/
inductive Wait where
  /-- The answer to its question. -/
  | answer
  /-- The outcome of the request that shows a toast. -/
  | toast (toast : ToastRequest)

/-- A run at a bridge. While it waits, its next question is the one it waits on. -/
structure Scene where
  /-- The bridge. -/
  moment : Bridge.Moment
  /-- What is left of the run. -/
  program : Program RunReport
  /-- What the run waits for, nothing while it goes on. -/
  wait : Option Wait

namespace Scene

/-- A run that has not begun. -/
def start (moment : Bridge.Moment) (config : InterpreterConfig) (commands : List Command) : Scene :=
  ⟨moment, run config commands, none⟩

/-- What is seen of a run and of what happens around it. -/
inductive Event where
  /-- The run asks for something. -/
  | asked (e : Effect)
  /-- The run is answered. -/
  | answered (x : Exchange)
  /-- The run goes on with the next round of a wait for an element. -/
  | looped
  /-- The run makes the request of a toast. -/
  | paused (toast : ToastRequest)
  /-- The run goes on with the outcome of the request. -/
  | resumed (toast : ToastRequest) (outcome : Except BridgeError String)
  /-- Something else happens at the bridge. -/
  | around (e : Bridge.Event)

/-- A run asks for one thing after another, and a toast is asked for at the bridge. Nothing is known
of the other answers. While the run waits, anything can happen at the bridge but the end of its own
request. -/
inductive Goes : Scene → Event → Scene → Prop
  | asked {moment : Bridge.Moment} {e : Effect} {next : e.Answer → Program RunReport}
      (he : e.isToast = false) :
      Goes ⟨moment, .ask e next, none⟩ (.asked e) ⟨moment, .ask e next, some .answer⟩
  | answered {moment : Bridge.Moment} {e : Effect} {next : e.Answer → Program RunReport}
      {answer : e.Answer} (he : e.isToast = false) :
      Goes ⟨moment, .ask e next, some .answer⟩ (.answered ⟨e, answer⟩) ⟨moment, next answer, none⟩
  | looped {moment : Bridge.Moment} {wait : ElementWait}
      {next : Except PageError Bool → Program RunReport} :
      Goes ⟨moment, .await wait next, none⟩ .looped ⟨moment, .unfold wait next, none⟩
  | paused {moment moment' : Bridge.Moment} {toast : ToastRequest}
      {next : Except BridgeError String → Program RunReport}
      (h : Bridge.Happens moment (.requested toast) moment') :
      Goes ⟨moment, .ask (.toast toast.message toast.options) next, none⟩ (.paused toast)
        ⟨moment', .ask (.toast toast.message toast.options) next, some (.toast toast)⟩
  | resumed {moment moment' : Bridge.Moment} {toast : ToastRequest}
      {next : Except BridgeError String → Program RunReport} {outcome : Except BridgeError String}
      (h : Bridge.Happens moment (.completed toast.id outcome) moment') :
      Goes ⟨moment, .ask (.toast toast.message toast.options) next, some (.toast toast)⟩
        (.resumed toast outcome) ⟨moment', next outcome, none⟩
  | around {moment moment' : Bridge.Moment} {program : Program RunReport} {wait : Option Wait}
      {e : Bridge.Event} (hown : ∀ toast, wait = some (.toast toast) → ¬ e.Ends toast.id)
      (h : Bridge.Happens moment e moment') :
      Goes ⟨moment, program, wait⟩ (.around e) ⟨moment', program, wait⟩

namespace Event

/-- The question of the run that has been answered. -/
def exchange? : Event → Option Exchange
  | .answered x => some x
  | .resumed toast outcome => some ⟨.toast toast.message toast.options, outcome⟩
  | _ => none

/-- What happens at the bridge. -/
def atBridge? : Event → Option Bridge.Event
  | .paused toast => some (.requested toast)
  | .resumed toast outcome => some (.completed toast.id outcome)
  | .around e => some e
  | _ => none

end Event

end Scene

/-- The questions of a run that have been answered. -/
def exchangesOf (events : List Scene.Event) : List Exchange :=
  events.filterMap Scene.Event.exchange?

/-- What happens at the bridge. -/
def bridgeEvents (events : List Scene.Event) : List Bridge.Event :=
  events.filterMap Scene.Event.atBridge?

variable {config : InterpreterConfig} {commands : List Command} {events : List Scene.Event}
  {s t : Scene} {event : Scene.Event}

/-! ### What a run and those around it do -/

/-- What was exchanged, one event at a time. -/
theorem exchangesOf_cons (event : Scene.Event) (events : List Scene.Event) :
    exchangesOf (event :: events) = event.exchange?.toList ++ exchangesOf events := by
  rw [exchangesOf, exchangesOf, List.filterMap_cons]
  cases event.exchange? <;> rfl

/-- What was exchanged in two runs is put together. -/
theorem exchangesOf_append (first second : List Scene.Event) :
    exchangesOf (first ++ second) = exchangesOf first ++ exchangesOf second :=
  List.filterMap_append

/-- Nothing is exchanged while only the surroundings move. -/
private theorem exchangesOf_eq_nil_of_around (h : ∀ event ∈ events, ∃ e, event = .around e) :
    exchangesOf events = [] := by
  refine List.filterMap_eq_nil_iff.mpr fun event hevent => ?_
  obtain ⟨e, rfl⟩ := h event hevent
  rfl

/-- A step of a run is a step of its program, with what has been answered. -/
theorem Scene.Goes.comesTo (h : Goes s event t) {exchanges : List Exchange} {report : RunReport}
    (hrest : ComesTo t.program exchanges report) :
    ComesTo s.program (event.exchange?.toList ++ exchanges) report := by
  cases h with
  | asked _ => exact hrest
  | answered _ => exact .ask hrest
  | looped => exact .await hrest
  | paused _ => exact hrest
  | resumed _ => exact .ask hrest
  | around _ _ => exact hrest

/-- However a run comes to its end from where it is, it does so after what it has done before. -/
theorem comesTo_of_steps (h : Steps Scene.Goes s events t) {exchanges : List Exchange}
    {report : RunReport} (hrest : ComesTo t.program exchanges report) :
    ComesTo s.program (exchangesOf events ++ exchanges) report := by
  induction h with
  | nil => exact hrest
  | @cons s t u event events hstep _ ih =>
    rw [exchangesOf_cons, List.append_assoc]
    exact hstep.comesTo (ih hrest)

/-- What the scene does is a history of the bridge. -/
theorem happens_of_steps (h : Steps Scene.Goes s events t) :
    Steps Bridge.Happens s.moment (bridgeEvents events) t.moment := by
  induction h with
  | nil => exact .nil _
  | cons hstep _ ih =>
    cases hstep with
    | asked _ => exact ih
    | answered _ => exact ih
    | looped => exact ih
    | paused h => exact .cons h ih
    | resumed h => exact .cons h ih
    | around _ h => exact .cons h ih

/-- A run that waits at a toast has made the request, and only those around it have done anything
since. -/
theorem exists_paused {toast : ToastRequest} (h : Steps Scene.Goes s events t)
    (hs : s.wait = none) (ht : t.wait = some (.toast toast)) :
    ∃ earlier during moment moment', events = earlier ++ .paused toast :: during ∧
      Steps Bridge.Happens s.moment (bridgeEvents earlier) moment ∧
      Bridge.Happens moment (.requested toast) moment' ∧
      Steps Bridge.Happens moment' (bridgeEvents during) t.moment ∧
      ∀ event ∈ during, ∃ e, event = .around e ∧ ¬ e.Ends toast.id := by
  -- The induction is on the last event: the request, or something around the run.
  induction events using List.reverseRecOn generalizing t with
  | nil =>
    obtain rfl := steps_nil_iff.mp h
    rw [hs] at ht
    cases ht
  | append_singleton events event ih =>
    obtain ⟨r, hevents, hevent⟩ := steps_append_iff.mp h
    obtain ⟨_, hevent, hnil⟩ := steps_cons_iff.mp hevent
    obtain rfl := steps_nil_iff.mp hnil
    cases hevent with
    | asked _ => cases ht
    | answered _ => cases ht
    | looped => cases ht
    | resumed _ => cases ht
    | paused hrequested =>
      cases ht
      exact ⟨events, [], _, _, rfl, happens_of_steps hevents, hrequested, .nil _, by simp⟩
    | @around moment moment' program wait e hown haround =>
      obtain ⟨earlier, during, _, _, rfl, hearlier, hrequested, hduring, hothers⟩ :=
        ih hevents ht
      refine ⟨earlier, during ++ [.around e], _, _, by simp, hearlier, hrequested, ?_, ?_⟩
      · rw [bridgeEvents, List.filterMap_append]
        exact hduring.append (.cons haround (.nil _))
      · intro event hevent
        rcases List.mem_append.mp hevent with hevent | hevent
        · exact hothers event hevent
        · exact ⟨e, List.mem_singleton.mp hevent, hown toast ht⟩

/-! ### The gate -/

/-- The answer to a toast is the outcome of a request. -/
theorem exists_resumed {message : String} {options : ToastOptions}
    {answer : Except BridgeError String} {before after : List Exchange}
    (h : Steps Scene.Goes s events t)
    (hanswer : exchangesOf events = before ++ ⟨.toast message options, answer⟩ :: after) :
    ∃ earlier toast later, events = earlier ++ .resumed toast answer :: later ∧
      exchangesOf earlier = before ∧ toast.message = message := by
  obtain ⟨earlier, rest, rfl, rfl, hrest⟩ := List.filterMap_eq_append_iff.mp hanswer
  obtain ⟨silent, event, later, rfl, hsilent, hevent, -⟩ := List.filterMap_eq_cons_iff.mp hrest
  obtain ⟨r, -, hrest⟩ := steps_append_iff.mp h
  obtain ⟨r', -, hlast⟩ := steps_append_iff.mp hrest
  obtain ⟨_, hgoes, -⟩ := steps_cons_iff.mp hlast
  have hearlier : exchangesOf (earlier ++ silent) = exchangesOf earlier := by
    have hnil : exchangesOf silent = [] := List.filterMap_eq_nil_iff.mpr hsilent
    rw [exchangesOf_append, hnil, List.append_nil]
  -- Only the outcome of a request answers a toast.
  cases hgoes with
  | answered he =>
    cases hevent
    cases he
  | resumed _ =>
    cases hevent
    exact ⟨earlier ++ silent, _, later, (List.append_assoc ..).symm, hearlier, rfl⟩
  | _ => cases hevent

/-- A run goes on after a toast with what the first response to it says that the listener has read
since the request was made. -/
theorem exists_paused_of_resumed {bridgeConfig : BridgeConfig} {history : List Bridge.Event}
    {toast : ToastRequest} {answer : Except BridgeError String} {r : Scene}
    (hhistory : Steps Bridge.Happens (.start bridgeConfig) history s.moment)
    (hevents : Steps Scene.Goes s events r) (hs : s.wait = none)
    (hresumed : Scene.Goes r (.resumed toast answer) t) :
    ∃ earlier during, events = earlier ++ .paused toast :: during ∧
      (∀ event ∈ during, ∃ e, event = .around e) ∧
      ((Bridge.firstResponse toast.id (bridgeEvents during) = some .continue ∧
          answer = .ok Bridge.continued) ∨
        answer = .error (.cancelled toast.id) ∨
        ∃ timeout, answer = .error (.expired toast.id timeout)) := by
  -- The run was waiting at the toast, and its request came to this outcome.
  obtain ⟨hwait, moment', hcompleted⟩ : r.wait = some (.toast toast) ∧
      ∃ moment', Bridge.Happens r.moment (.completed toast.id answer) moment' := by
    cases hresumed with
    | resumed h => exact ⟨rfl, _, h⟩
  obtain ⟨earlier, during, _, _, rfl, hearlier, hrequested, hduring, hothers⟩ :=
    exists_paused hevents hs hwait
  have hsteps := (hhistory.append hearlier).append (.cons hrequested hduring)
  -- Nobody else ended the request in the meantime.
  have hends : ∀ e ∈ bridgeEvents during, ¬ e.Ends toast.id := by
    intro e he
    obtain ⟨event, hevent, hatBridge⟩ := List.mem_filterMap.mp he
    obtain ⟨e', rfl, hown⟩ := hothers event hevent
    cases hatBridge
    exact hown
  have hcomes := (Bridge.exists_completed_iff hsteps rfl hends).mp ⟨moment', hcompleted⟩
  refine ⟨earlier, during, rfl, fun event hevent => ?_, ?_⟩
  · obtain ⟨e, he, -⟩ := hothers event hevent
    exact ⟨e, he⟩
  · generalize Bridge.firstResponse toast.id (bridgeEvents during) = first at hcomes ⊢
    cases hcomes with
    | continued _ => exact .inl ⟨rfl, rfl⟩
    | cancelled _ _ => exact .inr (.inl rfl)
    | expired _ _ => exact .inr (.inr ⟨_, rfl⟩)

/-- Whatever else happens at the bridge, and whatever the run is answered, a run that is committed
to a command after a toast has made the request of that toast, the first response to it that the
listener read while it was pending was to continue, and the run did nothing in between: it called
no method of the page and asked for nothing else. -/
theorem approval_gate {bridgeConfig : BridgeConfig} {history : List Bridge.Event}
    {moment : Bridge.Moment} {message : String} {i j : Nat}
    (hhistory : Steps Bridge.Happens (.start bridgeConfig) history moment)
    (hevents : Steps Scene.Goes (.start moment config commands) events t)
    (htoast : commands[i]? = some (.showToast message)) (hlt : i < j)
    (hcommitted : Committed config commands j (exchangesOf events)) :
    ∃ earlier toast during later,
      events = earlier ++ .paused toast ::
        (during ++ .resumed toast (.ok Bridge.continued) :: later) ∧
      StandsAt config commands i (exchangesOf earlier) ∧ toast.message = message ∧
      Bridge.firstResponse toast.id (bridgeEvents during) = some .continue ∧
      ∀ event ∈ during, ∃ e, event = .around e := by
  -- The run can come to an end from where it is, so it is the beginning of a whole run.
  obtain ⟨more, report, hmore⟩ := exists_comesTo t.program
  obtain ⟨before, answer, after, hexchanges, hstands, hgo⟩ :=
    exists_toast_answer (comesTo_of_steps hevents hmore) htoast hlt hcommitted
  obtain ⟨past, toast, later, rfl, rfl, hmessage⟩ := exists_resumed hevents hexchanges
  obtain ⟨r, hpast, hrest⟩ := steps_append_iff.mp hevents
  obtain ⟨_, hresumed, -⟩ := steps_cons_iff.mp hrest
  obtain ⟨earlier, during, rfl, hothers, houtcome⟩ :=
    exists_paused_of_resumed hhistory hpast rfl hresumed
  have hexchangesOf : exchangesOf (earlier ++ .paused toast :: during) = exchangesOf earlier := by
    rw [exchangesOf_append, exchangesOf_cons, exchangesOf_eq_nil_of_around hothers]
    exact List.append_nil _
  rw [hexchangesOf] at hstands
  rcases houtcome with ⟨hfirst, rfl⟩ | rfl | ⟨timeout, rfl⟩
  · exact ⟨earlier, toast, during, later, by simp, hstands, hmessage, hfirst, hothers⟩
  -- A toast that is cancelled or expires ends the run.
  · cases hgo
  · cases hgo

/-- A toast that a run shows. -/
def readyToast : ToastRequest :=
  ⟨"1", "Ready?", .standard⟩

/-- A run shows a toast, the operator goes on, and the run goes on. -/
def readyEvents : List Scene.Event :=
  [.asked (.enter .running), .answered ⟨.enter .running, ()⟩, .asked .claimInstall,
    .answered ⟨.claimInstall, false⟩, .paused readyToast,
    .around (.heard (.message (.request readyToast))),
    .around (.posted (.response ⟨"1", .continue⟩)),
    .around (.heard (.message (.response ⟨"1", .continue⟩))),
    .resumed readyToast (.ok Bridge.continued)]

/-- The bridge while the run waits. -/
def readyMoment (log : List BridgeMessage) (cursor : Nat) (pending : List String)
    (answers : List (String × ToastAction)) : Bridge.Moment where
  bridge := { Bridge.new .standard with
    channel := { (Bridge.new .standard).channel with log := log }
    cursor := cursor
    pending := pending
    answers := answers
    waiting := [⟨"1", 0⟩] }
  now := 0
  used := ["1"]

/-- The run while it waits for its toast. -/
def readyScene (next : Except BridgeError String → Program RunReport) (moment : Bridge.Moment) :
    Scene :=
  ⟨moment, .ask (.toast "Ready?" .standard) next, some (.toast readyToast)⟩

/-- A run asks for something that is no toast, and is answered. -/
private theorem Scene.steps_answered {moment : Bridge.Moment} {e : Effect}
    {next : e.Answer → Program RunReport} {answer : e.Answer} (he : e.isToast = false) :
    Steps Goes ⟨moment, .ask e next, none⟩ [.asked e, .answered ⟨e, answer⟩]
      ⟨moment, next answer, none⟩ :=
  .cons (.asked he) (.cons (.answered he) (.nil _))

/-- A response to the toast is posted and heard, and the request is settled. -/
private theorem steps_readyMoment :
    Steps Bridge.Happens (readyMoment [.request readyToast] 0 ["1"] [])
      [.heard (.message (.request readyToast)), .posted (.response ⟨"1", .continue⟩),
        .heard (.message (.response ⟨"1", .continue⟩))]
      (readyMoment [.request readyToast, .response ⟨"1", .continue⟩] 2 []
        [("1", .continue)]) := by
  -- Two messages are no more than any channel keeps, so none of them is lost.
  have hcapacity := Channel.capacity_ofCapacity_pos (α := BridgeMessage)
    BridgeConfig.standard.channelCapacity.toNat
  have hheard : Bridge.Happens (readyMoment [.request readyToast] 0 ["1"] [])
      (.heard (.message (.request readyToast))) (readyMoment [.request readyToast] 1 ["1"] []) :=
    .heard (Channel.receive?_of_gone_le (Nat.le_of_eq (Nat.sub_eq_zero_of_le hcapacity)) rfl)
  have hposted : Bridge.Happens (readyMoment [.request readyToast] 1 ["1"] [])
      (.posted (.response ⟨"1", .continue⟩))
      (readyMoment [.request readyToast, .response ⟨"1", .continue⟩] 1 ["1"] []) :=
    .posted _ _
  have hsettled : Bridge.Happens
      (readyMoment [.request readyToast, .response ⟨"1", .continue⟩] 1 ["1"] [])
      (.heard (.message (.response ⟨"1", .continue⟩)))
      (readyMoment [.request readyToast, .response ⟨"1", .continue⟩] 2 [] [("1", .continue)]) :=
    .heard (Channel.receive?_of_gone_le (Nat.sub_le_sub_left hcapacity 2) rfl)
  exact .cons hheard (.cons hposted (.cons hsettled (.nil _)))

/-- What happens at the bridge while the run waits happens around it. -/
private theorem steps_readyScene {next : Except BridgeError String → Program RunReport}
    {moment moment' : Bridge.Moment} {events : List Bridge.Event}
    (h : Steps Bridge.Happens moment events moment') (hown : ∀ e ∈ events, ¬ e.Ends "1") :
    Steps Scene.Goes (readyScene next moment) (events.map .around) (readyScene next moment') := by
  induction h with
  | nil => exact .nil _
  | cons h _ ih =>
    obtain ⟨he, hown⟩ := List.forall_mem_cons.mp hown
    refine .cons (.around (fun toast htoast => ?_) h) (ih hown)
    obtain rfl : readyToast = toast := by injection htoast with htoast; injection htoast
    exact he

/-- A scene can go through these events, with a wait that is longer than no time. -/
private theorem exists_steps_readyEvents :
    ∃ t, Steps Scene.Goes (.start (.start .standard) .standard [.showToast "Ready?", .break])
      readyEvents t := by
  obtain ⟨next, hbegun⟩ : ∃ next, Steps Scene.Goes
      (.start (.start .standard) .standard [.showToast "Ready?", .break]) (readyEvents.take 4)
      ⟨.start .standard, .ask (.toast "Ready?" .standard) next, none⟩ :=
    ⟨_, (Scene.steps_answered rfl).append (Scene.steps_answered rfl)⟩
  have hrequested : Bridge.Happens (.start .standard) (.requested readyToast)
      (readyMoment [.request readyToast] 0 ["1"] []) :=
    .requested List.not_mem_nil
  have hpaused : Scene.Goes ⟨.start .standard, .ask (.toast "Ready?" .standard) next, none⟩
      (.paused readyToast) (readyScene next (readyMoment [.request readyToast] 0 ["1"] [])) :=
    .paused hrequested
  have hsettled : Steps Scene.Goes
      (readyScene next (readyMoment [.request readyToast] 0 ["1"] [])) _
      (readyScene next
        (readyMoment [.request readyToast, .response ⟨"1", .continue⟩] 2 [] [("1", .continue)])) :=
    steps_readyScene steps_readyMoment (by simp [Bridge.Event.Ends])
  -- The response lets the request complete, and with it the command.
  have hcompleted := @Bridge.Happens.completed
    (readyMoment [.request readyToast, .response ⟨"1", .continue⟩] 2 [] [("1", .continue)]) ⟨"1", 0⟩
    (.ok Bridge.continued) List.mem_cons_self rfl
  have hresumed := @Scene.Goes.resumed _ _ readyToast next _ hcompleted
  exact ⟨_, hbegun.append (.cons hpaused (hsettled.append (.cons hresumed (.nil _))))⟩

/-- The run has come to the command after its toast. -/
theorem standsAt_readyEvents :
    StandsAt .standard [.showToast "Ready?", .break] 1 (exchangesOf readyEvents) := by
  have htoast : ComesTo (Step.execute .standard (.showToast "Ready?")).run
      [⟨.toast "Ready?" .standard, .ok Bridge.continued⟩]
      (toastOutcome (.ok Bridge.continued)) := by
    rw [execute_showToast]
    exact .ask (.done _)
  exact ⟨[⟨.claimInstall, false⟩], .ok (), [⟨.toast "Ready?" .standard, .ok Bridge.continued⟩], _,
    rfl, .ask (.done _), .cons htoast rfl .nil⟩

/-- The gate opens when the operator goes on. -/
theorem approval_gate_ready :
    ∃ earlier toast during later,
      readyEvents = earlier ++ .paused toast ::
        (during ++ .resumed toast (.ok Bridge.continued) :: later) ∧
      StandsAt .standard [.showToast "Ready?", .break] 0 (exchangesOf earlier) ∧
      toast.message = "Ready?" ∧
      Bridge.firstResponse toast.id (bridgeEvents during) = some .continue ∧
      ∀ event ∈ during, ∃ e, event = .around e := by
  obtain ⟨t, hsteps⟩ := exists_steps_readyEvents
  have hcommitted := standsAt_readyEvents.committed (by decide) []
  rw [List.append_nil] at hcommitted
  exact approval_gate (.nil _) hsteps rfl (by decide) hcommitted

end Interpreter

end PageScript
