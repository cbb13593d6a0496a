import Mathlib.Data.List.DropRight
import Mathlib.Data.List.Induction
import Mathlib.Data.List.ReduceOption
import PageScript.Observer

/-!
# What an observer keeps

An observer keeps a bounded number of events and forgets the oldest. What it shows is nevertheless
read off the operations it has been through: an unbounded log holds every significant event that
came while the observer collected, since the log was emptied last, and the observer shows the end
of that log.

Each part of the state answers to the operations alone. Whether an observer collects and whom it
calls is what the last operation on that part has set, and the log is looked at event by event, each
in view of the operations before it.

* `Observer.keep_rtake` — dropping the oldest event keeps the end of a log;
* `Observer.IsAfter.apply` — an operation takes what is read off the operations before it to what is
  read off those and itself;
* `Observer.refines_unbounded_log` — what an observer shows, whom it has called, and when it was
  active last.
-/

namespace PageScript.Observer

/-- What is done with an observer. An event is ingested at a time. -/
inductive Operation where
  | start
  | stop
  | pause
  | resume
  | clear
  | ingest (now : Nat) (e : Event)
  | register (callback : String)
  | unregister

variable {config : ObserverConfig} {created : Nat} {o : Observer} {before ops : List Operation}
  {op : Operation}

/-! ### Operations carried out -/

/-- The observer after an operation. -/
def apply (o : Observer) : Operation → Observer
  | .start => o.start
  | .stop => o.stop
  | .pause => o.pause
  | .resume => o.resume
  | .clear => o.clear
  | .ingest now e => (o.ingest now e).1
  | .register callback => o.register callback
  | .unregister => o.unregister

/-- Who is called by an operation, and with which event. -/
def call? (o : Observer) : Operation → Option (String × Event)
  | .ingest now e => (o.ingest now e).2.map fun callback => (callback, e)
  | _ => none

/-- The observer after some operations, one after another. -/
def applyAll (o : Observer) (ops : List Operation) : Observer :=
  ops.foldl apply o

/-- The calls of some operations, one after another. -/
def calls (o : Observer) : List Operation → List (Option (String × Event))
  | [] => []
  | op :: rest => o.call? op :: (o.apply op).calls rest

/-- The observer after one more operation. -/
theorem applyAll_append_singleton :
    o.applyAll (ops ++ [op]) = (o.applyAll ops).apply op := by
  rw [applyAll, List.foldl_concat, applyAll]

/-- The calls after one more operation. -/
theorem calls_append_singleton :
    o.calls (ops ++ [op]) = o.calls ops ++ [(o.applyAll ops).call? op] := by
  induction ops generalizing o with
  | nil => rfl
  | cons first rest ih => exact congrArg (o.call? first :: ·) ih

/-! ### Operations looked back on -/

/-- What an operation sets collecting to. -/
def Operation.gate? : Operation → Option Bool
  | .start | .resume => some true
  | .stop | .pause => some false
  | _ => none

/-- What an operation sets the callback to. -/
def Operation.registration? : Operation → Option (Option String)
  | .register callback => some (some callback)
  | .unregister => some none
  | _ => none

/-- When the page was active, if the operation says that it was. -/
def Operation.activity? : Operation → Option Nat
  | .ingest now e => if e.isSignificant then some now else none
  | _ => none

/-- The operation empties the log. -/
def Operation.empties : Operation → Bool
  | .start | .clear => true
  | _ => false

/-- The event that an operation adds to the log: a significant one, if events are collected. -/
def Operation.adds? (collecting : Bool) : Operation → Option Event
  | .ingest _ e => if e.isSignificant && collecting then some e else none
  | _ => none

/-- The last of the values that operations set something to, or the value it had at first. -/
def lastSet {β : Type} (sets : Operation → Option β) (first : β) (ops : List Operation) : β :=
  (ops.reverse.findSome? sets).getD first

/-- Events are collected: collecting was begun or resumed, and has not been ended since. -/
def isCollecting : List Operation → Bool :=
  lastSet Operation.gate? false

/-- The callback that is registered. -/
def registered? : List Operation → Option String :=
  lastSet Operation.registration? none

/-- When the page was active last, or the observer was made. -/
def latestActivity (created : Nat) : List Operation → Nat :=
  lastSet Operation.activity? created

/-- The event that an operation adds to the log after the operations before it. -/
def added? (before : List Operation) (op : Operation) : Option Event :=
  op.adds? (isCollecting before)

/-- The call that is due to an operation: one for an event that is added to the log, to the callback
that is registered after the operations before it. -/
def due? (before : List Operation) (op : Operation) : Option (String × Event) :=
  (registered? before).bind fun callback => (added? before op).map fun e => (callback, e)

/-- What is to be said of each operation in view of all operations before it. -/
def inView {β : Type} (view : List Operation → Operation → β) (before : List Operation) :
    List Operation → List β
  | [] => []
  | op :: rest => view before op :: inView view (before ++ [op]) rest

/-- The events added to the log since it was emptied last, the oldest first. -/
def log (ops : List Operation) : List Event :=
  (inView added? (ops.rdropWhile (!·.empties)) (ops.rtakeWhile (!·.empties))).reduceOption

/-- What was set last, after one more operation. -/
theorem lastSet_append_singleton {β : Type} (sets : Operation → Option β) (first : β) :
    lastSet sets first (ops ++ [op]) = (sets op).getD (lastSet sets first ops) := by
  rw [lastSet, List.reverse_concat, List.findSome?_cons, lastSet]
  cases sets op <;> rfl

/-- What is seen, after one more operation. -/
theorem inView_append_singleton {β : Type} (view : List Operation → Operation → β) :
    inView view before (ops ++ [op]) = inView view before ops ++ [view (before ++ ops) op] := by
  induction ops generalizing before with
  | nil => simp [inView]
  | cons first rest ih => simp [inView, ih]

/-- An operation that empties the log leaves nothing in it. -/
theorem log_append_of_empties (h : op.empties = true) : log (ops ++ [op]) = [] := by
  rw [log, List.rtakeWhile_concat_neg _ _ _ (by simp [h])]
  rfl

/-- Any other operation adds its event, if it has one. -/
theorem log_append_of_not_empties (h : op.empties = false) :
    log (ops ++ [op]) = log ops ++ (added? ops op).toList := by
  rw [log, List.rdropWhile_concat_pos _ _ _ (by simp [h]),
    List.rtakeWhile_concat_pos _ _ _ (by simp [h]), inView_append_singleton,
    List.rdropWhile_append_rtakeWhile, List.reduceOption_append, log]
  cases added? ops op <;> rfl

/-- The log holds events that came. -/
theorem exists_ingest_of_mem_log {e : Event} (h : e ∈ log ops) : ∃ now, .ingest now e ∈ ops := by
  induction ops using List.reverseRecOn with
  | nil => cases h
  | append_singleton ops op ih =>
    have hbefore : e ∈ log ops → ∃ now, .ingest now e ∈ ops ++ [op] := fun h =>
      (ih h).imp fun now hnow => List.mem_append_left _ hnow
    -- An event is in the log from the operation on that has added it, until the log is emptied.
    cases hempties : op.empties with
    | true =>
      rw [log_append_of_empties hempties] at h
      cases h
    | false =>
      rw [log_append_of_not_empties hempties] at h
      rcases List.mem_append.mp h with h | h
      · exact hbefore h
      · cases op with
        | ingest now e' =>
          have hadds : (if e'.isSignificant && isCollecting ops then some e' else none) = some e :=
            Option.mem_toList.mp h
          split_ifs at hadds
          cases hadds
          exact ⟨now, List.mem_append_right _ (.head _)⟩
        | _ => cases h

/-- Events that come after collecting has been ended leave the log as it is. -/
theorem log_append_stop_append {others : List Operation}
    (h : ∀ op ∈ others, ∃ now e, op = .ingest now e) : log (ops ++ .stop :: others) = log ops := by
  -- The log stays as it is because collecting stays turned off.
  have hothers : isCollecting (ops ++ .stop :: others) = false ∧
      log (ops ++ .stop :: others) = log ops := by
    induction others using List.reverseRecOn with
    | nil =>
      rw [log_append_of_not_empties rfl, isCollecting, lastSet_append_singleton]
      exact ⟨rfl, List.append_nil _⟩
    | append_singleton others op ih =>
      obtain ⟨hbefore, hop⟩ := List.forall_mem_append.mp h
      obtain ⟨now, e, rfl⟩ := hop op (.head _)
      obtain ⟨hcollecting, hlog⟩ := ih hbefore
      rw [← List.cons_append, ← List.append_assoc]
      constructor
      · rw [isCollecting, lastSet_append_singleton]
        exact hcollecting
      · rw [log_append_of_not_empties rfl, hlog, added?, hcollecting, Operation.adds?,
          Bool.and_false]
        exact List.append_nil _
  exact hothers.2

/-! ### One operation -/

/-- Passing an event on changes nothing but the changes of the document. -/
theorem passOn_eq (o : Observer) (e : Event) :
    o.passOn e = { o with changes := (o.passOn e).changes } := by
  rw [passOn]
  split <;> rfl

/-- What an observer makes of an event goes by whether the event is significant and whether events
are collected. -/
theorem ingest_eq (o : Observer) (now : Nat) (e : Event) :
    o.ingest now e =
      if e.isSignificant then
        if o.collecting then
          ({ o.passOn e with lastActivity := now, buffer := keep o.capacity o.buffer e }, o.callback)
        else ({ o.passOn e with lastActivity := now }, none)
      else (o.passOn e, none) := by
  rw [ingest, passOn_eq]
  cases e.isSignificant <;> cases o.collecting <;> rfl

/-- No operation changes the settings. -/
theorem config_apply (o : Observer) (op : Operation) : (o.apply op).config = o.config := by
  cases op with
  | ingest now e =>
    rw [apply, ingest_eq, passOn_eq]
    split_ifs <;> rfl
  | _ => rfl

/-- Collecting is turned on and off by its own operations alone. -/
theorem collecting_apply (o : Observer) (op : Operation) :
    (o.apply op).collecting = op.gate?.getD o.collecting := by
  cases op with
  | ingest now e =>
    rw [apply, ingest_eq, passOn_eq]
    split_ifs <;> rfl
  | _ => rfl

/-- The callback is changed by its own operations alone. -/
theorem callback_apply (o : Observer) (op : Operation) :
    (o.apply op).callback = op.registration?.getD o.callback := by
  cases op with
  | ingest now e =>
    rw [apply, ingest_eq, passOn_eq]
    split_ifs <;> rfl
  | _ => rfl

/-- The last activity is that of the operation, if it is one. -/
theorem lastActivity_apply (o : Observer) (op : Operation) :
    (o.apply op).lastActivity = op.activity?.getD o.lastActivity := by
  cases op with
  | ingest now e =>
    rw [apply, ingest_eq, passOn_eq, Operation.activity?]
    split_ifs <;> rfl
  | _ => rfl

/-- The buffer is emptied, or has an event added to it and is cut down, or is left. -/
theorem buffer_apply (o : Observer) (op : Operation) :
    (o.apply op).buffer =
      if op.empties then [] else (op.adds? o.collecting).elim o.buffer (keep o.capacity o.buffer) := by
  cases op with
  | ingest now e =>
    rw [apply, ingest_eq, passOn_eq, Operation.adds?]
    cases e.isSignificant <;> cases o.collecting <;> rfl
  | _ => rfl

/-- The callback is called just if it is there and an event is added. -/
theorem call?_eq (o : Observer) (op : Operation) :
    o.call? op =
      o.callback.bind fun callback => (op.adds? o.collecting).map fun e => (callback, e) := by
  cases op with
  | ingest now e =>
    rw [call?, ingest_eq, Operation.adds?]
    cases e.isSignificant <;> cases o.collecting <;> cases o.callback <;> rfl
  | _ => cases o.callback <;> rfl

/-! ### All operations -/

/-- Taking the end of a log, adding an event and taking the end again comes to the same as adding
the event to the log. -/
theorem keep_rtake {capacity : Nat} (h : 0 < capacity) (events : List Event) (e : Event) :
    keep capacity (events.rtake capacity) e = (events ++ [e]).rtake capacity := by
  obtain ⟨n, rfl⟩ := Nat.exists_eq_succ_of_ne_zero (Nat.ne_of_gt h)
  have hkeep : ∀ buffer, keep n.succ buffer e = (buffer ++ [e]).rtake n.succ := by
    intro buffer
    rw [keep, List.rtake, List.length_append, List.length_singleton]
  have hshorter : (events.rtake n.succ).rtake n = events.rtake n := by
    simp only [List.rtake_eq_reverse_take_reverse, List.reverse_reverse, List.take_take]
    rw [Nat.min_eq_left (Nat.le_succ n)]
  rw [hkeep, List.rtake_concat_succ, List.rtake_concat_succ, hshorter]

/-- The state of an observer is what is read off the operations it has been through. -/
structure IsAfter (config : ObserverConfig) (created : Nat) (ops : List Operation) (o : Observer) :
    Prop where
  config_eq : o.config = config
  collecting_eq : o.collecting = isCollecting ops
  callback_eq : o.callback = registered? ops
  lastActivity_eq : o.lastActivity = latestActivity created ops
  buffer_eq : o.buffer = (log ops).rtake (max 1 config.bufferCapacity.toNat)

/-- A new observer comes after no operations. -/
theorem isAfter_new (config : ObserverConfig) (created : Nat) :
    IsAfter config created [] (new config created) :=
  ⟨rfl, rfl, rfl, rfl, (List.rtake_nil _).symm⟩

/-- An operation takes what is read off the operations before it to what is read off those and
itself. -/
theorem IsAfter.apply (h : IsAfter config created ops o) (op : Operation) :
    IsAfter config created (ops ++ [op]) (o.apply op) where
  config_eq := (config_apply o op).trans h.config_eq
  collecting_eq := by
    rw [collecting_apply, h.collecting_eq, isCollecting, lastSet_append_singleton]
  callback_eq := by
    rw [callback_apply, h.callback_eq, registered?, lastSet_append_singleton]
  lastActivity_eq := by
    rw [lastActivity_apply, h.lastActivity_eq, latestActivity, lastSet_append_singleton]
  buffer_eq := by
    have hcapacity : o.capacity = max 1 config.bufferCapacity.toNat := by
      rw [capacity, h.config_eq]
    rw [buffer_apply, h.collecting_eq, h.buffer_eq, hcapacity]
    -- The buffer is cut down to the capacity of the settings, and those have not changed.
    cases hempties : op.empties with
    | true => rw [log_append_of_empties hempties, List.rtake_nil, if_pos rfl]
    | false =>
      rw [log_append_of_not_empties hempties, if_neg Bool.false_ne_true, added?]
      cases op.adds? (isCollecting ops) with
      | none => rw [Option.toList_none, List.append_nil, Option.elim_none]
      | some e => exact keep_rtake (Nat.le_max_left 1 _) (log ops) e

/-- Whether listeners are installed is not looked at. -/
theorem IsAfter.of_installed (h : IsAfter config created ops o) (installed : Bool) :
    IsAfter config created ops { o with installed := installed } :=
  ⟨h.config_eq, h.collecting_eq, h.callback_eq, h.lastActivity_eq, h.buffer_eq⟩

/-- The call that an observer makes is the one that is due. -/
theorem IsAfter.call?_eq_due? (h : IsAfter config created ops o) (op : Operation) :
    o.call? op = due? ops op := by
  rw [call?_eq, h.callback_eq, h.collecting_eq, due?, added?]

/-- An observer comes after the operations it has seen. -/
theorem isAfter_applyAll (config : ObserverConfig) (created : Nat) (ops : List Operation) :
    IsAfter config created ops ((new config created).applyAll ops) := by
  induction ops using List.reverseRecOn with
  | nil => exact isAfter_new config created
  | append_singleton ops op ih =>
    rw [applyAll_append_singleton]
    exact ih.apply op

/-- Whatever is done with a new observer, it shows the end of the unbounded log, as much of it as it
may keep and at least one event. Operation by operation, it has called whoever was registered at
that time with the event that was added to the log, and nobody else. And it has been active last at
the time of the last significant event, or at the time it was made if there was none. -/
theorem refines_unbounded_log (config : ObserverConfig) (created : Nat) (ops : List Operation) :
    ((new config created).applyAll ops).request =
        (log ops).rtake (max 1 config.bufferCapacity.toNat) ∧
      (new config created).calls ops = inView due? [] ops ∧
      ((new config created).applyAll ops).lastActivity = latestActivity created ops := by
  refine ⟨(isAfter_applyAll config created ops).buffer_eq, ?_,
    (isAfter_applyAll config created ops).lastActivity_eq⟩
  induction ops using List.reverseRecOn with
  | nil => rfl
  | append_singleton ops op ih =>
    rw [calls_append_singleton, inView_append_singleton, ih,
      (isAfter_applyAll config created ops).call?_eq_due?, List.nil_append]

end PageScript.Observer
