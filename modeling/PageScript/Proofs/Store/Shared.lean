import PageScript.Proofs.Store.Memory
import PageScript.Store.Shared

/-!
# A shared store is used by one call after another

A call reads the whole file and writes the whole file, so what other calls write in between would be
lost. The lock prevents that: in whatever order calls take their steps, they are answered, and leave
the file, as if each had begun after the one before it had released the lock.

* `StoreTask.advances_of_work?` — a step of a call brings it nearer to the answer that it has ahead
  of it all the time;
* `SharedStore.Serializes.of_step?`, `SharedStore.Serializes.of_run?` — what a step and a run keep;
* `SharedStore.Serializes.exists_run_isDone` — the calls can always be brought to their ends;
* `StoreCall.carries_answerAll` — what calls one after another leave in a file of values;
* `SharedStore.run_eq_answerAll` — both together: no value is lost that was stored.
-/

namespace PageScript

open Json

/-! ### Calls one after another -/

namespace StoreCall

variable {content : FileContent} {c : StoreCall} {key : String} {value : Json}

/-- A call that is refused nothing finds what the store finds. -/
theorem answer_of_get (hrequest : c.request = .get key) (hfault : c.fault = none) :
    c.answer content =
      match (Store.file content).get key with
      | .ok value => (.found value, content)
      | .error e => (.failed e, content) := by
  rw [answer, read, hfault, hrequest, Store.get, Store.entries]
  cases Store.readFile content <;> rfl

/-- A call that is refused nothing stores what the store stores. -/
theorem answer_of_set (hrequest : c.request = .set key value) (hfault : c.fault = none) :
    c.answer content =
      match (Store.file content).set key value with
      | .ok (.file content) => (.stored, content)
      | .ok (.memory _) => (.stored, content)
      | .error e => (.failed e, content) := by
  simp only [answer, read, prepare, write, hfault, hrequest, Store.set]
  cases Store.readFile content with
  | error e => rfl
  | ok entries =>
    dsimp only [bind, Except.bind]
    cases Store.writeFile (insertField key value entries) content <;> rfl

/-- Calls are answered one after another, and then one more. -/
theorem answerAll_concat (calls : List StoreCall) (c : StoreCall) (content : FileContent) :
    answerAll content (calls ++ [c]) =
      ((answerAll content calls).1 ++ [(c.answer (answerAll content calls).2).1],
        (c.answer (answerAll content calls).2).2) := by
  induction calls generalizing content with
  | nil => rfl
  | cons first rest ih => simp only [List.cons_append, answerAll, ih]

end StoreCall

/-! ### One call -/

/-- The call has taken the lock and not released it. -/
def StoreStage.isUnderWay : StoreStage → Bool
  | .waiting => false
  | .done _ => false
  | _ => true

/-- The number of steps that a call has ahead of it, at most. -/
def StoreStage.stepsAhead : StoreStage → Nat
  | .waiting => 5
  | .holding => 4
  | .loaded _ => 3
  | .prepared _ => 2
  | .answered _ => 1
  | .done _ => 0

/-- Where a call at a place stands among those that have released the lock and the one that holds
it. -/
def StoreStage.Stands (finished : List Nat) (holder : Option Nat) (place : Nat) : StoreStage → Prop
  | .waiting => place ∉ finished ∧ holder ≠ some place
  | .done _ => place ∈ finished
  | _ => holder = some place

namespace StoreTask

/-- What a call answers when nobody else takes a step any more, and the file after it. -/
def finish (content : FileContent) (t : StoreTask) : StoreAnswer × FileContent :=
  match t.stage with
  | .waiting => t.call.answer content
  | .holding => t.call.answer content
  | .loaded entries =>
    match t.call.prepare with
    | .error e => (.failed e, content)
    | .ok () => t.call.write entries content
  | .prepared entries => t.call.write entries content
  | .answered answer => (answer, content)
  | .done answer => (answer, content)

variable {content content' : FileContent} {t : StoreTask} {stage : StoreStage}

/-- What a step of a call that holds the lock does to the call: it ends as it would have, and is
one step nearer to its end. -/
structure Advances (content content' : FileContent) (t : StoreTask) (stage : StoreStage) :
    Prop where
  finish_eq : finish content' { t with stage := stage } = t.finish content
  isUnderWay : t.stage.isUnderWay = true
  isUnderWay' : stage.isUnderWay = true
  stepsAhead_lt : stage.stepsAhead < t.stage.stepsAhead

/-- The work of a call brings it on by a step. -/
theorem advances_of_work? (h : t.work? content = some (stage, content')) :
    Advances content content' t stage := by
  obtain ⟨call, before⟩ := t
  cases before with
  | holding =>
    simp only [work?] at h
    cases hread : call.read content with
    | error e =>
      rw [hread] at h
      obtain ⟨rfl, rfl⟩ := Prod.mk.inj (Option.some.inj h)
      exact ⟨by simp [finish, StoreCall.answer, hread], rfl, rfl, by simp [StoreStage.stepsAhead]⟩
    | ok entries =>
      cases hrequest : call.request with
      | get key =>
        rw [hread, hrequest] at h
        obtain ⟨rfl, rfl⟩ := Prod.mk.inj (Option.some.inj h)
        exact ⟨by simp [finish, StoreCall.answer, hread, hrequest], rfl, rfl,
          by simp [StoreStage.stepsAhead]⟩
      | set key value =>
        rw [hread, hrequest] at h
        obtain ⟨rfl, rfl⟩ := Prod.mk.inj (Option.some.inj h)
        refine ⟨?_, rfl, rfl, by simp [StoreStage.stepsAhead]⟩
        cases hprepare : call.prepare with
        | error e => simp [finish, StoreCall.answer, hread, hrequest, hprepare]
        | ok _ => simp [finish, StoreCall.answer, hread, hrequest, hprepare]
  | loaded entries =>
    simp only [work?] at h
    cases hprepare : call.prepare with
    | error e =>
      rw [hprepare] at h
      obtain ⟨rfl, rfl⟩ := Prod.mk.inj (Option.some.inj h)
      exact ⟨by simp [finish, hprepare], rfl, rfl, by simp [StoreStage.stepsAhead]⟩
    | ok =>
      rw [hprepare] at h
      obtain ⟨rfl, rfl⟩ := Prod.mk.inj (Option.some.inj h)
      exact ⟨by simp [finish, hprepare], rfl, rfl, by simp [StoreStage.stepsAhead]⟩
  | prepared entries =>
    obtain ⟨rfl, rfl⟩ := Prod.mk.inj (Option.some.inj h)
    exact ⟨rfl, rfl, rfl, by simp [StoreStage.stepsAhead]⟩
  | _ => cases h

end StoreTask

/-! ### One step -/

namespace SharedStore

variable {s s' : SharedStore} {place : Nat} {t : StoreTask} {stage : StoreStage}

/-- A call takes the lock, releases it, or takes a step in between. -/
theorem step?_cases (h : s.step? place = some s') :
    ∃ t, s.tasks[place]? = some t ∧
      ((t.stage = .waiting ∧ s.holder = none ∧
          s' = { s.moveTo place t .holding with
            holder := some place, taken := s.taken ++ [place] }) ∨
        (∃ answer, t.stage = .answered answer ∧
          s' = { s.moveTo place t (.done answer) with holder := none }) ∨
        ∃ stage content, t.work? s.content = some (stage, content) ∧
          s' = { s.moveTo place t stage with content := content }) := by
  rw [step?] at h
  cases ht : s.tasks[place]? with
  | none =>
    rw [ht] at h
    cases h
  | some t =>
    rw [ht] at h
    refine ⟨t, rfl, ?_⟩
    dsimp only at h
    split at h
    · next hstage =>
      split_ifs at h with hholder
      exact .inl ⟨hstage, by simpa using hholder, (Option.some.inj h).symm⟩
    · next answer hstage => exact .inr (.inl ⟨answer, hstage, (Option.some.inj h).symm⟩)
    · cases h
    · obtain ⟨⟨stage, content⟩, hwork, rfl⟩ := Option.map_eq_some_iff.mp h
      exact .inr (.inr ⟨stage, content, hwork, rfl⟩)

/-- Only the call that takes a step comes to another stage. -/
theorem getElem?_moveTo (ht : s.tasks[place]? = some t) (other : Nat) :
    (s.moveTo place t stage).tasks[other]? =
      if other = place then some { t with stage := stage } else s.tasks[other]? := by
  obtain ⟨hlt, -⟩ := List.getElem?_eq_some_iff.mp ht
  rw [moveTo, List.getElem?_set]
  by_cases h : place = other
  · subst h
    simp [hlt]
  · simp [h, Ne.symm h]

/-- A step of a call leaves the calls what they are. -/
theorem map_call_moveTo (ht : s.tasks[place]? = some t) :
    (s.moveTo place t stage).tasks.map StoreTask.call = s.tasks.map StoreTask.call := by
  apply List.ext_getElem?
  intro other
  rw [List.getElem?_map, List.getElem?_map, getElem?_moveTo ht]
  split_ifs with h
  · rw [h, ht]
    rfl
  · rfl

/-- A call that is not touched has its answer. -/
private theorem answer?_congr {other : Nat} (h : s'.tasks[other]? = s.tasks[other]?) :
    s'.answer? other = s.answer? other := by
  rw [answer?, answer?, h]

/-! ### What a run keeps -/

/-- The calls at some places. -/
def callsAt (calls : List StoreCall) (places : List Nat) : List StoreCall :=
  places.filterMap (calls[·]?)

/-- The calls that have released the lock were answered as if they had run one after another, and
the call that holds the lock will be as if it had run after them. -/
structure Serializes (start : FileContent) (calls : List StoreCall) (s : SharedStore)
    (finished : List Nat) : Prop where
  calls_eq : s.tasks.map StoreTask.call = calls
  taken_eq : s.taken = finished ++ s.holder.toList
  nodup : s.taken.Nodup
  stands : ∀ {place : Nat} {t : StoreTask}, s.tasks[place]? = some t →
    t.stage.Stands finished s.holder place
  answers_eq : finished.map s.answer? =
    (StoreCall.answerAll start (callsAt calls finished)).1.map some
  content_eq : s.holder = none →
    s.content = (StoreCall.answerAll start (callsAt calls finished)).2
  finish_eq : ∀ {place}, s.holder = some place → ∃ t, s.tasks[place]? = some t ∧
    t.stage.isUnderWay = true ∧ t.finish s.content =
      t.call.answer (StoreCall.answerAll start (callsAt calls finished)).2

/-- At the start no call has finished. -/
theorem serializes_new (start : FileContent) (calls : List StoreCall) :
    Serializes start calls (new start calls) [] where
  calls_eq := by
    rw [new, List.map_map]
    exact List.map_id calls
  taken_eq := rfl
  nodup := List.nodup_nil
  stands := by
    intro place t ht
    obtain ⟨c, -, rfl⟩ := List.mem_map.mp (List.mem_of_getElem? ht)
    exact ⟨List.not_mem_nil, by simp [new]⟩
  answers_eq := rfl
  content_eq _ := rfl
  finish_eq h := by cases h

namespace Serializes

variable {start : FileContent} {calls : List StoreCall} {finished : List Nat}
  (h : Serializes start calls s finished)
include h

/-- The call of a task is the one at its place. -/
theorem call_eq (ht : s.tasks[place]? = some t) : calls[place]? = some t.call := by
  rw [← h.calls_eq, List.getElem?_map, ht]
  rfl

/-- A call that is under way holds the lock. -/
theorem holder_eq (ht : s.tasks[place]? = some t) (hstage : t.stage.isUnderWay = true) :
    s.holder = some place := by
  have hstands := h.stands ht
  cases ht : t.stage with
  | waiting => rw [ht] at hstage; cases hstage
  | done answer => rw [ht] at hstage; cases hstage
  | _ => rw [ht] at hstands; exact hstands

/-- The call that holds the lock is none of those that have released it. -/
theorem notMem_finished (hholder : s.holder = some place) : place ∉ finished := by
  have hnodup := h.nodup
  rw [h.taken_eq, hholder] at hnodup
  intro hmem
  -- It would have taken the lock twice.
  exact List.disjoint_of_nodup_append hnodup hmem (by simp)

omit h in
/-- The answers of the others stay as they are. -/
theorem answers_moveTo (ht : s.tasks[place]? = some t) (hplace : place ∉ finished) :
    finished.map (s.moveTo place t stage).answer? = finished.map s.answer? := by
  refine List.map_congr_left fun other hother => answer?_congr ?_
  rw [getElem?_moveTo ht, if_neg]
  rintro rfl
  exact hplace hother

/-- A call that takes the lock will be as if it had run after the finished ones. -/
theorem take (ht : s.tasks[place]? = some t) (hstage : t.stage = .waiting)
    (hholder : s.holder = none) :
    Serializes start calls { s.moveTo place t .holding with
      holder := some place, taken := s.taken ++ [place] } finished where
  calls_eq := (map_call_moveTo ht).trans h.calls_eq
  taken_eq := by
    have := h.taken_eq
    rw [hholder, Option.toList_none, List.append_nil] at this
    simp [this]
  nodup := by
    have hstands := h.stands ht
    rw [hstage] at hstands
    have hplace : place ∉ s.taken := by
      rw [h.taken_eq, hholder]
      simpa using hstands.1
    exact List.nodup_append.mpr ⟨h.nodup, List.nodup_singleton _, by
      rintro a ha b hb rfl
      exact hplace (List.mem_singleton.mp hb ▸ ha)⟩
  stands := by
    intro other t' ht'
    rw [getElem?_moveTo ht] at ht'
    split_ifs at ht' with hother
    · obtain rfl := Option.some.inj ht'
      exact congrArg some hother.symm
    -- Nobody else was under way, since the lock was free.
    · have hstands := h.stands ht'
      cases hstage' : t'.stage with
      | waiting =>
        rw [hstage'] at hstands
        exact ⟨hstands.1, by simpa using Ne.symm hother⟩
      | done answer =>
        rw [hstage'] at hstands
        exact hstands
      | _ =>
        rw [hstage', hholder] at hstands
        cases hstands
  answers_eq := by
    have hstands := h.stands ht
    rw [hstage] at hstands
    exact (answers_moveTo ht hstands.1).trans h.answers_eq
  content_eq := by simp
  finish_eq := by
    intro other hother
    obtain rfl : place = other := Option.some.inj hother
    refine ⟨{ t with stage := .holding }, ?_, rfl, ?_⟩
    · exact (getElem?_moveTo ht place).trans (if_pos rfl)
    · rw [← h.content_eq hholder]
      rfl

/-- A call that releases the lock has finished. -/
theorem release (ht : s.tasks[place]? = some t) {answer : StoreAnswer}
    (hstage : t.stage = .answered answer) :
    Serializes start calls { s.moveTo place t (.done answer) with holder := none }
      (finished ++ [place]) := by
  have hholder : s.holder = some place := h.holder_eq ht (by rw [hstage]; rfl)
  have hcalls : callsAt calls (finished ++ [place]) = callsAt calls finished ++ [t.call] := by
    rw [callsAt, List.filterMap_append]
    simp [h.call_eq ht, callsAt]
  -- The call that held the lock is the next one in the order.
  have hfinish : (answer, s.content) =
      t.call.answer (StoreCall.answerAll start (callsAt calls finished)).2 := by
    obtain ⟨t', ht', -, hfinish⟩ := h.finish_eq hholder
    obtain rfl : t = t' := Option.some.inj (ht.symm.trans ht')
    rw [← hfinish, StoreTask.finish, hstage]
  have hserial := StoreCall.answerAll_concat (callsAt calls finished) t.call start
  rw [← hfinish, ← hcalls] at hserial
  exact {
    calls_eq := (map_call_moveTo ht).trans h.calls_eq
    taken_eq := by
      have := h.taken_eq
      rw [hholder] at this
      simpa [moveTo] using this
    nodup := h.nodup
    stands := by
      intro other t' ht'
      rw [getElem?_moveTo ht] at ht'
      split_ifs at ht' with hother
      · obtain rfl := Option.some.inj ht'
        exact List.mem_append_right _ (by simp [hother])
      · have hstands := h.stands ht'
        cases hstage' : t'.stage with
        | waiting =>
          rw [hstage'] at hstands
          exact ⟨by simpa [hother] using hstands.1, by simp⟩
        | done answer =>
          rw [hstage'] at hstands
          exact List.mem_append_left _ hstands
        | _ =>
          rw [hstage', hholder] at hstands
          exact absurd (Option.some.inj hstands).symm hother
    answers_eq := by
      rw [hserial, List.map_append, List.map_append, ← h.answers_eq]
      congr 1
      · exact answers_moveTo ht (h.notMem_finished hholder)
      · have hplace : (s.moveTo place t (.done answer)).answer? place = some answer := by
          rw [answer?, getElem?_moveTo ht, if_pos rfl]
          rfl
        exact congrArg (fun found => [found]) hplace
    content_eq := fun _ => by rw [hserial]; rfl
    finish_eq := by simp }

/-- A call that works under the lock does what it would do alone. -/
theorem work (ht : s.tasks[place]? = some t) {content : FileContent}
    (hwork : t.work? s.content = some (stage, content)) :
    Serializes start calls { s.moveTo place t stage with content := content } finished := by
  obtain ⟨hfinish, hunderWay, hstage, -⟩ := StoreTask.advances_of_work? hwork
  have hholder : s.holder = some place := h.holder_eq ht hunderWay
  -- The call that works has the lock, so nothing that the others have or wait for is touched.
  exact {
    calls_eq := (map_call_moveTo ht).trans h.calls_eq
    taken_eq := h.taken_eq
    nodup := h.nodup
    stands := by
      intro other t' ht'
      rw [getElem?_moveTo ht] at ht'
      split_ifs at ht' with hother
      · obtain rfl := Option.some.inj ht'
        subst hother
        cases stage with
        | waiting => cases hstage
        | done answer => cases hstage
        | _ => exact hholder
      · exact h.stands ht'
    answers_eq := (answers_moveTo ht (h.notMem_finished hholder)).trans h.answers_eq
    content_eq := by simp [moveTo, hholder]
    finish_eq := by
      intro other hother
      obtain rfl : place = other := Option.some.inj (hholder.symm.trans hother)
      refine ⟨{ t with stage := stage }, (getElem?_moveTo ht place).trans (if_pos rfl), hstage, ?_⟩
      obtain ⟨t', ht', -, hserial⟩ := h.finish_eq hholder
      obtain rfl : t = t' := Option.some.inj (ht.symm.trans ht')
      exact hfinish.trans hserial }

/-- What a step keeps. -/
theorem of_step? (hstep : s.step? place = some s') :
    ∃ finished, Serializes start calls s' finished := by
  obtain ⟨t, ht, ⟨hstage, hholder, rfl⟩ | ⟨answer, hstage, rfl⟩ | ⟨stage, content, hwork, rfl⟩⟩ :=
    step?_cases hstep
  · exact ⟨finished, h.take ht hstage hholder⟩
  · exact ⟨finished ++ [place], h.release ht hstage⟩
  · exact ⟨finished, h.work ht hwork⟩

/-- What a run keeps. -/
theorem of_run? {schedule : List Nat} (hrun : s.run? schedule = some s') :
    ∃ finished, Serializes start calls s' finished := by
  induction schedule generalizing s finished with
  | nil =>
    obtain rfl := Option.some.inj hrun
    exact ⟨finished, h⟩
  | cons place rest ih =>
    obtain ⟨next, hstep, hrest⟩ := Option.bind_eq_some_iff.mp hrun
    obtain ⟨finished', h'⟩ := h.of_step? hstep
    exact ih h' hrest

/-- When all calls are done, all have had the lock and none has it. -/
theorem of_isDone (hdone : s.isDone = true) :
    s.holder = none ∧ s.taken = finished ∧ s.taken.Perm (List.range calls.length) := by
  have hstage : ∀ {place : Nat} {t : StoreTask}, s.tasks[place]? = some t →
      ∃ answer, t.stage = .done answer := by
    intro place t ht
    have := List.all_eq_true.mp hdone t (List.mem_of_getElem? ht)
    split at this
    · next answer hstage => exact ⟨answer, hstage⟩
    · cases this
  have hholder : s.holder = none := by
    -- A call with the lock is under way, and not done.
    rw [Option.eq_none_iff_forall_ne_some]
    intro place hplace
    obtain ⟨t, ht, hunderWay, -⟩ := h.finish_eq hplace
    obtain ⟨answer, hanswer⟩ := hstage ht
    rw [hanswer] at hunderWay
    cases hunderWay
  have htaken : s.taken = finished := by
    rw [h.taken_eq, hholder, Option.toList_none, List.append_nil]
  refine ⟨hholder, htaken, (List.perm_ext_iff_of_nodup h.nodup List.nodup_range).mpr ?_⟩
  have hlength : s.tasks.length = calls.length := by rw [← h.calls_eq, List.length_map]
  intro place
  rw [List.mem_range, ← hlength, htaken]
  constructor
  · intro hmem
    -- A call that was answered is one of the calls.
    have hanswer : s.answer? place ∈
        (StoreCall.answerAll start (callsAt calls finished)).1.map some := by
      rw [← h.answers_eq]
      exact List.mem_map_of_mem hmem
    obtain ⟨answer, -, hanswer⟩ := List.mem_map.mp hanswer
    by_contra hlt
    rw [answer?, List.getElem?_eq_none (Nat.le_of_not_lt hlt)] at hanswer
    cases hanswer
  · intro hlt
    have ht := List.getElem?_eq_getElem hlt
    obtain ⟨answer, hanswer⟩ := hstage ht
    have hstands := h.stands ht
    rwa [hanswer] at hstands

end Serializes

/-! ### Calls come to their ends -/

/-- The number of steps that calls have ahead of them, at most. -/
def stepsOf (tasks : List StoreTask) : Nat :=
  tasks.foldr (fun t steps => t.stage.stepsAhead + steps) 0

/-- The number of steps that all calls have ahead of them, at most. -/
def stepsAhead (s : SharedStore) : Nat :=
  stepsOf s.tasks

/-- A task that has fewer steps ahead makes them fewer in all. -/
private theorem stepsOf_set_lt {tasks : List StoreTask} {t' : StoreTask}
    (ht : tasks[place]? = some t)
    (hlt : t'.stage.stepsAhead < t.stage.stepsAhead) :
    stepsOf (tasks.set place t') < stepsOf tasks := by
  induction tasks generalizing place with
  | nil => cases ht
  | cons first rest ih =>
    cases place with
    | zero =>
      obtain rfl := Option.some.inj ht
      exact Nat.add_lt_add_right hlt _
    | succ place => exact Nat.add_lt_add_left (ih ht) _

/-- A call that goes on makes the steps ahead fewer. -/
theorem stepsAhead_moveTo_lt (ht : s.tasks[place]? = some t)
    (hlt : stage.stepsAhead < t.stage.stepsAhead) :
    (s.moveTo place t stage).stepsAhead < s.stepsAhead :=
  stepsOf_set_lt ht hlt

/-- Every step brings the calls nearer to their ends. -/
theorem stepsAhead_lt_of_step? (h : s.step? place = some s') : s'.stepsAhead < s.stepsAhead := by
  obtain ⟨t, ht, ⟨hstage, -, rfl⟩ | ⟨answer, hstage, rfl⟩ | ⟨stage, content, hwork, rfl⟩⟩ :=
    step?_cases h
  · exact stepsAhead_moveTo_lt ht (by simp [StoreStage.stepsAhead, hstage])
  · exact stepsAhead_moveTo_lt ht (by simp [StoreStage.stepsAhead, hstage])
  · exact stepsAhead_moveTo_lt ht (StoreTask.advances_of_work? hwork).stepsAhead_lt

/-- A call that waits can take the lock when nobody has it. -/
theorem exists_step?_of_waiting (ht : s.tasks[place]? = some t) (hstage : t.stage = .waiting)
    (hholder : s.holder = none) : ∃ s', s.step? place = some s' := by
  rw [step?, ht]
  simp [hstage, hholder]

/-- A call that is under way can go on. -/
theorem exists_step?_of_isUnderWay (ht : s.tasks[place]? = some t)
    (hstage : t.stage.isUnderWay = true) : ∃ s', s.step? place = some s' := by
  have hsome : (s.step? place).isSome = true := by
    obtain ⟨call, stage⟩ := t
    rw [step?, ht]
    cases stage with
    | waiting => cases hstage
    | done answer => cases hstage
    | answered answer => rfl
    | holding =>
      simp only [Option.isSome_map, StoreTask.work?]
      split <;> rfl
    | loaded entries =>
      simp only [Option.isSome_map, StoreTask.work?]
      split <;> rfl
    | prepared entries => rfl
  exact Option.isSome_iff_exists.mp hsome

/-- As long as a call is not done, one of them can take a step. -/
theorem Serializes.exists_step? {start : FileContent} {calls : List StoreCall}
    {finished : List Nat} (h : Serializes start calls s finished) (hdone : s.isDone = false) :
    ∃ place s', s.step? place = some s' := by
  cases hholder : s.holder with
  | some place =>
    obtain ⟨t, ht, hunderWay, -⟩ := h.finish_eq hholder
    exact ⟨place, exists_step?_of_isUnderWay ht hunderWay⟩
  | none =>
    obtain ⟨t, hmem, hnotDone⟩ := List.all_eq_false.mp hdone
    obtain ⟨place, ht⟩ := List.getElem?_of_mem hmem
    refine ⟨place, ?_⟩
    -- A call that is not done and has not the lock waits for it.
    cases hstage : t.stage with
    | waiting => exact exists_step?_of_waiting ht hstage hholder
    | done answer => simp [hstage] at hnotDone
    | _ => exact exists_step?_of_isUnderWay ht (by rw [hstage]; rfl)

/-- Whatever has happened, the calls can be brought to their ends. -/
theorem Serializes.exists_run_isDone {start : FileContent} {calls : List StoreCall} (n : Nat) :
    ∀ {s : SharedStore} {finished : List Nat}, Serializes start calls s finished →
      s.stepsAhead = n → ∃ schedule s', s.run? schedule = some s' ∧ s'.isDone = true := by
  induction n using Nat.strongRecOn with
  | _ n ih =>
    rintro s finished h rfl
    cases hdone : s.isDone with
    | true => exact ⟨[], s, rfl, hdone⟩
    | false =>
      obtain ⟨place, next, hstep⟩ := h.exists_step? hdone
      obtain ⟨finished', h'⟩ := h.of_step? hstep
      obtain ⟨schedule, s', hrun, hdone'⟩ := ih _ (stepsAhead_lt_of_step? hstep) h' rfl
      exact ⟨place :: schedule, s', by rw [run?, hstep]; exact hrun, hdone'⟩

end SharedStore

/-! ### Calls on a file of values -/

namespace StoreCall

/-- The call stores what a file carries as it is, and a write that it is refused leaves the file as
it was. -/
structure IsSafe (c : StoreCall) : Prop where
  isStorable : ∀ {key value}, c.request = .set key value → value.IsStorable
  left_eq : ∀ {e left}, c.fault = some (.write e left) → left = none

/-- What a call that is refused nothing puts under a key. -/
def put? (key : String) (c : StoreCall) : Option Json :=
  match c.request, c.fault with
  | .set key' value, none => if key' = key then some value else none
  | _, _ => none

variable {content : FileContent} {entries : Entries} {c : StoreCall}

/-- A call leaves the file as it was, unless it stores a value and is refused nothing. -/
theorem content_answer_of_get (content : FileContent) {key : String}
    (hrequest : c.request = .get key) : (c.answer content).2 = content := by
  rw [answer, hrequest]
  cases c.read content <;> rfl

/-- A call that goes wrong leaves the content, whatever goes wrong. -/
private theorem content_answer_of_fault (content : FileContent) (hc : c.IsSafe) {fault : StoreFault}
    (hfault : c.fault = some fault) (h : ∃ entries, Store.Holds content entries) :
    (c.answer content).2 = content := by
  obtain ⟨entries, h⟩ := h
  cases hrequest : c.request with
  | get key => exact content_answer_of_get content hrequest
  | set key value =>
    cases fault with
    | read e => simp [answer, read, hfault]
    | prepare e => simp [answer, read, prepare, hfault, hrequest, Store.readFile_eq_ok_iff.mpr h]
    | write e left =>
      obtain rfl := hc.left_eq hfault
      simp [answer, read, prepare, write, hfault, hrequest, Store.readFile_eq_ok_iff.mpr h]

/-- One call on a file of values. -/
theorem carries_answer (h : Store.Carries content entries) (hc : c.IsSafe) :
    ∃ entries', Store.Carries (c.answer content).2 entries' ∧
      ∀ key, lookup key entries' = (c.put? key).or (lookup key entries) := by
  cases hrequest : c.request with
  | get key =>
    refine ⟨entries, (content_answer_of_get content hrequest).symm ▸ h, fun key => ?_⟩
    simp [put?, hrequest]
  | set key value =>
    -- A call that goes wrong leaves the content. One that does not writes its value.
    cases hfault : c.fault with
    | some fault =>
      refine ⟨entries, (content_answer_of_fault content hc hfault ⟨_, h.holds⟩).symm ▸ h,
        fun key => ?_⟩
      simp [put?, hrequest, hfault]
    | none =>
      refine ⟨insertField key value entries, ?_, fun key' => ?_⟩
      · rw [answer_of_set hrequest hfault, Store.set_file h.holds]
        exact h.insertField (hc.isStorable hrequest) key
      · rw [lookup_insertField, put?, hrequest, hfault]
        dsimp only
        split_ifs <;> rfl

/-- A value is stored unless the call is refused something. -/
theorem answer_eq_stored (h : Store.Carries content entries) {key : String} {value : Json}
    (hrequest : c.request = .set key value) (hfault : c.fault = none) :
    (c.answer content).1 = .stored := by
  rw [answer_of_set hrequest hfault, Store.set_file h.holds]

/-- Calls one after another on a file of values. Under each key is the last value that was put there
without being refused. -/
theorem carries_answerAll {calls : List StoreCall} (hcalls : ∀ c ∈ calls, c.IsSafe) :
    ∀ {content : FileContent} {entries : Entries}, Store.Carries content entries →
      (∃ entries', Store.Carries (answerAll content calls).2 entries' ∧
        ∀ key, lookup key entries' =
          ((calls.filterMap (put? key)).getLast?).or (lookup key entries)) ∧
      List.Forall₂ (fun c answer => ∀ key value, c.request = .set key value → c.fault = none →
        answer = .stored) calls (answerAll content calls).1 := by
  induction calls with
  | nil =>
    intro content entries h
    exact ⟨⟨entries, h, fun key => rfl⟩, .nil⟩
  | cons c rest ih =>
    intro content entries h
    obtain ⟨hc, hrest⟩ := List.forall_mem_cons.mp hcalls
    obtain ⟨entries₁, h₁, hput⟩ := carries_answer h hc
    obtain ⟨⟨entries', h', hlast⟩, hanswers⟩ := ih hrest h₁
    refine ⟨⟨entries', h', fun key => ?_⟩,
      .cons (fun key value hrequest hfault => answer_eq_stored h hrequest hfault) hanswers⟩
    rw [hlast, hput]
    -- What the first call puts is the last value if those after it put none.
    cases hfirst : c.put? key with
    | none => rw [List.filterMap_cons_none hfirst, Option.none_or]
    | some value =>
      rw [List.filterMap_cons_some hfirst, List.getLast?_cons]
      cases (rest.filterMap (put? key)).getLast? <;> rfl

end StoreCall

namespace SharedStore

variable {start : FileContent} {calls : List StoreCall} {schedule : List Nat} {s : SharedStore}

/-- What is known of the answers in the order of the lock is known of the answer of each call. -/
theorem exists_answer?_of_mem {P : StoreCall → StoreAnswer → Prop} {places : List Nat} :
    ∀ {answers : List StoreAnswer}, (∀ place ∈ places, place < calls.length) →
      places.map s.answer? = answers.map some → List.Forall₂ P (callsAt calls places) answers →
      ∀ {place c}, place ∈ places → calls[place]? = some c →
        ∃ answer, s.answer? place = some answer ∧ P c answer := by
  induction places with
  | nil => simp
  | cons first rest ih =>
    intro answers hlt hanswers hP place c hmem hc
    obtain ⟨hfirst, hrest⟩ := List.forall_mem_cons.mp hlt
    have hcalls : callsAt calls (first :: rest) = calls[first] :: callsAt calls rest := by
      simp [callsAt, hfirst]
    rw [hcalls] at hP
    -- The answers are those of the places, in the same order.
    cases hP with
    | @cons _ answer _ others hcall hothers =>
      obtain ⟨hanswer, hanswers⟩ := List.cons.inj hanswers
      rcases List.mem_cons.mp hmem with rfl | hmem
      · rw [List.getElem?_eq_getElem hfirst] at hc
        obtain rfl := Option.some.inj hc
        exact ⟨answer, hanswer, hcall⟩
      · exact ih hrest hanswers hothers hmem hc

/-- No update of a shared store is lost. Whatever steps the calls on it take in whatever order, when
all are done they were answered, and have left the file, as if they had run one after another in the
order in which they took the lock. If the file held an object without floating-point numbers, and
the calls store only what a file carries as it is, and a write that was refused did not change the
file, then all calls that store a value and were refused nothing have stored it, and the file holds
under each key the last of these values in that order, or what it held if there is none. -/
theorem run_eq_answerAll (hrun : (new start calls).run? schedule = some s)
    (hdone : s.isDone = true) :
    s.taken.Perm (List.range calls.length) ∧
      s.taken.map s.answer? =
        (StoreCall.answerAll start (callsAt calls s.taken)).1.map some ∧
      s.content = (StoreCall.answerAll start (callsAt calls s.taken)).2 ∧
      ∀ entries, Store.Holds start entries → (Json.obj entries).HasNoFloats →
        (∀ c ∈ calls, c.IsSafe) →
        (∀ place c key value, calls[place]? = some c → c.request = .set key value →
          c.fault = none → s.answer? place = some .stored) ∧
        ∃ entries', Store.Holds s.content entries' ∧ ∀ key, lookup key entries' =
          (((callsAt calls s.taken).filterMap (StoreCall.put? key)).getLast?).or
            (lookup key entries) := by
  obtain ⟨finished, h⟩ := (serializes_new start calls).of_run? hrun
  obtain ⟨hholder, rfl, hperm⟩ := h.of_isDone hdone
  refine ⟨hperm, h.answers_eq, h.content_eq hholder, fun entries hholds hfloats hcalls => ?_⟩
  -- The calls that took the lock are calls of the run, so they are safe.
  have hsafe : ∀ c ∈ callsAt calls s.taken, c.IsSafe := by
    intro c hc
    obtain ⟨place, -, hplace⟩ := List.mem_filterMap.mp hc
    exact hcalls c (List.mem_of_getElem? hplace)
  obtain ⟨⟨entries', hcarries, hlookup⟩, hanswers⟩ :=
    StoreCall.carries_answerAll hsafe (hholds.carries hfloats)
  rw [← h.content_eq hholder] at hcarries
  refine ⟨fun place c key value hplace hrequest hfault => ?_, entries', hcarries.holds, hlookup⟩
  have hmem : place ∈ s.taken :=
    hperm.mem_iff.mpr (List.mem_range.mpr (List.getElem?_eq_some_iff.mp hplace).1)
  obtain ⟨answer, hanswer, hstored⟩ := exists_answer?_of_mem
    (fun place hmem => List.mem_range.mp (hperm.mem_iff.mp hmem)) h.answers_eq hanswers hmem hplace
  rw [hanswer, hstored key value hrequest hfault]

/-- The first call that takes the lock may make no directory, so the value of the second one is the
only one in the file. -/
theorem run_eq_answerAll_refused :
    let calls : List StoreCall :=
      [⟨.set "a" (.int 1), none⟩, ⟨.set "b" (.int 2), some (.prepare (.other "Read-only"))⟩]
    ∃ s, (new .absent calls).run? [1, 1, 1, 1, 0, 0, 0, 0, 0] = some s ∧ s.isDone = true ∧
      s.answer? 0 = some .stored ∧ ∃ entries, Store.Holds s.content entries ∧
        lookup "a" entries = some (.int 1) ∧ lookup "b" entries = none := by
  intro calls
  -- The second call takes the lock first and is refused. The first one follows.
  have hrun : (new .absent calls).run? [1, 1, 1, 1, 0, 0, 0, 0, 0] =
      some ⟨.text (Store.fileText [("a", .int 1)]), none, [1, 0],
        [⟨⟨.set "a" (.int 1), none⟩, .done .stored⟩,
          ⟨⟨.set "b" (.int 2), some (.prepare (.other "Read-only"))⟩,
            .done (.failed (.io (.other "Read-only")))⟩]⟩ := rfl
  have hsafe : ∀ c ∈ calls, c.IsSafe := by
    have hvalue : ∀ n : Int, IsWord n → (Json.int n).IsStorable := by
      intro n hn
      have hportable : (Json.int n).IsPortable 0 := by simp [hn]
      exact ⟨rfl, hportable.hasWords, hportable.hasNoFloats,
        Nat.lt_of_le_of_lt hportable.depth_le (by decide)⟩
    simp only [calls, List.forall_mem_cons]
    refine ⟨⟨?_, ?_⟩, ⟨?_, ?_⟩, List.forall_mem_nil _⟩
    · rintro _ _ ⟨⟩
      exact hvalue 1 (by decide)
    · simp
    · rintro _ _ ⟨⟩
      exact hvalue 2 (by decide)
    · simp
  obtain ⟨-, -, -, hvalues⟩ := run_eq_answerAll hrun rfl
  obtain ⟨hstored, entries, hholds, hlookup⟩ :=
    hvalues [] .absent (Json.hasNoFloats_obj_iff.mpr (List.forall_mem_nil _)) hsafe
  exact ⟨_, hrun, rfl, hstored 0 _ "a" (.int 1) rfl rfl rfl, entries, hholds, hlookup "a",
    hlookup "b"⟩

/-- The reader of numbers rounds twice, so a file may hold the text of a floating-point number and
be read as holding its neighbour. -/
theorem holds_neighbour : Store.Holds
    (.text (Store.fileText [("a", .float ⟨4606512677206203187⟩)]))
    [("a", .float ⟨4606512677206203188⟩)] := by
  have htext : (Binary64.text ⟨4606512677206203187⟩).toList =
      ['0'] ++ '.' :: "9256437461998303".toList := by decide +kernel
  have hzero : IsLeading ['0'] := isLeading_toDigits (n := 0) (Nat.zero_le _)
  -- The digits are read as the neighbour, since the reader rounds twice.
  have hread : SpellsFloat ⟨4606512677206203188⟩ (Binary64.text ⟨4606512677206203187⟩).toList := by
    rw [htext]
    exact .unsigned (readsFloat_point hzero (by simp) (List.all_eq_true.mp (by decide +kernel))
      (by decide +kernel) (show _ = some ⟨4606512677206203188⟩ by decide +kernel) true)
  have hfloats : ReadsFloatsBy (fun _ => ⟨4606512677206203188⟩)
      (.obj [("a", .float ⟨4606512677206203187⟩)]) := by
    rw [readsFloatsBy_obj_iff, List.forall_mem_singleton]
    intro x hx
    obtain rfl := Json.float.inj (List.mem_singleton.mp hx)
    exact hread
  have hbounded : (Json.obj [("a", .float ⟨4606512677206203187⟩)]).IsBounded maxDepth :=
    isBounded_obj_iff.mpr (List.forall_mem_singleton.mpr (isBounded_float _))
  refine .object (Store.isBlankText_fileText _) ?_
  rw [Store.fileText, parse_pretty_eq_mapFloats hbounded hfloats]
  rfl

/-- A floating-point number that no call sets may be another one once a call has stored something
under another key. -/
theorem run_float_drift :
    let start := FileContent.text (Store.fileText [("a", .float ⟨4606512677206203187⟩)])
    ∃ s, (new start [⟨.set "b" (.int 1), none⟩]).run? [0, 0, 0, 0, 0] = some s ∧
      s.isDone = true ∧ s.answer? 0 = some .stored ∧
      s.content = .text
        (Store.fileText [("a", .float ⟨4606512677206203188⟩), ("b", .int 1)]) := by
  intro start
  have htaken : (new start [⟨.set "b" (.int 1), none⟩]).run? [0, 0, 0, 0, 0] =
      (⟨start, some 0, [0], [⟨⟨.set "b" (.int 1), none⟩, .holding⟩]⟩ : SharedStore).run?
        [0, 0, 0, 0] := rfl
  refine ⟨⟨_, none, [0], [⟨⟨.set "b" (.int 1), none⟩, .done .stored⟩]⟩, ?_, rfl, rfl, rfl⟩
  rw [htaken]
  simp only [run?, step?, StoreTask.work?, StoreCall.read, start,
    Store.readFile_eq_ok_iff.mpr holds_neighbour]
  rfl

end SharedStore

end PageScript
