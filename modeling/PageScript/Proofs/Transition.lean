import Mathlib.Data.List.Basic
import Mathlib.Data.List.Induction

/-!
# Transition systems

A system takes one step after another, and each step is seen as an event. What is seen of a number
of steps is the list of their events.

* `Steps.append` and `steps_append_iff` — steps follow one another;
* `Steps.mono`, `Steps.and_events` and `Steps.project` — steps of one system as steps of another;
* `Steps.invariant` and `Steps.forall_events` — what every step preserves, and what every step shows;
* `Steps.flow_eq` and `Steps.append_eq` — what comes in goes out in the same order, or stays;
* `Steps.clock_eq` — how long steps last;
* `Steps.since_iff` — what holds since an event and ends with another;
* `Inevitable.of_rank` — what a system comes to, whichever steps it takes.
-/

namespace PageScript

/-- The steps of a system from one state to another, with the events that are seen. -/
inductive Steps {σ ε : Type} (step : σ → ε → σ → Prop) : σ → List ε → σ → Prop
  | nil (s : σ) : Steps step s [] s
  | cons {s t u : σ} {e : ε} {events : List ε} (h : step s e t) (hrest : Steps step t events u) :
      Steps step s (e :: events) u

variable {σ ε : Type} {step : σ → ε → σ → Prop} {s t u : σ} {first second events : List ε}

/-- No events lead to the same state only. -/
theorem steps_nil_iff : Steps step s [] t ↔ t = s := by
  constructor
  · intro h
    cases h
    rfl
  · rintro rfl
    exact .nil t

/-- Events lead on by the first one and then by the others. -/
theorem steps_cons_iff {e : ε} :
    Steps step s (e :: events) u ↔ ∃ t, step s e t ∧ Steps step t events u := by
  constructor
  · intro h
    cases h with
    | cons h hrest => exact ⟨_, h, hrest⟩
  · rintro ⟨t, h, hrest⟩
    exact .cons h hrest

/-- A single event is a single step. -/
theorem steps_singleton_iff {e : ε} : Steps step s [e] t ↔ step s e t := by
  rw [steps_cons_iff]
  constructor
  · rintro ⟨r, h, hnil⟩
    rwa [steps_nil_iff.mp hnil]
  · intro h
    exact ⟨t, h, .nil t⟩

/-- Runs are put together. -/
theorem Steps.append (h : Steps step s first t) (hrest : Steps step t second u) :
    Steps step s (first ++ second) u := by
  induction h with
  | nil => exact hrest
  | cons hstep _ ih => exact .cons hstep (ih hrest)

/-- Steps that are seen as two lists, one after the other, pass through a state between them. -/
theorem steps_append_iff :
    Steps step s (first ++ second) u ↔ ∃ t, Steps step s first t ∧ Steps step t second u := by
  constructor
  · intro h
    induction first generalizing s with
    | nil => exact ⟨s, .nil s, h⟩
    | cons e first ih =>
      obtain ⟨r, hstep, hrest⟩ := steps_cons_iff.mp h
      obtain ⟨t, hfirst, hsecond⟩ := ih hrest
      exact ⟨t, .cons hstep hfirst, hsecond⟩
  · rintro ⟨t, hfirst, hsecond⟩
    exact hfirst.append hsecond

/-- A run of steps that are other steps too is a run of those. -/
theorem Steps.mono {step' : σ → ε → σ → Prop} (hstep : ∀ s e t, step s e t → step' s e t)
    (h : Steps step s events t) : Steps step' s events t := by
  induction h with
  | nil s => exact .nil s
  | cons h _ ih => exact .cons (hstep _ _ _ h) ih

/-- If all events have a property, the steps are those of events that have it. -/
theorem Steps.and_events {Q : ε → Prop} (h : Steps step s events t) (hQ : ∀ e ∈ events, Q e) :
    Steps (fun s e t => step s e t ∧ Q e) s events t := by
  induction h with
  | nil s => exact .nil s
  | cons h _ ih =>
    obtain ⟨he, hrest⟩ := List.forall_mem_cons.mp hQ
    exact .cons ⟨h, he⟩ (ih hrest)

/-- The steps of a system are those of another one, of which an event shows any number. -/
theorem Steps.project {σ' ε' : Type} {step' : σ' → ε' → σ' → Prop} {part : σ → σ'}
    {shows : ε → List ε'} (hstep : ∀ s e t, step s e t → Steps step' (part s) (shows e) (part t))
    (h : Steps step s events t) : Steps step' (part s) (events.flatMap shows) (part t) := by
  induction h with
  | nil s => exact .nil (part s)
  | cons h _ ih => exact (hstep _ _ _ h).append ih

/-- What every step preserves holds after any number of steps. -/
theorem Steps.invariant {P : σ → Prop} (hstep : ∀ s e t, P s → step s e t → P t)
    (h : Steps step s events t) (hs : P s) : P t := by
  induction h with
  | nil => exact hs
  | cons h _ ih => exact ih (hstep _ _ _ hs h)

/-- What every step shows holds of all events. -/
theorem Steps.forall_events {P : σ → Prop} {Q : ε → Prop} (hP : ∀ s e t, P s → step s e t → P t)
    (hQ : ∀ s e t, P s → step s e t → Q e) (h : Steps step s events t) (hs : P s) :
    ∀ e ∈ events, Q e := by
  induction h with
  | nil => simp
  | cons hstep _ ih =>
    exact List.forall_mem_cons.mpr ⟨hQ _ _ _ hs hstep, ih (hP _ _ _ hs hstep)⟩

/-- If what is held before a step, followed by what comes in, is what goes out, followed by what is
held after it, then so it is for any number of steps. -/
theorem Steps.flow_eq {α : Type} {P : σ → Prop} (held : σ → List α) {ins outs : ε → List α}
    (hP : ∀ s e t, P s → step s e t → P t)
    (hstep : ∀ s e t, P s → step s e t → held s ++ ins e = outs e ++ held t)
    (h : Steps step s events t) (hs : P s) :
    held s ++ events.flatMap ins = events.flatMap outs ++ held t := by
  induction h with
  | nil => simp
  | @cons s r t e events h _ ih =>
    calc held s ++ (e :: events).flatMap ins
      _ = (held s ++ ins e) ++ events.flatMap ins := by simp
      _ = outs e ++ (held r ++ events.flatMap ins) := by rw [hstep s e r hs h, List.append_assoc]
      _ = outs e ++ (events.flatMap outs ++ held t) := by rw [ih (hP s e r hs h)]
      _ = (e :: events).flatMap outs ++ held t := by simp

/-- What each step adds to a list is added to it one after another. -/
theorem Steps.append_eq {α : Type} (list : σ → List α) {adds : ε → List α}
    (hstep : ∀ s e t, step s e t → list t = list s ++ adds e) (h : Steps step s events t) :
    list t = list s ++ events.flatMap adds := by
  induction h with
  | nil => simp
  | cons h _ ih => rw [ih, hstep _ _ _ h, List.append_assoc, List.flatMap_cons]

/-- How long events last, one after another. -/
def duration (lasts : ε → Nat) : List ε → Nat
  | [] => 0
  | e :: events => lasts e + duration lasts events

/-- Steps last as long as all their events. -/
theorem Steps.clock_eq {clock : σ → Nat} {lasts : ε → Nat}
    (hstep : ∀ s e t, step s e t → clock t = clock s + lasts e) (h : Steps step s events t) :
    clock t = clock s + duration lasts events := by
  induction h with
  | nil => rfl
  | cons h _ ih => rw [ih, hstep _ _ _ h, duration, Nat.add_assoc]

/-- What happens at most once does not happen at any other time. -/
theorem forall_not_of_once {P : ε → Prop} {before after : List ε} {e : ε}
    (honce : ∀ before e after, events = before ++ e :: after → P e → ∀ d ∈ after, ¬ P d)
    (heq : events = before ++ e :: after) (he : P e) : ∀ d ∈ before ++ after, ¬ P d := by
  intro d hd
  rcases List.mem_append.mp hd with hd | hd
  · intro hP
    obtain ⟨first, second, rfl⟩ := List.append_of_mem hd
    exact honce first d (second ++ e :: after) (by simp [heq]) hP e (by simp) he
  · exact honce before e after heq he d hd

/-- Among the events there is one that begins something, and none after it that ends it. -/
def Since (begins ends : ε → Prop) (events : List ε) : Prop :=
  ∃ earlier e during, events = earlier ++ e :: during ∧ begins e ∧ ∀ e ∈ during, ¬ ends e

/-- Nothing has begun where nothing has happened. -/
theorem not_since_nil {begins ends : ε → Prop} : ¬ Since begins ends [] := by
  rintro ⟨earlier, e, during, h, -, -⟩
  simp at h

/-- After one more event, what has begun has begun with it or has not ended with it. -/
theorem since_append_singleton_iff {begins ends : ε → Prop} {e : ε} :
    Since begins ends (events ++ [e]) ↔ begins e ∨ (Since begins ends events ∧ ¬ ends e) := by
  constructor
  · rintro ⟨earlier, e', during, h, hbegins, hends⟩
    -- The event that begins it is the last one, or the last one is after it.
    rcases List.eq_nil_or_concat' during with rfl | ⟨during, last, rfl⟩
    · obtain ⟨-, rfl⟩ := List.append_singleton_inj.mp h
      exact .inl hbegins
    · rw [← List.cons_append, ← List.append_assoc] at h
      obtain ⟨rfl, rfl⟩ := List.append_singleton_inj.mp h
      exact .inr ⟨⟨earlier, e', during, rfl, hbegins,
        fun d hd => hends d (List.mem_append_left _ hd)⟩, hends e (by simp)⟩
  · rintro (hbegins | ⟨⟨earlier, e', during, rfl, hbegins, hends⟩, he⟩)
    · exact ⟨events, e, [], rfl, hbegins, by simp⟩
    · refine ⟨earlier, e', during ++ [e], by simp, hbegins, fun d hd => ?_⟩
      rcases List.mem_append.mp hd with hd | hd
      · exact hends d hd
      · rwa [List.mem_singleton.mp hd]

/-- A condition that some events bring about and others end holds just if it has been brought about
and has not been ended since. -/
theorem Steps.since_iff {P W : σ → Prop} {begins ends : ε → Prop}
    (hP : ∀ s e t, P s → step s e t → P t)
    (hW : ∀ s e t, P s → step s e t → (W t ↔ begins e ∨ (W s ∧ ¬ ends e)))
    (h : Steps step s events t) (hs : P s) (hnot : ¬ W s) : W t ↔ Since begins ends events := by
  induction events using List.reverseRecOn generalizing t with
  | nil =>
    rw [steps_nil_iff.mp h]
    exact iff_of_false hnot not_since_nil
  | append_singleton events e ih =>
    obtain ⟨r, hevents, he⟩ := steps_append_iff.mp h
    rw [steps_singleton_iff] at he
    rw [hW r e t (hevents.invariant hP hs) he, ih hevents, since_append_singleton_iff]

/-- Whichever steps the system takes, it goes on until it comes to a state of some kind, and it
comes to one. -/
inductive Inevitable (step : σ → ε → σ → Prop) (goal : σ → Prop) : σ → Prop
  | here {s : σ} (h : goal s) : Inevitable step goal s
  | next {s : σ} (hgoes : ∃ e t, step s e t) (h : ∀ e t, step s e t → Inevitable step goal t) :
      Inevitable step goal s

/-- What has a rank that falls with every step comes to its goal. -/
theorem Inevitable.of_rank {P : Nat → σ → Prop} {goal : σ → Prop} {n : Nat}
    (hP : ∀ n s, P n s → goal s ∨
      ((∃ e t, step s e t) ∧ ∀ e t, step s e t → ∃ m < n, P m t))
    (hs : P n s) : Inevitable step goal s := by
  induction n using Nat.strongRecOn generalizing s with
  | ind n ih =>
    rcases hP n s hs with hgoal | ⟨hgoes, hfalls⟩
    · exact .here hgoal
    · refine .next hgoes fun e t ht => ?_
      obtain ⟨m, hm, hPt⟩ := hfalls e t ht
      exact ih m hm hPt

/-- What comes to one goal comes to any goal that it implies. -/
theorem Inevitable.imp {goal goal' : σ → Prop} (h : Inevitable step goal s)
    (hgoal : ∀ s, goal s → goal' s) : Inevitable step goal' s := by
  induction h with
  | here h => exact .here (hgoal _ h)
  | next hgoes _ ih => exact .next hgoes ih

end PageScript
