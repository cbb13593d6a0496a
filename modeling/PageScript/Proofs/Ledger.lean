import Mathlib.Data.List.Nodup
import PageScript.Proofs.Transition

/-!
# Ledgers

Whoever waits for an answer is entered in a ledger under a key. The first answer to a key that is
pending is kept for it, and the key is no longer pending; later answers, and answers to keys that
are not pending, are lost. A key that is struck out can get no answer any more. If no key is
entered twice, what the ledger holds under a key depends on the changes that concern the key alone.

* `Ledger.keeps_after` — the ledger keeps the first answer since a key was entered;
* `Ledger.mem_pending_iff` — the keys that are pending;
* `Ledger.Tracks.keeps` and `Ledger.Tracks.mem_pending_iff` — the same for a system whose steps
  change a ledger.
-/

namespace PageScript

/-- A ledger of those who wait for answers. -/
structure Ledger (ι α : Type) where
  /-- The keys that may be handed an answer. -/
  pending : List ι
  /-- The answers handed over. -/
  answers : List (ι × α)

namespace Ledger

/-- A change of a ledger. -/
inductive Change (ι α : Type) where
  /-- A key is entered. -/
  | enter (id : ι)
  /-- An answer is handed to a key, if the key is pending. -/
  | settle (id : ι) (answer : α)
  /-- An answer is handed to all keys that are pending. -/
  | settleAll (answer : α)
  /-- A key is struck out. -/
  | strike (id : ι)
  /-- Nothing changes. -/
  | keep

namespace Change

variable {ι α : Type}

/-- The key that a change enters. -/
def entered? : Change ι α → Option ι
  | .enter id => some id
  | _ => none

/-- A change with which an id enters is that it enters. -/
theorem eq_enter_of_entered? {c : Change ι α} {id : ι} (h : c.entered? = some id) : c = .enter id := by
  cases c with
  | enter other => exact congrArg enter (Option.some.inj h)
  | _ => cases h

variable [DecidableEq ι]

/-- The answer that a change hands to a key, if the key is pending. -/
def answerTo (id : ι) : Change ι α → Option α
  | .settle other answer => if other = id then some answer else none
  | .settleAll answer => some answer
  | .enter _ => none
  | .strike _ => none
  | .keep => none

end Change

variable {ι α : Type} {l : Ledger ι α} {c : Change ι α}
  {changes earlier during later : List (Change ι α)} {id other : ι} {first : Option α}

/-- The keys that have been entered. -/
def entered (changes : List (Change ι α)) : List ι :=
  changes.filterMap Change.entered?

/-- An id has entered just if it is among the changes. -/
theorem mem_entered_iff : id ∈ entered changes ↔ .enter id ∈ changes := by
  rw [entered, List.mem_filterMap]
  constructor
  · rintro ⟨c, hc, hid⟩
    exact Change.eq_enter_of_entered? hid ▸ hc
  · intro h
    exact ⟨_, h, rfl⟩

/-- A key that is entered once is entered neither before nor after that. -/
theorem notMem_entered (h : (entered changes).Nodup) (heq : changes = earlier ++ .enter id :: during) :
    id ∉ entered earlier ∧ id ∉ entered during := by
  have hsplit : entered changes = entered earlier ++ id :: entered during := by
    simp [heq, entered, Change.entered?]
  rw [hsplit, List.nodup_middle, List.nodup_cons, List.mem_append, not_or] at h
  exact h.1

/-- An id is not struck out just if no event strikes it out. -/
theorem strike_notMem_map_iff {ε : Type} {change : ε → Change ι α} {events : List ε} :
    .strike id ∉ events.map change ↔ ∀ e ∈ events, change e ≠ .strike id := by
  simp

variable [DecidableEq ι]

/-- The ledger after a change. -/
def apply (l : Ledger ι α) : Change ι α → Ledger ι α
  | .enter id => { l with pending := l.pending ++ [id] }
  | .settle id answer =>
    if id ∈ l.pending then ⟨l.pending.erase id, l.answers ++ [(id, answer)]⟩ else l
  | .settleAll answer => ⟨[], l.answers ++ l.pending.map fun id => (id, answer)⟩
  | .strike id => ⟨l.pending.erase id, l.answers.filter fun entry => entry.1 ≠ id⟩
  | .keep => l

/-- What becomes of an empty ledger. -/
def after (changes : List (Change ι α)) : Ledger ι α :=
  changes.foldl apply ⟨[], []⟩

/-- The first answer to a key. -/
def firstAnswer (id : ι) (changes : List (Change ι α)) : Option α :=
  changes.findSome? (Change.answerTo id)

/-- The ledger after one more change. -/
theorem after_append_singleton : after (changes ++ [c]) = (after changes).apply c := by
  rw [after, List.foldl_append]
  rfl

/-- The first answer after one more change is the earlier one, if there is one. -/
theorem firstAnswer_append_singleton :
    firstAnswer id (changes ++ [c]) = (firstAnswer id changes).or (c.answerTo id) := by
  rw [firstAnswer, firstAnswer, List.findSome?_append, List.findSome?_cons]
  cases c.answerTo id <;> rfl

/-! ### One change -/

/-- The first answer to a key is kept, and the key is pending as long as there is none. -/
structure Keeps (l : Ledger ι α) (id : ι) (first : Option α) : Prop where
  lookup_eq : l.answers.lookup id = first
  mem_pending_iff : id ∈ l.pending ↔ first = none

/-- Nothing is kept for a key. -/
structure Omits (l : Ledger ι α) (id : ι) : Prop where
  lookup_eq : l.answers.lookup id = none
  notMem_pending : id ∉ l.pending

/-- To take one id out leaves the answers to the others. -/
theorem lookup_filter_of_ne (h : id ≠ other) (answers : List (ι × α)) :
    (answers.filter fun entry => entry.1 ≠ other).lookup id = answers.lookup id := by
  induction answers with
  | nil => rfl
  | cons entry answers ih =>
    -- An answer that is dropped is not the one that is looked up.
    by_cases hentry : entry.1 = other
    · have hid : (id == entry.1) = false := by simpa [hentry] using h
      rw [List.filter_cons_of_neg (by simpa using hentry), ih, List.lookup_cons, hid]
    · rw [List.filter_cons_of_pos (by simpa using hentry), List.lookup_cons, List.lookup_cons, ih]

/-- An id that is taken out has no answer. -/
theorem lookup_filter_self (answers : List (ι × α)) :
    (answers.filter fun entry => entry.1 ≠ id).lookup id = none := by
  rw [List.lookup_eq_none_iff]
  intro entry hentry
  have hne : entry.1 ≠ id := by simpa using (List.mem_filter.mp hentry).2
  simpa using Ne.symm hne

/-- Where all that are pending get one answer, an id gets it just if it is pending. -/
theorem lookup_map_pending (id : ι) (pending : List ι) (answer : α) :
    (pending.map fun id => (id, answer)).lookup id = if id ∈ pending then some answer else none := by
  induction pending with
  | nil => rfl
  | cons other pending ih =>
    rw [List.map_cons, List.lookup_cons, ih]
    by_cases h : id = other
    · simp [h]
    · have hne : (id == other) = false := by simpa using h
      simp [h, hne]

/-- Of the answers to a key the first one is kept. Changes of other keys do not matter. -/
theorem Keeps.apply (h : l.Keeps id first) (hnodup : l.pending.Nodup) (henter : c ≠ .enter id)
    (hstrike : c ≠ .strike id) : (l.apply c).Keeps id (first.or (c.answerTo id)) := by
  obtain ⟨hlookup, hpending⟩ := h
  cases c with
  | enter other =>
    have hne : id ≠ other := fun heq => henter (by rw [heq])
    rw [Change.answerTo, Option.or_none]
    exact ⟨hlookup, by simp [Ledger.apply, hne, hpending]⟩
  | settle other answer =>
    by_cases hother : other = id
    · subst hother
      rw [Change.answerTo, if_pos rfl]
      -- A key that is no longer pending has its first answer already.
      by_cases hmem : other ∈ l.pending
      · obtain rfl : first = none := hpending.mp hmem
        rw [Ledger.apply, if_pos hmem]
        refine ⟨?_, by simp [hnodup.not_mem_erase]⟩
        rw [List.lookup_append, hlookup]
        simp
      · obtain ⟨kept, rfl⟩ := Option.ne_none_iff_exists'.mp fun h => hmem (hpending.mpr h)
        rw [Ledger.apply, if_neg hmem]
        exact ⟨hlookup, hpending⟩
    · have hne : (id == other) = false := by simpa using Ne.symm hother
      rw [Change.answerTo, if_neg hother, Option.or_none, Ledger.apply]
      split
      · refine ⟨?_, (List.mem_erase_of_ne (Ne.symm hother)).trans hpending⟩
        rw [List.lookup_append, hlookup]
        simp [List.lookup_cons, hne]
      · exact ⟨hlookup, hpending⟩
  | settleAll answer =>
    rw [Change.answerTo, Ledger.apply]
    refine ⟨?_, by simp⟩
    rw [List.lookup_append, lookup_map_pending, hlookup]
    cases first with
    | none => rw [if_pos (hpending.mpr rfl)]
    | some kept => rfl
  | strike other =>
    have hne : id ≠ other := fun heq => hstrike (by rw [heq])
    rw [Change.answerTo, Option.or_none, Ledger.apply]
    exact ⟨(lookup_filter_of_ne hne l.answers).trans hlookup,
      (List.mem_erase_of_ne hne).trans hpending⟩
  | keep =>
    rw [Change.answerTo, Option.or_none]
    exact ⟨hlookup, hpending⟩

/-- Nothing is kept for a key before it is entered. -/
theorem Omits.apply (h : l.Omits id) (henter : c ≠ .enter id) : (l.apply c).Omits id := by
  obtain ⟨hlookup, hpending⟩ := h
  -- Every change is about another id, or about all that are pending, which this one is not.
  cases c with
  | enter other =>
    have hne : id ≠ other := fun heq => henter (by rw [heq])
    exact ⟨hlookup, by simp [Ledger.apply, hne, hpending]⟩
  | settle other answer =>
    rw [Ledger.apply]
    split
    next hmem =>
      have hne : id ≠ other := fun heq => hpending (heq ▸ hmem)
      have hbeq : (id == other) = false := by simpa using hne
      refine ⟨?_, fun hid => hpending ((List.mem_erase_of_ne hne).mp hid)⟩
      rw [List.lookup_append, hlookup]
      simp [List.lookup_cons, hbeq]
    next => exact ⟨hlookup, hpending⟩
  | settleAll answer =>
    refine ⟨?_, by simp [Ledger.apply]⟩
    rw [Ledger.apply, List.lookup_append, lookup_map_pending, hlookup, if_neg hpending]
    rfl
  | strike other =>
    refine ⟨?_, fun hid => hpending (List.mem_of_mem_erase hid)⟩
    by_cases hne : id = other
    · subst hne
      exact lookup_filter_self l.answers
    · exact (lookup_filter_of_ne hne l.answers).trans hlookup
  | keep => exact ⟨hlookup, hpending⟩

/-- A key that is entered is pending, and there is no answer to it yet. -/
theorem Omits.apply_enter (h : l.Omits id) : (l.apply (.enter id)).Keeps id none :=
  ⟨h.lookup_eq, by simp [Ledger.apply]⟩

/-- A key that is struck out is forgotten. -/
theorem omits_apply_strike (hnodup : l.pending.Nodup) : (l.apply (.strike id)).Omits id :=
  ⟨lookup_filter_self l.answers, hnodup.not_mem_erase⟩

/-- No id is pending twice if none enters that is pending. -/
theorem nodup_pending_apply (h : l.pending.Nodup) (henter : ∀ id, c = .enter id → id ∉ l.pending) :
    (l.apply c).pending.Nodup := by
  cases c with
  | enter id =>
    refine List.nodup_append.mpr ⟨h, by simp, ?_⟩
    rintro other hother _ hid rfl
    exact henter id rfl (List.mem_singleton.mp hid ▸ hother)
  | settle id answer =>
    rw [Ledger.apply]
    split
    · exact h.erase id
    · exact h
  | settleAll answer => exact List.nodup_nil
  | strike id => exact h.erase id
  | keep => exact h

/-! ### All changes -/

/-- The ledger knows nothing of an id that has not entered. -/
theorem omits_after_of_notMem_entered (h : id ∉ entered changes) : (after changes).Omits id := by
  induction changes using List.reverseRecOn with
  | nil => exact ⟨rfl, List.not_mem_nil⟩
  | append_singleton changes c ih =>
    rw [mem_entered_iff, List.mem_append, List.mem_singleton, not_or, ← mem_entered_iff] at h
    rw [after_append_singleton]
    exact (ih h.1).apply (Ne.symm h.2)

/-- No id is pending twice if none enters twice. -/
theorem nodup_pending_after (h : (entered changes).Nodup) : (after changes).pending.Nodup := by
  induction changes using List.reverseRecOn with
  | nil => exact List.nodup_nil
  | append_singleton changes c ih =>
    rw [entered, List.filterMap_append, List.nodup_append] at h
    rw [after_append_singleton]
    -- A key that is entered has not been entered before, so it is not pending.
    refine nodup_pending_apply (ih h.1) fun id hc => ?_
    subst hc
    have hid : id ∉ entered changes := fun hid => h.2.2 id hid id (by simp [Change.entered?]) rfl
    exact (omits_after_of_notMem_entered hid).notMem_pending

/-- As long as a key is not struck out, the first answer since it was entered is kept for it. -/
theorem keeps_after (h : (entered changes).Nodup) (heq : changes = earlier ++ .enter id :: during)
    (hstrike : .strike id ∉ during) : (after changes).Keeps id (firstAnswer id during) := by
  induction during using List.reverseRecOn generalizing changes with
  | nil =>
    have hid := (notMem_entered h heq).1
    rw [heq, after_append_singleton]
    exact (omits_after_of_notMem_entered hid).apply_enter
  | append_singleton during c ih =>
    have hid := (notMem_entered h heq).2
    rw [mem_entered_iff, List.mem_append, List.mem_singleton, not_or] at hid
    rw [List.mem_append, List.mem_singleton, not_or] at hstrike
    -- All changes but the last one.
    have hsplit : changes = (earlier ++ .enter id :: during) ++ [c] := by simp [heq]
    have hinit : (entered (earlier ++ .enter id :: during)).Nodup := by
      rw [hsplit, entered, List.filterMap_append, List.nodup_append] at h
      exact h.1
    rw [hsplit, after_append_singleton, firstAnswer_append_singleton]
    exact (ih hinit rfl hstrike.1).apply (nodup_pending_after hinit) (Ne.symm hid.2)
      (Ne.symm hstrike.2)

/-- A key that has been struck out and is not entered again is forgotten. -/
theorem omits_after_strike (h : (entered changes).Nodup)
    (heq : changes = earlier ++ .strike id :: later) (hlater : id ∉ entered later) :
    (after changes).Omits id := by
  -- Induction on the changes since the id was struck out. None of them lets it enter again.
  induction later using List.reverseRecOn generalizing changes with
  | nil =>
    have hinit : (entered earlier).Nodup := by
      rw [heq, entered, List.filterMap_append, List.nodup_append] at h
      exact h.1
    rw [heq, after_append_singleton]
    exact omits_apply_strike (nodup_pending_after hinit)
  | append_singleton later c ih =>
    rw [mem_entered_iff, List.mem_append, List.mem_singleton, not_or, ← mem_entered_iff] at hlater
    have hsplit : changes = (earlier ++ .strike id :: later) ++ [c] := by simp [heq]
    have hinit : (entered (earlier ++ .strike id :: later)).Nodup := by
      rw [hsplit, entered, List.filterMap_append, List.nodup_append] at h
      exact h.1
    rw [hsplit, after_append_singleton]
    exact (ih hinit rfl hlater.1).apply (Ne.symm hlater.2)

/-- A key that is pending has not been struck out since it was entered. -/
theorem strike_notMem_of_mem_pending (h : (entered changes).Nodup)
    (heq : changes = earlier ++ .enter id :: during) (hmem : id ∈ (after changes).pending) :
    .strike id ∉ during := by
  intro hstrike
  obtain ⟨since, later, rfl⟩ := List.append_of_mem hstrike
  have hlater : id ∉ entered later := by
    have hid := (notMem_entered h heq).2
    rw [mem_entered_iff] at hid ⊢
    simp only [List.mem_append, List.mem_cons, not_or] at hid
    exact hid.2.2
  have heq' : changes = (earlier ++ .enter id :: since) ++ .strike id :: later := by simp [heq]
  exact (omits_after_strike h heq' hlater).notMem_pending hmem

/-- The keys that are pending are those that have been entered and have neither been struck out nor
been answered since. -/
theorem mem_pending_iff (h : (entered changes).Nodup) :
    id ∈ (after changes).pending ↔
      ∃ earlier during, changes = earlier ++ .enter id :: during ∧ .strike id ∉ during ∧
        firstAnswer id during = none := by
  constructor
  · intro hmem
    have hentered : id ∈ entered changes := Decidable.byContradiction fun hid =>
      (omits_after_of_notMem_entered hid).notMem_pending hmem
    obtain ⟨earlier, during, heq⟩ := List.append_of_mem (mem_entered_iff.mp hentered)
    have hstrike := strike_notMem_of_mem_pending h heq hmem
    exact ⟨earlier, during, heq, hstrike, (keeps_after h heq hstrike).mem_pending_iff.mp hmem⟩
  · rintro ⟨earlier, during, heq, hstrike, hfirst⟩
    exact (keeps_after h heq hstrike).mem_pending_iff.mpr hfirst

/-! ### Systems with a ledger -/

section Steps

variable {σ ε : Type} {step : σ → ε → σ → Prop} {start s : σ} {ledger : σ → Ledger ι α}
  {change : ε → Change ι α} {e : ε} {events before since : List ε}

/-- A system begins with an empty ledger, and each step changes it as the event says. -/
structure Tracks (step : σ → ε → σ → Prop) (start : σ) (ledger : σ → Ledger ι α)
    (change : ε → Change ι α) : Prop where
  start_eq : ledger start = ⟨[], []⟩
  step_eq : ∀ s e t, step s e t → ledger t = (ledger s).apply (change e)

/-- What becomes of the ledger of a system is what its events make of an empty one. -/
theorem Tracks.eq_after (htracks : Tracks step start ledger change) (h : Steps step start events s) :
    ledger s = after (events.map change) := by
  induction events using List.reverseRecOn generalizing s with
  | nil =>
    rw [steps_nil_iff.mp h, htracks.start_eq]
    rfl
  | append_singleton events e ih =>
    obtain ⟨u, hevents, he⟩ := steps_append_iff.mp h
    rw [htracks.step_eq u e s (steps_singleton_iff.mp he), ih hevents, List.map_append]
    exact after_append_singleton.symm

/-- As long as a key is not struck out, a system keeps the first answer to it since it was entered. -/
theorem Tracks.keeps (htracks : Tracks step start ledger change)
    (hnodup : (entered (events.map change)).Nodup) (h : Steps step start events s)
    (heq : events = before ++ e :: since) (he : change e = .enter id)
    (hstrike : ∀ e ∈ since, change e ≠ .strike id) :
    (ledger s).Keeps id (since.findSome? fun e => (change e).answerTo id) := by
  have hmap : events.map change = before.map change ++ .enter id :: since.map change := by
    rw [heq, List.map_append, List.map_cons, he]
  have hkeeps := keeps_after hnodup hmap (strike_notMem_map_iff.mpr hstrike)
  rwa [firstAnswer, List.findSome?_map, ← htracks.eq_after h] at hkeeps

/-- A key that is pending in a system has not been struck out since it was entered. -/
theorem Tracks.ne_strike (htracks : Tracks step start ledger change)
    (hnodup : (entered (events.map change)).Nodup) (h : Steps step start events s)
    (heq : events = before ++ e :: since) (he : change e = .enter id)
    (hmem : id ∈ (ledger s).pending) : ∀ e ∈ since, change e ≠ .strike id := by
  have hmap : events.map change = before.map change ++ .enter id :: since.map change := by
    rw [heq, List.map_append, List.map_cons, he]
  rw [htracks.eq_after h] at hmem
  exact strike_notMem_map_iff.mp (strike_notMem_of_mem_pending hnodup hmap hmem)

/-- The keys that are pending in a system are those that have been entered and have neither been
struck out nor been answered since. -/
theorem Tracks.mem_pending_iff (htracks : Tracks step start ledger change)
    (hnodup : (entered (events.map change)).Nodup) (h : Steps step start events s) :
    id ∈ (ledger s).pending ↔
      ∃ before e since, events = before ++ e :: since ∧ change e = .enter id ∧
        (∀ e ∈ since, change e ≠ .strike id) ∧
        (since.findSome? fun e => (change e).answerTo id) = none := by
  constructor
  · intro hmem
    have hpending := hmem
    rw [htracks.eq_after h, Ledger.mem_pending_iff hnodup] at hpending
    obtain ⟨earlier, during, heq, -, -⟩ := hpending
    -- The change with which the id entered is that of some event.
    obtain ⟨before, rest, rfl, rfl, hrest⟩ := List.map_eq_append_iff.mp heq
    obtain ⟨e, since, rfl, he, rfl⟩ := List.map_eq_cons_iff.mp hrest
    have hstrike := htracks.ne_strike hnodup h rfl he hmem
    have hkeeps := htracks.keeps hnodup h rfl he hstrike
    exact ⟨before, e, since, rfl, he, hstrike, hkeeps.mem_pending_iff.mp hmem⟩
  · rintro ⟨before, e, since, heq, he, hstrike, hfirst⟩
    exact (htracks.keeps hnodup h heq he hstrike).mem_pending_iff.mpr hfirst

end Steps

end Ledger

end PageScript
