import Mathlib.Data.Nat.Find
import Mathlib.Order.Bounds.Defs
import PageScript.Proofs.Rehearsal.Vigil

/-!
# Waits for quiet

A wait for quiet ends when the last activity is so many milliseconds ago. It looks at the observer
and sleeps until it looks again, and in the meantime the page may become active any number of times.
It nevertheless ends at the first instant at which the page has been quiet long enough, whatever the
interval between two looks: it never sleeps past an instant at which the page is quiet, because
activity only ever moves that instant away.

* `Quiet.not_quiet_before_look` — between two looks the page is not quiet long enough;
* `Quiet.OnTime.fits_look` — so a look finds a quiet page just then, or sleeps until then at most;
* `Quiet.OnTime.goes` — whatever comes next, the wait stays on time and comes closer to its end;
* `Quiet.ends_at_first_quiet` — the wait ends at the first instant at which the page is quiet.
-/

namespace PageScript.Rehearsal

/-- When the page is active last by an instant, given when it has been active last and what is going
to happen. -/
def activeBy (t latest : Nat) (ahead : List Incident) : Nat :=
  ahead.foldl (fun latest i => if i.isActivity && i.at_ ≤ t then i.at_ else latest) latest

/-- When the page is active last by an instant. -/
def Vigil.activeBy {ρ : Type} (v : Vigil ρ) (t : Nat) : Nat :=
  Rehearsal.activeBy t v.world.observer.lastActivity v.ahead

/-- No significant event comes any more at an instant at which the task looks whether the page is
quiet. -/
def Vigil.Undisturbed {ρ : Type} (v : Vigil ρ) : Prop :=
  ∀ moves x, Steps Vigil.Goes v moves x → x.task.wait = some (.quiet x.world.now) →
    ∀ i ∈ x.ahead, i.isActivity = true → i.at_ ≠ x.world.now

namespace Quiet

variable {w w' : World ScriptedPage} {o : Observer} {start v v' : Vigil Unit} {m : Vigil.Move}
  {ms now look end_ t latest delay : Nat} {i : Incident} {ahead : List Incident}

/-! ### Activity -/

/-- The last activity is the one known or one that is going to be. -/
theorem activeBy_eq_or (t latest : Nat) (ahead : List Incident) :
    activeBy t latest ahead = latest ∨
      ∃ i ∈ ahead, i.isActivity = true ∧ i.at_ ≤ t ∧ activeBy t latest ahead = i.at_ := by
  induction ahead generalizing latest with
  | nil => exact .inl rfl
  | cons i rest ih =>
    rw [activeBy, List.foldl_cons, ← activeBy]
    rcases ih (if i.isActivity && i.at_ ≤ t then i.at_ else latest) with h | ⟨j, hj, h⟩
    · rw [h]
      split_ifs with hi
      · rw [Bool.and_eq_true, decide_eq_true_iff] at hi
        exact .inr ⟨i, List.mem_cons_self, hi.1, hi.2, rfl⟩
      · exact .inl rfl
    · exact .inr ⟨j, List.mem_cons_of_mem i hj, h⟩

/-- No incident comes after some instant. -/
theorem exists_at_le (ahead : List Incident) : ∃ bound, ∀ i ∈ ahead, i.at_ ≤ bound := by
  induction ahead with
  | nil => exact ⟨0, List.forall_mem_nil _⟩
  | cons i rest ih =>
    obtain ⟨bound, hbound⟩ := ih
    exact ⟨i.at_ + bound, List.forall_mem_cons.mpr ⟨Nat.le_add_right _ _,
      fun j hj => Nat.le_trans (hbound j hj) (Nat.le_add_left _ _)⟩⟩

/-- Some time after the last incident the page is quiet. -/
theorem exists_quiet (ms now latest : Nat) (ahead : List Incident) :
    ∃ t, now ≤ t ∧ ms ≤ t - activeBy t latest ahead := by
  obtain ⟨bound, hbound⟩ := exists_at_le ahead
  refine ⟨now + latest + bound + ms, by omega, ?_⟩
  rcases activeBy_eq_or (now + latest + bound + ms) latest ahead with h | ⟨i, hi, -, -, h⟩
  · omega
  · have hle := hbound i hi
    omega

/-- An incident that comes about is activity from then on as it was before. -/
theorem activeBy_befell (hahead : v.ahead = i :: ahead) (hat : i.at_ = v.world.now)
    (ht : v.world.now ≤ t) :
    Vigil.activeBy { v with world := i.befall v.world, ahead := ahead } t = v.activeBy t := by
  show activeBy t (i.befall v.world).observer.lastActivity ahead =
    activeBy t v.world.observer.lastActivity v.ahead
  rw [hahead, i.befall_lastActivity, ← hat]
  rw [← hat] at ht
  simp [activeBy, ht]

/-! ### Looks -/

/-- The observer has been quiet for long enough just if there is nothing to wait for. -/
theorem quietDelay?_eq_none_iff : o.quietDelay? now ms = none ↔ ms ≤ o.idle now := by
  rw [Observer.quietDelay?]
  split_ifs with h
  · exact iff_of_true rfl h
  · exact iff_of_false nofun h

/-- A wait sleeps for some time, but not longer than it takes to be quiet. -/
theorem quietDelay?_bounds (h : o.quietDelay? now ms = some delay) :
    0 < delay ∧ o.idle now + delay ≤ ms := by
  rw [Observer.quietDelay?] at h
  split_ifs at h with hquiet
  have hdelay := Option.some.inj h
  omega

/-- Between two looks the page is not quiet long enough. -/
theorem not_quiet_before_look (hahead : ∀ i ∈ v.ahead, v.world.now ≤ i.at_)
    (h : v.world.observer.quietDelay? v.world.now ms = some delay)
    (ht : t < v.world.now + delay) : ¬ ms ≤ t - v.activeBy t := by
  have hdelay := quietDelay?_bounds h
  rw [Observer.idle] at hdelay
  rcases activeBy_eq_or t v.world.observer.lastActivity v.ahead with
    hlatest | ⟨i, hi, -, -, hlatest⟩
  · rw [Vigil.activeBy, hlatest]
    omega
  · -- Activity after the look is even less long ago.
    have hlater := hahead i hi
    rw [Vigil.activeBy, hlatest]
    omega

/-- When nothing disturbs a look, the last activity is the one that the observer knows. -/
theorem activeBy_now (hahead : ∀ i ∈ v.ahead, v.world.now ≤ i.at_)
    (hcalm : ∀ i ∈ v.ahead, i.isActivity = true → i.at_ ≠ v.world.now) :
    v.activeBy v.world.now = v.world.observer.lastActivity := by
  rcases activeBy_eq_or v.world.now v.world.observer.lastActivity v.ahead with
    hlatest | ⟨i, hi, hactivity, hle, -⟩
  · exact hlatest
  · exact absurd (Nat.le_antisymm hle (hahead i hi)) (hcalm i hi hactivity)

/-! ### The wait -/

/-- How far a wait for quiet has come. -/
inductive Stage where
  /-- It is about to begin. -/
  | begun
  /-- It looks at an instant. -/
  | looking (look : Nat)
  /-- It is over. -/
  | done

/-- The task that waits. -/
def Stage.task (ms : Nat) : Stage → Task Unit
  | .begun => ⟨"", .perform (.quiet ms), none⟩
  | .looking look => ⟨"", .perform (.quiet ms), some (.quiet look)⟩
  | .done => ⟨"", .done (), none⟩

/-- At a time, a wait that is to end at an instant can be so far. -/
def Stage.Fits (now end_ : Nat) : Stage → Prop
  | .begun => now ≤ end_
  | .looking look => now ≤ look ∧ look ≤ end_
  | .done => now = end_

/-- How many steps a wait can still take at once. -/
def Stage.weight (now : Nat) : Stage → Nat
  | .begun => 2
  | .looking look => if look ≤ now then 1 else 0
  | .done => 0

/-- How far a wait is when it has looked. -/
def Stage.ofLook (ms : Nat) (w : World ScriptedPage) : Stage :=
  match w.observer.quietDelay? w.now ms with
  | none => .done
  | some delay => .looking (w.now + delay)

/-- A wait that has looked is over, or sleeps. -/
theorem Stage.weight_ofLook (ms : Nat) (w : World ScriptedPage) :
    (Stage.ofLook ms w).weight w.now = 0 := by
  rw [Stage.ofLook]
  cases hdelay : w.observer.quietDelay? w.now ms with
  | none => rfl
  | some delay =>
    have hpos := (quietDelay?_bounds hdelay).1
    exact if_neg (by omega)

/-- A wait that fits ends in the future. -/
theorem Stage.Fits.le {stage : Stage} (h : stage.Fits now end_) : now ≤ end_ := by
  cases stage with
  | begun => exact h
  | looking look => exact Nat.le_trans h.1 h.2
  | done => exact Nat.le_of_eq h

/-- A wait that does not look yet cannot go on. -/
theorem step?_looking_of_lt (ms : Nat) (h : w.now < look) :
    ((Stage.looking look).task ms).step? w = none := by
  rw [Task.step?, Stage.task, Program.perform]
  simp only [Task.look, if_neg (Nat.not_le.mpr h), if_true]

/-- A wait that looks goes on, and is over if the page has been quiet long enough. -/
theorem step?_looking_of_le (ms : Nat) (h : look ≤ w.now) :
    ((Stage.looking look).task ms).step? w = some (w, (Stage.ofLook ms w).task ms) := by
  rw [Task.step?, Stage.task, Program.perform, Stage.ofLook]
  simp only [Task.look, if_pos h]
  cases hdelay : w.observer.quietDelay? w.now ms with
  | none => rfl
  | some delay =>
    have hpos := (quietDelay?_bounds hdelay).1
    have hagain : Wait.quiet (w.now + delay) ≠ .quiet look := fun heq => by
      have hsame := Wait.quiet.inj heq
      omega
    exact if_neg hagain

/-! ### A burst of activity -/

variable {stage stage' : Stage}

/-- How far a wait is, if its first look finds that it is to sleep for some time. -/
inductive Bides (w : World ScriptedPage) (delay : Nat) : Stage → World ScriptedPage → Prop
  | begun : Bides w delay .begun w
  | first : Bides w delay (.looking w.now) w
  | later {x : World ScriptedPage} {look : Nat} (h : w.now + delay ≤ look) :
      Bides w delay (.looking look) x
  | done {x : World ScriptedPage} : Bides w delay .done x

/-- A wait that has looked once looks again when it has slept, or later. -/
theorem Bides.turned {x : World ScriptedPage} {t : Task Unit}
    (hdelay : w.observer.quietDelay? w.now ms = some delay) (h : Bides w delay stage x)
    (hstep : (stage.task ms).step? x = some (w', t)) :
    ∃ stage', t = stage'.task ms ∧ Bides w delay stage' w' := by
  cases h with
  | begun =>
    obtain ⟨rfl, rfl⟩ := Prod.mk.inj (Option.some.inj hstep)
    exact ⟨.looking w.now, rfl, .first⟩
  | first =>
    rw [step?_looking_of_le ms (Nat.le_refl _), Stage.ofLook, hdelay] at hstep
    obtain ⟨rfl, rfl⟩ := Prod.mk.inj (Option.some.inj hstep)
    exact ⟨.looking (w.now + delay), rfl, .later (Nat.le_refl _)⟩
  | @later x look hlater =>
    -- There is no turn before the time of the next look.
    rcases Nat.lt_or_ge x.now look with hlt | hle
    · rw [step?_looking_of_lt ms hlt] at hstep
      cases hstep
    · rw [step?_looking_of_le ms hle] at hstep
      obtain ⟨rfl, rfl⟩ := Prod.mk.inj (Option.some.inj hstep)
      refine ⟨_, rfl, ?_⟩
      rw [Stage.ofLook]
      cases x.observer.quietDelay? x.now ms with
      | none => exact .done
      | some more => exact .later (by omega)
  | done => cases hstep

/-- A burst of activity between the first look and the second one disturbs none. -/
theorem undisturbed_of_burst (hdelay : w.observer.quietDelay? w.now ms = some delay)
    (hahead : ∀ i ∈ ahead, w.now < i.at_ ∧ i.at_ < w.now + delay) :
    (Vigil.start w (.perform (.quiet ms)) ahead).Undisturbed := by
  rintro moves ⟨x, t, rest⟩ hmoves hwait i hi _ hat
  have hbides : (∀ i ∈ rest, w.now < i.at_ ∧ i.at_ < w.now + delay) ∧
      ∃ stage, t = Stage.task ms stage ∧ Bides w delay stage x := by
    refine hmoves.invariant (P := fun x : Vigil Unit =>
      (∀ i ∈ x.ahead, w.now < i.at_ ∧ i.at_ < w.now + delay) ∧
      ∃ stage, x.task = Stage.task ms stage ∧ Bides w delay stage x.world) ?_
      ⟨hahead, .begun, rfl, .begun⟩
    rintro ⟨y, t, ahead⟩ m z ⟨hahead, stage, rfl, hstage⟩ h
    replace hstage : Bides w delay stage y := hstage
    cases h with
    | turned h => exact ⟨hahead, hstage.turned hdelay h⟩
    | timedOut hprogram hwait => cases stage <;> cases hwait
    | @befell i rest hgoing heq hdue =>
      obtain rfl : ahead = i :: rest := heq
      refine ⟨fun j hj => hahead j (List.mem_cons_of_mem i hj), stage, rfl, ?_⟩
      -- The burst comes after the first look.
      have hlater := (hahead i List.mem_cons_self).1
      replace hdue : i.at_ ≤ y.now := hdue
      cases hstage with
      | begun | first => omega
      | later h => exact .later h
      | done => exact .done
    | passed hgoing hwaits hnone =>
      refine ⟨hahead, stage, rfl, ?_⟩
      cases hstage with
      | begun => cases hwaits
      | first =>
        rw [step?_looking_of_le ms (Nat.le_refl _)] at hwaits
        cases hwaits
      | later h => exact .later h
      | done => exact .done
  obtain ⟨hburst, stage, rfl, hstage⟩ := hbides
  have hbounds := hburst i hi
  replace hat : i.at_ = x.now := hat
  cases hstage with
  | begun | done => cases hwait
  | first => omega
  | later h =>
    replace hwait := Wait.quiet.inj (Option.some.inj hwait)
    exact absurd h (by rw [hwait, ← hat]; exact Nat.not_le.mpr hbounds.2)

/-! ### The end -/

/-- A wait that began in a vigil is to end at an instant, and it can. -/
structure OnTime (start : Vigil Unit) (ms end_ : Nat) (stage : Stage) (v : Vigil Unit) : Prop where
  task_eq : v.task = stage.task ms
  fits : stage.Fits v.world.now end_
  schedule : Vigil.IsSchedule v.world.now v.ahead
  activeBy_eq : ∀ t, v.world.now ≤ t → v.activeBy t = start.activeBy t
  reached : ∃ moves, Steps Vigil.Goes start moves v
  now_le : start.world.now ≤ v.world.now

/-- How many moves a vigil can still make. -/
def rank (end_ : Nat) (stage : Stage) (v : Vigil Unit) : Nat :=
  2 * (end_ - v.world.now) + v.ahead.length + stage.weight v.world.now

/-- A wait that goes on is on time if it can be so far. -/
theorem OnTime.turned (hv : OnTime start ms end_ stage v)
    (hstep : v.task.step? v.world = some (v.world, stage'.task ms))
    (hfits : stage'.Fits v.world.now end_) :
    OnTime start ms end_ stage' { v with task := stage'.task ms } := by
  obtain ⟨moves, hmoves⟩ := hv.reached
  have hturned : Vigil.Goes v .turned { v with task := stage'.task ms } := .turned hstep
  exact ⟨rfl, hfits, hv.schedule, hv.activeBy_eq,
    ⟨_, hmoves.append (steps_singleton_iff.mpr hturned)⟩, hv.now_le⟩

/-- What a look finds. -/
theorem OnTime.fits_look (hv : OnTime start ms end_ (.looking look) v)
    (hend : IsLeast {t | start.world.now ≤ t ∧ ms ≤ t - start.activeBy t} end_)
    (hcalm : start.Undisturbed) (hlook : look ≤ v.world.now) :
    (Stage.ofLook ms v.world).Fits v.world.now end_ := by
  obtain ⟨hle, hend_⟩ := hv.fits
  have heq : look = v.world.now := Nat.le_antisymm hlook hle
  rw [Stage.ofLook]
  cases hdelay : v.world.observer.quietDelay? v.world.now ms with
  | none =>
    -- The page is quiet now, and was not before.
    obtain ⟨moves, hmoves⟩ := hv.reached
    have hwait : v.task.wait = some (.quiet v.world.now) := by
      rw [hv.task_eq, ← heq]
      rfl
    have hlatest := activeBy_now hv.schedule.now_le (hcalm moves v hmoves hwait)
    have hquiet : ms ≤ v.world.now - start.activeBy v.world.now := by
      rw [← hv.activeBy_eq _ (Nat.le_refl _), hlatest]
      exact quietDelay?_eq_none_iff.mp hdelay
    exact Nat.le_antisymm (heq ▸ hend_) (hend.2 ⟨hv.now_le, hquiet⟩)
  | some delay =>
    -- If the wait were to end before the next look, the page would be quiet in between.
    refine ⟨Nat.le_add_right _ _, Nat.le_of_not_lt fun hlt => ?_⟩
    have hnot := not_quiet_before_look hv.schedule.now_le hdelay hlt
    rw [hv.activeBy_eq _ (heq ▸ hend_)] at hnot
    exact hnot hend.1.2

/-- Whatever comes next, a wait that is not over stays on time, and comes closer to its end. -/
theorem OnTime.goes (hv : OnTime start ms end_ stage v)
    (hend : IsLeast {t | start.world.now ≤ t ∧ ms ≤ t - start.activeBy t} end_)
    (hcalm : start.Undisturbed) (h : Vigil.Goes v m v') :
    ∃ stage', OnTime start ms end_ stage' v' ∧ rank end_ stage' v' < rank end_ stage v := by
  obtain ⟨w, t, ahead⟩ := v
  obtain rfl : t = stage.task ms := hv.task_eq
  have hend_ := hv.fits.le
  obtain ⟨moves, hmoves⟩ := hv.reached
  have hreached : ∃ moves, Steps Vigil.Goes start moves v' :=
    ⟨_, hmoves.append (steps_singleton_iff.mpr h)⟩
  cases h with
  | turned h =>
    cases stage with
    | begun =>
      obtain ⟨rfl, rfl⟩ := Prod.mk.inj (Option.some.inj h)
      refine ⟨.looking w.now, hv.turned rfl ⟨Nat.le_refl _, hend_⟩, ?_⟩
      simp [rank, Stage.weight]
    | looking look =>
      rcases Nat.lt_or_ge w.now look with hlater | hlook
      · rw [step?_looking_of_lt ms hlater] at h
        cases h
      · have hfits := hv.fits_look hend hcalm hlook
        have hstep := step?_looking_of_le ms hlook
        obtain ⟨rfl, rfl⟩ := Prod.mk.inj (Option.some.inj (hstep.symm.trans h))
        refine ⟨_, hv.turned hstep hfits, ?_⟩
        have hlooks : (Stage.looking look).weight w.now = 1 := if_pos hlook
        rw [rank, rank, Stage.weight_ofLook, hlooks]
        exact Nat.lt_succ_self _
    | done => cases h
  | timedOut hprogram hwait =>
    cases stage <;> cases hwait
  | @befell i rest hgoing hahead hdue =>
    obtain rfl : ahead = i :: rest := hahead
    have hnow := i.befall_now w
    refine ⟨stage, ⟨rfl, ?_, ?_, fun t ht => ?_, hreached, ?_⟩, ?_⟩
    · exact hnow.symm ▸ hv.fits
    · exact hnow.symm ▸ hv.schedule.tail
    · have ht' : w.now ≤ t := hnow ▸ ht
      exact (activeBy_befell rfl (hv.schedule.at_eq hdue) ht').trans (hv.activeBy_eq t ht')
    · exact hnow.symm ▸ hv.now_le
    · show 2 * (end_ - (i.befall w).now) + rest.length + stage.weight (i.befall w).now <
        2 * (end_ - w.now) + (i :: rest).length + stage.weight w.now
      rw [hnow, List.length_cons]
      omega
  | passed hgoing hwaits hahead =>
    cases stage with
    | begun => cases hwaits
    | looking look =>
      -- Time passes only while the wait sleeps.
      have hlook : w.now < look := Nat.lt_of_not_le fun hle => by
        rw [step?_looking_of_le ms hle] at hwaits
        cases hwaits
      refine ⟨.looking look, ⟨rfl, ⟨hlook, hv.fits.2⟩, hv.schedule.pass hahead,
        fun t ht => hv.activeBy_eq t (Nat.le_of_succ_le ht), hreached,
        Nat.le_succ_of_le hv.now_le⟩, ?_⟩
      have hlooks : (Stage.looking look).weight (w.now + 1) ≤ 1 := by
        rw [Stage.weight]
        split_ifs <;> omega
      have hleft : w.now < end_ := Nat.lt_of_lt_of_le hlook hv.fits.2
      show 2 * (end_ - (w.now + 1)) + ahead.length + (Stage.looking look).weight (w.now + 1) <
        2 * (end_ - w.now) + ahead.length + (Stage.looking look).weight w.now
      omega
    | done => cases hgoing

/-- A wait that has come to its result has ended when it was to. -/
theorem OnTime.now_eq (hv : OnTime start ms end_ stage v) (h : v.task.result? = some ()) :
    v.world.now = end_ := by
  rw [hv.task_eq] at h
  cases stage with
  | begun | looking => cases h
  | done => exact hv.fits

/-- There is a first instant at which the page is quiet. -/
theorem exists_first_quiet (ms now latest : Nat) (ahead : List Incident) :
    ∃ end_, IsLeast {t | now ≤ t ∧ ms ≤ t - activeBy t latest ahead} end_ := by
  have hquiet := exists_quiet ms now latest ahead
  exact ⟨Nat.find hquiet, Nat.find_spec hquiet, fun t ht => Nat.find_min' hquiet ht⟩

/-- In any world and whatever happens around it, a wait for quiet ends, and it ends at the first
instant at which the last activity is so long ago, whatever the interval between two looks. It is
only assumed that no significant event comes just when the wait looks. -/
theorem ends_at_first_quiet (w : World ScriptedPage) (ms : Nat) (ahead : List Incident)
    (hahead : Vigil.IsSchedule w.now ahead)
    (hcalm : (Vigil.start w (.perform (.quiet ms)) ahead).Undisturbed) :
    ∃ end_, IsLeast {t | w.now ≤ t ∧ ms ≤ t - activeBy t w.observer.lastActivity ahead} end_ ∧
      Inevitable Vigil.Goes (fun v => v.task.result? = some () ∧ v.world.now = end_)
        (Vigil.start w (.perform (.quiet ms)) ahead) := by
  obtain ⟨end_, hend⟩ := exists_first_quiet ms w.now w.observer.lastActivity ahead
  have hstart : OnTime (.start w (.perform (.quiet ms)) ahead) ms end_ .begun
      (.start w (.perform (.quiet ms)) ahead) :=
    ⟨rfl, hend.1.1, hahead, fun _ _ => rfl, ⟨[], .nil _⟩, Nat.le_refl _⟩
  -- The rank bounds what can still happen before the end, so the wait cannot go on without it.
  refine ⟨end_, hend, Inevitable.of_rank (P := fun n v => ∃ stage,
    OnTime (.start w (.perform (.quiet ms)) ahead) ms end_ stage v ∧ rank end_ stage v = n) ?_
    ⟨.begun, hstart, rfl⟩⟩
  rintro n v ⟨stage, hv, rfl⟩
  cases hresult : v.task.result? with
  | some _ => exact .inl ⟨rfl, hv.now_eq hresult⟩
  | none =>
    refine .inr ⟨Vigil.exists_goes hresult hv.schedule, fun m v' h => ?_⟩
    obtain ⟨stage', hv', hlt⟩ := hv.goes hend hcalm h
    exact ⟨_, hlt, stage', hv', rfl⟩

/-- The page is to be quiet for 10 milliseconds and the observer would sleep for a second. The
window gains the focus after 5 milliseconds, and the wait ends after 15. -/
theorem ends_after_focus :
    let w : World ScriptedPage := .new ⟨10, 1000, 10⟩ .standard (.file .absent) .blank
    let focus : Incident := ⟨5, .page (.event ⟨.focus true, 7⟩)⟩
    Inevitable Vigil.Goes (fun v => v.task.result? = some () ∧ v.world.now = 15)
      (Vigil.start w (.perform (.quiet 10)) [focus]) := by
  intro w focus
  have hdelay : w.observer.quietDelay? w.now 10 = some 10 := rfl
  have hcalm : (Vigil.start w (.perform (.quiet 10)) [focus]).Undisturbed :=
    undisturbed_of_burst hdelay (by decide)
  obtain ⟨end_, hend, hinevitable⟩ :=
    ends_at_first_quiet w 10 [focus] ⟨by decide, by decide⟩ hcalm
  -- The page is active once, at five, so it is quiet for ten at fifteen and not before.
  have hactive : ∀ t, activeBy t 0 [focus] = if 5 ≤ t then 5 else 0 := fun t => by
    simp [activeBy, focus, show focus.isActivity = true from rfl]
  have hle : end_ ≤ 15 := hend.2 ⟨Nat.zero_le _, by decide⟩
  have hquiet : 10 ≤ end_ - activeBy end_ 0 [focus] := hend.1.2
  obtain rfl : end_ = 15 := by
    rw [hactive] at hquiet
    split_ifs at hquiet <;> omega
  exact hinevitable

end Quiet

end PageScript.Rehearsal
