import PageScript.Proofs.Rehearsal.Appearance.Turn

/-!
# Waits for an element

A wait for an element misses nothing. It follows the changes of the document before it looks for the
first time, so a change that comes after the element is there to be read by a wait that has looked
too early. A rest is never longer than the interval between two looks and never goes on after the
deadline, and at the deadline the wait looks once more. A wait may fall behind the changes of the
document; then it is woken and has fewer changes left to read.

* `Appearance.Underway.goes` — what can come next while the wait is under way;
* `Appearance.Follows.rank_lt` — whatever comes next, less can still happen;
* `Appearance.Prompt.follows` — a wait for an element that appears is no later, whatever comes next;
* `Appearance.waitForElement_misses_nothing` — when the step ends, and with what.
-/

namespace PageScript.Rehearsal.Appearance

variable {s : Search} {w : World ScriptedPage} {stage stage' : Stage} {cursor : Nat}
  {first : World ScriptedPage} {all past past' : List Incident}
  {v v' : Vigil (Except ActionError Json)} {m : Vigil.Move}

/-! ### Steps -/

/-- A wait that has come so far, with the incidents that are past. -/
structure Underway (s : Search) (first : World ScriptedPage) (all : List Incident) (stage : Stage)
    (past : List Incident) (v : Vigil (Except ActionError Json)) : Prop where
  task_eq : v.task = stage.task s
  fits : stage.Fits s v.world
  answers : AnswersAtOnce v.world.page s.selector
  schedule : Vigil.IsSchedule v.world.now v.ahead
  all_eq : past ++ v.ahead = all
  past_le : ∀ i ∈ past, i.at_ ≤ v.world.now
  matched_eq : v.world.matched s.selector = matchedAfter first s.selector past

/-- What comes next: the task goes on, the next incident comes about, or time passes. Time passes
only while the task waits for a change of the document and has seen all that there have been. -/
inductive Follows (s : Search) (v v' : Vigil (Except ActionError Json)) :
    Stage → List Incident → Stage → List Incident → Prop
  | turned {stage stage' : Stage} {past : List Incident} (hturns : Turns s v.world stage stage')
      (hnow : v'.world.now = v.world.now) (hposted : posted v'.world = posted v.world)
      (hahead : v'.ahead = v.ahead) : Follows s v v' stage past stage' past
  | befell {stage : Stage} {past : List Incident} {i : Incident} (hahead : v.ahead = i :: v'.ahead)
      (hnow : v'.world.now = v.world.now)
      (hposted : posted v'.world = posted v.world + i.isDom.toNat) :
      Follows s v v' stage past stage (past ++ [i])
  | passed {cursor ms until_ : Nat} {past : List Incident} (hrests : v.world.now < until_)
      (hread : posted v.world ≤ cursor) (hlater : ∀ i ∈ v.ahead, v.world.now < i.at_)
      (hnow : v'.world.now = v.world.now + 1) (hposted : posted v'.world = posted v.world)
      (hahead : v'.ahead = v.ahead) :
      Follows s v v' (.waiting cursor ms until_) past (.waiting cursor ms until_) past

/-- An incident does not take a wait to another stage. -/
theorem Stage.Fits.befall (h : stage.Fits s w) (i : Incident) : stage.Fits s (i.befall w) := by
  have hnow := i.befall_now w
  have hposted : posted (i.befall w) = posted w + i.isDom.toNat := i.length_befall_changes w
  have hcalls : (i.befall w).page.underWay = w.page.underWay := by rw [i.befall_page w]
  cases stage with
  | asked cursor call =>
    obtain ⟨hle, hcursor, at_, hcall, hat⟩ := h
    exact ⟨hnow ▸ hle, by omega, at_, hcalls ▸ hcall, hnow ▸ hat⟩
  | begun => exact hnow.trans h
  | done found =>
    rw [Stage.Fits, hnow]
    exact h
  | _ =>
    rw [Stage.Fits] at h ⊢
    omega

/-- Whatever comes next, the wait is under way. -/
theorem Underway.goes (hv : Underway s first all stage past v) (h : Vigil.Goes v m v') :
    ∃ stage' past', Underway s first all stage' past' v' ∧
      Follows s v v' stage past stage' past' := by
  obtain ⟨w, t, ahead⟩ := v
  obtain rfl : t = stage.task s := hv.task_eq
  cases h with
  | @turned w' t h =>
    obtain ⟨stage', rfl, hturns, hfits, hunmoved⟩ := turns_of_step? hv.answers hv.fits h
    refine ⟨stage', past, ⟨rfl, hfits, hunmoved.answers hv.answers, ?_, hv.all_eq, ?_, ?_⟩,
      .turned hturns hunmoved.now_eq hunmoved.posted_eq rfl⟩
    · exact hunmoved.now_eq.symm ▸ hv.schedule
    · exact hunmoved.now_eq.symm ▸ hv.past_le
    · exact hunmoved.matched_eq.trans hv.matched_eq
  | @timedOut cursor ms until_ next hprogram hwait hdue =>
    cases stage with
    | waiting =>
      -- It is this wait that times out, with its own cursor.
      obtain ⟨heffect, hnext⟩ := Program.ask.inj hprogram
      cases heffect
      cases hnext
      cases hwait
      obtain ⟨hle, huntil, hcursor⟩ := hv.fits
      exact ⟨.looping cursor, past, ⟨rfl, ⟨Nat.le_trans hle huntil, hcursor⟩, hv.answers,
        hv.schedule, hv.all_eq, hv.past_le, hv.matched_eq⟩,
        .turned (.timeOut cursor ms hdue) rfl rfl rfl⟩
    | _ => cases hwait
  | @befell i rest hgoing hahead hdue =>
    obtain rfl : ahead = i :: rest := hahead
    have hnow := i.befall_now w
    refine ⟨stage, past ++ [i], ⟨rfl, hv.fits.befall i, hv.answers.befall i, ?_, ?_, ?_, ?_⟩,
      .befell rfl hnow (i.length_befall_changes w)⟩
    · exact hnow.symm ▸ hv.schedule.tail
    · rw [List.append_assoc]
      exact hv.all_eq
    · refine List.forall_mem_append.mpr ⟨hnow.symm ▸ hv.past_le, List.forall_mem_singleton.mpr ?_⟩
      exact hnow.symm ▸ hdue
    · rw [matchedAfter, List.foldl_concat, ← matchedAfter, ← hv.matched_eq]
      exact matched_befall s.selector i w
  | passed hgoing hwaits hahead =>
    obtain ⟨cursor, ms, until_, rfl, hrests, hread⟩ :=
      waits_of_step?_eq_none hv.answers hv.fits hwaits hgoing
    obtain ⟨-, huntil, hcursor⟩ := hv.fits
    exact ⟨_, past, ⟨rfl, ⟨hrests, huntil, hcursor⟩, hv.answers, hv.schedule.pass hahead,
      hv.all_eq, fun i hi => Nat.le_succ_of_le (hv.past_le i hi), hv.matched_eq⟩,
      .passed hrests hread hahead rfl rfl rfl⟩

/-! ### The end -/

/-- The number of turns that a wait can still take until it waits for a change of the document. -/
def Stage.weight : Stage → Nat
  | .begun => 8
  | .followed _ => 7
  | .looping _ => 6
  | .querying _ => 5
  | .asked _ _ => 4
  | .missed _ => 3
  | .resting _ _ => 2
  | .waiting _ _ _ => 1
  | .done _ => 0

/-- The number of changes of the document that a wait has not seen. -/
def Stage.unread (posted : Nat) : Stage → Nat
  | .begun | .done _ => 0
  | .followed cursor | .looping cursor | .querying cursor | .asked cursor _ | .missed cursor
  | .resting cursor _ | .waiting cursor _ _ => posted - cursor

/-- A rest is over at a time. -/
def Stage.over (now : Nat) : Stage → Nat
  | .waiting _ _ until_ => if until_ ≤ now then 1 else 0
  | _ => 0

/-- What can still happen in a wait. It goes through all stages again for each change of the
document and each rest, and rests as long as there is time. -/
def rank (s : Search) (stage : Stage) (v : Vigil (Except ActionError Json)) : Nat :=
  10 * (2 * (s.deadline - v.world.now) + 2 * v.ahead.length + stage.unread (posted v.world) +
    stage.over v.world.now) + stage.weight

/-- At most one rest is over. -/
private theorem Stage.over_le (stage : Stage) (now : Nat) : stage.over now ≤ 1 := by
  cases stage with
  | waiting cursor ms until_ =>
    rw [Stage.over]
    split_ifs <;> omega
  | _ => exact Nat.zero_le 1

/-- One more change of the document is at most one more that is unread. -/
private theorem Stage.unread_le (stage : Stage) (posted : Nat) (isDom : Bool) :
    stage.unread (posted + isDom.toNat) ≤ stage.unread posted + 1 := by
  have hone := Bool.toNat_le isDom
  cases stage with
  | begun | done => exact Nat.zero_le _
  | _ =>
    rw [Stage.unread, Stage.unread]
    omega

/-- Whatever comes next, less can still happen. -/
theorem Follows.rank_lt (h : Follows s v v' stage past stage' past')
    (hfits : stage.Fits s v.world) : rank s stage' v' < rank s stage v := by
  cases h with
  | turned hturns hnow hposted hahead =>
    rw [rank, rank, hnow, hposted, hahead]
    cases hturns with
    | timeOut cursor ms hover =>
      simp only [Stage.unread, Stage.over, Stage.weight, if_pos hover]
      omega
    | wake ms until_ hlt hle =>
      -- There is one change less to be read, which outweighs another round.
      simp only [Stage.unread, Stage.over, Stage.weight]
      omega
    | listen cursor ms =>
      have hrests : ¬ v.world.now + ms ≤ v.world.now := by
        obtain ⟨hpos, -⟩ := hfits
        omega
      simp only [Stage.unread, Stage.over, Stage.weight, if_neg hrests]
      omega
    | _ =>
      simp only [Stage.unread, Stage.over, Stage.weight]
      omega
  | @befell _ _ i hahead hnow hposted =>
    -- An incident is at most one change of the document.
    have hunread := stage.unread_le (posted v.world) i.isDom
    rw [rank, rank, hnow, hposted, hahead, List.length_cons]
    omega
  | @passed cursor ms until_ _ hrests hread hlater hnow hposted hahead =>
    obtain ⟨-, huntil, -⟩ := hfits
    -- A millisecond counts twice, because a rest may come to its end with it.
    have hover := (Stage.waiting cursor ms until_).over_le (v.world.now + 1)
    rw [rank, rank, hnow, hposted, hahead]
    omega

/-- A wait under way ends, and what is kept whatever comes next holds at its end. -/
theorem Underway.ends {J : Stage → List Incident → Vigil (Except ActionError Json) → Prop}
    (hJ : ∀ stage past v stage' past' v', Underway s first all stage past v →
      Follows s v v' stage past stage' past' → Underway s first all stage' past' v' →
      J stage past v → J stage' past' v')
    (hv : Underway s first all stage past v) (h : J stage past v) :
    Inevitable Vigil.Goes (fun v => ∃ found past,
      Underway s first all (.done found) past v ∧ J (.done found) past v) v := by
  refine Inevitable.of_rank (P := fun n v => ∃ stage past,
    Underway s first all stage past v ∧ J stage past v ∧ rank s stage v = n) ?_
    ⟨stage, past, hv, h, rfl⟩
  rintro n v ⟨stage, past, hv, h, rfl⟩
  -- A wait that is not done always goes on, and each of its turns brings the rank down.
  by_cases hdone : ∃ found, stage = .done found
  · obtain ⟨found, rfl⟩ := hdone
    exact .inl ⟨found, past, hv, h⟩
  · have hgoing : v.task.result? = none := by
      rw [hv.task_eq]
      cases stage with
      | done found => exact absurd ⟨found, rfl⟩ hdone
      | _ => rfl
    refine .inr ⟨Vigil.exists_goes hgoing hv.schedule, fun m v' hgoes => ?_⟩
    obtain ⟨stage', past', hv', hfollows⟩ := hv.goes hgoes
    exact ⟨_, hfollows.rank_lt hv.fits, stage', past', hv',
      hJ stage past v stage' past' v' hv hfollows hv' h, rfl⟩

/-- The text that the step gives. -/
def Search.text (s : Search) (found : Bool) : Json :=
  .str (if found then "Element appeared" else s!"Timeout: element {s.selector} did not appear")

/-- A wait that is done has come to its result. -/
theorem Underway.result?_eq {found : Bool} (hv : Underway s first all (.done found) past v) :
    v.task.result? = some (.ok (s.text found)) := by
  rw [hv.task_eq]
  cases found <;> rfl

/-- The wait ends by its deadline, with one of its two texts. -/
theorem Underway.ends_in_time (hv : Underway s first all stage past v) :
    Inevitable Vigil.Goes (fun v => v.world.now ≤ s.deadline ∧
      ∃ found, v.task.result? = some (.ok (s.text found))) v := by
  refine (hv.ends (J := fun _ _ _ => True) (fun _ _ _ _ _ _ _ _ _ _ => trivial) trivial).imp ?_
  rintro v ⟨found, past, hv, -⟩
  exact ⟨hv.fits.1, found, hv.result?_eq⟩

/-! ### An element that appears -/

/-- A selector matches from an instant on: when some of the incidents have come about, whatever else
has. -/
structure AppearsAt (w : World ScriptedPage) (selector : String) (appears : Nat)
    (before after : List Incident) : Prop where
  before_le : ∀ i ∈ before, i.at_ ≤ appears
  le_after : ∀ i ∈ after, appears ≤ i.at_
  matched_ne_nil : ∀ more, more <+: after → matchedAfter w selector (before ++ more) ≠ []

/-- A wait that has looked and found nothing had not looked after the element appeared. -/
def Stage.LookedBy (appears poll now : Nat) : Stage → Prop
  | .missed _ => now ≤ appears
  | .resting _ ms => now + ms ≤ appears + poll
  | .waiting _ _ until_ => until_ ≤ appears + poll
  | .done found => found = true
  | _ => True

/-- The cursor of a wait that has looked and found nothing. -/
def Stage.missedAt? : Stage → Option Nat
  | .missed cursor | .resting cursor _ | .waiting cursor _ _ => some cursor
  | _ => none

/-- A wait that has looked has read no more than was posted. -/
theorem Stage.Fits.cursor_le (h : stage.Fits s w) (hstage : stage.missedAt? = some cursor) :
    cursor ≤ posted w := by
  cases stage with
  | missed | resting | waiting =>
    rw [← Option.some.inj hstage]
    rw [Stage.Fits] at h
    omega
  | _ => cases hstage

/-- A wait for an element that appears is not late. If it has looked too early, it has a change of
the document to read as soon as there has been one since. -/
structure Prompt (s : Search) (appears : Nat) (before after : List Incident) (stage : Stage)
    (past : List Incident) (v : Vigil (Except ActionError Json)) : Prop where
  soon : v.world.now ≤ max s.begun appears + s.poll
  change : ∀ i ∈ after, i.isDom = true → v.world.now ≤ i.at_
  looked : stage.LookedBy appears s.poll v.world.now
  unread : ∀ cursor more, stage.missedAt? = some cursor → past = before ++ more →
    ∀ i ∈ more, i.isDom = true → cursor < posted v.world

variable {appears : Nat} {before after : List Incident}

/-- A look that finds nothing comes before the element has appeared. -/
theorem Underway.now_le_of_missed (hv : Underway s first (before ++ after) stage past v)
    (happears : AppearsAt first s.selector appears before after)
    (h : v.world.matched s.selector = []) :
    v.world.now ≤ appears ∧ ∀ more, past ≠ before ++ more := by
  have hnot : ∀ more, past ≠ before ++ more := by
    rintro more rfl
    have hmore : more <+: after :=
      ⟨v.ahead, List.append_cancel_left ((List.append_assoc ..).symm.trans hv.all_eq)⟩
    exact happears.matched_ne_nil more hmore (hv.matched_eq.symm.trans h)
  refine ⟨?_, hnot⟩
  rcases List.append_eq_append_iff.mp hv.all_eq with ⟨ahead, rfl, hahead⟩ | ⟨more, rfl, -⟩
  · cases ahead with
    | nil => exact absurd (by simp) (hnot [])
    | cons i rest =>
      -- An incident that is still ahead comes before the element appears.
      have hlater : v.world.now ≤ i.at_ := hv.schedule.now_le i (by simp [hahead])
      exact Nat.le_trans hlater (happears.before_le i (by simp))
  · exact absurd rfl (hnot more)

/-- A turn of the task makes the wait no later. -/
theorem Prompt.turned (h : Prompt s appears before after stage past v)
    (hv : Underway s first (before ++ after) stage past v)
    (happears : AppearsAt first s.selector appears before after) (htime : appears < s.deadline)
    (hturns : Turns s v.world stage stage') :
    stage'.LookedBy appears s.poll v.world.now ∧
      ∀ cursor more, stage'.missedAt? = some cursor → past = before ++ more →
        ∀ i ∈ more, i.isDom = true → cursor < posted v.world := by
  have hlooked := h.looked
  cases hturns with
  | miss cursor call hmatched =>
    obtain ⟨hnow, hnot⟩ := hv.now_le_of_missed happears hmatched
    exact ⟨hnow, fun _ more _ heq => absurd heq (hnot more)⟩
  | giveUp cursor hover =>
    -- The last look was too early to be the last one.
    replace hlooked : v.world.now ≤ appears := hlooked
    omega
  | rest cursor hrests =>
    replace hlooked : v.world.now ≤ appears := hlooked
    exact ⟨Nat.add_le_add hlooked (Nat.min_le_left _ _), h.unread⟩
  | listen cursor ms => exact ⟨hlooked, h.unread⟩
  | find cursor call hmatched => exact ⟨rfl, nofun⟩
  | _ => exact ⟨trivial, nofun⟩

/-- A change of the document that comes after the element has appeared is there to be read. -/
theorem Prompt.befell {i : Incident} (h : Prompt s appears before after stage past v)
    (hfits : stage.Fits s v.world) :
    ∀ cursor more, stage.missedAt? = some cursor → past ++ [i] = before ++ more →
      ∀ j ∈ more, j.isDom = true → cursor < posted v.world + i.isDom.toNat := by
  intro cursor more hstage heq j hj hdom
  rcases List.eq_nil_or_concat' more with rfl | ⟨more, last, rfl⟩
  · cases hj
  · rw [← List.append_assoc] at heq
    obtain ⟨rfl, rfl⟩ := List.append_singleton_inj.mp heq
    rcases List.mem_append.mp hj with hj | hj
    · exact Nat.lt_of_lt_of_le (h.unread cursor more hstage rfl j hj hdom) (Nat.le_add_right _ _)
    · rw [List.mem_singleton.mp hj] at hdom
      rw [hdom]
      exact Nat.lt_succ_of_le (hfits.cursor_le hstage)

/-- Time passes only before the first change of the document since the element appeared. -/
theorem Prompt.passed {cursor ms until_ : Nat}
    (h : Prompt s appears before after (.waiting cursor ms until_) past v)
    (hv : Underway s first (before ++ after) (.waiting cursor ms until_) past v)
    (hread : posted v.world ≤ cursor) (hlater : ∀ i ∈ v.ahead, v.world.now < i.at_) :
    ∀ i ∈ after, i.isDom = true → v.world.now < i.at_ := by
  intro i hi hdom
  rcases List.append_eq_append_iff.mp hv.all_eq with ⟨ahead, -, hahead⟩ | ⟨more, hpast, rfl⟩
  · exact hlater i (hahead ▸ List.mem_append_right ahead hi)
  · rcases List.mem_append.mp hi with hi | hi
    · have hunread := h.unread cursor more rfl hpast i hi hdom
      omega
    · exact hlater i hi

/-- Whatever comes next, the wait is no later. -/
theorem Prompt.follows (hv : Underway s first (before ++ after) stage past v)
    (happears : AppearsAt first s.selector appears before after) (htime : appears < s.deadline)
    (hfollows : Follows s v v' stage past stage' past')
    (h : Prompt s appears before after stage past v) :
    Prompt s appears before after stage' past' v' := by
  cases hfollows with
  | turned hturns hnow hposted hahead =>
    obtain ⟨hlooked, hunread⟩ := h.turned hv happears htime hturns
    exact ⟨hnow ▸ h.soon, hnow ▸ h.change, hnow ▸ hlooked, hposted ▸ hunread⟩
  | befell hahead hnow hposted =>
    exact ⟨hnow ▸ h.soon, hnow ▸ h.change, hnow ▸ h.looked, hposted ▸ h.befell hv.fits⟩
  | @passed cursor ms until_ _ hrests hread hlater hnow hposted hahead =>
    have hlooked : until_ ≤ appears + s.poll := h.looked
    refine ⟨?_, hnow ▸ h.passed hv hread hlater, h.looked, hposted ▸ h.unread⟩
    omega

/-- An element that appears is found in time. -/
theorem Underway.finds (hv : Underway s first (before ++ after) stage past v)
    (happears : AppearsAt first s.selector appears before after) (htime : appears < s.deadline)
    (h : Prompt s appears before after stage past v) :
    Inevitable Vigil.Goes (fun v => v.task.result? = some (.ok (s.text true)) ∧
      v.world.now ≤ s.deadline ∧ v.world.now ≤ max s.begun appears + s.poll ∧
      ∀ i ∈ after, i.isDom = true → v.world.now ≤ i.at_) v := by
  refine (hv.ends (J := Prompt s appears before after)
    (fun _ _ _ _ _ _ hv hfollows _ h => h.follows hv happears htime hfollows) h).imp ?_
  rintro v ⟨found, past, hv, h⟩
  obtain rfl : found = true := h.looked
  exact ⟨hv.result?_eq, hv.fits.1, h.soon, h.change⟩

/-! ### An element that does not appear -/

/-- What never matches is not found. -/
theorem Underway.ne_found (hv : Underway s first all stage past v)
    (hnever : ∀ past, past <+: all → (∀ i ∈ past, i.at_ ≤ s.deadline) →
      matchedAfter first s.selector past = [])
    (hfollows : Follows s v v' stage past stage' past') (h : stage ≠ .done true) :
    stage' ≠ .done true := by
  rintro rfl
  cases hfollows with
  | turned hturns =>
    cases hturns with
    | find cursor call hmatched =>
      have hpast : ∀ i ∈ past, i.at_ ≤ s.deadline := fun i hi =>
        Nat.le_trans (hv.past_le i hi) hv.fits.1
      exact hmatched (hv.matched_eq.trans (hnever past ⟨v.ahead, hv.all_eq⟩ hpast))
  | befell => exact h rfl

/-- A wait for what never matches ends at its deadline. -/
theorem Underway.timesOut (hv : Underway s first all stage past v)
    (hnever : ∀ past, past <+: all → (∀ i ∈ past, i.at_ ≤ s.deadline) →
      matchedAfter first s.selector past = []) (hstage : stage ≠ .done true) :
    Inevitable Vigil.Goes (fun v => v.task.result? = some (.ok (s.text false)) ∧
      v.world.now = s.deadline) v := by
  refine (hv.ends (J := fun stage _ _ => stage ≠ .done true)
    (fun _ _ _ _ _ _ hv hfollows _ h => hv.ne_found hnever hfollows h) hstage).imp ?_
  rintro v ⟨found, past, hv, hfound⟩
  obtain rfl : found = false := by
    cases found with
    | true => exact absurd rfl hfound
    | false => rfl
  exact ⟨hv.result?_eq, hv.fits.2 rfl⟩

/-! ### The step -/

/-- Waiting for an element misses nothing, on a page that answers queries at once and whatever
happens around the step. The step ends by its deadline. If the selector matches from an instant
before the deadline on, it ends with the element: by the deadline, within an interval between two
looks, and as soon as there is a change of the document. If the selector does not match up to the
deadline, the step ends with a timeout, just then. -/
theorem waitForElement_misses_nothing (config : InterpreterConfig) (selector : String)
    (timeout : Option UInt64) (w : World ScriptedPage) (ahead : List Incident)
    (hanswers : AnswersAtOnce w.page selector) (hahead : Vigil.IsSchedule w.now ahead) :
    let deadline := w.now + (timeout.getD config.waitForElementTimeout).toNat
    let appeared : Json := .str "Element appeared"
    let timedOut : Json := .str s!"Timeout: element {selector} did not appear"
    let start := Vigil.start w (Step.execute config (.waitForElement selector timeout)).run ahead
    Inevitable Vigil.Goes (fun v => v.world.now ≤ deadline ∧
        (v.task.result? = some (.ok appeared) ∨ v.task.result? = some (.ok timedOut))) start ∧
      (∀ appears before after, ahead = before ++ after →
        AppearsAt w selector appears before after → appears < deadline →
        Inevitable Vigil.Goes (fun v => v.task.result? = some (.ok appeared) ∧
          v.world.now ≤ deadline ∧
          v.world.now ≤ max w.now appears + max 1 config.elementPollInterval.toNat ∧
          ∀ i ∈ after, i.isDom = true → v.world.now ≤ i.at_) start) ∧
      ((∀ past, past <+: ahead → (∀ i ∈ past, i.at_ ≤ deadline) →
          matchedAfter w selector past = []) →
        Inevitable Vigil.Goes (fun v => v.task.result? = some (.ok timedOut) ∧
          v.world.now = deadline) start) := by
  intro deadline appeared timedOut start
  let s : Search := .ofCommand config w selector timeout
  -- At the start nothing has happened yet, so the wait is at its first stage.
  have hstart : Underway s w ahead .begun [] start :=
    ⟨congrArg (fun program => (⟨"", program, none⟩ : Task _))
      (execute_waitForElement config w selector timeout),
      rfl, hanswers, hahead, rfl, nofun, rfl⟩
  refine ⟨?ends, ?appears, fun hnever => hstart.timesOut hnever nofun⟩
  case ends =>
    refine hstart.ends_in_time.imp fun v hv => ⟨hv.1, ?_⟩
    obtain ⟨-, found, hresult⟩ := hv
    rw [hresult]
    cases found with
    | true => exact .inl rfl
    | false => exact .inr rfl
  case appears =>
    rintro appears before after rfl happears htime
    have hprompt : Prompt s appears before after .begun [] start :=
      ⟨Nat.le_trans (Nat.le_max_left _ _) (Nat.le_add_right _ _),
        fun i hi _ => hahead.now_le i (List.mem_append_right before hi), trivial, nofun⟩
    exact hstart.finds happears htime hprompt

/-- An element appears after 5 milliseconds and the document changes after 7. The step would look
again after a quarter of a second, and ends with the change. -/
theorem appeared_with_change :
    let w : World ScriptedPage := .new .standard .standard (.file .absent) .blank
    let button : Incident := ⟨5, .page (.set "#save" [⟨"e1", "button", "Save"⟩])⟩
    let change : Incident := ⟨7, .page (.event ⟨.dom ⟨.childList, "body", "body", none⟩, 0⟩)⟩
    Inevitable Vigil.Goes
      (fun v => v.task.result? = some (.ok (.str "Element appeared")) ∧ v.world.now ≤ 7)
      (Vigil.start w (Step.execute .standard (.waitForElement "#save" (some 1000))).run
        [button, change]) := by
  intro w button change
  -- The button is there from its own time on, with the change and without it.
  have happears : AppearsAt w "#save" 5 [button] [change] := by
    refine ⟨by decide, by decide, fun more hmore => ?_⟩
    rcases List.prefix_cons_iff.mp hmore with rfl | ⟨rest, rfl, hrest⟩
    · decide
    · rw [List.prefix_nil.mp hrest]
      decide
  obtain ⟨-, hprompt, -⟩ := waitForElement_misses_nothing .standard "#save" (some 1000) w
    [button, change] ⟨rfl, rfl, rfl⟩ ⟨by decide, by decide⟩
  refine (hprompt 5 [button] [change] rfl happears (by decide)).imp fun v hv => ?_
  exact ⟨hv.1, hv.2.2.2 change List.mem_cons_self rfl⟩

end PageScript.Rehearsal.Appearance
