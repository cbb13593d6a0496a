import PageScript.Interpreter
import PageScript.Proofs.Transition
import PageScript.Rehearsal.World

/-!
# Listeners are installed by one call at a time

Any number of calls install the listeners of a page at the same time. A call claims the
installation, asks the page if nobody has claimed it before, and gives the claim up if the page
refuses. Between any two of these steps the other calls take theirs, and a call that waits for the
page may be dropped.

* `Installing.Happens.accounts` — the claim is held by one call, or has been kept for good, or there
  is none;
* `Installing.accounts_of_steps` — so it stays, whatever happens;
* `Installing.installation_is_exclusive` — the page is asked by one call at a time, and no more once
  it has agreed;
* `Installing.installed_at_rest_iff` — whether listeners count as installed when no call is under
  way, and which later calls ask the page.
-/

namespace PageScript.Installing

open Rehearsal

variable {π : Type}

/-- How far a call has come. -/
inductive Call where
  /-- It goes on by itself with what is left of it. -/
  | ready (rest : Program (Except PageError Unit))
  /-- It has asked the page, and goes on with the answer. -/
  | asking (next : Except PageError Unit → Program (Except PageError Unit))
  /-- Nobody waits for it any more. -/
  | dropped

/-- A world, and the calls that have been made in it. -/
structure Moment (π : Type) where
  /-- The world. -/
  world : World π
  /-- The calls, each at its place. -/
  calls : List Call

/-- What happens to the calls. -/
inductive Event where
  /-- A call is made. -/
  | called
  /-- A call does something that the world answers at once. -/
  | performed (place : Nat)
  /-- A call asks the page. -/
  | asked (place : Nat)
  /-- The page answers a call. -/
  | answered (place : Nat) (answer : Except PageError Unit)
  /-- Nobody waits any more for a call that has asked the page. -/
  | dropped (place : Nat)
  /-- Something else happens in the world. -/
  | moved

/-- What can happen. The page answers as it likes, and whatever else happens has nothing to do with
the installation. -/
inductive Happens : Moment π → Event → Moment π → Prop
  | called (x : Moment π) :
      Happens x .called { x with calls := x.calls ++ [.ready Interpreter.install] }
  | performed {x : Moment π} {place : Nat} {e : Effect}
      {next : e.Answer → Program (Except PageError Unit)} {answer : e.Answer} {w : World π}
      (hcall : x.calls[place]? = some (.ready (.ask e next)))
      (h : x.world.perform? e = some (answer, w)) :
      Happens x (.performed place) ⟨w, x.calls.set place (.ready (next answer))⟩
  | asked {x : Moment π} {place : Nat}
      {next : Except PageError Unit → Program (Except PageError Unit)}
      (hcall : x.calls[place]? = some (.ready (.ask (.page .installListeners) next))) :
      Happens x (.asked place) { x with calls := x.calls.set place (.asking next) }
  | answered {x : Moment π} {place : Nat}
      {next : Except PageError Unit → Program (Except PageError Unit)}
      (hcall : x.calls[place]? = some (.asking next)) (answer : Except PageError Unit) :
      Happens x (.answered place answer)
        { x with calls := x.calls.set place (.ready (next answer)) }
  | dropped {x : Moment π} {place : Nat}
      {next : Except PageError Unit → Program (Except PageError Unit)}
      (hcall : x.calls[place]? = some (.asking next)) :
      Happens x (.dropped place) { x with calls := x.calls.set place .dropped }
  | moved {x : Moment π} {w : World π}
      (h : w.observer.installed = x.world.observer.installed) :
      Happens x .moved { x with world := w }

variable {x y : Moment π} {e : Event} {events before after : List Event} {place kept : Nat}
  {c : Call}

/-! ### Where a call stands -/

/-- What a call does when the page has answered. -/
def afterAnswer : Except PageError Unit → Program (Except PageError Unit)
  | .ok _ => .done (.ok ())
  | .error e => .ask .releaseInstall fun _ => .done (.error e)

/-- What a call does when it has claimed the installation. -/
def afterClaim (new : Bool) : Program (Except PageError Unit) :=
  if new then .ask (.page .installListeners) afterAnswer else .done (.ok ())

/-- To install the listeners is to claim the installation, and to ask only with the claim. -/
theorem install_eq : Interpreter.install = .ask .claimInstall afterClaim := by
  have hafter : (fun answer : Except PageError Unit => (Program.done answer).bind fun answer =>
      match answer with
      | .ok _ => Program.done (.ok ())
      | .error e => (Program.perform .releaseInstall).bind fun _ => .done (.error e)) =
        afterAnswer := by
    funext answer
    cases answer <;> rfl
  refine congrArg (Program.ask .claimInstall) (funext fun (new : Bool) => ?_)
  cases new with
  | false => rfl
  | true => exact congrArg (Program.ask (.page .installListeners)) hafter

/-- The places at which a call can stand. -/
inductive Call.Stands : Call → Prop
  | waiting : Stands (.ready (.ask .claimInstall afterClaim))
  | claimed : Stands (.ready (.ask (.page .installListeners) afterAnswer))
  | asking : Stands (.asking afterAnswer)
  | refused (e : PageError) : Stands (.ready (.ask .releaseInstall fun _ => .done (.error e)))
  | done (answer : Except PageError Unit) : Stands (.ready (.done answer))
  | dropped : Stands .dropped

/-- The call has a claim that it may give up. -/
def Call.holds : Call → Bool
  | .ready (.ask (.page .installListeners) _) => true
  | .ready (.ask .releaseInstall _) => true
  | .asking _ => true
  | _ => false

/-- The call has asked the page, which has not answered. -/
def Call.isAsking : Call → Bool
  | .asking _ => true
  | _ => false

/-- The number of calls with a claim that they may give up. -/
def Moment.holders (x : Moment π) : Nat :=
  x.calls.countP Call.holds

/-- The number of calls of the page that are in flight. -/
def Moment.inFlight (x : Moment π) : Nat :=
  x.calls.countP Call.isAsking

/-- Listeners are installed, as far as the observer knows. -/
def Moment.isInstalled (x : Moment π) : Bool :=
  x.world.observer.installed

/-- A claim is kept for good: the page agrees, or nobody is left who would give the claim up. -/
def Event.keeps : Event → Bool
  | .answered _ (.ok _) => true
  | .dropped _ => true
  | _ => false

/-- A call that is in flight has a claim. -/
theorem Moment.inFlight_le_holders (x : Moment π) : x.inFlight ≤ x.holders := by
  refine List.countP_mono_left fun c _ hasking => ?_
  cases c with
  | asking next => rfl
  | _ => cases hasking

/-- A call that goes on may gain or lose what is counted. -/
theorem countP_set_add {calls : List Call} (p : Call → Bool) (h : calls[place]? = some c)
    (d : Call) :
    (calls.set place d).countP p + (p c).toNat = calls.countP p + (p d).toNat := by
  obtain ⟨hlt, rfl⟩ := List.getElem?_eq_some_iff.mp h
  have hle : (p calls[place]).toNat ≤ calls.countP p := by
    cases hp : p calls[place] with
    | false => exact Nat.zero_le _
    | true => exact List.countP_pos_iff.mpr ⟨_, List.getElem_mem hlt, hp⟩
  rw [List.countP_set hlt]
  generalize p calls[place] = held at hle ⊢
  cases held <;> cases p d <;>
    simp only [Bool.toNat_true, Bool.toNat_false, Bool.false_eq_true, if_true, if_false]
      at hle ⊢ <;>
    omega

/-! ### Claims -/

/-- The calls stand where they can, and the installation is claimed just once, by a call or for
good, or not at all. -/
structure Accounts (kept : Nat) (x : Moment π) : Prop where
  stands : ∀ c ∈ x.calls, c.Stands
  claims_eq : x.holders + kept = x.isInstalled.toNat

/-- Before there are calls the installation is claimed for good or not at all. -/
theorem accounts_of_no_calls (w : World π) :
    Accounts w.observer.installed.toNat ⟨w, []⟩ :=
  ⟨List.forall_mem_nil _, Nat.zero_add _⟩

/-- A call that goes on stands at a place again, and its claim is accounted for. -/
theorem Accounts.set (hx : Accounts kept x) {w : World π} {d : Call} {more : Nat}
    (hcall : x.calls[place]? = some c) (hd : d.Stands)
    (hclaim : d.holds.toNat + more + x.isInstalled.toNat =
      c.holds.toNat + w.observer.installed.toNat) :
    Accounts (kept + more) ⟨w, x.calls.set place d⟩ where
  stands := fun c' hc' => (List.mem_or_eq_of_mem_set hc').elim (hx.stands c') fun h => h ▸ hd
  claims_eq := by
    have hcount := countP_set_add Call.holds hcall d
    have hclaims := hx.claims_eq
    rw [Moment.holders] at hclaims
    show (x.calls.set place d).countP Call.holds + (kept + more) = w.observer.installed.toNat
    omega

/-- Whatever happens, the installation is claimed at most once. -/
theorem Happens.accounts (h : Happens x e y) (hx : Accounts kept x) :
    Accounts (kept + e.keeps.toNat) y := by
  cases h with
  | called =>
    refine ⟨?_, ?_⟩
    · refine List.forall_mem_append.mpr ⟨hx.stands, List.forall_mem_singleton.mpr ?_⟩
      rw [install_eq]
      exact .waiting
    · rw [Moment.holders, List.countP_append, install_eq]
      exact hx.claims_eq
  | @performed place effect next answer w hcall h =>
    have hstands := hx.stands _ (List.mem_of_getElem? hcall)
    cases hstands with
    | waiting =>
      -- The claim is new unless there is one.
      obtain ⟨rfl, rfl⟩ := Prod.mk.inj (Option.some.inj h)
      rw [show x.world.observer.claimInstall.2 = !x.world.observer.installed from rfl]
      cases hinstalled : x.world.observer.installed with
      | false =>
        refine hx.set hcall .claimed ?_
        rw [Moment.isInstalled, hinstalled]
        rfl
      | true =>
        refine hx.set hcall (.done _) ?_
        rw [Moment.isInstalled, hinstalled]
        rfl
    | claimed => cases h
    | refused e =>
      obtain ⟨rfl, rfl⟩ := Prod.mk.inj (Option.some.inj h)
      refine hx.set hcall (.done _) ?_
      -- A call that can give the claim up has it.
      have hholds : 0 < x.holders :=
        List.countP_pos_iff.mpr ⟨_, List.mem_of_getElem? hcall, rfl⟩
      have hclaims := hx.claims_eq
      cases hinstalled : x.isInstalled with
      | false =>
        rw [hinstalled, Bool.toNat_false] at hclaims
        omega
      | true => rfl
  | @asked place next hcall =>
    have hstands := hx.stands _ (List.mem_of_getElem? hcall)
    cases hstands
    exact hx.set hcall .asking rfl
  | @answered place next hcall answer =>
    have hstands := hx.stands _ (List.mem_of_getElem? hcall)
    cases hstands
    cases answer with
    | ok _ => exact hx.set hcall (.done _) rfl
    | error e => exact hx.set hcall (.refused e) rfl
  | @dropped place next hcall => exact hx.set hcall .dropped rfl
  | @moved w h =>
    exact ⟨hx.stands, hx.claims_eq.trans (congrArg Bool.toNat h.symm)⟩

/-- After any events the installation is claimed by as many as have kept or hold it. -/
theorem accounts_of_steps (h : Steps Happens x events y) (hx : Accounts kept x) :
    Accounts (kept + events.countP Event.keeps) y := by
  induction h generalizing kept with
  | nil => exact hx
  | @cons x r y e events h _ ih =>
    have hy := ih (h.accounts hx)
    rw [Nat.add_assoc] at hy
    rw [List.countP_cons, Nat.add_comm (events.countP Event.keeps)]
    generalize e.keeps = keeps at hy ⊢
    cases keeps <;> exact hy

/-! ### Calls in flight -/

/-- At most one call has the claim. -/
theorem Accounts.holders_le (hx : Accounts kept x) : x.holders ≤ 1 := by
  have hclaims := hx.claims_eq
  have hone := Bool.toNat_le x.isInstalled
  omega

/-- A claim that has been kept is not given up, and nobody else has one. -/
theorem Accounts.of_pos (hx : Accounts kept x) (h : 0 < kept) :
    x.holders = 0 ∧ x.isInstalled = true := by
  have hclaims := hx.claims_eq
  have hone := Bool.toNat_le x.isInstalled
  refine ⟨by omega, ?_⟩
  cases hinstalled : x.isInstalled with
  | false =>
    rw [hinstalled, Bool.toNat_false] at hclaims
    omega
  | true => rfl

/-- Only a call that has a claim asks the page. -/
theorem Happens.holders_pos (h : Happens x (.asked place) y) : 0 < x.holders := by
  cases h with
  | asked hcall => exact List.countP_pos_iff.mpr ⟨_, List.mem_of_getElem? hcall, rfl⟩

/-- Any number of calls install the listeners of a page at the same time, and the page agrees,
refuses or is given up as it may be. At any time at most one call of the page is in flight. Once the
page has agreed it is not asked again, and listeners count as installed from then on. -/
theorem installation_is_exclusive {w : World π} (h : Steps Happens ⟨w, []⟩ events x) :
    x.inFlight ≤ 1 ∧
      ∀ before place after, events = before ++ .answered place (.ok ()) :: after →
        (∀ other, .asked other ∉ after) ∧ x.isInstalled = true := by
  have haccounts := accounts_of_steps h (accounts_of_no_calls w)
  refine ⟨Nat.le_trans x.inFlight_le_holders haccounts.holders_le, ?_⟩
  rintro before place after rfl
  refine ⟨fun other hother => ?_, ?_⟩
  · -- The call that asks the page would have a claim besides the one that has been kept.
    obtain ⟨since, later, rfl⟩ := List.append_of_mem hother
    rw [← List.cons_append, ← List.append_assoc] at h
    obtain ⟨y, hbefore, hafter⟩ := steps_append_iff.mp h
    obtain ⟨z, hasked, -⟩ := steps_cons_iff.mp hafter
    have hpos : 0 < (before ++ .answered place (.ok ()) :: since).countP Event.keeps :=
      List.countP_pos_iff.mpr ⟨.answered place (.ok ()), by simp, rfl⟩
    have hnone := ((accounts_of_steps hbefore (accounts_of_no_calls w)).of_pos (by omega)).1
    have hholds := hasked.holders_pos
    omega
  · have hpos : 0 < (before ++ .answered place (.ok ()) :: after).countP Event.keeps :=
      List.countP_pos_iff.mpr ⟨.answered place (.ok ()), by simp, rfl⟩
    exact (haccounts.of_pos (by omega)).2

/-- A call that is made when listeners do not count as installed claims the installation and asks the
page. -/
theorem steps_asked (h : x.isInstalled = false) :
    Steps Happens x [.called, .performed x.calls.length, .asked x.calls.length]
      ⟨x.world.observing fun o => o.claimInstall.1, x.calls ++ [.asking afterAnswer]⟩ := by
  have hset : ∀ c d : Call, (x.calls ++ [c]).set x.calls.length d = x.calls ++ [d] := by
    intro c d
    rw [List.set_append_right _ _ (Nat.le_refl _), Nat.sub_self, List.set_cons_zero]
  have hlast : ∀ c : Call, (x.calls ++ [c])[x.calls.length]? = some c := by
    intro c
    rw [List.getElem?_append_right (Nat.le_refl _), Nat.sub_self, List.getElem?_cons_zero]
  have hcalled : Happens x .called
      ⟨x.world, x.calls ++ [.ready (.ask .claimInstall afterClaim)]⟩ :=
    install_eq ▸ .called x
  -- Nobody has the claim, so the call gets it and goes on to the page.
  have hclaim : afterClaim x.world.observer.claimInstall.2 =
      .ask (.page .installListeners) afterAnswer := by
    rw [show x.world.observer.claimInstall.2 = !x.isInstalled from rfl, h]
    rfl
  have hperformed : Happens ⟨x.world, x.calls ++ [.ready (.ask .claimInstall afterClaim)]⟩
      (.performed x.calls.length) ⟨x.world.observing fun o => o.claimInstall.1,
        x.calls ++ [.ready (.ask (.page .installListeners) afterAnswer)]⟩ := by
    have hclaimed : x.world.perform? .claimInstall =
        some (x.world.observer.claimInstall.2, x.world.observing fun o => o.claimInstall.1) := rfl
    have hstep := Happens.performed
      (x := ⟨x.world, x.calls ++ [.ready (.ask .claimInstall afterClaim)]⟩) (hlast _) hclaimed
    rwa [hset, hclaim] at hstep
  have hasked : Happens
      ⟨x.world.observing fun o => o.claimInstall.1,
        x.calls ++ [.ready (.ask (.page .installListeners) afterAnswer)]⟩
      (.asked x.calls.length)
      ⟨x.world.observing fun o => o.claimInstall.1, x.calls ++ [.asking afterAnswer]⟩ := by
    have hstep := Happens.asked (x := ⟨x.world.observing fun o => o.claimInstall.1,
      x.calls ++ [.ready (.ask (.page .installListeners) afterAnswer)]⟩) (hlast _)
    rwa [hset] at hstep
  exact .cons hcalled (.cons hperformed (.cons hasked (.nil _)))

/-- A new world in which listeners count as installed or do not, and some calls in it. -/
def freshMoment (installed : Bool) (calls : List Call) : Moment Unit where
  world := (World.new .standard .standard (.file .absent) ()).observing fun o =>
    { o with installed := installed }
  calls := calls

/-- A call that is made when listeners count as installed comes to its end. -/
private theorem happens_claimed {calls calls' : List Call} {place : Nat}
    (hcall : calls[place]? = some (.ready Interpreter.install))
    (hset : calls.set place (.ready (.done (.ok ()))) = calls') :
    Happens (freshMoment true calls) (.performed place) (freshMoment true calls') := by
  have hclaimed : (freshMoment true calls).world.perform? .claimInstall =
      some (false, (freshMoment true calls).world) := rfl
  rw [install_eq] at hcall
  exact hset ▸ .performed (x := freshMoment true calls) hcall hclaimed

/-- The page refuses the first call, which gives its claim up. -/
private theorem steps_refused :
    Steps Happens (freshMoment false [])
      [.called, .performed 0, .asked 0, .answered 0 (.error .notReady), .performed 0]
      (freshMoment false [.ready (.done (.error .notReady))]) := by
  have hasked : Steps Happens (freshMoment false []) [.called, .performed 0, .asked 0]
      (freshMoment true [.asking afterAnswer]) :=
    steps_asked rfl
  have hanswered : Happens (freshMoment true [.asking afterAnswer])
      (.answered 0 (.error .notReady))
      (freshMoment true [.ready (afterAnswer (.error .notReady))]) :=
    .answered rfl _
  have hreleased : Happens (freshMoment true [.ready (afterAnswer (.error .notReady))])
      (.performed 0) (freshMoment false [.ready (.done (.error .notReady))]) := by
    have hcall : (freshMoment true [.ready (afterAnswer (.error .notReady))]).calls[0]? =
        some (.ready (.ask .releaseInstall fun _ => .done (.error .notReady))) := rfl
    have hreleased : (freshMoment true [.ready (afterAnswer (.error .notReady))]).world.perform?
        .releaseInstall = some ((), (freshMoment false []).world) := rfl
    exact .performed hcall hreleased
  exact hasked.append (.cons hanswered (.cons hreleased (.nil _)))

/-- The page refuses a call. It is asked again by the next one and agrees, and is not asked by the
one after that. -/
theorem installed_by_second_call :
    ∃ x : Moment Unit,
      Steps Happens ⟨.new .standard .standard (.file .absent) (), []⟩
        ([.called, .performed 0, .asked 0, .answered 0 (.error .notReady), .performed 0,
          .called, .performed 1, .asked 1] ++
          .answered 1 (.ok ()) :: [.called, .performed 2]) x ∧
      x.inFlight ≤ 1 ∧ (∀ other, Event.asked other ∉ [.called, .performed 2]) ∧
      x.isInstalled = true := by
  have hasked : Steps Happens (freshMoment false [.ready (.done (.error .notReady))])
      [.called, .performed 1, .asked 1]
      (freshMoment true [.ready (.done (.error .notReady)), .asking afterAnswer]) :=
    steps_asked rfl
  have hanswered : Happens
      (freshMoment true [.ready (.done (.error .notReady)), .asking afterAnswer])
      (.answered 1 (.ok ()))
      (freshMoment true [.ready (.done (.error .notReady)), .ready (afterAnswer (.ok ()))]) :=
    .answered rfl _
  have hcalled : Happens
      (freshMoment true [.ready (.done (.error .notReady)), .ready (afterAnswer (.ok ()))]) .called
      (freshMoment true [.ready (.done (.error .notReady)), .ready (afterAnswer (.ok ())),
        .ready Interpreter.install]) :=
    .called _
  -- Listeners count as installed, so the third call has nothing to ask.
  have hperformed : Happens
      (freshMoment true [.ready (.done (.error .notReady)), .ready (afterAnswer (.ok ())),
        .ready Interpreter.install])
      (.performed 2)
      (freshMoment true [.ready (.done (.error .notReady)), .ready (afterAnswer (.ok ())),
        .ready (.done (.ok ()))]) :=
    happens_claimed rfl rfl
  have h := (steps_refused.append hasked).append
    (.cons hanswered (.cons hcalled (.cons hperformed (.nil _))))
  have hexclusive := installation_is_exclusive h
  exact ⟨_, h, hexclusive.1, hexclusive.2 _ 1 _ rfl⟩

/-! ### No call under way -/

/-- The call has come to its end, or nobody waits for it any more. -/
def Call.isOver : Call → Bool
  | .ready (.done _) => true
  | .dropped => true
  | _ => false

/-- No call is under way. -/
def Moment.AtRest (x : Moment π) : Prop :=
  ∀ c ∈ x.calls, c.isOver = true

/-- A call that is over has no claim that it may give up. -/
theorem Call.holds_of_isOver {c : Call} (h : c.isOver = true) : c.holds = false := by
  cases c with
  | ready rest =>
    cases rest with
    | done answer => rfl
    | ask e next => cases h
    | await wait next => cases h
  | asking next => cases h
  | dropped => rfl

/-- Where all calls are at rest none has the claim. -/
theorem Moment.AtRest.holders_eq_zero (h : x.AtRest) : x.holders = 0 := by
  refine List.countP_eq_zero.mpr fun c hc => ?_
  rw [Call.holds_of_isOver (h c hc)]
  exact Bool.false_ne_true

/-- The claim is kept for good by an installation that succeeds and by one that is dropped. -/
private theorem Event.keeps_iff :
    e.keeps = true ↔ (∃ place, e = .answered place (.ok ())) ∨ ∃ place, e = .dropped place := by
  cases e with
  | answered place answer => cases answer <;> simp [keeps]
  | _ => simp [keeps]

/-- The claim has been kept for good if the page has agreed or nobody was left to give it up. -/
theorem countP_keeps_pos_iff :
    0 < events.countP Event.keeps ↔
      (∃ place, .answered place (.ok ()) ∈ events) ∨ ∃ place, .dropped place ∈ events := by
  simp only [List.countP_pos_iff, Event.keeps_iff]
  constructor
  · rintro ⟨e, he, ⟨place, rfl⟩ | ⟨place, rfl⟩⟩
    · exact .inl ⟨place, he⟩
    · exact .inr ⟨place, he⟩
  · rintro (⟨place, he⟩ | ⟨place, he⟩)
    · exact ⟨_, he, .inl ⟨place, rfl⟩⟩
    · exact ⟨_, he, .inr ⟨place, rfl⟩⟩

/-- What is left of the claims when no call is under way is what has been kept for good. -/
theorem Accounts.isInstalled_iff (hx : Accounts kept x) (h : x.AtRest) :
    x.isInstalled = true ↔ 0 < kept := by
  have hclaims := hx.claims_eq
  rw [h.holders_eq_zero, Nat.zero_add] at hclaims
  rw [hclaims]
  cases x.isInstalled <;> decide

/-- Once a claim has been kept for good, no call asks the page. -/
theorem Accounts.not_asked (hx : Accounts kept x) (hkept : 0 < kept)
    (h : Steps Happens x events y) (place : Nat) : .asked place ∉ events := by
  intro hplace
  obtain ⟨before, after, rfl⟩ := List.append_of_mem hplace
  obtain ⟨r, hbefore, hafter⟩ := steps_append_iff.mp h
  obtain ⟨z, hasked, -⟩ := steps_cons_iff.mp hafter
  -- The call that asks the page would have a claim besides the one that has been kept.
  have hnone := ((accounts_of_steps hbefore hx).of_pos (by omega)).1
  have hholds := hasked.holders_pos
  omega

/-- Calls install the listeners of a page that a new observer follows, and the page agrees, refuses
or is given up as it may be. When no call is under way, listeners count as installed if the page has
agreed, and also if a call was given up while it waited for the page. If they do not, the next call
asks the page; but after a call that was given up no call ever asks it again. -/
theorem installed_at_rest_iff {w : World π} (hw : w.observer.installed = false)
    (h : Steps Happens ⟨w, []⟩ events x) (hrest : x.AtRest) :
    (x.isInstalled = true ↔
      (∃ place, .answered place (.ok ()) ∈ events) ∨ ∃ place, .dropped place ∈ events) ∧
    (x.isInstalled = false → ∃ y, Steps Happens x
      [.called, .performed x.calls.length, .asked x.calls.length] y) ∧
    ((∃ place, .dropped place ∈ events) → ∀ later y, Steps Happens x later y →
      y.isInstalled = true ∧ ∀ place, .asked place ∉ later) := by
  have haccounts := accounts_of_steps h (accounts_of_no_calls w)
  rw [hw, Bool.toNat_false, Nat.zero_add] at haccounts
  refine ⟨?_, fun hnot => ⟨_, steps_asked hnot⟩, fun hdropped later y hlater => ?_⟩
  · rw [haccounts.isInstalled_iff hrest, countP_keeps_pos_iff]
  · have hkept := countP_keeps_pos_iff.mpr (.inr hdropped)
    refine ⟨?_, haccounts.not_asked hkept hlater⟩
    exact ((accounts_of_steps hlater haccounts).of_pos (by omega)).2

/-- The page refuses a call, another one is given up, and no call asks the page after that. -/
theorem installed_at_rest_iff_dropped :
    ∃ x : Moment Unit,
      Steps Happens ⟨.new .standard .standard (.file .absent) (), []⟩
        [.called, .performed 0, .asked 0, .answered 0 (.error .notReady), .performed 0,
          .called, .performed 1, .asked 1, .dropped 1] x ∧
      x.AtRest ∧ x.isInstalled = true ∧
      ∀ later y, Steps Happens x later y → ∀ place, .asked place ∉ later := by
  -- The first call has given its claim up, so the second one gets it.
  have hasked : Steps Happens (freshMoment false [.ready (.done (.error .notReady))])
      [.called, .performed 1, .asked 1]
      (freshMoment true [.ready (.done (.error .notReady)), .asking afterAnswer]) :=
    steps_asked rfl
  have hgiven : Happens (freshMoment true [.ready (.done (.error .notReady)), .asking afterAnswer])
      (.dropped 1) (freshMoment true [.ready (.done (.error .notReady)), .dropped]) :=
    .dropped rfl
  have h := steps_refused.append (hasked.append (.cons hgiven (.nil _)))
  have hrest : (freshMoment true [.ready (.done (.error .notReady)), .dropped]).AtRest :=
    List.forall_mem_cons.mpr ⟨rfl, List.forall_mem_singleton.mpr rfl⟩
  obtain ⟨hiff, -, hnever⟩ := installed_at_rest_iff rfl h hrest
  have hdropped : ∃ place, Event.dropped place ∈
      [.called, .performed 0, .asked 0, .answered 0 (.error .notReady), .performed 0,
        .called, .performed 1, .asked 1, .dropped 1] := ⟨1, by simp⟩
  exact ⟨_, h, hrest, hiff.mpr (.inr hdropped),
    fun later y hlater => (hnever hdropped later y hlater).2⟩

/-- A call that is given up while it waits for the page leaves its claim behind. No call is under
way then and the page has not agreed, and yet listeners count as installed: the next call comes to
its end without asking the page. -/
theorem installed_after_dropped :
    ∃ x y : Moment Unit,
      Steps Happens ⟨.new .standard .standard (.file .absent) (), []⟩
        [.called, .performed 0, .asked 0, .dropped 0] x ∧
      (∀ place, .answered place (.ok ()) ∉
        ([.called, .performed 0, .asked 0, .dropped 0] : List Event)) ∧
      x.AtRest ∧ x.isInstalled = true ∧
      Steps Happens x [.called, .performed 1] y ∧
      y.calls = [.dropped, .ready (.done (.ok ()))] := by
  have hasked : Steps Happens (freshMoment false []) [.called, .performed 0, .asked 0]
      (freshMoment true [.asking afterAnswer]) :=
    steps_asked rfl
  have hgiven : Happens (freshMoment true [.asking afterAnswer]) (.dropped 0)
      (freshMoment true [.dropped]) :=
    .dropped rfl
  have hcalled : Happens (freshMoment true [.dropped]) .called
      (freshMoment true [.dropped, .ready Interpreter.install]) :=
    .called _
  have hperformed : Happens (freshMoment true [.dropped, .ready Interpreter.install])
      (.performed 1) (freshMoment true [.dropped, .ready (.done (.ok ()))]) :=
    happens_claimed rfl rfl
  exact ⟨_, _, hasked.append (.cons hgiven (.nil _)), fun place => by simp,
    List.forall_mem_singleton.mpr rfl, rfl, .cons hcalled (.cons hperformed (.nil _)), rfl⟩

end PageScript.Installing
