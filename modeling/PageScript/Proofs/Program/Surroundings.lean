import PageScript.Proofs.Program.Exchange
import PageScript.Proofs.Transition

/-!
# Surroundings that answer in one way

What a program asks may be answered by surroundings with a state of their own, in which nothing is
left to chance: the page, the observer, the bridge, the stores, the clocks and all that happens
between two questions. In the same surroundings a program always does the same.

* `Surroundings.eq_of_comesTo` — a program comes to one value, by one list of exchanges.
-/

namespace PageScript

open Program

/-- Surroundings that answer in one way. Their state is all that an answer depends on. -/
structure Surroundings (σ : Type) where
  /-- The answer to a question. -/
  answer : σ → (e : Effect) → e.Answer
  /-- The state after a question. -/
  next : σ → Effect → σ

namespace Surroundings

variable {σ α : Type} {S : Surroundings σ} {s t t' : σ} {p : Program α}
  {exchanges exchanges' : List Exchange} {a a' : α}

/-- A question is answered as the surroundings do. -/
def Gives (S : Surroundings σ) (s : σ) (x : Exchange) (t : σ) : Prop :=
  x.answer = S.answer s x.effect ∧ t = S.next s x.effect

/-- There is one way to answer a question, and one state after it. -/
theorem Gives.unique {e : Effect} {answer answer' : e.Answer} (h : S.Gives s ⟨e, answer⟩ t)
    (h' : S.Gives s ⟨e, answer'⟩ t') : answer = answer' ∧ t = t' :=
  ⟨h.1.trans h'.1.symm, h.2.trans h'.2.symm⟩

/-- The surroundings give the answer they have. -/
theorem gives_answer (S : Surroundings σ) (s : σ) (e : Effect) :
    S.Gives s ⟨e, S.answer s e⟩ (S.next s e) :=
  ⟨rfl, rfl⟩

/-- In the same surroundings a program comes to one value, by one list of exchanges, and leaves
the surroundings in one state. -/
theorem eq_of_comesTo (hp : ComesTo p exchanges a) (hs : Steps S.Gives s exchanges t)
    (hp' : ComesTo p exchanges' a') (hs' : Steps S.Gives s exchanges' t') :
    exchanges = exchanges' ∧ a = a' ∧ t = t' := by
  -- The two runs of the program ask the same question, and so get the same answer.
  induction hp generalizing s exchanges' with
  | done a =>
    obtain ⟨rfl, rfl⟩ := comesTo_done_iff.mp hp'
    rw [steps_nil_iff.mp hs, steps_nil_iff.mp hs']
    exact ⟨rfl, rfl, rfl⟩
  | ask _ ih =>
    obtain ⟨answer', rest', rfl, hrest'⟩ := comesTo_ask_iff.mp hp'
    obtain ⟨r, hgives, hsteps⟩ := steps_cons_iff.mp hs
    obtain ⟨r', hgives', hsteps'⟩ := steps_cons_iff.mp hs'
    obtain ⟨rfl, rfl⟩ := hgives.unique hgives'
    obtain ⟨rfl, rfl, rfl⟩ := ih hsteps hrest' hsteps'
    exact ⟨rfl, rfl, rfl⟩
  | await _ ih =>
    cases hp' with
    | await hp' => exact ih hs hp' hs'

end Surroundings

end PageScript
