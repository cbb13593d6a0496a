import PageScript.Program

/-!
# Exchanges

What is seen of a program from outside: the questions it asks, in order, each with the answer it gets. A program
followed by another one is seen to do first what the one does and then what the other does.
-/

namespace PageScript

/-- A question with its answer. -/
structure Exchange where
  /-- What is asked. -/
  effect : Effect
  /-- The answer. -/
  answer : effect.Answer

namespace Program

variable {α β γ : Type}

/-- A program can come to a value by some exchanges. -/
inductive ComesTo : Program α → List Exchange → α → Prop where
  | done (a : α) : ComesTo (.done a) [] a
  | ask {e : Effect} {next : e.Answer → Program α} {answer : e.Answer} {rest : List Exchange} {a : α}
      (h : ComesTo (next answer) rest a) : ComesTo (.ask e next) (⟨e, answer⟩ :: rest) a
  | await {wait : ElementWait} {next : Except PageError Bool → Program α} {exchanges : List Exchange} {a : α}
      (h : ComesTo (.unfold wait next) exchanges a) : ComesTo (.await wait next) exchanges a

theorem bind_assoc (p : Program α) (f : α → Program β) (g : β → Program γ) :
    (p.bind f).bind g = p.bind fun a => (f a).bind g := by
  induction p with
  | done a => rfl
  | ask e next ih => simp [bind, ih]
  | await wait next ih => simp [bind, ih]

theorem unfold_bind (wait : ElementWait) (next : Except PageError Bool → Program α) (f : α → Program β) :
    (unfold wait next).bind f = unfold wait fun found => (next found).bind f := by
  rw [unfold, unfold, bind_assoc]
  congr 1
  funext r
  cases r <;> rfl

/-- The exchanges of two programs follow one another. -/
theorem ComesTo.bind {p : Program α} {f : α → Program β} {first second : List Exchange} {a : α} {b : β}
    (h : ComesTo p first a) (hf : ComesTo (f a) second b) : ComesTo (p.bind f) (first ++ second) b := by
  induction h with
  | done a => exact hf
  | ask _ ih => exact .ask (ih hf)
  | await _ ih =>
    refine .await ?_
    rw [← unfold_bind]
    exact ih hf

end Program

end PageScript
