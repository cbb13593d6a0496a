import PageScript.Interpreter
import PageScript.Program.Exchange

/-!
# What a program asks

The exchanges of a program followed by another one are those of the one and then those of the other,
and there is no other way in which the two can come to a value. What a program can ask at all is
found without running it.

* `Program.comesTo_bind_iff` — a program followed by another one;
* `Program.ComesTo.eq_of_append_eq` — a program comes to one value by given exchanges;
* `Program.ComesTo.only` — a program that only asks for certain things is only seen to ask for them;
* `Program.exists_comesTo` — every program can come to a value.
-/

namespace PageScript

namespace Program

variable {α β : Type}

/-- A program that goes on with nothing is itself. -/
theorem bind_done (p : Program α) : p.bind .done = p := by
  induction p with
  | done a => rfl
  | ask e next ih => simp [bind, ih]
  | await wait next ih => simp [bind, ih]

/-- A program that is done exchanges nothing. -/
theorem comesTo_done_iff {a b : α} {exchanges : List Exchange} :
    ComesTo (.done a) exchanges b ↔ exchanges = [] ∧ b = a := by
  constructor
  · intro h
    cases h
    exact ⟨rfl, rfl⟩
  · rintro ⟨rfl, rfl⟩
    exact .done b

/-- A program that asks has its question answered first. -/
theorem comesTo_ask_iff {e : Effect} {next : e.Answer → Program α} {exchanges : List Exchange}
    {a : α} :
    ComesTo (.ask e next) exchanges a ↔
      ∃ answer rest, exchanges = ⟨e, answer⟩ :: rest ∧ ComesTo (next answer) rest a := by
  constructor
  · intro h
    cases h with
    | ask h => exact ⟨_, _, rfl, h⟩
  · rintro ⟨answer, rest, rfl, h⟩
    exact .ask h

/-- A run of two programs is a run of the first and then one of the second. -/
theorem ComesTo.exists_of_bind {p : Program α} {f : α → Program β} {exchanges : List Exchange}
    {b : β} (h : ComesTo (p.bind f) exchanges b) :
    ∃ first second a, exchanges = first ++ second ∧ ComesTo p first a ∧ ComesTo (f a) second b := by
  generalize hq : p.bind f = q at h
  -- The induction is on what is seen; the first program is followed as far as it goes.
  induction h generalizing p with
  | done b =>
    cases p with
    | done a => exact ⟨[], [], a, rfl, .done a, by rw [show f a = _ from hq]; exact .done b⟩
    | ask e next => cases hq
    | await wait next => cases hq
  | @ask e next answer rest b h ih =>
    cases p with
    | done a => exact ⟨[], _, a, rfl, .done a, by rw [show f a = _ from hq]; exact .ask h⟩
    | ask e' next' =>
      cases hq
      obtain ⟨first, second, a, rfl, hp, hf⟩ := ih rfl
      exact ⟨_ :: first, second, a, rfl, .ask hp, hf⟩
    | await wait next' => cases hq
  | @await wait next exchanges b h ih =>
    cases p with
    | done a => exact ⟨[], _, a, rfl, .done a, by rw [show f a = _ from hq]; exact .await h⟩
    | ask e next' => cases hq
    | await wait' next' =>
      cases hq
      -- A round of the wait is unfolded in front of what follows it.
      obtain ⟨first, second, a, rfl, hp, hf⟩ := ih (unfold_bind wait next' f)
      exact ⟨first, second, a, rfl, .await hp, hf⟩

/-- A program followed by another one does what the one does and then what the other does. -/
theorem comesTo_bind_iff {p : Program α} {f : α → Program β} {exchanges : List Exchange} {b : β} :
    ComesTo (p.bind f) exchanges b ↔
      ∃ first second a, exchanges = first ++ second ∧ ComesTo p first a ∧
        ComesTo (f a) second b := by
  constructor
  · exact ComesTo.exists_of_bind
  · rintro ⟨first, second, a, rfl, hp, hf⟩
    exact hp.bind hf

/-- A program that asks for one thing and makes something of the answer. -/
theorem comesTo_ask_done_iff {e : Effect} {f : e.Answer → α} {exchanges : List Exchange} {a : α} :
    ComesTo (.ask e fun answer => .done (f answer)) exchanges a ↔
      ∃ answer, exchanges = [⟨e, answer⟩] ∧ a = f answer := by
  rw [comesTo_ask_iff]
  constructor
  · rintro ⟨answer, rest, rfl, h⟩
    obtain ⟨rfl, rfl⟩ := comesTo_done_iff.mp h
    exact ⟨answer, rfl, rfl⟩
  · rintro ⟨answer, rfl, rfl⟩
    exact ⟨answer, [], rfl, .done _⟩

/-- A single effect is a single exchange. -/
theorem comesTo_perform_iff {e : Effect} {exchanges : List Exchange} {answer : e.Answer} :
    ComesTo (perform e) exchanges answer ↔ exchanges = [⟨e, answer⟩] := by
  rw [perform, comesTo_ask_done_iff]
  constructor
  · rintro ⟨answer', rfl, rfl⟩
    rfl
  · rintro rfl
    exact ⟨answer, rfl, rfl⟩

/-- One program does not come to two values by the same exchanges, nor by some exchanges and by
more of them. -/
theorem ComesTo.eq_of_append_eq {p : Program α} {first first' more more' : List Exchange} {a a' : α}
    (h : ComesTo p first a) (h' : ComesTo p first' a') (heq : first ++ more = first' ++ more') :
    first = first' ∧ a = a' := by
  -- A program asks the same question after the same exchanges.
  induction h generalizing first' with
  | done a =>
    obtain ⟨rfl, rfl⟩ := comesTo_done_iff.mp h'
    exact ⟨rfl, rfl⟩
  | ask h ih =>
    obtain ⟨answer', rest', rfl, hrest'⟩ := comesTo_ask_iff.mp h'
    rw [List.cons_append, List.cons_append] at heq
    obtain ⟨hx, hmore⟩ := List.cons.inj heq
    cases hx
    obtain ⟨rfl, rfl⟩ := ih hrest' hmore
    exact ⟨rfl, rfl⟩
  | await h ih =>
    cases h' with
    | await h' => exact ih h' heq

/-! ### What can be asked -/

/-- Everything the program can ask for is of a kind. A wait for an element asks for elements, for
the time and for changes of the document. -/
def Only (P : Effect → Prop) : Program α → Prop
  | .done _ => True
  | .ask e next => P e ∧ ∀ answer, Only P (next answer)
  | .await wait next =>
    (P (.page (.queryAll wait.selector)) ∧ P .clock ∧ ∀ cursor ms, P (.awaitChange cursor ms)) ∧
      ∀ found, Only P (next found)

variable {P : Effect → Prop}

/-- Two programs with only some effects have only these together. -/
theorem Only.bind {p : Program α} {f : α → Program β} (hp : Only P p) (hf : ∀ a, Only P (f a)) :
    Only P (p.bind f) := by
  induction p with
  | done a => exact hf a
  | ask e next ih => exact ⟨hp.1, fun answer => ih answer (hp.2 answer)⟩
  | await wait next ih => exact ⟨hp.1, fun found => ih found (hp.2 found)⟩

/-- A program that only performs an effect has that one. -/
theorem only_perform {e : Effect} (h : P e) : Only P (perform e) :=
  ⟨h, fun _ => trivial⟩

/-- A program with only some effects has only more of them. -/
theorem Only.mono {Q : Effect → Prop} {p : Program α} (hp : Only P p) (h : ∀ e, P e → Q e) :
    Only Q p := by
  induction p with
  | done a => exact trivial
  | ask e next ih => exact ⟨h e hp.1, fun answer => ih answer (hp.2 answer)⟩
  | await wait next ih =>
    obtain ⟨⟨hquery, hclock, hchange⟩, hnext⟩ := hp
    exact ⟨⟨h _ hquery, h _ hclock, fun cursor ms => h _ (hchange cursor ms)⟩,
      fun found => ih found (hnext found)⟩

/-- A wait that is unfolded has the effects of the wait. -/
theorem Only.unfold {wait : ElementWait} {next : Except PageError Bool → Program α}
    (h : Only P (.await wait next)) : Only P (unfold wait next) := by
  obtain ⟨⟨hquery, hclock, hchange⟩, hnext⟩ := h
  refine ⟨hquery, fun found => ?_⟩
  match found with
  | .error e => exact hnext (.error e)
  | .ok (_ :: _) => exact hnext (.ok true)
  | .ok [] =>
    refine ⟨hclock, fun (now : Nat) => ?_⟩
    change Only P (Program.bind (if wait.deadline ≤ now then _ else _) _)
    split
    · exact hnext (.ok false)
    · -- The wait that is left is for the same element.
      exact ⟨hchange _ _, fun cursor => ⟨⟨hquery, hclock, hchange⟩, hnext⟩⟩

/-- A program that only asks for things of a kind is only seen to ask for such things. -/
theorem ComesTo.only {p : Program α} {exchanges : List Exchange} {a : α}
    (h : ComesTo p exchanges a) (hp : Only P p) : ∀ x ∈ exchanges, P x.effect := by
  induction h with
  | done a => simp
  | @ask e next answer rest a h ih =>
    intro x hx
    rcases List.mem_cons.mp hx with rfl | hx
    · exact hp.1
    · exact ih (hp.2 answer) x hx
  | await h ih => exact ih hp.unfold

/-! ### Ways to come to a value -/

instance (e : Effect) : Nonempty e.Answer := by
  cases e with
  | page request => exact ⟨.error .notReady⟩
  | toast message options => exact ⟨.error .closed⟩
  | saveRecipe recipe => exact ⟨.ok ()⟩
  | loadRecipe name => exact ⟨.ok none⟩
  | writeImage path bytes => exact ⟨.ok ()⟩
  | flush log => exact ⟨.ok ()⟩
  | claimInstall => exact ⟨false⟩
  | observed => exact ⟨[]⟩
  | wallClock => exact ⟨UInt64.ofNat 0⟩
  | clock => exact ⟨Nat.zero⟩
  | followChanges => exact ⟨Nat.zero⟩
  | awaitChange cursor ms => exact ⟨Nat.zero⟩
  | _ => exact ⟨()⟩

/-- There are answers with which a program comes to a value. -/
theorem exists_comesTo (p : Program α) : ∃ exchanges a, ComesTo p exchanges a := by
  induction p with
  | done a => exact ⟨[], a, .done a⟩
  | ask e next ih =>
    obtain ⟨answer⟩ : Nonempty e.Answer := inferInstance
    obtain ⟨exchanges, a, h⟩ := ih answer
    exact ⟨_, a, .ask h⟩
  | await wait next ih =>
    -- A wait is over when the page fails.
    obtain ⟨exchanges, a, h⟩ := ih (.error .notReady)
    exact ⟨⟨.page (.queryAll wait.selector), .error .notReady⟩ :: exchanges, a, .await (.ask h)⟩

end Program

/-! ### Steps -/

namespace Step

open Program

variable {α β : Type} {P : Effect → Prop}

/-- Two steps run one after the other, and an error of the first one ends them. -/
theorem run_bind (s : Step α) (f : α → Step β) :
    (s >>= f).run = s.run.bind fun
      | .ok a => (f a).run
      | .error e => .done (.error e) := by
  change Program.bind s _ = _
  congr 1
  funext result
  cases result <;> rfl

/-- Two steps with only some effects have only these together. -/
theorem only_bind {s : Step α} {f : α → Step β} (hs : Only P s.run)
    (hf : ∀ a, Only P (f a).run) : Only P (s >>= f).run := by
  rw [run_bind]
  refine hs.bind fun result => ?_
  cases result with
  | ok a => exact hf a
  | error e => exact trivial

/-- A step that only performs an effect has that one. -/
theorem only_perform {e : Effect} (h : P e) : Only P (perform e).run :=
  ⟨h, fun _ => trivial⟩

/-- A call of the page has only that effect. -/
theorem only_page {request : PageRequest} (h : P (.page request)) : Only P (page request).run :=
  ⟨h, fun _ => trivial⟩

end Step

end PageScript
