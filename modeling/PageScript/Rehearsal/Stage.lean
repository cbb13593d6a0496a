import PageScript.Console
import PageScript.Rehearsal.Operator
import PageScript.Rehearsal.ScriptedPage
import PageScript.Rehearsal.Task

/-!
# Runs on a scripted page

One program at a time runs on a scripted page, with an operator who answers toasts and a timeline of what happens on
the page. At each instant everything goes on that can; then the clock jumps to the next instant. A program that is
not done after an hour of that is given up.
-/

namespace PageScript.Rehearsal

/-- A world with a scripted page, and the operator. -/
structure Stage where
  /-- The world. -/
  world : World ScriptedPage
  /-- The operator. -/
  operator : Operator

/-- Something that happens on the page at an instant. -/
structure Cue where
  /-- The instant. -/
  at_ : Nat
  /-- What happens, in order. -/
  actions : List PageAction

/-- After so many milliseconds a program is given up. -/
def patience : Nat := 3600000

/-- A bound on the number of steps of a program until it is given up. -/
def stepLimit : Nat := 1000000000

namespace Stage

variable {ρ : Type}

/-- Everything goes on that can at this instant: what goes on by itself, the operator and the program. -/
def settle : Nat → Stage → Task ρ → Stage × Task ρ
  | 0, s, t => (s, t)
  | fuel + 1, s, t =>
    match s.world.advance? with
    | some w => settle fuel { s with world := w } t
    | none =>
      match s.operator.step? s.world with
      | some (w, o) => settle fuel ⟨w, o⟩ t
      | none =>
        match t.step? s.world with
        | some (w, t) => settle fuel { s with world := w } t
        | none => (s, t)

/-- What happens on the page by an instant. -/
def play (w : World ScriptedPage) (cues : List Cue) : World ScriptedPage × List Cue :=
  let due := cues.filter fun cue => cue.at_ ≤ w.now
  ((due.flatMap Cue.actions).foldl act w, cues.filter fun cue => w.now < cue.at_)

/-- Runs a program, which is given up at an instant. -/
def runUntil (limit : Nat) : Nat → Stage → List Cue → Task ρ → Stage × Option ρ
  | 0, s, _, _ => (s, none)
  | fuel + 1, s, cues, t =>
    let (s, t) := settle stepLimit s t
    match t.result? with
    | some a => (s, some a)
    | none =>
      let next := earliest ([t.nextTime? s.world, PlayedPage.nextTime? s.world, s.operator.nextTime?]
        ++ cues.map fun cue => some cue.at_)
      match next with
      | some time =>
        if time ≤ limit then
          let (w, cues) := play { s.world with now := max s.world.now time } cues
          runUntil limit fuel { s with world := w } cues t
        else ({ s with world := { t.abandon s.world with now := limit } }, none)
      | none => ({ s with world := { t.abandon s.world with now := limit } }, none)

/-- Runs a program with a timeline that begins with it. Gives nothing if the program was given up. -/
def run (s : Stage) (cues : List Cue) (program : Program ρ) : Stage × Option ρ :=
  let start := s.world.now
  let cues := cues.map fun cue => { cue with at_ := start + cue.at_ }
  runUntil (start + patience) stepLimit s cues ⟨"", program, none⟩

/-- Runs the command of a line that was typed; it is given up at an instant. -/
def submit (config : InterpreterConfig) (limit : Nat) (s : Stage) (command : Command) :
    Stage × Option (List Shown) :=
  match runUntil limit stepLimit s [] ⟨"", Interpreter.run config [command], none⟩ with
  | (s, some report) => (s, some (Shown.ofReport report))
  | (s, none) => (s, none)

/-- A session with an operator who types lines. -/
def repl (config : InterpreterConfig) (exits banner : List String) (stdin : List UInt8) (s : Stage) :
    Session Stage × Bool :=
  let typed := TypedLines.ofBytes stdin
  converse exits (submit config (s.world.now + patience)) typed.fault ⟨s, banner.map .out, none⟩ typed.lines

end Stage

end PageScript.Rehearsal
