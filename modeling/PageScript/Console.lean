import PageScript.Interpreter
import PageScript.Text.Utf8

/-!
# The console

What is shown of runs, and what the lines that an operator types are taken for.
-/

namespace PageScript

/-- What is shown: a line as a result or as an error, or the sign that a line may be typed. -/
inductive Shown where
  | out (line : String)
  | err (line : String)
  | prompt
deriving DecidableEq, Repr

namespace Shown

/-- What is shown of a step. -/
def ofEntry (e : LogEntry) : Shown :=
  let line := s!"{e.command.display} -> {e.result.text}"
  if e.result.isError then .err line else .out line

/-- What is shown of a run. -/
def ofReport (r : RunReport) : List Shown :=
  r.log.map ofEntry ++ (if r.status = .halted then [.err "Run halted"] else [])

/-- What is shown of a line that is no command. -/
def ofParseError (e : ParseError) : Shown :=
  .err ("Error: " ++ e.message)

/-- The sign that a line may be typed. -/
def isPrompt : Shown → Bool
  | .prompt => true
  | _ => false

end Shown

/-- What a line that was typed is taken for. -/
inductive TypedLine where
  /-- A blank line or a comment. -/
  | skip
  /-- A word that ends the session. -/
  | exit
  /-- A command. -/
  | command (command : Command)
  /-- No command. -/
  | invalid (error : ParseError)
deriving DecidableEq, Repr

/-- What a line is taken for, when some words end the session. Comments begin with `#`. -/
def TypedLine.of (exits : List String) (line : String) : TypedLine :=
  let line := Text.trimmed line
  if line.isEmpty || line.startsWith "#" then .skip
  else if exits.contains line then .exit
  else
    match Command.parse line with
    | .ok parsed => .command parsed
    | .error e => .invalid e

/-- The lines that bytes are read as, up to the first that is no text. -/
structure TypedLines where
  /-- The lines. -/
  lines : List String
  /-- Why the line after them is no text, if that ended the reading. -/
  fault : Option Text.Utf8Fault
deriving DecidableEq, Repr

/-- The bytes before the first line feed, and those after it if there is one. -/
def cutLine : List UInt8 → List UInt8 × Option (List UInt8)
  | [] => ([], none)
  | b :: rest =>
    if b = 10 then ([], some rest)
    else
      let (line, after) := cutLine rest
      (b :: line, after)

/-- The lines of some bytes; the fuel bounds their number. -/
def typedLinesFrom : Nat → List UInt8 → TypedLines
  | 0, _ => ⟨[], none⟩
  | _ + 1, [] => ⟨[], none⟩
  | fuel + 1, b :: rest =>
    let (line, after) := cutLine (b :: rest)
    match Text.decodeUtf8 line with
    | .error fault => ⟨[], some fault⟩
    | .ok text =>
      let text := if after.isSome then String.ofList (Text.dropReturn text.toList) else text
      let others := match after with
        | some bytes => typedLinesFrom fuel bytes
        | none => ⟨[], none⟩
      { others with lines := text :: others.lines }

/-- The lines of some bytes. -/
def TypedLines.ofBytes (bytes : List UInt8) : TypedLines :=
  typedLinesFrom (bytes.length + 1) bytes

/-- What a session with an operator came to. -/
structure Session (σ : Type) where
  /-- The state after the session. -/
  state : σ
  /-- What was shown. -/
  shown : List Shown
  /-- Why a line was no text, if that ended the session. -/
  fault : Option Text.Utf8Fault

/-- Goes through lines. `submit` runs the command of a line and says what is shown of the run, or nothing if the
run never ends. -/
def converse (exits : List String) (submit : σ → Command → σ × Option (List Shown)) (fault : Option Text.Utf8Fault)
    (s : Session σ) : List String → Session σ × Bool
  | [] => ({ s with shown := s.shown ++ [.prompt], fault := fault }, true)
  | line :: rest =>
    let s := { s with shown := s.shown ++ [.prompt] }
    match TypedLine.of exits line with
    | .skip => converse exits submit fault s rest
    | .exit => (s, true)
    | .invalid e => converse exits submit fault { s with shown := s.shown ++ [.ofParseError e] } rest
    | .command command =>
      match submit s.state command with
      | (state, none) => ({ s with state := state }, false)
      | (state, some shown) =>
        converse exits submit fault { s with state := state, shown := s.shown ++ shown } rest

end PageScript
