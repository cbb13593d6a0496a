import PageScript.Log

/-!
# Reports of runs
-/

namespace PageScript

open Record

/-- The state of an interpreter. -/
inductive RunState where
  | idle
  | running
  | completed
  | halted
deriving DecidableEq, Repr, Inhabited

namespace RunState

/-- The word for a state. -/
def word : RunState → String
  | .idle => "idle"
  | .running => "running"
  | .completed => "completed"
  | .halted => "halted"

/-- The states under their words. -/
def words : List (String × RunState) :=
  [.idle, .running, .completed, .halted].map fun state => (state.word, state)

/-- The record of a state. -/
def toJson (s : RunState) : Json :=
  .str s.word

/-- Reads a state. -/
def decoder : Decoder RunState :=
  oneOf words

end RunState

/-- What a run returns: the result of a lone command, or all results. -/
inductive RunOutput where
  | single (result : StepResult)
  | many (results : List StepResult)
deriving Inhabited

namespace RunOutput

/-- The record of an output. -/
def toJson : RunOutput → Json
  | .single result => result.toJson
  | .many results => .arr (results.map StepResult.toJson)

/-- Reads an output. -/
def decoder : Decoder RunOutput :=
  either "RunOutput" (fun r j => (StepResult.decoder r j).map .single)
    (fun r j => (list StepResult.decoder r j).map .many)

/-- The output of a run of a number of commands with a log. -/
def ofLog (submitted : Nat) : RunLog → RunOutput
  | [entry] => if submitted = 1 then .single entry.result else .many [entry.result]
  | log => .many (log.map LogEntry.result)

end RunOutput

/-- What is reported of a run. -/
structure RunReport where
  /-- How the run ended. -/
  status : RunState
  /-- The steps that were executed. -/
  log : RunLog
  /-- What the run returns. -/
  output : RunOutput
deriving Inhabited

/-- The record of a report. -/
def RunReport.toJson (r : RunReport) : Json :=
  .obj [("status", r.status.toJson), ("log", .arr (r.log.map LogEntry.toJson)), ("output", r.output.toJson)]

end PageScript
