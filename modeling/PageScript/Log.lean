import PageScript.Command.Display
import PageScript.Command.Record
import PageScript.File
import PageScript.Json.Printer

/-!
# Execution logs

What the steps of a run came to, and the places where the log of a run is kept: a list of runs, a file with one
line for each entry, and records for tracing.
-/

namespace PageScript

open Record

/-- What a step came to. -/
inductive StepResult where
  | ok (value : Json)
  | error (text : String)
deriving Inhabited

namespace StepResult

/-- The step failed. -/
def isError : StepResult → Bool
  | .ok _ => false
  | .error _ => true

/-- The result as it is shown: a text as it is, any other value as JSON. -/
def text : StepResult → String
  | .ok (.str s) => s
  | .ok value => value.compact
  | .error e => "Error: " ++ e

/-- The record of a result. -/
def toJson : StepResult → Json
  | .ok value => .obj [("ok", value)]
  | .error e => .obj [("error", .str e)]

/-- Reads a result. -/
def decoder : Decoder StepResult :=
  variant [
    ("ok", .holding fun r j => (free r j).map .ok),
    ("error", .holding fun r j => (Record.text r j).map .error)]

end StepResult

/-- A step that was executed, and what it came to. -/
structure LogEntry where
  /-- The command. -/
  command : Command
  /-- What it came to. -/
  result : StepResult
deriving Inhabited

namespace LogEntry

/-- The record of an entry. -/
def toJson (e : LogEntry) : Json :=
  .obj [("command", e.command.toJson), ("result", e.result.toJson)]

/-- Reads an entry. -/
def decoder : Decoder LogEntry :=
  Record.record (.record "ExecutionLogEntry")
    (LogEntry.mk <$> required "command" Command.decoder <*> required "result" StepResult.decoder)

/-- The line of an entry in a log file, with the line feed that ends it. -/
def line (e : LogEntry) : String :=
  e.toJson.compact ++ "\n"

end LogEntry

/-- The log of one run. -/
abbrev RunLog := List LogEntry

namespace RunLog

/-- The lines that a run adds to a log file. -/
def lines (log : RunLog) : String :=
  String.join (log.map LogEntry.line)

/-- Adds a run to a log file, which is made if there is none. -/
def appendTo (file : FileContent) (log : RunLog) : Except FileError FileContent :=
  file.append log.lines

/-- Adds a run to the runs kept in memory. -/
def keepIn (runs : List RunLog) (log : RunLog) : List RunLog :=
  runs ++ [log]

/-- A record for tracing: the number of the step, its command and its result. -/
structure Trace where
  /-- The number of the step, counted from one. -/
  step : Nat
  /-- The canonical text of the command. -/
  command : String
  /-- The result as it is shown. -/
  result : String
deriving DecidableEq, Repr

/-- What tracing records say. -/
def Trace.message : String := "Execution log"

/-- The tracing records of a run, one for each entry. -/
def traces (log : RunLog) : List Trace :=
  log.mapIdx fun i e => ⟨i + 1, e.command.display, e.result.text⟩

end RunLog

end PageScript
