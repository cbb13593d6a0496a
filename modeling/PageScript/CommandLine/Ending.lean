import PageScript.Config.Load
import PageScript.Console
import PageScript.Parse

/-!
# Endings

What a call of the program has shown when it ends, and why it failed if it did. A failure names what could not be
done and then its causes, the nearest first.
-/

namespace PageScript

/-- Why a script cannot be run. -/
inductive ScriptFault where
  | unreadable (error : FileError)
  | invalid (error : ScriptError)
deriving DecidableEq, Repr

/-- The wording of a fault of a script. -/
def ScriptFault.message : ScriptFault → String
  | .unreadable error => error.message
  | .invalid error => error.message

/-- Why a call of the program fails. -/
inductive CallError where
  /-- The configuration cannot be loaded, from the file that is named if one is. -/
  | config (named : Option String) (error : ConfigError)
  /-- The script to check cannot be read. -/
  | unreadable (path : String) (error : FileError)
  /-- The script to check has a line that is no command. -/
  | invalid (path : String) (error : ScriptError)
  /-- The port cannot be listened on. -/
  | port (number : UInt16) (reason : String)
  /-- The script to run cannot be run. -/
  | script (path : String) (fault : ScriptFault)
  /-- A line that was typed is no text. -/
  | session (fault : Text.Utf8Fault)
deriving DecidableEq, Repr

namespace CallError

/-- What could not be done. -/
def summary : CallError → String
  | .config none error => error.message
  | .config (some path) _ => "loading config " ++ path
  | .unreadable path _ => "reading " ++ path
  | .invalid path _ => "in " ++ path
  | .port number _ => s!"starting remote server on port {number.toNat}"
  | .script path fault => "executing " ++ path ++ ": " ++ fault.message
  | .session fault => "session failed: " ++ fault.message

/-- The causes, the nearest first. -/
def causes : CallError → List String
  | .config none error => [error.cause]
  | .config (some _) error => [error.message, error.cause]
  | .unreadable _ error => [error.message]
  | .invalid _ error => [error.message, error.error.message]
  | .port _ reason => [reason]
  | .script _ _ => []
  | .session _ => []

/-- The lines for some causes. They are numbered if there are several. -/
def causeLines : List String → List String
  | [] => []
  | [cause] => ["", "Caused by:", "    " ++ cause]
  | causes => "" :: "Caused by:" :: causes.mapIdx fun i cause => s!"    {i}: " ++ cause

/-- The lines that tell of a failure. -/
def lines (e : CallError) : List String :=
  ("Error: " ++ e.summary) :: causeLines e.causes

end CallError

/-- How a call of the program ends. -/
structure Ending where
  /-- What it has shown. -/
  shown : List Shown
  /-- Why it failed, if it did. -/
  error : Option CallError

namespace Ending

/-- The code that is given back. -/
def code (e : Ending) : UInt32 :=
  if e.error.isSome then 1 else 0

/-- All that is shown, the failure included. -/
def all (e : Ending) : List Shown :=
  e.shown ++ ((e.error.map CallError.lines).getD []).map .err

end Ending

end PageScript
