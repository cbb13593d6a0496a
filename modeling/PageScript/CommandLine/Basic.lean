import PageScript.CommandLine.Arguments
import PageScript.CommandLine.Ending
import PageScript.Command.Record
import PageScript.Grammar.Table
import PageScript.Json.Printer

/-!
# The command line

What is shown in each mode of the program, and what it reads for that.
-/

namespace PageScript.CommandLine

/-- The code that is given back when the arguments are not understood. -/
def misuse : UInt32 := 2

/-- What is shown when the arguments are not understood. -/
def usage : List String := [
  "Usage: pagescript [--config FILE] MODE",
  "  remote [--port PORT] [--file SCRIPT] [--log-file FILE]   drive a page in the browser extension",
  "  check SCRIPT                                             read a script without running it",
  "  verbs                                                    list the command grammar"]

/-- The grammar, a rule a line. -/
def verbs : Ending :=
  let verb (rule : Grammar.Rule) : String := String.ofList (rule.verb.toList.rightpad 16 ' ')
  ⟨Grammar.rules.map fun rule => .out (verb rule ++ " " ++ rule.pattern.expression), none⟩

/-- The records of the commands of a script. -/
def check (path : String) (content : FileContent) : Ending :=
  match content.read with
  | .error e => ⟨[], some (.unreadable path e)⟩
  | .ok script =>
    match Script.parse script with
    | .error e => ⟨[], some (.invalid path e)⟩
    | .ok commands =>
      ⟨commands.map (fun c => .out c.toJson.compact) ++ [.err s!"{commands.length} commands OK"], none⟩

/-- The configuration that counts: that of the file named in the call, or else the one that is located. -/
def configFor (look : String → FileContent) (home : String) (located named : Option String) :
    Except CallError Config :=
  match named with
  | some path => (Config.ofFile (look path)).mapError fun e => .config (some path) e
  | none => (Config.locate look home located).mapError fun e => .config none e

/-- What is shown when the program listens on a port. -/
def invitation (port : String) : Shown :=
  .out ("Please connect the browser extension to ws://127.0.0.1:" ++ port)

/-- What a session line by line begins with. -/
def banner : List String := [
  "Enter commands (e.g., 'navto example.com', 'click #submit', 'showtoast \"Continue?\"').",
  "Type 'exit' or 'quit' to close."]

/-- The sign that a line may be typed. -/
def prompt : String := "> "

/-- The words that end a session. -/
def exits : List String := ["exit", "quit"]

/-- What goes to the standard output. -/
def outText : Shown → String
  | .out line => line ++ "\n"
  | .err _ => ""
  | .prompt => prompt

/-- What goes to the standard error. -/
def errText : Shown → String
  | .out _ => ""
  | .err line => line ++ "\n"
  | .prompt => ""

end PageScript.CommandLine
