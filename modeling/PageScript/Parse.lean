import PageScript.Grammar.Table
import PageScript.Line
import PageScript.Text.Lines

/-!
# Reading commands

A line of text is brought into normal form, fitted to the rule of its verb, filled into the record of that rule and
read as a command. A script is a sequence of lines.
-/

namespace PageScript

/-- Why a line or value is no command. -/
inductive ParseError where
  | empty
  | unknownVerb (verb : String)
  | malformed (verb input : String)
  | invalidNumber (verb value : String)
  | template (verb reason : String)
  | structured (reason : String)
deriving DecidableEq, Repr

/-- The wording of a parse error. -/
def ParseError.message : ParseError → String
  | .empty => "Empty command"
  | .unknownVerb verb => s!"Unknown command verb '{verb}'"
  | .malformed verb input => s!"Malformed '{verb}' command: {input}"
  | .invalidNumber verb value => s!"Invalid number '{value}' in '{verb}' command"
  | .template verb reason => s!"Command '{verb}' does not fit its record: {reason}"
  | .structured reason => s!"Invalid structured command: {reason}"

namespace Command

/-- Reads a line of text. -/
def parse (input : String) : Except ParseError Command :=
  let line := Line.normalize input
  if line.isEmpty then .error .empty
  else
    let verb := Line.verb line
    match Grammar.ruleFor? verb with
    | none => .error (.unknownVerb verb)
    | some rule =>
      match rule.pattern.assign? line.toList with
      | none => .error (.malformed verb (Text.trimmed input))
      | some values =>
        match rule.fill values with
        | .error value => .error (.invalidNumber verb (String.ofList value))
        | .ok filled =>
          match decoder.run filled with
          | .error failure => .error (.template verb failure.message)
          | .ok command => .ok command

/-- Reads a line, and passes a record on. -/
def ofInput : CommandInput → Except ParseError Command
  | .text line => parse line
  | .structured command => .ok command

/-- Reads a value that is a line or a record. -/
def ofValue (value : Json) : Except ParseError Command :=
  match CommandInput.decoder.run value with
  | .error failure => .error (.structured failure.message)
  | .ok input => ofInput input

end Command

/-- A parse error and the line of the script it is on. -/
structure ScriptError where
  /-- The line, counted from one. -/
  line : Nat
  /-- What is wrong with the line. -/
  error : ParseError
deriving DecidableEq, Repr

/-- The wording of an error in a script. -/
def ScriptError.message (e : ScriptError) : String :=
  s!"line {e.line}: {e.error.message}"

namespace Script

/-- The commands on lines the first of which has a number. Lines without a command are skipped. -/
def parseLines : Nat → List (List Char) → Except ScriptError (List Command)
  | _, [] => .ok []
  | number, line :: rest =>
    if Line.isBlankOrComment line then parseLines (number + 1) rest
    else
      match Command.parse (String.ofList line) with
      | .error e => .error ⟨number, e⟩
      | .ok command => (parseLines (number + 1) rest).map (command :: ·)

/-- The commands of a script, one a line. -/
def parse (script : String) : Except ScriptError (List Command) :=
  parseLines 1 (Text.lines script.toList)

end Script

end PageScript
