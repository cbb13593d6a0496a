/-!
# Arguments

The words a call of the program is made with: one of three modes, its operands, and options, which are given as
`--name value` or `--name=value`.
-/

namespace PageScript

/-- What the program is called for. -/
inductive Mode where
  /-- Drive a page over a socket: on a port, with a script or line by line, with a log file. -/
  | remote (port : Option UInt16) (script log : Option String)
  /-- Read a script without running it. -/
  | check (script : String)
  /-- List the grammar. -/
  | verbs
deriving DecidableEq, Repr

/-- What a call of the program asks for. -/
structure Arguments where
  /-- What is to be done. -/
  mode : Mode
  /-- The configuration file that is named. -/
  config : Option String
deriving DecidableEq, Repr

/-- One argument: a word, or an option with its value. -/
inductive Argument where
  | word (text : String)
  | option (name value : String)
deriving DecidableEq, Repr

namespace Argument

/-- A word that can be the value of an option: it is not empty and looks like no option. -/
def isValue (s : String) : Bool :=
  !s.isEmpty && (s = "-" || !s.startsWith "-")

/-- An option that is written with its value, as a list of characters. -/
def joined? (chars : List Char) : Option Argument :=
  match chars.dropWhile (· ≠ '=') with
  | _ :: value =>
    if value.isEmpty then none
    else some (.option (String.ofList (chars.takeWhile (· ≠ '='))) (String.ofList value))
  | [] => none

/-- Reads words as arguments. After `--` no word is an option. -/
def readAll : List String → Option (List Argument)
  | [] => some []
  | first :: rest =>
    match first.toList with
    | ['-', '-'] => some (rest.map .word)
    | '-' :: '-' :: name =>
      if name.contains '=' then do return (← joined? name) :: (← readAll rest)
      else
        match rest with
        | [] => none
        | value :: rest =>
          if isValue value then do return .option (String.ofList name) value :: (← readAll rest) else none
    | _ => if isValue first then do return .word first :: (← readAll rest) else none

/-- The words among some arguments. -/
def words (arguments : List Argument) : List String :=
  arguments.filterMap fun
    | .word text => some text
    | .option _ _ => none

/-- The options among some arguments. -/
def options (arguments : List Argument) : List (String × String) :=
  arguments.filterMap fun
    | .word _ => none
    | .option name value => some (name, value)

/-- The arguments are options of some names only, each given at most once, and some words. -/
def fit (names : List String) (arguments : List Argument) : Bool :=
  let given := (options arguments).map Prod.fst
  given.all names.contains && given.eraseDups.length == given.length

end Argument

namespace Arguments

/-- Reads a port. -/
def port? (text : String) : Option UInt16 :=
  let digits := if text.startsWith "+" then (text.drop 1).toString else text
  if !digits.isEmpty && digits.all Char.isDigit then
    digits.toNat?.bind fun n => if n < 65536 then some (UInt16.ofNat n) else none
  else none

/-- The mode of a name, with the arguments that follow it. -/
def mode? (name : String) (arguments : List Argument) : Option Mode :=
  let options := Argument.options arguments
  match name, Argument.words arguments with
  | "remote", [] =>
    if Argument.fit ["config", "port", "file", "log-file"] arguments then
      match options.lookup "port" with
      | none => some (.remote none (options.lookup "file") (options.lookup "log-file"))
      | some text =>
        (port? text).map fun port => .remote (some port) (options.lookup "file") (options.lookup "log-file")
    else none
  | "check", [script] => if Argument.fit ["config"] arguments then some (.check script) else none
  | "verbs", [] => if Argument.fit ["config"] arguments then some .verbs else none
  | _, _ => none

/-- Reads the words of a call. The configuration may be named before or after the mode, and counts there. -/
def read? (words : List String) : Option Arguments := do
  let arguments ← Argument.readAll words
  let isOption : Argument → Bool
    | .word _ => false
    | .option _ _ => true
  let first := arguments.takeWhile isOption
  match arguments.dropWhile isOption with
  | .word name :: rest =>
    if Argument.fit ["config"] first then
      let mode ← mode? name rest
      let named := (Argument.options rest).lookup "config"
      return ⟨mode, named.or ((Argument.options first).lookup "config")⟩
    else none
  | _ => none

end Arguments

end PageScript
