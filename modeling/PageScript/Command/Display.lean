import PageScript.Command.Basic
import PageScript.Text.Blank

/-!
# The canonical text of a command

The text has no escapes: an argument in quotes that holds a quote does not read back. The record of a command is
the form that loses nothing.
-/

namespace PageScript

/-- A text between double quotes, as it is. -/
def inQuotes (s : String) : String :=
  "\"" ++ s ++ "\""

/-- A selector as one argument: in quotes when it is empty or holds white space. -/
def selectorArgument (s : String) : String :=
  if s.isEmpty || s.toList.any Text.isBlank then inQuotes s else s

namespace Command

/-- An argument that may be absent, after a space. -/
def argument? (write : α → String) : Option α → String
  | none => ""
  | some a => " " ++ write a

/-- The arguments of a command, each after a space. -/
def arguments : Command → String
  | .navto url => " " ++ url
  | .click selector text | .assert selector text =>
    " " ++ selectorArgument selector ++ argument? inQuotes text
  | .type selector value | .setValue selector value =>
    " " ++ selectorArgument selector ++ " " ++ inQuotes value
  | .focus selector | .enable selector | .hover selector => " " ++ selectorArgument selector
  | .assertTextContains selector text => " " ++ selectorArgument selector ++ " " ++ inQuotes text
  | .scroll (some selector) _ _ => " " ++ selectorArgument selector
  | .scroll none (some x) (some y) => " " ++ toString x.toInt ++ " " ++ toString y.toInt
  | .scroll none _ _ => ""
  | .getAttr selector name => " " ++ selectorArgument selector ++ " " ++ name
  | .getStyle selector property => " " ++ selectorArgument selector ++ " " ++ property
  | .wait ms => " " ++ toString ms.toNat
  | .waitForElement selector timeout =>
    " " ++ selectorArgument selector ++ argument? (fun ms => toString ms.toNat) timeout
  | .waitFor condition timeout =>
    " " ++ condition.word ++ argument? (fun ms => toString ms.toNat) timeout
  | .exec script => " " ++ inQuotes script
  | .dialog action promptText => " " ++ action.word ++ argument? inQuotes promptText
  | .resize width height => " " ++ toString width.toNat ++ " " ++ toString height.toNat
  | .changes action => " " ++ action.word
  | .record action => " " ++ action.word
  | .recipe action name => " " ++ action.word ++ " " ++ inQuotes name
  | .message text => " " ++ inQuotes text
  | .showToast text => " " ++ inQuotes text
  | .screenshot | .break => ""

/-- The canonical text of a command. -/
def display (c : Command) : String :=
  c.kind ++ c.arguments

end Command

end PageScript
