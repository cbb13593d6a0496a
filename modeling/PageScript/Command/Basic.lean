/-!
# Commands

One instruction to a page, with its arguments. The set of kinds is closed.
-/

namespace PageScript

/-- What a `waitfor` step waits for. -/
inductive WaitCondition where
  | quiet
  | network
deriving DecidableEq, Repr, Inhabited

/-- How a dialog of the page is answered. -/
inductive DialogAction where
  | accept
  | dismiss
deriving DecidableEq, Repr, Inhabited

/-- What is done with the log of page activity. -/
inductive ChangesAction where
  | on
  | off
  | clear
  | request
deriving DecidableEq, Repr, Inhabited

/-- The beginning or the end of a recording. -/
inductive RecordAction where
  | start
  | stop
deriving DecidableEq, Repr, Inhabited

/-- What is done with a recipe of a name. -/
inductive RecipeAction where
  | save
  | load
deriving DecidableEq, Repr, Inhabited

/-- One instruction to a page. -/
inductive Command where
  | navto (url : String)
  | click (selector : String) (text : Option String)
  | type (selector value : String)
  | setValue (selector value : String)
  | focus (selector : String)
  | enable (selector : String)
  | hover (selector : String)
  | scroll (selector : Option String) (x y : Option Int64)
  | getAttr (selector name : String)
  | getStyle (selector property : String)
  | wait (ms : UInt64)
  | waitForElement (selector : String) (timeout : Option UInt64)
  | waitFor (condition : WaitCondition) (timeout : Option UInt64)
  | exec (script : String)
  | screenshot
  | dialog (action : DialogAction) (promptText : Option String)
  | resize (width height : UInt32)
  | changes (action : ChangesAction)
  | record (action : RecordAction)
  | recipe (action : RecipeAction) (name : String)
  | message (text : String)
  | showToast (text : String)
  | assert (selector : String) (text : Option String)
  | assertTextContains (selector text : String)
  | break
deriving DecidableEq, Repr, Inhabited

/-- The word for a wait condition. -/
def WaitCondition.word : WaitCondition → String
  | .quiet => "quiet"
  | .network => "network"

/-- The wait conditions under their words. -/
def WaitCondition.words : List (String × WaitCondition) :=
  [.quiet, .network].map fun condition => (condition.word, condition)

/-- The word for an answer to a dialog. -/
def DialogAction.word : DialogAction → String
  | .accept => "accept"
  | .dismiss => "dismiss"

/-- The answers to a dialog under their words. -/
def DialogAction.words : List (String × DialogAction) :=
  [.accept, .dismiss].map fun action => (action.word, action)

/-- The word for an operation on the activity log. -/
def ChangesAction.word : ChangesAction → String
  | .on => "on"
  | .off => "off"
  | .clear => "clear"
  | .request => "request"

/-- The operations on the activity log under their words. -/
def ChangesAction.words : List (String × ChangesAction) :=
  [.on, .off, .clear, .request].map fun action => (action.word, action)

/-- The word for the beginning or the end of a recording. -/
def RecordAction.word : RecordAction → String
  | .start => "start"
  | .stop => "stop"

/-- The ends of a recording under their words. -/
def RecordAction.words : List (String × RecordAction) :=
  [.start, .stop].map fun action => (action.word, action)

/-- The word for an operation on recipes. -/
def RecipeAction.word : RecipeAction → String
  | .save => "save"
  | .load => "load"

/-- The operations on recipes under their words. -/
def RecipeAction.words : List (String × RecipeAction) :=
  [.save, .load].map fun action => (action.word, action)

namespace Command

/-- The kind of a command, which is also its verb. -/
def kind : Command → String
  | .navto _ => "navto"
  | .click _ _ => "click"
  | .type _ _ => "type"
  | .setValue _ _ => "setvalue"
  | .focus _ => "focus"
  | .enable _ => "enable"
  | .hover _ => "hover"
  | .scroll _ _ _ => "scroll"
  | .getAttr _ _ => "getattr"
  | .getStyle _ _ => "getstyle"
  | .wait _ => "wait"
  | .waitForElement _ _ => "waitforelement"
  | .waitFor _ _ => "waitfor"
  | .exec _ => "exec"
  | .screenshot => "screenshot"
  | .dialog _ _ => "dialog"
  | .resize _ _ => "resize"
  | .changes _ => "changes"
  | .record _ => "record"
  | .recipe _ _ => "recipe"
  | .message _ => "message"
  | .showToast _ => "showtoast"
  | .assert _ _ => "assert"
  | .assertTextContains _ _ => "asserttextcontains"
  | .break => "break"

/-- The command that ends a run. -/
def isBreak : Command → Bool
  | .break => true
  | _ => false

end Command

/-- A command as it is submitted: a line of text or a record. -/
inductive CommandInput where
  | text (line : String)
  | structured (command : Command)
deriving DecidableEq, Repr, Inhabited

end PageScript
