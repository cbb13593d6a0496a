import PageScript.Program
import PageScript.Parse
import PageScript.Url.Target

/-!
# The interpreter

Commands are carried out one after another. A step that fails is noted in the log and the run goes on; a break, a
pause that was cancelled or that nobody answered, and on request any failure end the run.
-/

namespace PageScript

/-- Why a step failed. -/
inductive ActionError where
  | elementNotFound (what : String)
  | assertion (text : String)
  | invalidArguments (text : String)
  | invalidUrl (target : String) (reason : UrlError)
  | page (error : PageError)
  | bridge (error : BridgeError)
  | store (error : StoreError)
  | io (error : FileError)
deriving DecidableEq, Repr

namespace ActionError

/-- The wording of the error of a step. -/
def message : ActionError → String
  | .elementNotFound what => "Element not found: " ++ what
  | .assertion text => "Assertion failed: " ++ text
  | .invalidArguments text => "Invalid arguments: " ++ text
  | .invalidUrl target reason => "Invalid URL: " ++ target ++ ": " ++ reason.message
  | .page error => error.message
  | .bridge error => error.message
  | .store error => "Recipe store error: " ++ error.message
  | .io error => "IO error: " ++ error.message

/-- An error that ends the run and not only the step. -/
def isHalt : ActionError → Bool
  | .bridge (.cancelled _) => true
  | .bridge (.expired _ _) => true
  | _ => false

end ActionError

/-- A program that may fail as a step does. -/
abbrev Step := ExceptT ActionError Program

namespace Step

/-- Asks for something that cannot fail. -/
def perform (e : Effect) : Step e.Answer :=
  ExceptT.lift (Program.perform e)

/-- Asks the page. -/
def page (request : PageRequest) : Step request.Reply :=
  ExceptT.mk do
    let answer ← Program.perform (.page request)
    return Except.mapError ActionError.page answer

/-- The element of a selector that a step acts on. -/
def resolve (selector : String) (text : Option String) : Step ElementInfo := do
  let elements ← page (.queryAll selector)
  match ElementInfo.select elements text with
  | some element => return element
  | none =>
    throw (.elementNotFound (match text with
      | some wanted => selector ++ " with text " ++ inQuotes wanted
      | none => selector))

/-- Resolves an element, asks the page to do something with it, and gives a text. -/
def act (selector : String) (text : Option String) (request : String → PageRequest) (result : String) :
    Step Json := do
  let element ← resolve selector text
  let _ ← page (request element.element)
  return .str result

/-- Takes a screenshot, and writes it into a file named for the time if there is a directory for it. -/
def screenshot (config : InterpreterConfig) : Step Json := do
  let bytes ← page .screenshot
  match config.screenshotDir with
  | none => return .str s!"Screenshot captured ({List.length (α := UInt8) bytes} bytes)"
  | some directory =>
    let now ← perform .wallClock
    let path := joinPath directory ("screenshot-" ++ toString (UInt64.toNat now) ++ ".png")
    ExceptT.mk do
      let written ← Program.perform (.writeImage path bytes)
      return Except.mapError ActionError.io written
    return .str path

/-- Waits for an element. -/
def waitForElement (config : InterpreterConfig) (selector : String) (timeout : Option UInt64) : Step Json := do
  let cursor : Nat ← perform .followChanges
  let now : Nat ← perform .clock
  let deadline := now + (timeout.getD config.waitForElementTimeout).toNat
  let wait : ElementWait := ⟨selector, deadline, max 1 config.elementPollInterval.toNat, cursor⟩
  let found : Except PageError Bool ← ExceptT.lift (.await wait .done)
  match found with
  | .error e => throw (.page e)
  | .ok true => return .str "Element appeared"
  | .ok false => return .str s!"Timeout: element {selector} did not appear"

/-- Waits until no request of the page is under way, or until the page is quiet if it cannot tell. -/
def waitForNetwork (config : InterpreterConfig) (timeout : Option UInt64) : Step Json := do
  let answer : Except PageError Bool ←
    perform (.page (.networkIdle (timeout.getD config.networkIdleTimeout)))
  match answer with
  | .ok true => return .str "Network idle"
  | .ok false | .error (.timeout _) => return .str "Timeout: network did not go idle"
  | .error (.notSupported _) => do
    perform (.quiet config.defaultQuiet.toNat)
    return .str "Page is quiet"
  | .error e => throw (.page e)

/-- Saves the events observed under a name. -/
def saveRecipe (name : String) : Step Json := do
  let events : List Event ← perform .observed
  let now ← perform .wallClock
  ExceptT.mk do
    let saved ← Program.perform (.saveRecipe ⟨name, now, events⟩)
    return Except.mapError ActionError.store saved
  return .str s!"Recipe '{name}' saved ({events.length} events)"

/-- Looks whether there is a recipe of a name. -/
def loadRecipe (name : String) : Step Json := do
  let found : Option Recipe ← ExceptT.mk do
    let loaded ← Program.perform (.loadRecipe name)
    return Except.mapError ActionError.store loaded
  match found with
  | some recipe =>
    return .obj [("events", .int recipe.events.length), ("found", .bool true), ("name", .str recipe.name)]
  | none => return .obj [("found", .bool false), ("name", .str name)]

/-- Shows a message to the operator. A page that cannot is passed over. -/
def showMessage (text : String) : Step Json := do
  let answer : Except PageError Unit ← perform (.page (.showMessage text))
  match answer with
  | .ok _ | .error (.notSupported _) => return .str "Message shown"
  | .error e => throw (.page e)

/-- Checks that there is an element, and one of a text if a text is given. -/
def assertElement (selector : String) (text : Option String) : Step Json := do
  let elements : List ElementInfo ← page (.queryAll selector)
  if elements.isEmpty then throw (.elementNotFound selector)
  match text with
  | none => return .str "Assertion passed"
  | some wanted =>
    if (ElementInfo.select elements text).isSome then return .str "Assertion passed"
    else throw (.assertion s!"no element matching {selector} has text {inQuotes wanted}")

/-- Checks that the first element holds a text. -/
def assertTextContains (selector text : String) : Step Json := do
  let element ← resolve selector none
  if Text.containsBlock text.toList element.text.toList then return .str "Assertion passed"
  else throw (.assertion s!"text of {selector} did not contain {inQuotes text}")

/-- Carries out a command. -/
def execute (config : InterpreterConfig) : Command → Step Json
  | .navto url => do
    match Url.ofTarget url with
    | .error reason => throw (.invalidUrl (Text.trimmed url) reason)
    | .ok target =>
      let _ ← page (.navigate target.text)
      return .str ("Navigated to " ++ target.text)
  | .click selector text => act selector text .click "Clicked element"
  | .type selector value => act selector none (.typeText · value) "Entered text"
  | .setValue selector value => act selector none (.setValue · value) "Value set"
  | .focus selector => act selector none .focus "Focused element"
  | .enable selector => act selector none .enable "Element enabled"
  | .hover selector => act selector none .hover "Hovered element"
  | .scroll (some selector) _ _ => act selector none .scrollIntoView "Scrolled to element"
  | .scroll none (some x) (some y) => do
    let _ ← page (.scrollTo x y)
    return .str s!"Scrolled to {x.toInt}, {y.toInt}"
  | .scroll none _ _ => throw (.invalidArguments "scroll needs a selector or both x and y")
  | .getAttr selector name => do
    let element ← resolve selector none
    let value : Option String ← page (.attributeOf element.element name)
    return .ofText? value
  | .getStyle selector property => do
    let element ← resolve selector none
    let value : String ← page (.computedStyle element.element property)
    return .str value
  | .wait ms => do
    perform (.sleep ms.toNat)
    return .str s!"Waited {ms.toNat}ms"
  | .waitForElement selector timeout => waitForElement config selector timeout
  | .waitFor .quiet timeout => do
    perform (.quiet (timeout.getD config.defaultQuiet).toNat)
    return .str "Page is quiet"
  | .waitFor .network timeout => waitForNetwork config timeout
  | .exec script => page (.execute script)
  | .screenshot => screenshot config
  | .dialog action promptText => do
    let _ ← page (.handleDialogs ⟨action, promptText⟩)
    return .str (match action with
      | .accept => "Dialogs will be accepted"
      | .dismiss => "Dialogs will be dismissed")
  | .resize width height => do
    let _ ← page (.resize width height)
    return .str s!"Resized to {width.toNat}x{height.toNat}"
  | .changes .on => do
    perform .startObserver
    return .str "Observer started"
  | .changes .off => do
    perform .stopObserver
    return .str "Observer stopped"
  | .changes .clear => do
    perform .clearObserver
    return .str "Observer cleared"
  | .changes .request => do
    let events : List Event ← perform .observed
    return (Json.arr (events.map Event.toJson)).canonical
  | .record .start => do
    perform .startObserver
    return .str "Recording started"
  | .record .stop => do
    perform .stopObserver
    let events : List Event ← perform .observed
    return (Json.arr ((events.filter Event.isUserAction).map Event.toJson)).canonical
  | .recipe .save name => saveRecipe name
  | .recipe .load name => loadRecipe name
  | .message text => showMessage text
  | .showToast text => do
    let answer : Except BridgeError String ← perform (.toast text .standard)
    match answer with
    | .ok chosen => return .str chosen
    | .error e => throw (.bridge e)
  | .assert selector text => assertElement selector text
  | .assertTextContains selector text => assertTextContains selector text
  | .break => return .str "break"

end Step

namespace Interpreter

/-- Whether a step that came to something ends the run. -/
def halts (config : InterpreterConfig) (command : Command) : Except ActionError Json → Bool
  | .ok _ => command.isBreak
  | .error e => e.isHalt || config.stopOnError

/-- What is noted of a step. -/
def resultOf : Except ActionError Json → StepResult
  | .ok value => .ok value
  | .error e => .error e.message

/-- Carries out commands up to one that ends the run. Gives the log and how the run ended. -/
def runSteps (config : InterpreterConfig) : List Command → Program (RunLog × RunState)
  | [] => .done ([], .completed)
  | command :: rest => do
    let outcome ← (Step.execute config command).run
    let entry : LogEntry := ⟨command, resultOf outcome⟩
    if halts config command outcome then return ([entry], .halted)
    else
      let (log, status) ← runSteps config rest
      return (entry :: log, status)

/-- Installs the listeners of the page unless that has been done or is being done. -/
def install : Program (Except PageError Unit) := do
  let new : Bool ← Program.perform .claimInstall
  if !new then return .ok ()
  else
    let answer : Except PageError Unit ← Program.perform (.page .installListeners)
    match answer with
    | .ok _ => return .ok ()
    | .error e =>
      Program.perform .releaseInstall
      return .error e

/-- Runs commands. Whether the sink takes the log makes no difference. -/
def run (config : InterpreterConfig) (commands : List Command) : Program RunReport := do
  Program.perform (.enter .running)
  let _ ← install
  let (log, status) ← runSteps config commands
  let _ ← Program.perform (.flush log)
  Program.perform (.enter status)
  return ⟨status, log, .ofLog commands.length log⟩

/-- Runs inputs. Nothing runs if one of them is no command. -/
def runInputs (config : InterpreterConfig) (inputs : List CommandInput) : Except ParseError (Program RunReport) :=
  (inputs.mapM Command.ofInput).map (run config)

/-- Runs a script. Nothing runs if one of its lines is no command. -/
def runScript (config : InterpreterConfig) (script : String) : Except ScriptError (Program RunReport) :=
  (Script.parse script).map (run config)

end Interpreter

end PageScript
