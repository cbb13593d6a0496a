import PageScript.Rehearsal.World

/-!
# Scripted pages

A page that is played from a script: what its elements are, what its calls give, which of them take time, fail or
are not supported, and what happens on the page when a call is carried out.
-/

namespace PageScript.Rehearsal

/-- The name of a page call and its arguments. -/
def methodOf : PageRequest → String × List Json
  | .navigate url => ("navigate", [.str url])
  | .queryAll selector => ("query_all", [.str selector])
  | .click element => ("click", [.str element])
  | .typeText element value => ("type_text", [.str element, .str value])
  | .setValue element value => ("set_value", [.str element, .str value])
  | .focus element => ("focus", [.str element])
  | .enable element => ("enable", [.str element])
  | .hover element => ("hover", [.str element])
  | .scrollIntoView element => ("scroll_into_view", [.str element])
  | .scrollTo x y => ("scroll_to", [.int x.toInt, .int y.toInt])
  | .attributeOf element name => ("attribute", [.str element, .str name])
  | .computedStyle element property => ("computed_style", [.str element, .str property])
  | .execute script => ("execute_script", [.str script])
  | .screenshot => ("screenshot", [])
  | .handleDialogs policy => ("handle_dialogs", [policy.toJson])
  | .resize width height => ("resize", [.int width.toNat, .int height.toNat])
  | .showMessage text => ("show_message", [.str text])
  | .networkIdle timeout => ("wait_for_network_idle", [.int timeout.toNat])
  | .installListeners => ("install_listeners", [])

/-- The methods that every page supports. -/
def everSupported : List String :=
  ["navigate", "query_all", "click", "type_text", "install_listeners"]

/-- Something that happens on a page: a selector matches other elements, or none, or an event is observed. -/
inductive PageAction where
  | set (selector : String) (elements : List ElementInfo)
  | remove (selector : String)
  | event (event : Event)

/-- The failure of a method, for a number of calls or for all. -/
structure PlannedFailure where
  /-- The method. -/
  method : String
  /-- The error. -/
  error : PageError
  /-- The number of calls that still fail. -/
  times : Option Nat

/-- A page that is played from a script. -/
structure ScriptedPage where
  /-- The elements that selectors match. -/
  elements : List (String × List ElementInfo)
  /-- The attributes of elements. -/
  attributes : List (String × List (String × String))
  /-- The styles of elements. -/
  styles : List (String × List (String × String))
  /-- What scripts give. -/
  scripts : List (String × Json)
  /-- The number of bytes of a screenshot. -/
  screenshot : Nat
  /-- Whether the network goes idle. -/
  networkIdle : Bool
  /-- The methods that are not supported. -/
  unsupported : List String
  /-- The methods that fail. -/
  failures : List PlannedFailure
  /-- The methods that take time. -/
  delays : List (String × Nat)
  /-- What happens when a method is carried out, under the method and its first argument. -/
  reactions : List (String × List PageAction)
  /-- The calls recorded. -/
  recorded : Array Json
  /-- Whether listeners are installed. -/
  listening : Bool
  /-- The calls under way and the instants at which they are carried out. -/
  underWay : List (Nat × Nat)

namespace ScriptedPage

/-- A page with nothing on it. -/
def blank : ScriptedPage where
  elements := []
  attributes := []
  styles := []
  scripts := []
  screenshot := 0
  networkIdle := true
  unsupported := []
  failures := []
  delays := []
  reactions := []
  recorded := #[]
  listening := false
  underWay := []

/-- The value of a name for an element. -/
def valueOf (table : List (String × List (String × String))) (element name : String) : Option String :=
  (table.lookup element).bind fun values => values.lookup name

/-- What a call gives when it is carried out. -/
def reply (p : ScriptedPage) : (request : PageRequest) → request.Reply
  | .queryAll selector => (p.elements.lookup selector).getD []
  | .attributeOf element name => valueOf p.attributes element name
  | .computedStyle element property => (valueOf p.styles element property).getD ""
  | .execute script => (p.scripts.lookup script).getD .null
  | .screenshot => List.replicate p.screenshot 0
  | .networkIdle _ => p.networkIdle
  | .navigate _ => ()
  | .click _ => ()
  | .typeText _ _ => ()
  | .setValue _ _ => ()
  | .focus _ => ()
  | .enable _ => ()
  | .hover _ => ()
  | .scrollIntoView _ => ()
  | .scrollTo _ _ => ()
  | .handleDialogs _ => ()
  | .resize _ _ => ()
  | .showMessage _ => ()
  | .installListeners => ()

/-- The method is not supported. -/
def refuses (p : ScriptedPage) (method : String) : Bool :=
  p.unsupported.contains method && !everSupported.contains method

/-- Uses up one planned failure of a method. -/
def useUp (method : String) : List PlannedFailure → List PlannedFailure
  | [] => []
  | f :: rest =>
    if f.method = method then { f with times := f.times.map (· - 1) } :: rest else f :: useUp method rest

/-- The error with which a method fails, if it does. -/
def failure? (p : ScriptedPage) (method : String) : Option PageError :=
  (p.failures.find? fun f => f.method = method && f.times ≠ some 0).map PlannedFailure.error

/-- Under what the reactions to a call are found: a first argument that is a text stands as it is. -/
def reactionKey (method : String) : List Json → String
  | [] => method
  | .str s :: _ => method ++ ":" ++ s
  | argument :: _ => method ++ ":" ++ argument.compact

end ScriptedPage

/-- Something happens on the page. -/
def act (w : World ScriptedPage) : PageAction → World ScriptedPage
  | .set selector elements =>
    let others := w.page.elements.filter fun entry => entry.1 ≠ selector
    { w with page := { w.page with elements := (selector, elements) :: others } }
  | .remove selector =>
    { w with page := { w.page with elements := w.page.elements.filter fun entry => entry.1 ≠ selector } }
  | .event e => w.ingest e

/-- The reaction to a call happens. Events are observed only by listeners. -/
def react (w : World ScriptedPage) : PageAction → World ScriptedPage
  | .event e => if w.page.listening then w.ingest e else w
  | action => act w action

namespace ScriptedPage

/-- Begins a call: it is recorded, unless it is not supported, and carried out after its delay. -/
def begin (w : World ScriptedPage) (call : Nat) (request : PageRequest) : World ScriptedPage :=
  let p := w.page
  let (method, arguments) := methodOf request
  if p.refuses method then { w with page := { p with underWay := (call, w.now) :: p.underWay } }
  else
    let at_ := w.now + (p.delays.lookup method).getD 0
    { w with page := { p with
        recorded := p.recorded.push (.arr (.str method :: arguments))
        underWay := (call, at_) :: p.underWay } }

/-- Carries a call out. -/
def carryOut (w : World ScriptedPage) (request : PageRequest) : request.Answer × World ScriptedPage :=
  let (method, arguments) := methodOf request
  if w.page.refuses method then (.error (.notSupported method), w)
  else
    match w.page.failure? method with
    | some e => (.error e, { w with page := { w.page with failures := useUp method w.page.failures } })
    | none =>
      let w := match request with
        | .installListeners => { w with page := { w.page with listening := true } }
        | _ => w
      let w := ((w.page.reactions.lookup (reactionKey method arguments)).getD []).foldl react w
      (.ok (w.page.reply request), w)

instance : PlayedPage ScriptedPage where
  begin := begin
  answer? w call request :=
    match w.page.underWay.lookup call with
    | none => none
    | some at_ =>
      if at_ ≤ w.now then
        let underWay := w.page.underWay.filter fun entry => entry.1 ≠ call
        some (carryOut { w with page := { w.page with underWay := underWay } } request)
      else none
  abandon w call :=
    { w with page := { w.page with underWay := w.page.underWay.filter fun entry => entry.1 ≠ call } }
  advance? _ := none
  nextTime? w := (w.page.underWay.map Prod.snd).min?

end ScriptedPage

end PageScript.Rehearsal
