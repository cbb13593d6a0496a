import PageScript.Decimal.Binary64

/-!
# Page activity

What happens on a page while it is watched: changes of the document, navigation, focus, keys and clicks.
-/

namespace PageScript

/-- What about a node of the document changed. -/
inductive MutationKind where
  | childList
  | attributes
  | characterData
deriving DecidableEq, Repr, Inhabited

/-- A change of the document. -/
structure DomMutation where
  /-- What about the node changed. -/
  mutation : MutationKind
  /-- A selector of the node. -/
  target : String
  /-- The tag of the node. -/
  tag : String
  /-- The attribute that changed. -/
  changed : Option String
deriving DecidableEq, Repr, Inhabited

/-- An element in short. -/
structure ElementSummary where
  /-- A selector of the element. -/
  selector : String
  /-- Its tag. -/
  tag : String
  /-- Its label. -/
  label : Option String
deriving DecidableEq, Repr, Inhabited

/-- A key that was pressed. -/
structure KeyInfo where
  /-- The key. -/
  key : String
  /-- Its place on the keyboard. -/
  code : String
  /-- Held together with Alt. -/
  altHeld : Bool
  /-- Held together with Control. -/
  ctrlHeld : Bool
  /-- Held together with Meta. -/
  metaHeld : Bool
  /-- Held together with Shift. -/
  shiftHeld : Bool
deriving DecidableEq, Repr, Inhabited

/-- A click. -/
structure ClickInfo where
  /-- The distance from the left. -/
  x : Binary64
  /-- The distance from the top. -/
  y : Binary64
  /-- The number of the button. -/
  button : UInt16
  /-- A selector of the element. -/
  selector : String
  /-- The label of the element. -/
  label : Option String
deriving DecidableEq, Repr, Inhabited

/-- What happened. Focus of the window is gained or lost. -/
inductive EventDetails where
  | dom (mutation : DomMutation)
  | location (url : String)
  | focus (gained : Bool)
  | elementFocus (element : ElementSummary)
  | keydown (key : KeyInfo)
  | click (click : ClickInfo)
deriving DecidableEq, Repr, Inhabited

/-- Something that happened on a page. -/
structure Event where
  /-- What happened. -/
  details : EventDetails
  /-- Milliseconds since the epoch. -/
  timestamp : UInt64
deriving DecidableEq, Repr, Inhabited

/-- The word for what changed. -/
def MutationKind.word : MutationKind → String
  | .childList => "childList"
  | .attributes => "attributes"
  | .characterData => "characterData"

/-- What can change, under its words. -/
def MutationKind.words : List (String × MutationKind) :=
  [.childList, .attributes, .characterData].map fun kind => (kind.word, kind)

/-- The tags of elements that hold a value. -/
def formTags : List String :=
  ["input", "select", "textarea", "option"]

/-- The attributes that make up the value of such an element. -/
def valueAttributes : List String :=
  ["value", "checked", "selected"]

/-- A change of the value of a form element. -/
def DomMutation.changesValue (m : DomMutation) : Bool :=
  m.mutation = .attributes && formTags.contains m.tag.toLower
    && m.changed.any fun name => valueAttributes.contains name

namespace EventDetails

/-- The kind of what happened. -/
def kind : EventDetails → String
  | .dom _ => "dom"
  | .location _ => "location"
  | .focus _ => "focus"
  | .elementFocus _ => "elementFocus"
  | .keydown _ => "keydown"
  | .click _ => "click"

end EventDetails

namespace Event

/-- The kind of an event. -/
def kind (e : Event) : String :=
  e.details.kind

/-- An event that counts as activity. Of the changes of the document only those of a form value do. -/
def isSignificant (e : Event) : Bool :=
  match e.details with
  | .dom m => m.changesValue
  | _ => true

/-- A click, a key or a move of the focus, done by the user. -/
def isUserAction (e : Event) : Bool :=
  match e.details with
  | .click _ | .keydown _ | .elementFocus _ => true
  | _ => false

/-- A change of the document. -/
def isDom (e : Event) : Bool :=
  match e.details with
  | .dom _ => true
  | _ => false

end Event

end PageScript
