import PageScript.Event.Basic
import PageScript.Record.Decoder

/-!
# Events as records

An event is an object with the kind, the details and the time of the event. An attribute or label that is absent
is left out, and a coordinate that is no finite number is `null`.
-/

namespace PageScript

open Record

namespace DomMutation

/-- The record of a change of the document. -/
def toJson (m : DomMutation) : Json :=
  .obj ([("mutation", .str m.mutation.word), ("target", .str m.target), ("tag", .str m.tag)]
    ++ Json.fieldIfPresent "attribute" m.changed)

/-- Reads a change of the document. -/
def decoder : Decoder DomMutation :=
  Record.record (.record "DomMutation")
    (DomMutation.mk <$> required "mutation" (oneOf MutationKind.words) <*> required "target" text
      <*> required "tag" text <*> possible "attribute" text)

end DomMutation

namespace ElementSummary

/-- The record of an element in short. -/
def toJson (e : ElementSummary) : Json :=
  .obj ([("selector", .str e.selector), ("tag", .str e.tag)] ++ Json.fieldIfPresent "label" e.label)

/-- Reads an element in short. -/
def decoder : Decoder ElementSummary :=
  Record.record (.record "ElementSummary")
    (ElementSummary.mk <$> required "selector" text <*> required "tag" text <*> possible "label" text)

end ElementSummary

namespace KeyInfo

/-- The record of a key. -/
def toJson (k : KeyInfo) : Json :=
  .obj [("key", .str k.key), ("code", .str k.code), ("altKey", .bool k.altHeld), ("ctrlKey", .bool k.ctrlHeld),
    ("metaKey", .bool k.metaHeld), ("shiftKey", .bool k.shiftHeld)]

/-- Reads a key; what is not said is not held. -/
def decoder : Decoder KeyInfo :=
  Record.record (.record "KeyInfo")
    (KeyInfo.mk <$> required "key" text <*> defaulting "code" text "" <*> defaulting "altKey" truth false
      <*> defaulting "ctrlKey" truth false <*> defaulting "metaKey" truth false
      <*> defaulting "shiftKey" truth false)

end KeyInfo

namespace ClickInfo

/-- The record of a click. -/
def toJson (c : ClickInfo) : Json :=
  .obj ([("x", .ofNumber c.x), ("y", .ofNumber c.y), ("button", .int c.button.toNat), ("selector", .str c.selector)]
    ++ Json.fieldIfPresent "label" c.label)

/-- Reads a click. -/
def decoder : Decoder ClickInfo :=
  Record.record (.record "ClickInfo")
    (ClickInfo.mk <$> required "x" number <*> required "y" number <*> defaulting "button" word16 0
      <*> required "selector" text <*> possible "label" text)

end ClickInfo

namespace EventDetails

/-- What is said about what happened. -/
def content : EventDetails → Json
  | .dom m => m.toJson
  | .location url => .str url
  | .focus gained => .bool gained
  | .elementFocus e => e.toJson
  | .keydown k => k.toJson
  | .click c => c.toJson

/-- The fields of the kind and of the content. -/
def fields (d : EventDetails) : List (String × Json) :=
  [("type", .str d.kind), ("details", d.content)]

/-- The record of what happened. -/
def toJson (d : EventDetails) : Json :=
  .obj d.fields

/-- Reads a type inside a kind of event. -/
def holding (make : α → EventDetails) (d : Decoder α) : Decoder EventDetails := fun r j =>
  (d r j).map make

/-- Each kind with the way to read its content. -/
def variants : List (String × Decoder EventDetails) := [
  ("dom", holding .dom DomMutation.decoder),
  ("location", holding .location text),
  ("focus", holding .focus truth),
  ("elementFocus", holding .elementFocus ElementSummary.decoder),
  ("keydown", holding .keydown KeyInfo.decoder),
  ("click", holding .click ClickInfo.decoder)]

/-- Reads what happened. -/
def decoder : Decoder EventDetails :=
  adjacent "EventDetails" "type" "details" variants

end EventDetails

namespace Event

/-- The record of an event. -/
def toJson (e : Event) : Json :=
  .obj (e.details.fields ++ [("timestamp", .int e.timestamp.toNat)])

/-- Reads an event: its time, and what happened from the entries that are left. -/
def decoder : Decoder Event
  | r, .obj entries =>
    match (required "timestamp" word64).ofEntries r 0 entries with
    | .failed _ failure => .error failure
    | .lacking _ name => .error (.here (.missingField name) .after)
    | .read timestamp => do
      let others := entries.filter fun entry => entry.1 ≠ "timestamp"
      let details ← (EventDetails.decoder .buffered (.obj others)).mapError fun failure =>
        .here failure.cause .after
      return ⟨details, timestamp⟩
  | _, j => refuse (.record "ObserverEvent") j

end Event

end PageScript
