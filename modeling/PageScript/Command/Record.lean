import PageScript.Command.Basic
import PageScript.Record.Decoder

/-!
# Commands as records

A command is written as an object with its kind first and its fields after it, absent ones as `null`. It is read
back from such an object, in which absent fields may be left out, or from an array of the kind and the fields.
-/

namespace PageScript

open Record

namespace Command

/-- An object of a kind. -/
def ofKind (kind : String) (fields : List (String × Json)) : Json :=
  .obj (("kind", .str kind) :: fields)

/-- An optional number of milliseconds. -/
def ofMs? (ms : Option UInt64) : Json :=
  Json.ofNat? (ms.map UInt64.toNat)

/-- An optional coordinate. -/
def ofCoordinate? (x : Option Int64) : Json :=
  Json.ofInt? (x.map Int64.toInt)

/-- The fields of a command without its kind. -/
def fields : Command → List (String × Json)
  | .navto url => [("url", .str url)]
  | .click selector text => [("selector", .str selector), ("text", .ofText? text)]
  | .type selector value => [("selector", .str selector), ("value", .str value)]
  | .setValue selector value => [("selector", .str selector), ("value", .str value)]
  | .focus selector => [("selector", .str selector)]
  | .enable selector => [("selector", .str selector)]
  | .hover selector => [("selector", .str selector)]
  | .scroll selector x y =>
    [("selector", .ofText? selector), ("x", ofCoordinate? x), ("y", ofCoordinate? y)]
  | .getAttr selector name => [("selector", .str selector), ("attribute", .str name)]
  | .getStyle selector property => [("selector", .str selector), ("property", .str property)]
  | .wait ms => [("ms", .int ms.toNat)]
  | .waitForElement selector timeout => [("selector", .str selector), ("timeout_ms", ofMs? timeout)]
  | .waitFor condition timeout => [("condition", .str condition.word), ("timeout_ms", ofMs? timeout)]
  | .exec script => [("script", .str script)]
  | .screenshot => []
  | .dialog action promptText => [("action", .str action.word), ("prompt_text", .ofText? promptText)]
  | .resize width height => [("width", .int width.toNat), ("height", .int height.toNat)]
  | .changes action => [("action", .str action.word)]
  | .record action => [("action", .str action.word)]
  | .recipe action name => [("action", .str action.word), ("name", .str name)]
  | .message text => [("text", .str text)]
  | .showToast text => [("message", .str text)]
  | .assert selector text => [("selector", .str selector), ("text", .ofText? text)]
  | .assertTextContains selector text => [("selector", .str selector), ("text", .str text)]
  | .break => []

/-- The record of a command. -/
def toJson (c : Command) : Json :=
  ofKind c.kind c.fields

/-- The rest of a record after its kind: the name of the variant and its fields. -/
def rest (variant : String) (fields : Fields Command) : Decoder Command :=
  Record.record (.variantRecord "Command" variant) fields

/-- Each kind with the way to read what follows it. -/
def variants : List (String × Decoder Command) := [
  ("navto", rest "Navto" (.navto <$> required "url" text)),
  ("click", rest "Click" (.click <$> required "selector" text <*> possible "text" text)),
  ("type", rest "Type" (.type <$> required "selector" text <*> required "value" text)),
  ("setvalue", rest "SetValue" (.setValue <$> required "selector" text <*> required "value" text)),
  ("focus", rest "Focus" (.focus <$> required "selector" text)),
  ("enable", rest "Enable" (.enable <$> required "selector" text)),
  ("hover", rest "Hover" (.hover <$> required "selector" text)),
  ("scroll", rest "Scroll"
    (.scroll <$> possible "selector" text <*> possible "x" int64 <*> possible "y" int64)),
  ("getattr", rest "GetAttr" (.getAttr <$> required "selector" text <*> required "attribute" text)),
  ("getstyle", rest "GetStyle" (.getStyle <$> required "selector" text <*> required "property" text)),
  ("wait", rest "Wait" (.wait <$> required "ms" word64)),
  ("waitforelement", rest "WaitForElement"
    (.waitForElement <$> required "selector" text <*> possible "timeout_ms" word64)),
  ("waitfor", rest "WaitFor"
    (.waitFor <$> required "condition" (oneOf WaitCondition.words) <*> possible "timeout_ms" word64)),
  ("exec", rest "Exec" (.exec <$> required "script" text)),
  ("screenshot", noFields .screenshot),
  ("dialog", rest "Dialog"
    (.dialog <$> required "action" (oneOf DialogAction.words) <*> possible "prompt_text" text)),
  ("resize", rest "Resize" (.resize <$> required "width" word32 <*> required "height" word32)),
  ("changes", rest "Changes" (.changes <$> required "action" (oneOf ChangesAction.words))),
  ("record", rest "Record" (.record <$> required "action" (oneOf RecordAction.words))),
  ("recipe", rest "Recipe"
    (.recipe <$> required "action" (oneOf RecipeAction.words) <*> required "name" text)),
  ("message", rest "Message" (.message <$> required "text" text)),
  ("showtoast", rest "ShowToast" (.showToast <$> required "message" text)),
  ("assert", rest "Assert" (.assert <$> required "selector" text <*> possible "text" text)),
  ("asserttextcontains", rest "AssertTextContains"
    (.assertTextContains <$> required "selector" text <*> required "text" text)),
  ("break", noFields .break)]

/-- Reads the record of a command. -/
def decoder : Decoder Command :=
  tagged "Command" "kind" variants

end Command

namespace CommandInput

/-- The JSON form of an input. -/
def toJson : CommandInput → Json
  | .text line => .str line
  | .structured command => command.toJson

/-- Reads a line or a record. -/
def decoder : Decoder CommandInput :=
  either "CommandInput" (fun r j => (Record.text r j).map .text) (fun r j => (Command.decoder r j).map .structured)

end CommandInput

end PageScript
