import PageScript.Command.Basic
import PageScript.Record.Decoder

/-!
# Requests to a page

What a page can be asked, as messages to a page that is elsewhere.
-/

namespace PageScript

open Record

/-- How the dialogs of a page are answered from now on. -/
structure DialogPolicy where
  /-- The answer. -/
  action : DialogAction
  /-- The text entered into a prompt. -/
  promptText : Option String
deriving DecidableEq, Repr, Inhabited

namespace DialogPolicy

/-- The record of a policy. -/
def toJson (p : DialogPolicy) : Json :=
  .obj ([("action", .str p.action.word)] ++ Json.fieldIfPresent "prompt_text" p.promptText)

/-- Reads a policy. -/
def decoder : Decoder DialogPolicy :=
  Record.record (.record "DialogPolicy")
    (DialogPolicy.mk <$> required "action" (oneOf DialogAction.words) <*> possible "prompt_text" text)

end DialogPolicy

/-- What a page is asked. Elements are named by their handles. -/
inductive PageRequest where
  | navigate (url : String)
  | queryAll (selector : String)
  | click (element : String)
  | typeText (element value : String)
  | setValue (element value : String)
  | focus (element : String)
  | enable (element : String)
  | hover (element : String)
  | scrollIntoView (element : String)
  | scrollTo (x y : Int64)
  | attributeOf (element name : String)
  | computedStyle (element property : String)
  | execute (script : String)
  | screenshot
  | handleDialogs (policy : DialogPolicy)
  | resize (width height : UInt32)
  | showMessage (text : String)
  | networkIdle (timeout : UInt64)
  | installListeners
deriving DecidableEq, Repr, Inhabited

namespace PageRequest

/-- The name of a request and its fields. -/
def parts : PageRequest → String × List (String × Json)
  | .navigate url => ("navigate", [("url", .str url)])
  | .queryAll selector => ("query_all", [("selector", .str selector)])
  | .click element => ("click", [("element", .str element)])
  | .typeText element value => ("type_text", [("element", .str element), ("value", .str value)])
  | .setValue element value => ("set_value", [("element", .str element), ("value", .str value)])
  | .focus element => ("focus", [("element", .str element)])
  | .enable element => ("enable", [("element", .str element)])
  | .hover element => ("hover", [("element", .str element)])
  | .scrollIntoView element => ("scroll_into_view", [("element", .str element)])
  | .scrollTo x y => ("scroll_to", [("x", .int x.toInt), ("y", .int y.toInt)])
  | .attributeOf element name => ("attribute", [("element", .str element), ("name", .str name)])
  | .computedStyle element property =>
    ("computed_style", [("element", .str element), ("property", .str property)])
  | .execute script => ("execute", [("script", .str script)])
  | .screenshot => ("screenshot", [])
  | .handleDialogs policy => ("handle_dialogs", [("policy", policy.toJson)])
  | .resize width height => ("resize", [("width", .int width.toNat), ("height", .int height.toNat)])
  | .showMessage text => ("show_message", [("text", .str text)])
  | .networkIdle timeout => ("network_idle", [("timeout_ms", .int timeout.toNat)])
  | .installListeners => ("install_listeners", [])

/-- The record of a request. -/
def toJson (request : PageRequest) : Json :=
  .obj (("op", .str request.parts.1) :: request.parts.2)

/-- The rest of a record after its name. -/
def rest (variant : String) (fields : Fields PageRequest) : Decoder PageRequest :=
  Record.record (.variantRecord "PageRequest" variant) fields

/-- Each name with the way to read what follows it. -/
def variants : List (String × Decoder PageRequest) := [
  ("navigate", rest "Navigate" (.navigate <$> required "url" text)),
  ("query_all", rest "QueryAll" (.queryAll <$> required "selector" text)),
  ("click", rest "Click" (.click <$> required "element" text)),
  ("type_text", rest "TypeText" (.typeText <$> required "element" text <*> required "value" text)),
  ("set_value", rest "SetValue" (.setValue <$> required "element" text <*> required "value" text)),
  ("focus", rest "Focus" (.focus <$> required "element" text)),
  ("enable", rest "Enable" (.enable <$> required "element" text)),
  ("hover", rest "Hover" (.hover <$> required "element" text)),
  ("scroll_into_view", rest "ScrollIntoView" (.scrollIntoView <$> required "element" text)),
  ("scroll_to", rest "ScrollTo" (.scrollTo <$> required "x" int64 <*> required "y" int64)),
  ("attribute", rest "Attribute" (.attributeOf <$> required "element" text <*> required "name" text)),
  ("computed_style", rest "ComputedStyle"
    (.computedStyle <$> required "element" text <*> required "property" text)),
  ("execute", rest "Execute" (.execute <$> required "script" text)),
  ("screenshot", noFields .screenshot),
  ("handle_dialogs", rest "HandleDialogs" (.handleDialogs <$> required "policy" DialogPolicy.decoder)),
  ("resize", rest "Resize" (.resize <$> required "width" word32 <*> required "height" word32)),
  ("show_message", rest "ShowMessage" (.showMessage <$> required "text" text)),
  ("network_idle", rest "NetworkIdle" (.networkIdle <$> required "timeout_ms" word64)),
  ("install_listeners", noFields .installListeners)]

/-- Reads a request. -/
def decoder : Decoder PageRequest :=
  tagged "PageRequest" "op" variants

end PageRequest

end PageScript
