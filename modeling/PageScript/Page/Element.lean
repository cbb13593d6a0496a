import PageScript.Record.Decoder
import PageScript.Text.Blank

/-!
# Elements

An element of a page that a query found, and the choice of one among several.
-/

namespace PageScript

open Record

/-- An element of a page. -/
structure ElementInfo where
  /-- The handle by which the page knows the element. -/
  element : String
  /-- Its tag. -/
  tag : String
  /-- Its text, with the white space around it. -/
  text : String
deriving DecidableEq, Repr, Inhabited

namespace ElementInfo

/-- The record of an element. -/
def toJson (e : ElementInfo) : Json :=
  .obj [("element", .str e.element), ("tag", .str e.tag), ("text", .str e.text)]

/-- Reads an element. -/
def decoder : Decoder ElementInfo :=
  Record.record (.record "ElementInfo")
    (ElementInfo.mk <$> required "element" Record.text <*> defaulting "tag" Record.text ""
      <*> defaulting "text" Record.text "")

/-- The first element, or the first whose text without the white space around it is the one wanted. -/
def select (elements : List ElementInfo) : Option String → Option ElementInfo
  | none => elements.head?
  | some wanted => elements.find? fun e => Text.trimmed e.text = wanted

end ElementInfo

end PageScript
