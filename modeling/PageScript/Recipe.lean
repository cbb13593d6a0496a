import PageScript.Event.Record
import PageScript.Text.Alphanumeric
import PageScript.Text.Blank
import PageScript.Text.LowerCase

/-!
# Recipes

A recipe is a recording of events under a name. Names that consist of the same words, whatever their case and
whatever stands between the words, name the same recipe.
-/

namespace PageScript

open Record

/-- A recording under a name. -/
structure Recipe where
  /-- The name it was saved under. -/
  name : String
  /-- When it was saved, in milliseconds since the epoch. -/
  savedAt : UInt64
  /-- The events of the recording. -/
  events : List Event
deriving DecidableEq, Repr, Inhabited

namespace Recipe

/-- The record of a recipe. -/
def toJson (r : Recipe) : Json :=
  .obj [("name", .str r.name), ("saved_at", .int r.savedAt.toNat), ("events", .arr (r.events.map Event.toJson))]

/-- Reads a recipe. -/
def decoder : Decoder Recipe :=
  Record.record (.record "RecordedRecipe")
    (Recipe.mk <$> required "name" text <*> required "saved_at" word64 <*> required "events" (list Event.decoder))

/-- Writes the words of a name in lower case with underscores between them. `gap` says whether something else
stood since the last word, `started` whether there was a word. -/
def slugFrom (gap started : Bool) : List Char → List Char
  | [] => []
  | c :: cs =>
    if Text.isAlphanumeric c then
      (if gap && started then ['_'] else []) ++ Text.lowerChar c ++ slugFrom false true cs
    else slugFrom true started cs

/-- The words of a name in lower case with underscores between them. -/
def slug (name : String) : String :=
  String.ofList (slugFrom false false (Text.trim name.toList))

/-- The key under which the recipe of a name is stored. -/
def keyFor (name : String) : String :=
  "recipe:" ++ slug name

end Recipe

end PageScript
