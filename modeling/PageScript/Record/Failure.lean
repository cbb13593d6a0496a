import PageScript.Json.Document
import PageScript.Text.Quoted

/-!
# Why a value is no record

A value that does not fit the type it is read as is refused with a cause, and, when it was read straight from a
text, with the spot in the value where that was noticed.
-/

namespace PageScript.Record

/-- What was found in a value. -/
inductive Found where
  | null
  | bool (b : Bool)
  | int (n : Int)
  | float (x : Binary64)
  | text (s : String)
  | list
  | fields
  | bareName
deriving DecidableEq, Repr

/-- What a value is, without what is inside it. -/
def Found.of : Json → Found
  | .null => .null
  | .bool b => .bool b
  | .int n => .int n
  | .float x => .float x
  | .str s => .text s
  | .arr _ => .list
  | .obj _ => .fields

/-- The wording of what was found. -/
def Found.phrase : Found → String
  | .null => "null"
  | .bool b => s!"boolean `{b}`"
  | .int n => s!"integer `{n}`"
  | .float x => s!"floating point `{x.text}`"
  | .text s => "string " ++ Text.quoted s
  | .list => "sequence"
  | .fields => "map"
  | .bareName => "unit variant"

/-- What a reader expected. -/
inductive Expectation where
  | text
  | truth
  | path
  | number (type : String)
  | sequence
  | mapping
  | unit
  | nameOrMap
  | singleKey
  | variantName
  | variantIndex (count : Nat)
  | variantValue
  | record (name : String)
  | variantRecord (name variant : String)
  | taggedEnum (name : String)
  | adjacentEnum (name : String)
  | noMoreItems
  | itemCount (count : Nat)
  | withItems (whole : Expectation) (count : Nat)
deriving DecidableEq, Repr

/-- A number of elements in words. -/
def elements (count : Nat) : String :=
  if count = 1 then "1 element" else s!"{count} elements"

/-- The wording of an expectation. -/
def Expectation.phrase : Expectation → String
  | .text => "a string"
  | .truth => "a boolean"
  | .path => "path string"
  | .number type => type
  | .sequence => "a sequence"
  | .mapping => "a map"
  | .unit => "unit"
  | .nameOrMap => "string or map"
  | .singleKey => "map with a single key"
  | .variantName => "variant identifier"
  | .variantIndex count => s!"variant index 0 <= i < {count}"
  | .variantValue => "newtype variant"
  | .record name => "struct " ++ name
  | .variantRecord name variant => s!"struct variant {name}::{variant}"
  | .taggedEnum name => "internally tagged enum " ++ name
  | .adjacentEnum name => "adjacently tagged enum " ++ name
  | .noMoreItems => "fewer elements in array"
  | .itemCount count => elements count ++ " in sequence"
  | .withItems whole count => whole.phrase ++ " with " ++ elements count

/-- Why a value was refused. -/
inductive Cause where
  | wrongType (found : Found) (expected : Expectation)
  | wrongValue (found : Found) (expected : Expectation)
  | wrongLength (length : Nat) (expected : Expectation)
  | unknownVariant (name : String) (known : List String)
  | missingField (name : String)
  | duplicateField (name : String)
  | noVariant (name : String)
deriving DecidableEq, Repr

/-- Names between backticks, as a choice. -/
def choice (names : List String) : String :=
  match names with
  | [] => "there are no variants"
  | [a] => s!"expected `{a}`"
  | [a, b] => s!"expected `{a}` or `{b}`"
  | _ => "expected one of " ++ ", ".intercalate (names.map fun name => s!"`{name}`")

/-- The wording of a cause. -/
def Cause.message : Cause → String
  | .wrongType found expected => s!"invalid type: {found.phrase}, expected {expected.phrase}"
  | .wrongValue found expected => s!"invalid value: {found.phrase}, expected {expected.phrase}"
  | .wrongLength length expected => s!"invalid length {length}, expected {expected.phrase}"
  | .unknownVariant name known => s!"unknown variant `{name}`, {choice known}"
  | .missingField name => s!"missing field `{name}`"
  | .duplicateField name => s!"duplicate field `{name}`"
  | .noVariant name => s!"data did not match any variant of untagged enum {name}"

/-- The side of a part of a value at which a fault in it is noticed. -/
inductive Edge where
  | lead
  | before
  | after
deriving DecidableEq, Repr

/-- A spot in a value: the items or entries that lead from the whole value to a part, and a side of that part. -/
structure Spot where
  /-- The indices of the items or entries, outermost first. -/
  path : List Nat
  /-- The side of the part. -/
  edge : Edge
deriving DecidableEq, Repr

/-- A cause, and the spot where it was noticed if the reader was at that spot in a text. -/
structure Failure where
  /-- Why the value was refused. -/
  cause : Cause
  /-- Where that was noticed. -/
  spot : Option Spot
deriving DecidableEq, Repr

namespace Failure

/-- A failure on a side of the whole value. -/
def here (cause : Cause) (edge : Edge) : Failure :=
  ⟨cause, some ⟨[], edge⟩⟩

/-- A failure without a spot. -/
def nowhere (cause : Cause) : Failure :=
  ⟨cause, none⟩

/-- The failure of an item or entry as a failure of the whole. One without a spot is noticed behind the item. -/
def within (index : Nat) (failure : Failure) : Failure :=
  match failure.spot with
  | some spot => ⟨failure.cause, some ⟨index :: spot.path, spot.edge⟩⟩
  | none => ⟨failure.cause, some ⟨[index], .after⟩⟩

/-- The failure without its spot, as it is seen by a reader that has put the value aside before. -/
def setAside (failure : Failure) : Failure :=
  nowhere failure.cause

/-- The wording of a failure in a value that has no text. -/
def message (failure : Failure) : String :=
  failure.cause.message

end Failure

end PageScript.Record
