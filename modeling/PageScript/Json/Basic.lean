import PageScript.Decimal.Shortest

/-!
# Free JSON values

The values that scripts return and that the store keeps. An object is a list of fields; a *canonical* object has
its keys in ascending order of code points, each once, and `canonical` brings any value into that form.
-/

namespace PageScript

/-- A JSON value. Integers and binary64 numbers are told apart. -/
inductive Json where
  | null
  | bool (b : Bool)
  | int (n : Int)
  | float (x : Binary64)
  | str (s : String)
  | arr (items : List Json)
  | obj (fields : List (String × Json))
deriving Inhabited

namespace Json

/-- Puts a field into a list of fields in ascending order of keys; a field of the same key is replaced. -/
def insertField (key : String) (value : Json) : List (String × Json) → List (String × Json)
  | [] => [(key, value)]
  | (k, v) :: rest =>
    if key < k then (key, value) :: (k, v) :: rest
    else if key = k then (key, value) :: rest
    else (k, v) :: insertField key value rest

/-- Sorts fields by key; of two fields with one key the later one stays. -/
def sortFields (fields : List (String × Json)) : List (String × Json) :=
  fields.foldl (fun sorted field => insertField field.1 field.2 sorted) []

mutual

/-- The value with the keys of every object sorted. -/
def canonical : Json → Json
  | .arr items => .arr (canonicalItems items)
  | .obj fields => .obj (sortFields (canonicalFields fields))
  | .null => .null
  | .bool b => .bool b
  | .int n => .int n
  | .float x => .float x
  | .str s => .str s

/-- The canonical forms of the items of an array. -/
def canonicalItems : List Json → List Json
  | [] => []
  | item :: rest => canonical item :: canonicalItems rest

/-- The fields of an object with canonical values, in their order. -/
def canonicalFields : List (String × Json) → List (String × Json)
  | [] => []
  | (key, value) :: rest => (key, canonical value) :: canonicalFields rest

end

/-- The value of a key among the fields of an object. -/
def lookup (key : String) : List (String × Json) → Option Json
  | [] => none
  | (k, v) :: rest => if k = key then some v else lookup key rest

/-- The value of a key of an object. -/
def get? (key : String) : Json → Option Json
  | .obj fields => lookup key fields
  | _ => none

/-- An optional text, `null` when it is absent. -/
def ofText? : Option String → Json
  | some s => .str s
  | none => .null

/-- An optional natural number, `null` when it is absent. -/
def ofNat? : Option Nat → Json
  | some n => .int n
  | none => .null

/-- An optional integer, `null` when it is absent. -/
def ofInt? : Option Int → Json
  | some n => .int n
  | none => .null

/-- A number, `null` when it is no finite one. -/
def ofNumber (x : Binary64) : Json :=
  if x.isFinite then .float x else .null

/-- A text field that is left out when it is absent. -/
def fieldIfPresent (name : String) : Option String → List (String × Json)
  | some s => [(name, .str s)]
  | none => []

end Json

end PageScript
