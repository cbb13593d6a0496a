import PageScript.Json.Basic
import PageScript.Text.Blank
import PageScript.Yaml.Node

/-!
# Shapes

How the nodes of a document are read as values. What a scalar means depends on what is wanted: the same `5` is a
number where a number is wanted and a text where a text is wanted.
-/

namespace PageScript.Yaml

/-- What is wanted of a node. -/
inductive Shape where
  /-- A whole number that is not negative. -/
  | number
  /-- `true` or `false`. -/
  | truth
  /-- A text. -/
  | text
  /-- Nothing, or something of a shape. -/
  | possible (shape : Shape)
  /-- A mapping with entries of these shapes; entries that have no shape are passed over. -/
  | section (entries : List (String × Shape))

/-- The tag of a name of the standard. -/
def standardTag (name : String) : String :=
  "tag:yaml.org,2002:" ++ name

/-- A scalar means what it spells if it is plain, or if its tag says so and it is a literal block. -/
def spells (tag : String) (style : Style) (given : Option String) : Bool :=
  match style with
  | .plain => true
  | .literal => given = some (standardTag tag)
  | _ => false

/-- The digits of a number of a base. -/
def digitsOf? (base : Nat) (cs : List Char) : Option Nat :=
  if cs.isEmpty then none
  else cs.foldlM (fun n c => (Url.hexDigit? c).bind fun d => if d < base then some (n * base + d) else none) 0

/-- Whole numbers may be hexadecimal, octal or binary behind `0x`, `0o` and `0b`, and have a plus sign. A decimal
number has no leading zeros. -/
def number? (text : String) : Option Nat :=
  match (match text.toList with
    | '+' :: cs => cs
    | cs => cs) with
  | '0' :: 'x' :: digits => digitsOf? 16 digits
  | '0' :: 'o' :: digits => digitsOf? 8 digits
  | '0' :: 'b' :: digits => digitsOf? 2 digits
  | '0' :: _ :: _ => none
  | digits => digitsOf? 10 digits

/-- The spellings of truth values. -/
def truths : List (String × Bool) :=
  [("true", true), ("True", true), ("TRUE", true), ("false", false), ("False", false), ("FALSE", false)]

/-- The spellings of nothing. -/
def nulls : List String :=
  ["null", "Null", "NULL", "~"]

/-- Whether there is something where there may be nothing, if that can be told. -/
def isThere? : Node → Option Bool
  | .scalar .plain (some tag) text =>
    if tag ≠ standardTag "null" then some true else if nulls.contains text then some false else none
  | .scalar .plain none text => some (!text.isEmpty && !nulls.contains text)
  | _ => some true

/-- The text of a key. -/
def keyText? : Node → Option String
  | .scalar _ _ text => some text
  | _ => none

/-- The entries of a section. A plain scalar without text stands for none. -/
def entries? : Node → Option (List (Node × Node))
  | .mapping entries => some entries
  | .scalar .plain _ "" => some []
  | _ => none

mutual

/-- Reads a node as a shape. -/
def read? (n : Node) : Shape → Option Json
  | .number =>
    match n with
    | .scalar style tag text => if spells "int" style tag then (number? text).map fun k => .int k else none
    | _ => none
  | .truth =>
    match n with
    | .scalar style tag text => if spells "bool" style tag then (truths.lookup text).map .bool else none
    | _ => none
  | .text =>
    match n with
    | .scalar _ _ text => some (.str text)
    | _ => none
  | .possible shape => (isThere? n).bind fun present => if present then read? n shape else some .null
  | .section shapes => (entries? n).bind fun entries => (readEntries? shapes entries).map .obj
termination_by shape => (sizeOf shape, 0)

/-- Reads the entries of a section, in their order. -/
def readEntries? (shapes : List (String × Shape)) : List (Node × Node) → Option (List (String × Json))
  | [] => some []
  | (key, value) :: rest => do
    let name ← keyText? key
    match h : shapes.find? fun entry => entry.1 = name with
    | none => readEntries? shapes rest
    | some (_, shape) =>
      have : sizeOf shape < sizeOf shapes := by
        have := List.sizeOf_lt_of_mem (List.mem_of_find?_eq_some h)
        simp at this; omega
      let j ← read? value shape
      return (name, j) :: (← readEntries? shapes rest)
termination_by entries => (sizeOf shapes, entries.length)

end

/-- Reads the document of a text as a shape. A text without a document is one of nothing. -/
def readText? (shape : Shape) (text : String) : Option Json := do
  let node ← document? text
  read? (node.getD (.scalar .plain none "")) shape

end PageScript.Yaml
