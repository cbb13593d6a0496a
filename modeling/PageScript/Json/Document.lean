import PageScript.Json.Basic

/-!
# JSON documents

A document is the tree of a JSON text with the places where its parts stand. Reading never fails as a whole:
where the text stops being JSON the tree ends in a `broken` leaf, which is then the last leaf. So whoever walks
over the tree in order sees what came before the fault first.
-/

namespace PageScript

/-- A place in a text: a line, counted from one, and the number of bytes before the place on that line. -/
structure Position where
  /-- The line, counted from one. -/
  line : Nat
  /-- The bytes before the place on its line. -/
  column : Nat
deriving DecidableEq, Repr, Inhabited

namespace Json

/-- Why a text is not JSON. -/
inductive Fault where
  | endInList
  | endInObject
  | endInString
  | endInValue
  | colonExpected
  | listEndExpected
  | objectEndExpected
  | identExpected
  | valueExpected
  | invalidEscape
  | invalidNumber
  | numberOutOfRange
  | controlCharacter
  | keyNotString
  | loneSurrogate
  | surrogateExpected
  | trailingComma
  | trailingCharacters
  | tooDeep
deriving DecidableEq, Repr

/-- The wording of a fault. -/
def Fault.message : Fault → String
  | .endInList => "EOF while parsing a list"
  | .endInObject => "EOF while parsing an object"
  | .endInString => "EOF while parsing a string"
  | .endInValue => "EOF while parsing a value"
  | .colonExpected => "expected `:`"
  | .listEndExpected => "expected `,` or `]`"
  | .objectEndExpected => "expected `,` or `\x7d`"
  | .identExpected => "expected ident"
  | .valueExpected => "expected value"
  | .invalidEscape => "invalid escape"
  | .invalidNumber => "invalid number"
  | .numberOutOfRange => "number out of range"
  | .controlCharacter => "control character (\\u0000-\\u001F) found while parsing a string"
  | .keyNotString => "key must be a string"
  | .loneSurrogate => "lone leading surrogate in hex escape"
  | .surrogateExpected => "unexpected end of hex escape"
  | .trailingComma => "trailing comma"
  | .trailingCharacters => "trailing characters"
  | .tooDeep => "recursion limit exceeded"

/-- Where a part of a document stands. -/
structure Span where
  /-- Before the colon that precedes the part, or before the part where there is none. -/
  lead : Position
  /-- Before the first character of the part. -/
  before : Position
  /-- After the last character of the part. -/
  after : Position
deriving DecidableEq, Repr, Inhabited

/-- A tree over a JSON text. -/
inductive Document where
  | broken (fault : Fault) (place lead : Position)
  | null (span : Span)
  | bool (b : Bool) (span : Span)
  | int (n : Int) (span : Span)
  | float (x : Binary64) (span : Span)
  | str (s : String) (span : Span)
  | arr (items : List Document) (span : Span)
  | obj (entries : List (String × Document)) (span : Span)
deriving Inhabited

/-- A fault and where it is reported. -/
abbrev Broken := Fault × Position

namespace Document

mutual

/-- The value of a document with the entries of objects as they stand in the text. What is broken counts as
`null`. -/
def raw : Document → Json
  | .broken _ _ _ => .null
  | .null _ => .null
  | .bool b _ => .bool b
  | .int n _ => .int n
  | .float x _ => .float x
  | .str s _ => .str s
  | .arr items _ => .arr (rawItems items)
  | .obj entries _ => .obj (rawEntries entries)

/-- The values of the items of an array. -/
def rawItems : List Document → List Json
  | [] => []
  | item :: rest => raw item :: rawItems rest

/-- The entries of an object with their values. -/
def rawEntries : List (String × Document) → List (String × Json)
  | [] => []
  | (key, item) :: rest => (key, raw item) :: rawEntries rest

end

mutual

/-- Where a document stops being JSON. -/
def fault? : Document → Option Broken
  | .broken fault place _ => some (fault, place)
  | .arr items _ => faultInItems? items
  | .obj entries _ => faultInEntries? entries
  | _ => none

/-- Where the items of an array stop being JSON. -/
def faultInItems? : List Document → Option Broken
  | [] => none
  | item :: rest => fault? item <|> faultInItems? rest

/-- Where the entries of an object stop being JSON. -/
def faultInEntries? : List (String × Document) → Option Broken
  | [] => none
  | (_, item) :: rest => fault? item <|> faultInEntries? rest

end

/-- The span of a part that is read to its end. -/
def span? : Document → Option Span
  | .broken _ _ _ => none
  | .null span | .bool _ span | .int _ span | .float _ span | .str _ span => some span
  | .arr _ span | .obj _ span => some span

/-- The place in front of a part, before the colon that precedes it. -/
def lead (d : Document) : Position :=
  match d with
  | .broken _ _ lead => lead
  | .null span | .bool _ span | .int _ span | .float _ span | .str _ span => span.lead
  | .arr _ span | .obj _ span => span.lead

/-- The part at a path of indices of items and entries. -/
def part? : Document → List Nat → Option Document
  | d, [] => some d
  | .arr items _, i :: path => items[i]?.bind (part? · path)
  | .obj entries _, i :: path => entries[i]?.bind (part? ·.2 path)
  | _, _ :: _ => none

end Document

end Json

end PageScript
