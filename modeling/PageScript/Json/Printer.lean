import PageScript.Json.Basic

/-!
# JSON text

Two layouts: `compact` has no spaces, `pretty` puts every item and field on a line of its own, indented by two
spaces a level. Fields are written in the order they have.
-/

namespace PageScript.Json

/-- A digit of a lower-case hexadecimal number. -/
def hexDigit (n : Nat) : Char :=
  if n < 10 then Char.ofNat (48 + n) else Char.ofNat (87 + n)

/-- A character inside a JSON string. Only quotes, backslashes and controls below U+0020 are escaped. -/
def escapeChar (c : Char) : List Char :=
  if c = '"' then ['\\', '"']
  else if c = '\\' then ['\\', '\\']
  else if c.toNat = 8 then ['\\', 'b']
  else if c.toNat = 9 then ['\\', 't']
  else if c.toNat = 10 then ['\\', 'n']
  else if c.toNat = 12 then ['\\', 'f']
  else if c.toNat = 13 then ['\\', 'r']
  else if c.toNat < 0x20 then
    ['\\', 'u', '0', '0', hexDigit (c.toNat / 16), hexDigit (c.toNat % 16)]
  else [c]

/-- A text as a JSON string. -/
def stringChars (s : String) : List Char :=
  '"' :: (s.toList.flatMap escapeChar ++ ['"'])

/-- The decimal digits of an integer after its sign. -/
def intChars (n : Int) : List Char :=
  if n < 0 then '-' :: Nat.toDigits 10 n.natAbs else Nat.toDigits 10 n.natAbs

mutual

/-- The characters of a value without spaces. -/
def compactChars : Json → List Char
  | .null => "null".toList
  | .bool true => "true".toList
  | .bool false => "false".toList
  | .int n => intChars n
  | .float x => x.text.toList
  | .str s => stringChars s
  | .arr [] => ['[', ']']
  | .arr (item :: rest) => '[' :: (compactChars item ++ compactItems rest)
  | .obj [] => [Char.ofNat 0x7B, Char.ofNat 0x7D]
  | .obj ((key, value) :: rest) =>
    Char.ofNat 0x7B :: (stringChars key ++ ':' :: (compactChars value ++ compactFields rest))

/-- The items after the first one, and the closing bracket. -/
def compactItems : List Json → List Char
  | [] => [']']
  | item :: rest => ',' :: (compactChars item ++ compactItems rest)

/-- The fields after the first one, and the closing brace. -/
def compactFields : List (String × Json) → List Char
  | [] => [Char.ofNat 0x7D]
  | (key, value) :: rest => ',' :: (stringChars key ++ ':' :: (compactChars value ++ compactFields rest))

end

/-- The text of a value without spaces. -/
def compact (j : Json) : String :=
  String.ofList (compactChars j)

/-- A line break and the indentation of a level. -/
def newLine (level : Nat) : List Char :=
  '\n' :: List.replicate (2 * level) ' '

mutual

/-- The characters of a value at a level of indentation. -/
def prettyChars (level : Nat) : Json → List Char
  | .arr (item :: rest) =>
    '[' :: (newLine (level + 1) ++ prettyChars (level + 1) item ++ prettyItems level rest)
  | .obj ((key, value) :: rest) =>
    Char.ofNat 0x7B :: (newLine (level + 1) ++ stringChars key ++ ':' :: ' ' ::
      (prettyChars (level + 1) value ++ prettyFields level rest))
  | .arr [] => ['[', ']']
  | .obj [] => [Char.ofNat 0x7B, Char.ofNat 0x7D]
  | .null => "null".toList
  | .bool true => "true".toList
  | .bool false => "false".toList
  | .int n => intChars n
  | .float x => x.text.toList
  | .str s => stringChars s

/-- The items after the first one, and the closing bracket on a line of its own. -/
def prettyItems (level : Nat) : List Json → List Char
  | [] => newLine level ++ [']']
  | item :: rest =>
    ',' :: (newLine (level + 1) ++ prettyChars (level + 1) item ++ prettyItems level rest)

/-- The fields after the first one, and the closing brace on a line of its own. -/
def prettyFields (level : Nat) : List (String × Json) → List Char
  | [] => newLine level ++ [Char.ofNat 0x7D]
  | (key, value) :: rest =>
    ',' :: (newLine (level + 1) ++ stringChars key ++ ':' :: ' ' ::
      (prettyChars (level + 1) value ++ prettyFields level rest))

end

/-- The text of a value over indented lines. -/
def pretty (j : Json) : String :=
  String.ofList (prettyChars 0 j)

end PageScript.Json
