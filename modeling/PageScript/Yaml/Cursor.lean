/-!
# Places in a text

What is left of a text with the place where it begins, and how places move over characters and line breaks.
-/

namespace PageScript.Yaml

/-- What is left of a text, and where it begins. -/
structure Cursor where
  /-- What is left. -/
  rest : List Char
  /-- The number of characters in front of it. -/
  index : Nat
  /-- The number of lines in front of it. -/
  line : Nat
  /-- The number of characters in front of it on its line. -/
  column : Nat

/-- A line break. -/
def isBreak (c : Char) : Bool :=
  c = '\n' || c = '\r' || c = Char.ofNat 0x85 || c = Char.ofNat 0x2028 || c = Char.ofNat 0x2029

/-- A space or a tab. -/
def isBlank (c : Char) : Bool :=
  c = ' ' || c = '\t'

/-- The end of a word: a blank, a line break or the end of the text. -/
def endsWord : Option Char → Bool
  | none => true
  | some c => isBlank c || isBreak c

/-- The end of a line: a line break or the end of the text. -/
def endsLine : Option Char → Bool
  | none => true
  | some c => isBreak c

/-- A character of a name. -/
def isNameChar (c : Char) : Bool :=
  ('a' ≤ c && c ≤ 'z') || ('A' ≤ c && c ≤ 'Z') || ('0' ≤ c && c ≤ '9') || c = '_' || c = '-'

/-- A character that may stand in a text. -/
def isAllowed (c : Char) : Bool :=
  let n := c.toNat
  n = 0x09 || n = 0x0A || n = 0x0D || (0x20 ≤ n && n ≤ 0x7E) || n = 0x85 || (0xA0 ≤ n && n ≤ 0xFFFD)
    || 0x10000 ≤ n

namespace Cursor

/-- The beginning of a text. -/
def start (cs : List Char) : Cursor :=
  ⟨cs, 0, 0, 0⟩

/-- The character at a distance. -/
def at? (c : Cursor) (distance : Nat) : Option Char :=
  c.rest[distance]?

/-- The next character. -/
def next? (c : Cursor) : Option Char :=
  c.rest.head?

/-- The next character is this one. -/
def sees (c : Cursor) (x : Char) : Bool :=
  c.next? = some x

/-- Moves over so many characters of a line. -/
def skip (c : Cursor) (n : Nat) : Cursor :=
  { c with rest := c.rest.drop n, index := c.index + n, column := c.column + n }

/-- Moves over characters of a line as long as they are of a kind. -/
def skipWhile (c : Cursor) (p : Char → Bool) : Cursor :=
  c.skip (c.rest.takeWhile p).length

/-- Moves over a line break. A carriage return and a line feed are one. -/
def skipBreak (c : Cursor) : Cursor :=
  let moved (rest : List Char) (n : Nat) : Cursor := ⟨rest, c.index + n, c.line + 1, 0⟩
  match c.rest with
  | '\r' :: '\n' :: rest => moved rest 2
  | _ :: rest => moved rest 1
  | [] => c

/-- What a line break means: the separators of Unicode mean themselves, all others a line feed. -/
def breakChar (c : Cursor) : Char :=
  match c.next? with
  | some x => if x = Char.ofNat 0x2028 ∨ x = Char.ofNat 0x2029 then x else '\n'
  | none => '\n'

/-- A document begins or ends here: three marks of a kind at the front of a line. -/
def seesMarks (c : Cursor) (x : Char) : Bool :=
  c.column = 0 && c.rest.take 3 = [x, x, x] && endsWord (c.at? 3)

/-- A document begins or ends here. -/
def seesBoundary (c : Cursor) : Bool :=
  c.seesMarks '-' || c.seesMarks '.'

end Cursor

end PageScript.Yaml
