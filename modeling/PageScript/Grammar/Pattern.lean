import PageScript.Text.Blank
import PageScript.Text.Digit
import PageScript.Text.WordChar

/-!
# Patterns of command lines

A pattern is a verb followed by arguments of certain classes, each after a run of white space. Reading a line by a
pattern lists the ways in which the whole line fits it.
-/

namespace PageScript.Grammar

open Text

/-- A class of arguments. -/
inductive Slot where
  /-- A text in quotes, not empty and without quotes inside, or a run without white space. -/
  | selector
  /-- A text in quotes without quotes inside. -/
  | quoted
  /-- A run without white space. -/
  | word
  /-- Decimal digits. -/
  | number
  /-- Decimal digits after at most one minus sign. -/
  | integer
  /-- Word characters, colons and hyphens. -/
  | qualifiedName
  /-- Word characters and hyphens. -/
  | name
  /-- Anything on one line. -/
  | text
  /-- One of some words. -/
  | oneOf (words : List String)
deriving DecidableEq, Repr

namespace Slot

/-- The class as a group of a regular expression. -/
def expression : Slot → String
  | .selector => "(\"[^\"]+\"|\\S+)"
  | .quoted => "(\"[^\"]*\")"
  | .word => "(\\S+)"
  | .number => "(\\d+)"
  | .integer => "(-?\\d+)"
  | .qualifiedName => "([\\w:-]+)"
  | .name => "([\\w-]+)"
  | .text => "(.+)"
  | .oneOf words => "(" ++ "|".intercalate words ++ ")"

/-- A character of a qualified name. -/
def isQualifiedNameChar (c : Char) : Bool :=
  isWordChar c || c = ':' || c = '-'

/-- A character of a name. -/
def isNameChar (c : Char) : Bool :=
  isWordChar c || c = '-'

/-- Decimal digits, at least one. -/
def isNumber (cs : List Char) : Bool :=
  !cs.isEmpty && cs.all isDigit

/-- Decimal digits after at most one minus sign. -/
def isInteger : List Char → Bool
  | '-' :: cs => isNumber cs
  | cs => isNumber cs

/-- A text in quotes without quotes inside. -/
def isQuoted : List Char → Bool
  | '"' :: cs => cs.getLast? = some '"' && cs.dropLast.all (· ≠ '"')
  | _ => false

/-- Whether an argument belongs to the class. -/
def accepts : Slot → List Char → Bool
  | .selector, cs => (isQuoted cs && 2 < cs.length) || (!cs.isEmpty && cs.all (!isBlank ·))
  | .quoted, cs => isQuoted cs
  | .word, cs => !cs.isEmpty && cs.all (!isBlank ·)
  | .number, cs => isNumber cs
  | .integer, cs => isInteger cs
  | .qualifiedName, cs => !cs.isEmpty && cs.all isQualifiedNameChar
  | .name, cs => !cs.isEmpty && cs.all isNameChar
  | .text, cs => !cs.isEmpty && cs.all (· ≠ '\n')
  | .oneOf words, cs => words.any fun word => cs = word.toList

/-- The part in quotes at the front, and what follows it. -/
def quotedStart : List Char → List (List Char × List Char)
  | '"' :: cs =>
    match cs.span (· ≠ '"') with
    | (body, '"' :: rest) => [('"' :: (body ++ ['"']), rest)]
    | _ => []
  | _ => []

/-- The longest run of characters of a kind at the front if it is not empty, and what follows it. -/
def runStart (p : Char → Bool) (cs : List Char) : List (List Char × List Char) :=
  match cs.span p with
  | ([], _) => []
  | (run, rest) => [(run, rest)]

/-- The arguments of the class at the front that white space or the end can follow, each with what follows it.
A selector in quotes comes before a selector without. -/
def splits : Slot → List Char → List (List Char × List Char)
  | .selector, cs => ((quotedStart cs).filter fun split => 2 < split.1.length) ++ runStart (!isBlank ·) cs
  | .quoted, cs => quotedStart cs
  | .word, cs => runStart (!isBlank ·) cs
  | .number, cs => runStart isDigit cs
  | .integer, '-' :: cs => (runStart isDigit cs).map fun split => ('-' :: split.1, split.2)
  | .integer, cs => runStart isDigit cs
  | .qualifiedName, cs => runStart isQualifiedNameChar cs
  | .name, cs => runStart isNameChar cs
  | .text, cs => runStart (· ≠ '\n') cs
  | .oneOf words, cs =>
    (words.filter fun word => word.toList.isPrefixOf cs).map fun word =>
      (word.toList, cs.drop word.toList.length)

end Slot

/-- Arguments in order, of which one more may follow. -/
structure Form where
  /-- The arguments that must be there. -/
  needed : List Slot
  /-- The argument that may follow them. -/
  last : Option Slot
deriving DecidableEq, Repr

/-- The values of the arguments of a form, nothing for the last one when it is left out. -/
abbrev Assignment := List (Option (List Char))

namespace Form

/-- The number of arguments. -/
def size (f : Form) : Nat :=
  f.needed.length + (if f.last.isSome then 1 else 0)

/-- The number of arguments of several forms. -/
def sizes : List Form → Nat
  | [] => 0
  | form :: rest => form.size + sizes rest

/-- What follows a run of white space at the front. -/
def afterGap? : List Char → Option (List Char)
  | [] => none
  | c :: cs => if isBlank c then some (trimStart cs) else none

/-- The values of arguments, each after white space, that fill a text up to its end. -/
def fillings : List Slot → Option Slot → List Char → List Assignment
  | [], none, cs => if cs.isEmpty then [[]] else []
  | [], some last, cs =>
    (match afterGap? cs with
      | none => []
      | some rest =>
        ((last.splits rest).filter fun split => split.2.isEmpty).map fun split => [some split.1])
      ++ (if cs.isEmpty then [[none]] else [])
  | slot :: slots, last, cs =>
    match afterGap? cs with
    | none => []
    | some rest =>
      (slot.splits rest).flatMap fun split =>
        (fillings slots last split.2).map fun values => some split.1 :: values

/-- The form as part of a regular expression, after the white space in front of it. -/
def expression (f : Form) : String :=
  "\\s+".intercalate (f.needed.map Slot.expression)

end Form

/-- A verb and the forms its arguments may have. -/
structure Pattern where
  /-- The first word of the line. -/
  verb : String
  /-- The forms of the arguments, in the order in which they are tried. -/
  forms : List Form
deriving DecidableEq, Repr

namespace Pattern

/-- The values of all arguments of all forms, when some of them belong to one form: the arguments of the forms
before it and after it have none. -/
def placed (before : Nat) (values : Assignment) (after : Nat) : Assignment :=
  List.replicate before none ++ values ++ List.replicate after none

/-- The ways to fill one of some forms, the first of which comes after a number of arguments. -/
def fillingsFrom (before : Nat) (cs : List Char) : List Form → List Assignment
  | [] => []
  | form :: rest =>
    ((Form.fillings form.needed form.last cs).map fun values =>
        placed before values (Form.sizes rest))
      ++ fillingsFrom (before + form.size) cs rest

/-- The ways in which a whole line fits the pattern. -/
def assignments (p : Pattern) (line : List Char) : List Assignment :=
  if p.verb.toList.isPrefixOf line then fillingsFrom 0 (line.drop p.verb.toList.length) p.forms else []

/-- The way in which a line is read. -/
def assign? (p : Pattern) (line : List Char) : Option Assignment :=
  (p.assignments line).head?

/-- The pattern as a regular expression over the whole line. -/
def expression (p : Pattern) : String :=
  let arguments := match p.forms with
    | [form] =>
      String.join (form.needed.map fun slot => "\\s+" ++ slot.expression)
        ++ (match form.last with
          | none => ""
          | some slot => "(?:\\s+" ++ slot.expression ++ ")?")
    | forms => "\\s+(?:" ++ "|".intercalate (forms.map Form.expression) ++ ")"
  "^" ++ p.verb ++ arguments ++ "$"

end Pattern

end PageScript.Grammar
