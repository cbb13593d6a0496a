/-!
# Lines

A line feed ends a line, together with a carriage return right before it. What follows the last line feed is a
line of its own unless it is empty.
-/

namespace PageScript.Text

/-- Drops a carriage return at the end. -/
def dropReturn (cs : List Char) : List Char :=
  if cs.getLast? = some '\r' then cs.dropLast else cs

/-- The lines of a text, of which `line` has been read, last character first. -/
def linesAfter (line : List Char) : List Char → List (List Char)
  | [] => if line.isEmpty then [] else [line.reverse]
  | c :: cs => if c = '\n' then dropReturn line.reverse :: linesAfter [] cs else linesAfter (c :: line) cs

/-- The lines of a text. -/
def lines (cs : List Char) : List (List Char) :=
  linesAfter [] cs

end PageScript.Text
