import PageScript.Text.Blank
import PageScript.Text.LowerCase

/-!
# Command lines

The normal form of a line has no white space at its ends, one space between the verb and its arguments, and a verb
in lower case without colons at its end that is no alias. The arguments stay as they are.
-/

namespace PageScript.Line

open Text

/-- The verb that an alias stands for; any other word stands for itself. -/
def canonicalVerb : String → String
  | "goto" | "navigate" | "nav" => "navto"
  | "select" => "focus"
  | "scrollto" => "scroll"
  | "getattribute" => "getattr"
  | "getcomputedstyle" => "getstyle"
  | "executejs" => "exec"
  | "waitforselector" => "waitforelement"
  | "toast" => "showtoast"
  | verb => verb

/-- Drops the colons at the end of a word. -/
def dropColons (word : List Char) : List Char :=
  (word.reverse.dropWhile (· = ':')).reverse

/-- The verb that a first word stands for. -/
def verbOfWord (word : List Char) : List Char :=
  (canonicalVerb (String.ofList (lowerCase (dropColons word)))).toList

/-- The normal form of the characters of a line. -/
def normalChars (cs : List Char) : List Char :=
  match trim cs with
  | [] => []
  | line =>
    let (word, rest) := splitWord line
    match trimStart rest with
    | [] => verbOfWord word
    | arguments => verbOfWord word ++ ' ' :: arguments

/-- The normal form of a line. -/
def normalize (s : String) : String :=
  String.ofList (normalChars s.toList)

/-- The first word of a line. -/
def verb (s : String) : String :=
  String.ofList (splitWord (trimStart s.toList)).1

/-- Whether a line of a script holds no command: it is blank, or starts with `#` or `//`. -/
def isBlankOrComment (cs : List Char) : Bool :=
  match trim cs with
  | [] => true
  | '#' :: _ => true
  | '/' :: '/' :: _ => true
  | _ => false

end PageScript.Line
