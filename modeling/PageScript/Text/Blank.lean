/-!
# White space

The white-space characters (property `White_Space`) and the operations on text that depend on them:
trimming, and splitting off a first word. The controls U+001C to U+001F and the zero-width space are not
white space.
-/

namespace PageScript.Text

/-- A white-space character. -/
def isBlank (c : Char) : Bool :=
  let n := c.toNat
  n = 0x20 || (0x09 ≤ n && n ≤ 0x0D) || n = 0x85 || n = 0xA0 || n = 0x1680
    || (0x2000 ≤ n && n ≤ 0x200A) || n = 0x2028 || n = 0x2029 || n = 0x202F || n = 0x205F || n = 0x3000

/-- Drops white space at the front. -/
def trimStart (cs : List Char) : List Char :=
  cs.dropWhile isBlank

/-- Drops white space at the end. -/
def trimEnd (cs : List Char) : List Char :=
  (cs.reverse.dropWhile isBlank).reverse

/-- Drops white space at both ends. -/
def trim (cs : List Char) : List Char :=
  trimEnd (trimStart cs)

/-- The text without white space at its ends. -/
def trimmed (s : String) : String :=
  String.ofList (trim s.toList)

/-- The characters before the first white space, and the rest from there on. -/
def splitWord (cs : List Char) : List Char × List Char :=
  cs.span fun c => !isBlank c

/-- A list has another as its prefix. -/
def startsWith (cs start : List Char) : Bool :=
  start.isPrefixOf cs

/-- Whether `part` occurs in a text as a block. -/
def containsBlock (part : List Char) : List Char → Bool
  | [] => part.isEmpty
  | c :: cs => part.isPrefixOf (c :: cs) || containsBlock part cs

end PageScript.Text
