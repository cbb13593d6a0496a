import PageScript.Url.Percent
import PageScript.Yaml.Cursor

/-!
# Scalars

Reading the texts of a document: quoted ones, plain ones and blocks. Line breaks inside quoted and plain texts are
folded: a single one means a space, and of several the first means nothing.
-/

namespace PageScript.Yaml

/-- How a scalar is written. -/
inductive Style where
  | plain
  | singleQuoted
  | doubleQuoted
  | literal
  | folded
deriving DecidableEq, Repr

/-- The blanks and line breaks between two words. -/
inductive Gap where
  /-- Blanks on a line. -/
  | blanks (cs : List Char)
  /-- Line breaks: the first one, unless it was escaped, and the others. -/
  | breaks (first : Option Char) (more : List Char)

/-- What a gap means. -/
def Gap.text : Gap → List Char
  | .blanks cs => cs
  | .breaks (some '\n') [] => [' ']
  | .breaks (some '\n') more => more
  | .breaks first more => first.toList ++ more

/-- Moves over blanks. A tab to the left of a column is an error. -/
def skipBlanks (limit : Nat) (c : Cursor) : Option Cursor :=
  let blanks := c.rest.takeWhile isBlank
  if (blanks.zipIdx.any fun blank => blank.1 = '\t' && c.column + blank.2 < limit) then none
  else some (c.skip blanks.length)

/-- The line breaks up to the next word. -/
def readBreaks (limit : Nat) : Nat → Cursor → Option (List Char × Cursor)
  | 0, _ => none
  | fuel + 1, c => do
    let c ← skipBlanks limit c
    if c.next?.any isBreak then
      let (more, after) ← readBreaks limit fuel c.skipBreak
      return (c.breakChar :: more, after)
    else return ([], c)

/-- The gap up to the next word. -/
def readGap (limit : Nat) (c : Cursor) : Option (Gap × Cursor) := do
  let blanks := c.rest.takeWhile isBlank
  let behind := c.skip blanks.length
  if behind.next?.any isBreak then
    let (more, after) ← readBreaks limit (c.rest.length + 1) behind.skipBreak
    return (.breaks behind.breakChar more, after)
  else return (.blanks blanks, behind)

/-! ## Quoted scalars -/

/-- The characters that stand for others behind a backslash. -/
def escapes : List (Char × Nat) := [
  ('0', 0x00), ('a', 0x07), ('b', 0x08), ('t', 0x09), ('\t', 0x09), ('n', 0x0A), ('v', 0x0B), ('f', 0x0C),
  ('r', 0x0D), ('e', 0x1B), (' ', 0x20), ('"', 0x22), ('\'', 0x27), ('/', 0x2F), ('\\', 0x5C), ('N', 0x85),
  ('_', 0xA0), ('L', 0x2028), ('P', 0x2029)]

/-- The characters behind which so many hexadecimal digits follow. -/
def numericEscapes : List (Char × Nat) :=
  [('x', 2), ('u', 4), ('U', 8)]

/-- The number that hexadecimal digits write. -/
def hexNumber? (digits : List Char) : Option Nat :=
  digits.foldlM (fun n c => (Url.hexDigit? c).map (n * 16 + ·)) 0

/-- Reads what follows a backslash. -/
def readEscape (c : Cursor) : Option (Char × Cursor) := do
  let mark ← c.next?
  match escapes.lookup mark, numericEscapes.lookup mark with
  | some n, _ => return (Char.ofNat n, c.skip 1)
  | none, some count => do
    let digits := (c.rest.drop 1).take count
    let n ← hexNumber? digits
    if digits.length = count ∧ n.isValidChar then return (Char.ofNat n, c.skip (1 + count)) else none
  | none, none => none

/-- A word of a quoted scalar: its characters, whether an escaped line break ended it, and what follows. -/
def readQuotedWord (double : Bool) : Nat → Cursor → Option (List Char × Bool × Cursor)
  | 0, _ => none
  | fuel + 1, c =>
    match c.rest with
    | [] => some ([], false, c)
    | '\'' :: '\'' :: _ =>
      if double then (readQuotedWord double fuel (c.skip 1)).map fun word => ('\'' :: word.1, word.2)
      else (readQuotedWord double fuel (c.skip 2)).map fun word => ('\'' :: word.1, word.2)
    | x :: rest =>
      if endsWord (some x) ∨ x = (if double then '"' else '\'') then some ([], false, c)
      else if double ∧ x = '\\' then
        if rest.head?.any isBreak then some ([], true, (c.skip 1).skipBreak)
        else do
          let (escaped, after) ← readEscape (c.skip 1)
          let (word, ended, after) ← readQuotedWord double fuel after
          return (escaped :: word, ended, after)
      else (readQuotedWord double fuel (c.skip 1)).map fun word => (x :: word.1, word.2)

/-- The rest of a quoted scalar, behind its opening quote. -/
def readQuoted (double : Bool) : Nat → Cursor → Option (List Char × Cursor)
  | 0, _ => none
  | fuel + 1, c => do
    if c.seesBoundary then none
    let (word, ended, c) ← readQuotedWord double (c.rest.length + 1) c
    if c.sees (if double then '"' else '\'') then return (word, c.skip 1)
    if c.rest.isEmpty then none
    let (gap, c) ← if ended then (readBreaks 0 (c.rest.length + 1) c).map fun read => (.breaks none read.1, read.2)
      else readGap 0 c
    let (more, c) ← readQuoted double fuel c
    return (word ++ gap.text ++ more, c)

/-! ## Plain scalars -/

/-- The characters that end a plain scalar inside brackets. -/
def isFlowMark (c : Char) : Bool :=
  c = ',' || c = '[' || c = ']' || c = '{' || c = '}'

/-- A plain scalar ends in front of these characters. -/
def endsPlain (flow : Bool) (cs : List Char) : Bool :=
  match cs with
  | [] => true
  | x :: rest => endsWord (some x) || (x = ':' && endsWord rest.head?) || (flow && isFlowMark x)

/-- A colon in front of a bracket or a comma is an error inside brackets. -/
def strayColon (flow : Bool) (cs : List Char) : Bool :=
  match cs with
  | ':' :: x :: _ => flow && (isFlowMark x || x = '?')
  | _ => false

/-- A word of a plain scalar. -/
def readPlainWord (flow : Bool) : List Char → Option (List Char)
  | [] => some []
  | x :: rest =>
    if !endsWord (some x) && strayColon flow (x :: rest) then none
    else if endsPlain flow (x :: rest) then some []
    else (readPlainWord flow rest).map (x :: ·)

/-- The words of a plain scalar and the gaps between them. Gives also whether it reaches over line breaks behind its
last word. It ends at a comment, at the boundary of a document and, outside brackets, to the left of a column. -/
def readPlain (flow : Bool) (column : Nat) : Nat → List Char → Cursor → Option (List Char × Bool × Cursor)
  | 0, _, _ => none
  | fuel + 1, gap, c =>
    if c.seesBoundary || c.sees '#' then some ([], false, c)
    else do
      let word ← readPlainWord flow c.rest
      let text := if word.isEmpty then [] else gap ++ word
      let c := c.skip word.length
      if !(c.next?.any fun x => isBlank x || isBreak x) then return (text, false, c)
      let (between, after) ← readGap column c
      let broken := match between with
        | .blanks _ => false
        | .breaks _ _ => true
      if !flow && after.column < column then return (text, broken, after)
      let carried := if word.isEmpty then gap else between.text
      let (more, endsBroken, c) ← readPlain flow column fuel carried after
      return (text ++ more, if more.isEmpty then broken || endsBroken else endsBroken, c)

/-! ## Block scalars -/

/-- What becomes of the line breaks at the end of a block. -/
inductive Chomping where
  | strip
  | clip
  | keep
deriving DecidableEq, Repr

/-- The sign of a chomping. -/
def chomping? : Option Char → Option Chomping
  | some '+' => some .keep
  | some '-' => some .strip
  | _ => none

/-- The digit of an indentation. -/
def indentation? (c : Option Char) : Option Nat :=
  c.bind fun x => if '0' ≤ x ∧ x ≤ '9' then some (x.toNat - '0'.toNat) else none

/-- The header of a block: the chomping and the indentation, in either order. -/
def readHeader (c : Cursor) : Option (Chomping × Option Nat × Cursor) :=
  let read := match chomping? c.next?, indentation? c.next? with
    | some chomping, _ =>
      match indentation? (c.at? 1) with
      | some n => (chomping, some n, c.skip 2)
      | none => (chomping, none, c.skip 1)
    | none, some n =>
      match chomping? (c.at? 1) with
      | some chomping => (chomping, some n, c.skip 2)
      | none => (.clip, some n, c.skip 1)
    | none, none => (.clip, none, c)
  if read.2.1 = some 0 then none else some read

/-- Moves to the end of a line over blanks and a comment. -/
def skipToLineEnd (c : Cursor) : Option Cursor :=
  let c := c.skipWhile isBlank
  let c := if c.sees '#' then c.skipWhile fun x => !isBreak x else c
  if endsLine c.next? then some c else none

/-- Moves over the line break that ends a line. -/
def skipLineEnd (c : Cursor) : Cursor :=
  if c.rest.isEmpty then c else c.skipBreak

/-- The line breaks in front of a line of a block, and the widest indentation that has been seen. A tab where a space
is expected is an error. -/
def readBlockBreaks (indent : Option Nat) : Nat → Nat → Cursor → Option (List Char × Nat × Cursor)
  | 0, _, _ => none
  | fuel + 1, widest, c =>
    let spaces := (c.rest.takeWhile (· = ' ')).length
    let c := c.skip (match indent with
      | some n => min spaces (n - c.column)
      | none => spaces)
    let widest := max widest c.column
    let inside := match indent with
      | some n => c.column < n
      | none => true
    if inside && c.sees '\t' then none
    else if c.next?.any isBreak then
      (readBlockBreaks indent fuel widest c.skipBreak).map fun read => (c.breakChar :: read.1, read.2)
    else some ([], widest, c)

/-- The lines of a block of an indentation. Gives its text and the line breaks behind it: the one of its last line
and the others. -/
def readBlockLines (literal : Bool) (indent : Nat) :
    Nat → List Char → List Char → Bool → Cursor → Option (List Char × List Char × List Char × Cursor)
  | 0, _, _, _, _ => none
  | fuel + 1, leading, trailing, wasBlank, c =>
    if c.column ≠ indent ∨ c.rest.isEmpty then some ([], leading, trailing, c)
    else do
      let blank := c.next?.any isBlank
      let before :=
        if !literal && leading = ['\n'] && !wasBlank && !blank then
          (if trailing.isEmpty then [' '] else []) ++ trailing
        else leading ++ trailing
      let line := c.rest.takeWhile fun x => !isBreak x
      let c := c.skip line.length
      let ending := if c.rest.isEmpty then [] else [c.breakChar]
      let (breaks, _, c) ← readBlockBreaks (some indent) (c.rest.length + 1) 0 (skipLineEnd c)
      let (text, leading, trailing, c) ← readBlockLines literal indent fuel ending breaks blank c
      return (before ++ line ++ text, leading, trailing, c)

/-- Reads a block behind its mark, inside a block of an indentation. -/
def readBlock (literal : Bool) (outer : Option Nat) (c : Cursor) : Option (List Char × Cursor) := do
  let (chomping, increment, c) ← readHeader c
  let c := skipLineEnd (← skipToLineEnd c)
  let given := increment.map fun n => outer.getD 0 + n
  let (breaks, widest, c) ← readBlockBreaks given (c.rest.length + 1) 0 c
  let least := match outer with
    | some n => n + 1
    | none => 1
  let indent := given.getD (max widest least)
  let (text, leading, trailing, c) ← readBlockLines literal indent (c.rest.length + 1) [] breaks false c
  return (match chomping with
    | .strip => text
    | .clip => text ++ leading
    | .keep => text ++ leading ++ trailing, c)

end PageScript.Yaml
