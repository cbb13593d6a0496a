import PageScript.Yaml.Scalar

/-!
# Tokens

The marks of a document: brackets, dashes, question marks and colons, names of nodes, and scalars. Indentation is
told by marks of its own, which open and close blocks. What turns out to be a key only at the colon behind it gets its
mark in front afterwards.
-/

namespace PageScript.Yaml

/-- A mark of a document. -/
inductive Token where
  | version (major minor : Nat)
  | tagPrefix (handle text : String)
  | documentStart
  | documentEnd
  | blockSequence
  | blockMapping
  | blockEnd
  | flowSequence
  | flowSequenceEnd
  | flowMapping
  | flowMappingEnd
  | entry
  | flowEntry
  | key
  | value
  | reference (name : String)
  | anchor (name : String)
  | tag (handle suffix : String)
  | scalar (style : Style) (text : String)
  | finish
deriving DecidableEq, Repr

/-- What may turn out to be a key: it has to be on one line, and short. -/
structure Candidate where
  /-- The number of tokens in front of it. -/
  token : Nat
  /-- The number of characters in front of it. -/
  index : Nat
  /-- Its line. -/
  line : Nat
  /-- Its column. -/
  column : Nat
  /-- It can be nothing else. -/
  required : Bool

/-- The longest key without a question mark. -/
def longestKey : Nat := 1024

/-- Where the reading of tokens has come to. -/
structure Scanner where
  /-- What is left of the text. -/
  cursor : Cursor
  /-- The tokens found. -/
  tokens : Array Token
  /-- The columns of the blocks that are open, the innermost first. -/
  blocks : List Nat
  /-- What may turn out to be a key outside of all brackets. -/
  candidate : Option Candidate
  /-- What may turn out to be a key inside each pair of brackets that is open, the innermost first. -/
  flows : List (Option Candidate)
  /-- A key may begin here. -/
  keyAllowed : Bool

namespace Scanner

/-- The beginning of a text. -/
def start (cs : List Char) : Scanner :=
  ⟨.start cs, #[], [], none, [], true⟩

/-- Inside brackets. -/
def inFlow (s : Scanner) : Bool :=
  !s.flows.isEmpty

/-- What may turn out to be a key here. -/
def current (s : Scanner) : Option Candidate :=
  match s.flows with
  | candidate :: _ => candidate
  | [] => s.candidate

/-- The scanner with something else that may turn out to be a key here. -/
def withCurrent (s : Scanner) (candidate : Option Candidate) : Scanner :=
  match s.flows with
  | _ :: outer => { s with flows := candidate :: outer }
  | [] => { s with candidate := candidate }

/-- Adds a token. -/
def push (s : Scanner) (t : Token) : Scanner :=
  { s with tokens := s.tokens.push t }

/-- Adds a token behind so many characters. -/
def pushOver (s : Scanner) (n : Nat) (t : Token) : Scanner :=
  { s.push t with cursor := s.cursor.skip n }

/-- What is no longer on the line, or too far away, is no key. -/
def expire (cursor : Cursor) : Option Candidate → Option (Option Candidate)
  | none => some none
  | some k =>
    if k.line < cursor.line ∨ k.index + longestKey < cursor.index then
      if k.required then none else some none
    else some (some k)

/-- Nothing that has expired may turn out to be a key any more. -/
def expireAll (s : Scanner) : Option Scanner := do
  return { s with
    candidate := ← expire s.cursor s.candidate
    flows := ← s.flows.mapM (expire s.cursor) }

/-- What may turn out to be a key here no longer may. -/
def dropCandidate (s : Scanner) : Option Scanner :=
  if s.current.any Candidate.required then none else some (s.withCurrent none)

/-- What follows may turn out to be a key, if one may begin here. -/
def markCandidate (s : Scanner) : Option Scanner :=
  if !s.keyAllowed then some s
  else
    let c := s.cursor
    let required := !s.inFlow && s.blocks.head? = some c.column
    s.dropCandidate.map fun s => s.withCurrent (some ⟨s.tokens.size, c.index, c.line, c.column, required⟩)

/-- Opens a block at a column if it is further in than the block around it. Its token goes in front of others. -/
def openBlock (s : Scanner) (column place : Nat) (t : Token) : Scanner :=
  if s.inFlow then s
  else
    let further : Bool := match s.blocks.head? with
      | some outer => outer < column
      | none => true
    if further then { s with blocks := column :: s.blocks, tokens := s.tokens.insertIdxIfInBounds place t } else s

/-- Closes the blocks further in than a column. -/
def closeBlocks (s : Scanner) (column : Nat) : Scanner :=
  if s.inFlow then s
  else
    let closed := s.blocks.takeWhile (column < ·)
    { s with
      blocks := s.blocks.drop closed.length
      tokens := closed.foldl (fun tokens _ => tokens.push .blockEnd) s.tokens }

/-- Closes all blocks. -/
def closeAll (s : Scanner) : Scanner :=
  if s.inFlow then s
  else { s with blocks := [], tokens := s.blocks.foldl (fun tokens _ => tokens.push .blockEnd) s.tokens }

/-- Moves over blanks, comments and line breaks. -/
def skipToToken : Nat → Scanner → Scanner
  | 0, s => s
  | fuel + 1, s =>
    let c := s.cursor
    let c := if c.column = 0 ∧ c.sees (Char.ofNat 0xFEFF) then c.skip 1 else c
    let tabs := s.inFlow || !s.keyAllowed
    let c := c.skipWhile fun x => x = ' ' || (tabs && x = '\t')
    let c := if c.sees '#' then c.skipWhile fun x => !isBreak x else c
    if c.next?.any isBreak then
      skipToToken fuel { s with cursor := c.skipBreak, keyAllowed := s.keyAllowed || !s.inFlow }
    else { s with cursor := c }

/-! ## Directives, names and tags -/

/-- A number of at most nine digits. -/
def readNumber (c : Cursor) : Option (Nat × Cursor) :=
  let digits := c.rest.takeWhile fun x => '0' ≤ x && x ≤ '9'
  if digits.isEmpty ∨ 9 < digits.length then none
  else some (digits.foldl (fun n x => n * 10 + (x.toNat - '0'.toNat)) 0, c.skip digits.length)

/-- The handle of a tag, which begins with an exclamation mark and may end with one. -/
def readHandle (c : Cursor) : Option (String × Cursor) :=
  if !c.sees '!' then none
  else
    let name := (c.rest.drop 1).takeWhile isNameChar
    let closing := if c.at? (1 + name.length) = some '!' then ['!'] else []
    let handle := '!' :: name ++ closing
    some (String.ofList handle, c.skip handle.length)

/-- A character of the text of a tag. -/
def isTagChar (verbatim : Bool) (c : Char) : Bool :=
  isNameChar c || [';', '/', '?', ':', '@', '&', '=', '+', '$', '.', '!', '~', '*', '\'', '(', ')', '%'].contains c
    || (verbatim && [',', '[', ']'].contains c)

/-- Undoes the escapes in the text of a tag, which must spell whole characters. -/
def unescapeTag (cs : List Char) : Option String :=
  let escaped (cs : List Char) : Bool :=
    match cs with
    | '%' :: a :: b :: _ => (Url.hexDigit? a).isSome && (Url.hexDigit? b).isSome
    | '%' :: _ => false
    | _ => true
  if (List.range cs.length).all fun i => escaped (cs.drop i) then
    String.fromUTF8? ⟨(Url.percentDecode (String.ofList cs).toUTF8.toList).toArray⟩
  else none

/-- The text of a tag behind what has been read of it. -/
def readTagText (verbatim : Bool) (front : List Char) (c : Cursor) : Option (String × Cursor) := do
  let text := c.rest.takeWhile (isTagChar verbatim)
  if front.isEmpty ∧ text.isEmpty then none
  let unescaped ← unescapeTag text
  return (String.ofList (front.drop 1) ++ unescaped, c.skip text.length)

/-- The end of a directive: nothing but blanks and a comment. -/
def readDirectiveEnd (c : Cursor) : Option Cursor :=
  (skipToLineEnd c).map skipLineEnd

/-- The values of a directive. -/
def readDirectiveValues (name : List Char) (c : Cursor) : Option (Token × Cursor) :=
  if name = "YAML".toList then do
    let (major, c) ← readNumber (c.skipWhile isBlank)
    if !c.sees '.' then none
    let (minor, c) ← readNumber (c.skip 1)
    return (.version major minor, c)
  else if name = "TAG".toList then do
    let (handle, c) ← readHandle (c.skipWhile isBlank)
    if handle ≠ "!" ∧ !(handle.endsWith "!") then none
    if !(c.next?.any isBlank) then none
    let (text, c) ← readTagText true [] (c.skipWhile isBlank)
    if !endsWord c.next? then none
    return (.tagPrefix handle text, c)
  else none

/-- Reads a directive. -/
def readDirective (s : Scanner) : Option Scanner := do
  let s ← s.closeAll.dropCandidate
  let name := (s.cursor.rest.drop 1).takeWhile isNameChar
  let c := s.cursor.skip (1 + name.length)
  if name.isEmpty ∨ !endsWord c.next? then none
  let (t, c) ← readDirectiveValues name c
  let c ← readDirectiveEnd c
  return { s.push t with cursor := c, keyAllowed := false }

/-- What may follow a name. -/
def endsName (c : Option Char) : Bool :=
  endsWord c || c.any fun x => ['?', ':', ',', ']', '}', '%', '@', Char.ofNat 0x60].contains x

/-- Reads the name of a node behind its mark. -/
def readName (s : Scanner) (token : String → Token) : Option Scanner := do
  let s ← s.markCandidate
  let name := (s.cursor.rest.drop 1).takeWhile isNameChar
  let c := s.cursor.skip (1 + name.length)
  if name.isEmpty ∨ !endsName c.next? then none
  return { s.push (token (String.ofList name)) with cursor := c, keyAllowed := false }

/-- The handle and the suffix of a tag. -/
def readTagParts (c : Cursor) : Option (String × String × Cursor) :=
  if c.at? 1 = some '<' then do
    let (text, c) ← readTagText true [] (c.skip 2)
    if c.sees '>' then return ("", text, c.skip 1) else none
  else do
    let (handle, c) ← readHandle c
    if 1 < handle.length ∧ handle.endsWith "!" then
      let (text, c) ← readTagText false [] c
      return (handle, text, c)
    else
      let (text, c) ← readTagText false handle.toList c
      return if text.isEmpty then ("", "!", c) else ("!", text, c)

/-- Reads a tag. -/
def readTag (s : Scanner) : Option Scanner := do
  let s ← s.markCandidate
  let (handle, suffix, c) ← readTagParts s.cursor
  if !endsWord c.next? && !(s.inFlow && c.sees ',') then none
  return { s.push (.tag handle suffix) with cursor := c, keyAllowed := false }

/-! ## Marks -/

/-- The boundary of a document. -/
def readBoundary (s : Scanner) (t : Token) : Option Scanner :=
  s.closeAll.dropCandidate.map fun s => { s.pushOver 3 t with keyAllowed := false }

/-- An opening bracket. -/
def readOpening (s : Scanner) (t : Token) : Option Scanner :=
  s.markCandidate.map fun s => { s.pushOver 1 t with flows := none :: s.flows, keyAllowed := true }

/-- A closing bracket. -/
def readClosing (s : Scanner) (t : Token) : Option Scanner :=
  s.dropCandidate.map fun s => { s.pushOver 1 t with flows := s.flows.drop 1, keyAllowed := false }

/-- A comma. -/
def readComma (s : Scanner) : Option Scanner :=
  s.dropCandidate.map fun s => { s.pushOver 1 .flowEntry with keyAllowed := true }

/-- A dash. -/
def readDash (s : Scanner) : Option Scanner := do
  if !s.inFlow && !s.keyAllowed then none
  let s ← (s.openBlock s.cursor.column s.tokens.size .blockSequence).dropCandidate
  return { s.pushOver 1 .entry with keyAllowed := true }

/-- A question mark. -/
def readQuestion (s : Scanner) : Option Scanner := do
  if !s.inFlow && !s.keyAllowed then none
  let s ← (s.openBlock s.cursor.column s.tokens.size .blockMapping).dropCandidate
  return { s.pushOver 1 .key with keyAllowed := !s.inFlow }

/-- A colon. What may be a key in front of it is one. -/
def readColon (s : Scanner) : Option Scanner :=
  match s.current with
  | some k =>
    let s := { s with tokens := s.tokens.insertIdxIfInBounds k.token .key }
    let s := (s.openBlock k.column k.token .blockMapping).withCurrent none
    some { s.pushOver 1 .value with keyAllowed := false }
  | none =>
    if !s.inFlow && !s.keyAllowed then none
    else
      let s := s.openBlock s.cursor.column s.tokens.size .blockMapping
      some { s.pushOver 1 .value with keyAllowed := !s.inFlow }

/-- A block scalar. -/
def readBlockScalar (s : Scanner) (literal : Bool) : Option Scanner := do
  let s ← s.dropCandidate
  let (text, c) ← readBlock literal s.blocks.head? (s.cursor.skip 1)
  let t : Token := .scalar (if literal then .literal else .folded) (String.ofList text)
  return { s.push t with cursor := c, keyAllowed := true }

/-- A quoted scalar. -/
def readQuotedScalar (s : Scanner) (double : Bool) : Option Scanner := do
  let s ← s.markCandidate
  let (text, c) ← readQuoted double (s.cursor.rest.length + 1) (s.cursor.skip 1)
  let t : Token := .scalar (if double then .doubleQuoted else .singleQuoted) (String.ofList text)
  return { s.push t with cursor := c, keyAllowed := false }

/-- A plain scalar. -/
def readPlainScalar (s : Scanner) : Option Scanner := do
  let s ← s.markCandidate
  let column := match s.blocks.head? with
    | some n => n + 1
    | none => 0
  let (text, broken, c) ← readPlain s.inFlow column (s.cursor.rest.length + 1) [] s.cursor
  return { s.push (.scalar .plain (String.ofList text)) with cursor := c, keyAllowed := broken }

/-- The characters that no plain scalar begins with. -/
def indicators : List Char :=
  ['-', '?', ':', ',', '[', ']', '{', '}', '#', '&', '*', '!', '|', '>', '\'', '"', '%', '@', Char.ofNat 0x60]

/-- A plain scalar may begin here. -/
def seesPlain (s : Scanner) (x : Char) : Bool :=
  let c := s.cursor
  !(isBlank x || indicators.contains x) || (x = '-' && !(c.at? 1).any isBlank)
    || (!s.inFlow && (x = '?' || x = ':') && !endsWord (c.at? 1))

/-- The end of the text. -/
def finish (s : Scanner) : Option Scanner :=
  s.closeAll.dropCandidate.map fun s => s.push .finish

/-- Reads the next token that begins with a character. -/
def readToken (s : Scanner) (x : Char) : Option Scanner :=
  let c := s.cursor
  let gap := endsWord (c.at? 1)
  if c.column = 0 ∧ x = '%' then s.readDirective
  else if c.seesMarks '-' then s.readBoundary .documentStart
  else if c.seesMarks '.' then s.readBoundary .documentEnd
  else if x = '[' then s.readOpening .flowSequence
  else if x = '{' then s.readOpening .flowMapping
  else if x = ']' then s.readClosing .flowSequenceEnd
  else if x = '}' then s.readClosing .flowMappingEnd
  else if x = ',' then s.readComma
  else if x = '-' ∧ gap then s.readDash
  else if x = '?' ∧ (s.inFlow ∨ gap) then s.readQuestion
  else if x = ':' ∧ (s.inFlow ∨ gap) then s.readColon
  else if x = '*' then s.readName .reference
  else if x = '&' then s.readName .anchor
  else if x = '!' then s.readTag
  else if x = '|' ∧ !s.inFlow then s.readBlockScalar true
  else if x = '>' ∧ !s.inFlow then s.readBlockScalar false
  else if x = '\'' then s.readQuotedScalar false
  else if x = '"' then s.readQuotedScalar true
  else if s.seesPlain x then s.readPlainScalar
  else none

/-- Reads all tokens. -/
def run : Nat → Scanner → Option (List Token)
  | 0, _ => none
  | fuel + 1, s => do
    let s ← (skipToToken (s.cursor.rest.length + 1) s).expireAll
    let s := s.closeBlocks s.cursor.column
    match s.cursor.next? with
    | none => return (← s.finish).tokens.toList
    | some x => run fuel (← s.readToken x)

end Scanner

/-- The tokens of a text. -/
def tokens? (text : String) : Option (List Token) :=
  let cs := text.toList
  if cs.all isAllowed then (Scanner.start cs).run (cs.length + 1) else none

end PageScript.Yaml
