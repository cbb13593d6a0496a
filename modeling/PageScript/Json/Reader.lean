import PageScript.Json.Document

/-!
# Reading JSON text

The reader walks over the characters of a text with a cursor that knows its place. Numbers follow the rules of
`Binary64.ofDecimal?`: an integer that fits 64 bits stays an integer, and everything else is a rounded
significand times a power of ten. Nesting is limited to `maxDepth` levels.
-/

namespace PageScript.Json

/-- The characters that are still to be read and the place of the first of them. -/
structure Cursor where
  /-- The place of the next character. -/
  place : Position
  /-- The characters from there on. -/
  rest : List Char

namespace Cursor

/-- The place after a character that stands at a given place. -/
def advance (p : Position) (c : Char) : Position :=
  if c = '\n' then ⟨p.line + 1, 0⟩ else ⟨p.line, p.column + c.utf8Size⟩

/-- The cursor at the start of a text. -/
def ofText (s : String) : Cursor :=
  ⟨⟨1, 0⟩, s.toList⟩

/-- Steps over one character. -/
def next (c : Cursor) : Cursor :=
  match c.rest with
  | [] => c
  | x :: xs => ⟨advance c.place x, xs⟩

/-- The place behind the first byte of the next character, where a fault about that character is reported. -/
def peekPlace (c : Cursor) : Position :=
  match c.rest with
  | [] => c.place
  | '\n' :: _ => ⟨c.place.line + 1, 0⟩
  | _ :: _ => ⟨c.place.line, c.place.column + 1⟩

/-- The four characters that JSON allows between tokens. -/
def isSpace (c : Char) : Bool :=
  c = ' ' || c = '\n' || c = '\t' || c = '\r'

/-- Steps over the spaces in a list of characters. -/
def skipFrom (p : Position) : List Char → Cursor
  | [] => ⟨p, []⟩
  | c :: cs => if isSpace c then skipFrom (advance p c) cs else ⟨p, c :: cs⟩

/-- Steps over spaces. -/
def skip (c : Cursor) : Cursor :=
  skipFrom c.place c.rest

end Cursor

open Cursor

/-- The rest of a word such as `null`, whose first letter has been read. -/
def readWord : List Char → Cursor → Except Broken Cursor
  | [], c => .ok c
  | w :: ws, c =>
    match c.rest with
    | [] => .error (.endInValue, c.place)
    | x :: _ => if x = w then readWord ws c.next else .error (.identExpected, c.next.place)

/-- The value of a hexadecimal digit. -/
def hexValue? (c : Char) : Option Nat :=
  if '0' ≤ c ∧ c ≤ '9' then some (c.toNat - 48)
  else if 'a' ≤ c ∧ c ≤ 'f' then some (c.toNat - 87)
  else if 'A' ≤ c ∧ c ≤ 'F' then some (c.toNat - 55)
  else none

/-- Four hexadecimal digits. With fewer than four bytes left the text ends inside the string; a bad digit is
reported behind the four bytes. -/
def readHex (c : Cursor) : Except Broken (Nat × Cursor) :=
  match c.rest with
  | a :: b :: d :: e :: rest =>
    match hexValue? a, hexValue? b, hexValue? d, hexValue? e with
    | some w, some x, some y, some z =>
      .ok (((w * 16 + x) * 16 + y) * 16 + z, ⟨⟨c.place.line, c.place.column + 4⟩, rest⟩)
    | _, _, _, _ => .error (.invalidEscape, fourBytesOn c.place c.rest 4)
  | rest => if 4 ≤ (String.ofList rest).utf8ByteSize then .error (.invalidEscape, fourBytesOn c.place rest 4)
    else .error (.endInString, rest.foldl advance c.place)
where
  /-- The place a number of bytes further on. -/
  fourBytesOn (p : Position) : List Char → Nat → Position
    | _, 0 => p
    | [], _ => p
    | x :: xs, n => if x.utf8Size ≤ n then fourBytesOn (advance p x) xs (n - x.utf8Size)
      else ⟨p.line, p.column + n⟩

/-- The character of a `\u` escape whose `u` has been read; a leading surrogate needs a trailing one. -/
def readUnicode (c : Cursor) : Except Broken (Char × Cursor) := do
  let (high, c) ← readHex c
  if 0xDC00 ≤ high ∧ high ≤ 0xDFFF then .error (.loneSurrogate, c.place)
  else if high < 0xD800 ∨ 0xDBFF < high then .ok (Char.ofNat high, c)
  else
    match c.rest with
    | [] => .error (.endInString, c.place)
    | '\\' :: _ =>
      let c := c.next
      match c.rest with
      | [] => .error (.endInString, c.place)
      | 'u' :: _ =>
        let (low, c) ← readHex c.next
        if 0xDC00 ≤ low ∧ low ≤ 0xDFFF then
          .ok (Char.ofNat (0x10000 + (high - 0xD800) * 0x400 + (low - 0xDC00)), c)
        else .error (.loneSurrogate, c.place)
      | _ => .error (.surrogateExpected, ⟨c.place.line, c.place.column + 1⟩)
    | _ => .error (.surrogateExpected, c.peekPlace)

/-- The character of an escape whose backslash has been read. -/
def readEscape (c : Cursor) : Except Broken (Char × Cursor) :=
  match c.rest with
  | [] => .error (.endInString, c.place)
  | x :: _ =>
    if x = '"' ∨ x = '\\' ∨ x = '/' then .ok (x, c.next)
    else if x = 'b' then .ok (Char.ofNat 8, c.next)
    else if x = 'f' then .ok (Char.ofNat 12, c.next)
    else if x = 'n' then .ok ('\n', c.next)
    else if x = 'r' then .ok ('\r', c.next)
    else if x = 't' then .ok ('\t', c.next)
    else if x = 'u' then readUnicode c.next
    else .error (.invalidEscape, c.peekPlace)

/-- The characters of a string whose opening quote has been read. The fuel bounds the number of characters. -/
def readString : Nat → Cursor → Except Broken (List Char × Cursor)
  | 0, c => .error (.endInString, c.place)
  | fuel + 1, c =>
    match c.rest with
    | [] => .error (.endInString, c.place)
    | x :: _ =>
      if x = '"' then .ok ([], c.next)
      else if x = '\\' then do
        let (y, c) ← readEscape c.next
        let (ys, c) ← readString fuel c
        return (y :: ys, c)
      else if x.toNat < 0x20 then .error (.controlCharacter, c.next.place)
      else do
        let (ys, c) ← readString fuel c.next
        return (x :: ys, c)

/-- A decimal digit of a JSON number. -/
def isNumeral (c : Char) : Bool :=
  '0' ≤ c && c ≤ '9'

/-- A number that has been read. -/
inductive Numeral where
  | int (n : Int)
  | float (x : Binary64)

/-- The digits in front of a cursor and the cursor behind them. -/
def readDigits (c : Cursor) : List Char × Cursor :=
  let ds := c.rest.takeWhile isNumeral
  (ds, ⟨⟨c.place.line, c.place.column + ds.length⟩, c.rest.dropWhile isNumeral⟩)

/-- The largest number of 64 bits. -/
def maxWord : Nat := 18446744073709551615

/-- Appends digits to a significand for as long as it fits 64 bits, and counts the digits appended. -/
def accumulate (significand : Nat) : List Char → Nat × Nat
  | [] => (significand, 0)
  | d :: ds =>
    let n := significand * 10 + (d.toNat - 48)
    if maxWord < n then (significand, 0)
    else
      let (s, count) := accumulate n ds
      (s, count + 1)

/-- The number of a sign, a significand and a power of ten. -/
def finish (positive : Bool) (significand : Nat) (e : Int) (c : Cursor) : Except Broken (Numeral × Cursor) :=
  match Binary64.ofDecimal? significand e with
  | none => .error (.numberOutOfRange, c.place)
  | some x => .ok (.float (if positive then x else x.neg), c)

/-- The largest exponent that is computed with. -/
def maxExponent : Int := 2147483647

/-- The exponent part whose `e` comes next. -/
def readExponent (positive : Bool) (significand : Nat) (start : Int) (c : Cursor) :
    Except Broken (Numeral × Cursor) :=
  let c := c.next
  let (up, c) := match c.rest with
    | '+' :: _ => (true, c.next)
    | '-' :: _ => (false, c.next)
    | _ => (true, c)
  match c.rest with
  | [] => .error (.endInValue, c.place)
  | d :: _ =>
    if !isNumeral d then .error (.invalidNumber, c.next.place)
    else
      let (ds, after) := readDigits c
      let e : Nat := ds.foldl (fun n d => n * 10 + (d.toNat - 48)) 0
      if maxExponent < e then
        if significand ≠ 0 ∧ up then .error (.numberOutOfRange, (overflowPlace c ds).place)
        else .ok (.float (Binary64.ofParts (!positive) 0), after)
      else finish positive significand (if up then start + e else start - e) after
where
  /-- The cursor behind the digit that makes the exponent too large. -/
  overflowPlace (c : Cursor) (ds : List Char) : Cursor :=
    let kept := (List.range (ds.length + 1)).findSome? fun n =>
      if maxExponent < ((ds.take n).foldl (fun m d => m * 10 + (d.toNat - 48)) 0 : Nat) then some n else none
    ⟨⟨c.place.line, c.place.column + kept.getD ds.length⟩, c.rest.drop (kept.getD ds.length)⟩

/-- What follows the digits of a number that is not an integer. -/
def readTail (positive : Bool) (significand : Nat) (e : Int) (c : Cursor) : Except Broken (Numeral × Cursor) :=
  match c.rest with
  | 'e' :: _ | 'E' :: _ => readExponent positive significand e c
  | _ => finish positive significand e c

/-- The fraction whose point comes next. Digits that no longer fit the significand are dropped. -/
def readFraction (positive : Bool) (significand : Nat) (e : Int) (c : Cursor) :
    Except Broken (Numeral × Cursor) :=
  let (ds, after) := readDigits c.next
  if ds.isEmpty then
    .error (if after.rest.isEmpty then .endInValue else .invalidNumber, after.peekPlace)
  else
    let (significand, count) := accumulate significand ds
    readTail positive significand (e - count) after

/-- A number whose sign has been read. -/
def readNumber (positive : Bool) (c : Cursor) : Except Broken (Numeral × Cursor) :=
  match c.rest with
  | [] => .error (.endInValue, c.place)
  | d :: _ =>
    if !isNumeral d then .error (.invalidNumber, c.next.place)
    else
      let (ds, after) := readDigits c
      if d = '0' ∧ 1 < ds.length then .error (.invalidNumber, c.next.peekPlace)
      else
        let (significand, count) := accumulate 0 ds
        let dropped : Int := ds.length - count
        match after.rest with
        | '.' :: _ => readFraction positive significand dropped after
        | 'e' :: _ | 'E' :: _ => readExponent positive significand dropped after
        | _ =>
          if dropped ≠ 0 then finish positive significand dropped after
          else if positive then .ok (.int significand, after)
          else if 0 < significand ∧ significand ≤ 9223372036854775808 then .ok (.int (-(significand : Int)), after)
          else .ok (.float (Binary64.ofRatio true significand 1), after)

/-- The number of levels that brackets may be nested. -/
def maxDepth : Nat := 127

/-- A document that ends here for want of JSON, with no cursor to go on from. -/
def stop (lead : Position) (b : Broken) : Document × Option Cursor :=
  (.broken b.1 b.2 lead, none)

mutual

/-- One value. The fuel bounds the number of tokens, `depth` the levels of nesting that are left. -/
def readValue : Nat → Nat → Position → Cursor → Document × Option Cursor
  | 0, _, lead, c => stop lead (.endInValue, c.place)
  | fuel + 1, depth, lead, c =>
    let c := c.skip
    match c.rest with
    | [] => stop lead (.endInValue, c.place)
    | x :: _ =>
      let word (letters : List Char) (make : Span → Document) : Document × Option Cursor :=
        match readWord letters c.next with
        | .error b => stop lead b
        | .ok after => (make ⟨lead, c.place, after.place⟩, some after)
      let number (positive : Bool) (start : Cursor) : Document × Option Cursor :=
        match readNumber positive start with
        | .error b => stop lead b
        | .ok (.int n, after) => (.int n ⟨lead, c.place, after.place⟩, some after)
        | .ok (.float y, after) => (.float y ⟨lead, c.place, after.place⟩, some after)
      if x = 'n' then word ['u', 'l', 'l'] .null
      else if x = 't' then word ['r', 'u', 'e'] (.bool true)
      else if x = 'f' then word ['a', 'l', 's', 'e'] (.bool false)
      else if x = '-' then number false c.next
      else if isNumeral x then number true c
      else if x = '"' then
        match readString (c.rest.length + 1) c.next with
        | .error b => stop lead b
        | .ok (cs, after) => (.str (String.ofList cs) ⟨lead, c.place, after.place⟩, some after)
      else if x = '[' then
        match depth with
        | 0 => stop lead (.tooDeep, c.peekPlace)
        | depth + 1 =>
          match readItems fuel depth true c.next with
          | (items, none) => (.arr items ⟨lead, c.place, c.place⟩, none)
          | (items, some after) => (.arr items ⟨lead, c.place, after.place⟩, some after)
      else if x.toNat = 0x7B then
        match depth with
        | 0 => stop lead (.tooDeep, c.peekPlace)
        | depth + 1 =>
          match readEntries fuel depth true c.next with
          | (entries, none) => (.obj entries ⟨lead, c.place, c.place⟩, none)
          | (entries, some after) => (.obj entries ⟨lead, c.place, after.place⟩, some after)
      else stop lead (.valueExpected, c.peekPlace)

/-- The items of an array up to its closing bracket. -/
def readItems : Nat → Nat → Bool → Cursor → List Document × Option Cursor
  | 0, _, _, c => ([.broken .endInList c.place c.place], none)
  | fuel + 1, depth, first, c =>
    let c := c.skip
    match c.rest with
    | [] => ([.broken .endInList c.place c.place], none)
    | x :: _ =>
      if x = ']' then ([], some c.next)
      else
        let start := if first then some c
          else if x = ',' then some c.next.skip else none
        match start with
        | none => ([.broken .listEndExpected c.peekPlace c.peekPlace], none)
        | some start =>
          if !first && start.rest.head? = some ']' then ([.broken .trailingComma start.peekPlace start.peekPlace], none)
          else if !first && start.rest.isEmpty then ([.broken .endInValue start.place start.place], none)
          else
            match readValue fuel depth start.place start with
            | (item, none) => ([item], none)
            | (item, some after) =>
              match readItems fuel depth false after with
              | (items, next) => (item :: items, next)

/-- The entries of an object up to its closing brace. -/
def readEntries : Nat → Nat → Bool → Cursor → List (String × Document) × Option Cursor
  | 0, _, _, c => ([("", .broken .endInObject c.place c.place)], none)
  | fuel + 1, depth, first, c =>
    let c := c.skip
    let fail (fault : Fault) (place : Position) : List (String × Document) × Option Cursor :=
      ([("", .broken fault place place)], none)
    match c.rest with
    | [] => fail .endInObject c.place
    | x :: _ =>
      if x.toNat = 0x7D then ([], some c.next)
      else
        let start := if first then some c
          else if x = ',' then some c.next.skip else none
        match start with
        | none => fail .objectEndExpected c.peekPlace
        | some start =>
          match start.rest with
          | [] => fail .endInValue start.place
          | q :: _ =>
            if q.toNat = 0x7D then fail .trailingComma start.peekPlace
            else if q ≠ '"' then fail .keyNotString start.peekPlace
            else
              match readString (start.rest.length + 1) start.next with
              | .error b => fail b.1 b.2
              | .ok (key, after) =>
                let key := String.ofList key
                let colon := after.skip
                match colon.rest with
                | [] => ([(key, .broken .endInObject colon.place colon.place)], none)
                | ':' :: _ =>
                  match readValue fuel depth colon.place colon.next with
                  | (item, none) => ([(key, item)], none)
                  | (item, some after) =>
                    match readEntries fuel depth false after with
                    | (entries, next) => ((key, item) :: entries, next)
                | _ => ([(key, .broken .colonExpected colon.peekPlace colon.place)], none)

end

/-- The document at the start of a text, and the fault of characters that follow it. -/
def Document.ofText (s : String) : Document × Option Broken :=
  let start := Cursor.ofText s
  match readValue (2 * s.length + 2) maxDepth start.place start with
  | (doc, none) => (doc, none)
  | (doc, some after) =>
    let rest := after.skip
    (doc, if rest.rest.isEmpty then none else some (.trailingCharacters, rest.peekPlace))

/-- The free value that a text is, or the first fault of the text. -/
def parse (s : String) : Except Broken Json :=
  match Document.ofText s with
  | (doc, trailing) =>
    match doc.fault? <|> trailing with
    | none => .ok doc.raw.canonical
    | some b => .error b

end PageScript.Json
