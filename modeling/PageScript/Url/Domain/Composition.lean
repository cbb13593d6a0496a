import PageScript.Url.Domain.CompositionTable
import PageScript.Url.Domain.Mapping

/-!
# Composition of characters

A letter and the marks on it are written as one character where there is one, and marks that do not touch each other
stand in a fixed order. Only the characters that others stand for need be known here.
-/

namespace PageScript.Url.Domain

/-- The composed characters, each behind the two it is composed of. -/
def compositionPairs : List (Nat × Nat × Nat) :=
  compositions.flatMap fun (first, marks) =>
    (marks.toList.splitOnP (· = ' ')).filterMap fun pair =>
      match codePoints '=' pair with
      | [mark, composed] => some (first, mark, composed)
      | _ => none

/-- The Korean syllables: the first syllable, and the first of the leading, middle and final letters with their
numbers. One is not a final letter but stands for none. -/
structure Syllables where
  syllable : Nat
  leading : Nat
  middle : Nat
  final : Nat
  middles : Nat
  finals : Nat
  leadings : Nat

/-- The Korean syllables. -/
def syllables : Syllables :=
  ⟨0xAC00, 0x1100, 0x1161, 0x11A7, 21, 28, 19⟩

namespace Syllables

/-- A number lies among so many from a first one on. -/
def among (n first count : Nat) : Bool :=
  first ≤ n && n < first + count

/-- The number of syllables. -/
def count (s : Syllables) : Nat :=
  s.leadings * s.middles * s.finals

/-- The syllable of two letters, or of a syllable and a final letter. -/
def compose? (s : Syllables) (a b : Nat) : Option Nat :=
  if among a s.leading s.leadings && among b s.middle s.middles then
    some (s.syllable + ((a - s.leading) * s.middles + (b - s.middle)) * s.finals)
  else if among a s.syllable s.count && (a - s.syllable) % s.finals = 0 && among b (s.final + 1) (s.finals - 1) then
    some (a + (b - s.final))
  else none

/-- The two parts of a syllable. -/
def decompose? (s : Syllables) (n : Nat) : Option (Nat × Nat) :=
  if !among n s.syllable s.count then none
  else
    let index := n - s.syllable
    if index % s.finals = 0 then
      some (s.leading + index / (s.middles * s.finals), s.middle + index / s.finals % s.middles)
    else some (n - index % s.finals, s.final + index % s.finals)

end Syllables

/-- The character that two are composed to. -/
def compose? (a b : Nat) : Option Nat :=
  (syllables.compose? a b).or
    (compositionPairs.findSome? fun (first, mark, composed) => if first = a ∧ mark = b then some composed else none)

/-- The two characters that one is composed of. -/
def decompose? (n : Nat) : Option (Nat × Nat) :=
  (syllables.decompose? n).or
    (compositionPairs.findSome? fun (first, mark, composed) => if composed = n then some (first, mark) else none)

/-- The characters that one is composed of, down to a depth. -/
def decomposeTo : Nat → Nat → List Nat
  | 0, n => [n]
  | depth + 1, n =>
    match decompose? n with
    | some (first, mark) => decomposeTo depth first ++ [mark]
    | none => [n]

/-- No character is composed of more than four. -/
def deepest : Nat := 4

/-- The class by which a mark is ordered; a character that is no mark has class zero. -/
def combiningClass (n : Nat) : Nat :=
  (combiningClasses.findSome? fun (first, last, k) => if first ≤ n ∧ n ≤ last then some k else none).getD 0

/-- Puts a character behind others, which are given from the back: a mark goes in front of the marks of higher
classes. -/
def place (n : Nat) : List Nat → List Nat
  | [] => [n]
  | m :: before =>
    if 0 < combiningClass n ∧ combiningClass n < combiningClass m then m :: place n before else n :: m :: before

/-- The characters without composition and with their marks in order. -/
def decomposed (cs : List Nat) : List Nat :=
  ((cs.flatMap (decomposeTo deepest)).foldl (fun placed n => place n placed) []).reverse

/-- What has been composed: characters that nothing can be added to, the last character that is no mark, and the
marks behind it. -/
structure Composing where
  done : List Nat
  letter : Option Nat
  marks : List Nat

namespace Composing

/-- All that has been composed. -/
def all (s : Composing) : List Nat :=
  s.done ++ s.letter.toList ++ s.marks

/-- Adds a character. A mark of the same or a higher class in between keeps it from the letter. -/
def add (s : Composing) (n : Nat) : Composing :=
  let free := match s.marks.getLast? with
    | none => true
    | some mark => combiningClass mark < combiningClass n
  match (if free then s.letter.bind fun letter => compose? letter n else none) with
  | some composed => { s with letter := some composed }
  | none => if combiningClass n = 0 then ⟨s.all, some n, []⟩ else { s with marks := s.marks ++ [n] }

end Composing

/-- The composed form of some characters. -/
def composed (cs : List Char) : List Char :=
  if cs.all fun c => c.toNat < 0x80 then cs
  else (((decomposed (cs.map Char.toNat)).foldl Composing.add ⟨[], none, []⟩).all).map Char.ofNat

end PageScript.Url.Domain
