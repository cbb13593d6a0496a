import PageScript.Url.Domain.LabelTable

/-!
# Labels of domain names

Which labels are fit: none begins with a mark, characters that join or keep apart their neighbours stand only where
they do so, and labels that run from right to left keep to the rules of such names.
-/

namespace PageScript.Url.Domain

open Text

/-- What a range table gives for a character. -/
def rangeValue? (table : List (Nat × Nat × α)) (c : Char) : Option α :=
  table.findSome? fun (first, last, a) => if first ≤ c.toNat ∧ c.toNat ≤ last then some a else none

/-- How a character joins with its neighbours. -/
def joining? (c : Char) : Option Joining :=
  rangeValue? joiningRanges c

/-- The direction of a character. -/
def direction (c : Char) : Direction :=
  (rangeValue? directionRanges c).getD .left

/-- A sign that kills a vowel. -/
def isVirama (c : Char) : Bool :=
  viramaRanges.covers c.toNat

/-- The first character that joins across transparent ones joins in one of some ways. -/
def joinsWith (ways : List Joining) (cs : List Char) : Bool :=
  match cs.dropWhile fun c => joining? c = some .transparent with
  | c :: _ => (joining? c).any ways.contains
  | [] => false

/-- The sign that keeps its neighbours apart. -/
def nonJoiner : Char := Char.ofNat 0x200C

/-- The sign that joins its neighbours. -/
def joiner : Char := Char.ofNat 0x200D

/-- The signs that join or keep apart stand where they may, behind what is given from the back. -/
def joinersFit : List Char → List Char → Bool
  | _, [] => true
  | before, c :: cs =>
    let behindVirama := (before.head?.map isVirama).getD false
    let fits :=
      if c = joiner then behindVirama
      else if c = nonJoiner then
        behindVirama || (joinsWith [.left, .dual] before && joinsWith [.right, .dual] cs)
      else true
    fits && joinersFit (c :: before) cs

/-- A character that makes a name one that runs from right to left. -/
def runsLeft (c : Char) : Bool :=
  direction c = .right || direction c = .arabicNumber

/-- A label of a name that runs from right to left keeps to the rules. -/
def directionsFit (label : List Char) : Bool :=
  let directions := label.map direction
  let last := (directions.reverse.dropWhile (· = .mark)).head?
  match directions.head? with
  | none => true
  | some .right =>
    directions.all [Direction.right, .arabicNumber, .number, .neutral, .mark].contains
      && last.any [Direction.right, .arabicNumber, .number].contains
      && !(directions.contains .number && directions.contains .arabicNumber)
  | some .left =>
    directions.all [Direction.left, .number, .neutral, .mark].contains
      && last.any [Direction.left, .number].contains
  | some _ => false

/-- A label with characters beyond ASCII is fit in itself. -/
def labelFits (label : List Char) : Bool :=
  !((label.head?.map fun c => markRanges.covers c.toNat).getD false) && joinersFit [] label

end PageScript.Url.Domain
