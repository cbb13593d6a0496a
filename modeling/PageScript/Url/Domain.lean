import PageScript.Url.Domain.Composition
import PageScript.Url.Domain.Label
import PageScript.Url.Domain.Mapping
import PageScript.Url.Punycode

/-!
# Domain names

The ASCII form of a domain name (Unicode Technical Standard 46, without the transition from older rules): characters
are replaced by what they stand for, labels are checked, and each label beyond ASCII is written in punycode behind
`xn--`.
-/

namespace PageScript.Url.Domain

/-- The characters that no domain name may hold. -/
def forbidden (c : Char) : Bool :=
  c ≤ ' ' || c = Char.ofNat 0x7F
    || ['#', '%', '/', ':', '<', '>', '?', '@', '[', '\\', ']', '^', '|'].contains c

/-- All characters are ASCII. -/
def isAscii (cs : List Char) : Bool :=
  cs.all fun c => c.toNat < 0x80

/-- What the characters of a name stand for, in composed form. -/
def mapped? (cs : List Char) : Option (List Char) :=
  ((cs.mapM image?).map List.flatten).bind fun images =>
    if images.any forbidden then none else some (composed images)

/-- The mark of a label in punycode. -/
def mark : List Char :=
  "xn--".toList

/-- The longest label that is written in punycode. -/
def longestLabel : Nat := 1000

/-- The longest punycode that is read. -/
def longestCode : Nat := 2000

/-- The label that punycode stands for: one beyond ASCII in which each character stands for itself. -/
def readCode? (code : List Char) : Option (List Char) :=
  if longestCode < code.length ∨ !isAscii code then none
  else
    (Punycode.decode code).bind fun label =>
      if !isAscii label && mapped? label = some label then some label else none

/-- A label as it is read, and its ASCII form. -/
structure Label where
  /-- The label. -/
  label : List Char
  /-- Its ASCII form. -/
  ascii : List Char

/-- Reads a label. -/
def readLabel? (label : List Char) : Option Label :=
  if mark.isPrefixOf label then
    (readCode? (label.drop mark.length)).map fun decoded => ⟨decoded, label⟩
  else if isAscii label then some ⟨label, label⟩
  else if longestLabel < label.length then none
  else some ⟨label, mark ++ Punycode.encode label⟩

/-- The labels of a name all fit. -/
def fit (labels : List Label) : Bool :=
  (labels.all fun l => isAscii l.label || labelFits l.label)
    && (!(labels.any fun l => l.label.any runsLeft) || labels.all fun l => directionsFit l.label)

/-- The ASCII form of a domain name. -/
def toAscii (cs : List Char) : Option (List Char) :=
  (mapped? cs).bind fun name =>
    ((name.splitOnP (· = '.')).mapM readLabel?).bind fun labels =>
      if fit labels then some (['.'].intercalate (labels.map Label.ascii)) else none

end PageScript.Url.Domain
