import PageScript.Url.Address
import PageScript.Url.Domain.MappingTable

/-!
# Characters of domain names

What the characters of a domain name stand for: capitals for small letters, variants of a character for the
character, some for nothing.
-/

namespace PageScript.Url.Domain

open Text

/-- The image of a code point in a run. -/
def runImage? (n : Nat) : Option Nat :=
  imageRuns.findSome? fun (first, last, step, image) =>
    if first ≤ n ∧ n ≤ last ∧ (n - first) % step = 0 then some (image + (n - first)) else none

/-- The code points that hexadecimal digits between a separator give. -/
def codePoints (separator : Char) (cs : List Char) : List Nat :=
  (cs.splitOnP (· = separator)).filterMap (numberOf? 16)

/-- The image of a code point in a block. -/
def blockImage? (n : Nat) : Option (List Nat) :=
  match (imageBlocks.takeWhile fun block => block.1 ≤ n).getLast? with
  | some (first, images) => ((images.toList.splitOnP (· = ' '))[n - first]?).map (codePoints '+')
  | none => none

/-- What a character stands for. A character that is not allowed stands for nothing at all. -/
def image? (c : Char) : Option (List Char) :=
  let n := c.toNat
  if n < 0x80 then some [c.toLower]
  else if ignoredRanges.covers n then some []
  else if disallowedRanges.covers n then none
  else
    match runImage? n with
    | some image => some [Char.ofNat image]
    | none =>
      match blockImage? n with
      | some image => some (image.map Char.ofNat)
      | none => some [c]

end PageScript.Url.Domain
