/-!
# Sets of characters given by ranges

Classes of characters are data: ascending lists of disjoint ranges of code points.
-/

namespace PageScript.Text

/-- A set of code points as ascending, disjoint, inclusive ranges. -/
abbrev Ranges := List (Nat × Nat)

/-- Whether a code point lies in one of the ranges. The search stops at the first range above it. -/
def Ranges.covers : Ranges → Nat → Bool
  | [], _ => false
  | (first, last) :: rest, n => if n < first then false else n ≤ last || Ranges.covers rest n

end PageScript.Text
