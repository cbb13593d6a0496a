/-!
# Random identifiers

Identifiers of 128 bits in five groups of hexadecimal digits, with the digits that mark them as random.
-/

namespace PageScript.Text

/-- The digits of a number in some places, the highest first. -/
def hexPlaces : Nat → Nat → List Char
  | 0, _ => []
  | places + 1, n => hexPlaces places (n / 16) ++ [Nat.digitChar (n % 16)]

/-- The identifier made of 122 bits. -/
def uuid (bits : Nat) : String :=
  let low := hexPlaces 12 bits
  let variant := hexPlaces 4 (0x8000 + bits / Nat.pow 2 48 % Nat.pow 2 14)
  let version := hexPlaces 4 (0x4000 + bits / Nat.pow 2 62 % Nat.pow 2 12)
  let middle := hexPlaces 4 (bits / Nat.pow 2 74)
  let high := hexPlaces 8 (bits / Nat.pow 2 90)
  "-".intercalate ([high, middle, version, variant, low].map String.ofList)

end PageScript.Text
