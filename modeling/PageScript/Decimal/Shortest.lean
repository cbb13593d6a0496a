import PageScript.Decimal.Binary64

/-!
# Shortest decimals

The decimal with the fewest digits that is nearer to a binary64 number than to any other, and its text.
Every real number in an interval around `m * 2 ^ q` is rounded to it; the ends belong to the interval when
`m` is even. For one digit, two digits and so on up to seventeen the two neighbours of the number on that
decimal grid are tested, and the first grid with a hit gives the answer, the nearer one of two hits.
-/

namespace PageScript

/-- A decimal number `digits * 10 ^ exponent`. -/
structure Decimal where
  /-- The digits as one number. -/
  digits : Nat
  /-- The power of ten of the last digit. -/
  exponent : Int
deriving DecidableEq, Repr

namespace Decimal

/-- The interval of reals that round to a number, in units of `2 ^ (q - 2)`. -/
structure Rounding where
  /-- The lower end. -/
  lower : Nat
  /-- The number itself. -/
  value : Nat
  /-- The upper end. -/
  upper : Nat
  /-- The ends belong to the interval. -/
  closed : Bool

/-- The interval that rounds to `m * 2 ^ q`. Below a power of two the gap is half as wide. -/
def roundingOf (m : Nat) (q : Int) : Rounding where
  lower := if m = Nat.pow 2 52 ∧ -1074 < q then 4 * m - 1 else 4 * m - 2
  value := 4 * m
  upper := 4 * m + 2
  closed := m % 2 = 0

/-- The sizes of one step of the grid `10 ^ k` and of one unit `2 ^ u`, both scaled to be integers. -/
def steps (k u : Int) : Nat × Nat :=
  (Nat.pow 10 k.toNat * Nat.pow 2 (-u).toNat, Nat.pow 2 u.toNat * Nat.pow 10 (-k).toNat)

/-- The power of ten of the leading digit of `m * 2 ^ q`, for a positive `m`. -/
def leadingPower (m : Nat) (q : Int) : Int :=
  let guess := ((m.log2 : Int) + q) * 30103 / 100000
  let reaches (k : Int) : Bool := (steps k q).1 ≤ m * (steps k q).2
  if reaches (guess + 1) then guess + 1 else if reaches guess then guess else guess - 1

/-- The point of the grid `10 ^ k` that lies in the interval, the nearer one if both neighbours of the number
do. -/
def hitOnGrid (r : Rounding) (u k : Int) : Option Decimal :=
  let (grid, unit) := steps k u
  let inside (d : Nat) : Bool :=
    if r.closed then r.lower * unit ≤ d * grid && d * grid ≤ r.upper * unit
    else r.lower * unit < d * grid && d * grid < r.upper * unit
  let low := r.value * unit / grid
  let below := r.value * unit - low * grid
  let above := (low + 1) * grid - r.value * unit
  match inside low, inside (low + 1) with
  | true, true =>
    some ⟨if below < above then low else if above < below then low + 1 else low + low % 2, k⟩
  | true, false => some ⟨low, k⟩
  | false, true => some ⟨low + 1, k⟩
  | false, false => none

/-- Takes factors of ten out of the digits. -/
def stripZeros (d : Decimal) : Nat → Decimal
  | 0 => d
  | fuel + 1 =>
    if d.digits ≠ 0 ∧ d.digits % 10 = 0 then stripZeros ⟨d.digits / 10, d.exponent + 1⟩ fuel else d

/-- The shortest decimal of the positive number `m * 2 ^ q`. -/
def shortest (m : Nat) (q : Int) : Decimal :=
  let r := roundingOf m q
  let top := leadingPower m q
  match (List.range 17).findSome? fun (n : Nat) => hitOnGrid r (q - 2) (top - n) with
  | some d => stripZeros d 20
  | none => ⟨m, q⟩

/-- From this power of ten of the leading digit on, a number is written with an exponent. -/
def positionalBelow : Int := 16

/-- Down to this power of ten of the leading digit, a number is written without an exponent. -/
def positionalFrom : Int := -5

/-- The text of a positive decimal: positional with at least one digit on either side of the point, or one
digit, a fraction if there is one, and a signed exponent. -/
def textOf (d : Decimal) : String :=
  let ds := Nat.toDigits 10 d.digits
  let lead : Int := (ds.length : Int) - 1 + d.exponent
  if positionalFrom ≤ lead ∧ lead < positionalBelow then
    if 0 ≤ d.exponent then
      String.ofList (ds ++ List.replicate d.exponent.toNat '0') ++ ".0"
    else if 0 ≤ lead then
      String.ofList (ds.take (lead.toNat + 1)) ++ "." ++ String.ofList (ds.drop (lead.toNat + 1))
    else "0." ++ String.ofList (List.replicate ((-lead).toNat - 1) '0' ++ ds)
  else
    let fraction := if ds.length ≤ 1 then "" else "." ++ String.ofList (ds.drop 1)
    let sign := if lead < 0 then "-" else "+"
    String.ofList (ds.take 1) ++ fraction ++ "e" ++ sign ++ toString lead.natAbs

end Decimal

/-- The shortest text of a number that reads back as the number; `null` stands for what is not finite. -/
def Binary64.text (x : Binary64) : String :=
  if !x.isFinite then "null"
  else
    (if x.isNegative then "-" else "") ++
      (if x.isZero then "0.0" else Decimal.textOf (Decimal.shortest x.significand x.exponent))

end PageScript
