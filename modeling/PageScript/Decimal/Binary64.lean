/-!
# Binary64 numbers

A binary64 number is held as its 64 bits, and arithmetic on it is exact arithmetic on ratios of natural
numbers followed by one rounding. A finite number with significand `m` and exponent `q` is `m * 2 ^ q`.
-/

namespace PageScript

/-- A binary64 floating-point number. -/
structure Binary64 where
  /-- Sign, eleven bits of exponent and fifty-two bits of fraction. -/
  bits : UInt64
deriving DecidableEq, Repr, Inhabited

/-- The quotient of two natural numbers rounded to the nearest natural number, a tie to the even one. -/
def roundHalfEven (num den : Nat) : Nat :=
  let low := num / den
  let rest := num % den
  if 2 * rest < den then low else if den < 2 * rest then low + 1 else low + low % 2

namespace Binary64

/-- The sign bit is set. -/
def isNegative (x : Binary64) : Bool :=
  Nat.pow 2 63 ≤ x.bits.toNat

/-- The eleven bits of the exponent. -/
def exponentBits (x : Binary64) : Nat :=
  x.bits.toNat / Nat.pow 2 52 % Nat.pow 2 11

/-- The fifty-two bits of the fraction. -/
def fractionBits (x : Binary64) : Nat :=
  x.bits.toNat % Nat.pow 2 52

/-- Neither an infinity nor a NaN. -/
def isFinite (x : Binary64) : Bool :=
  x.exponentBits ≠ 2047

/-- The integer `m` of the magnitude `m * 2 ^ q`. -/
def significand (x : Binary64) : Nat :=
  if x.exponentBits = 0 then x.fractionBits else x.fractionBits + Nat.pow 2 52

/-- The exponent `q` of the magnitude `m * 2 ^ q`. -/
def exponent (x : Binary64) : Int :=
  max x.exponentBits 1 - 1075

/-- Zero of either sign. -/
def isZero (x : Binary64) : Bool :=
  x.bits.toNat % Nat.pow 2 63 = 0

/-- The number of a sign and the sixty-three bits of a magnitude. -/
def ofParts (negative : Bool) (magnitude : Nat) : Binary64 :=
  ⟨UInt64.ofNat (magnitude + if negative then Nat.pow 2 63 else 0)⟩

/-- The bits of positive infinity, above which no finite magnitude lies. -/
def infinityBits : Nat :=
  2047 * Nat.pow 2 52

/-- Numerator and denominator of `num / den / 2 ^ q`. -/
def scaled (num den : Nat) (q : Int) : Nat × Nat :=
  if 0 ≤ q then (num, den * Nat.pow 2 q.toNat) else (num * Nat.pow 2 (-q).toNat, den)

/-- The exponent with which a positive ratio has a significand of fifty-three bits, but at least the exponent
of the subnormal numbers. -/
def exponentFor (num den : Nat) : Int :=
  let least : Int := (num.log2 : Int) - den.log2 - 53
  let (n, d) := scaled num den least
  max (-1074) (if Nat.pow 2 53 * d ≤ n then least + 1 else least)

/-- The binary64 number nearest to a ratio, ties to the even significand; beyond the range, an infinity. -/
def ofRatio (negative : Bool) (num den : Nat) : Binary64 :=
  if num = 0 then ofParts negative 0
  else
    let q := exponentFor num den
    let (n, d) := scaled num den q
    ofParts negative (min infinityBits ((q + 1074).toNat * Nat.pow 2 52 + roundHalfEven n d))

/-- The binary64 number nearest to an integer. -/
def ofInt (n : Int) : Binary64 :=
  ofRatio (n < 0) n.natAbs 1

/-- The magnitude as a ratio. -/
def ratio (x : Binary64) : Nat × Nat :=
  if 0 ≤ x.exponent then (x.significand * Nat.pow 2 x.exponent.toNat, 1)
  else (x.significand, Nat.pow 2 (-x.exponent).toNat)

/-- The rounded product of two finite numbers. -/
def mul (x y : Binary64) : Binary64 :=
  ofRatio (x.isNegative != y.isNegative) (x.ratio.1 * y.ratio.1) (x.ratio.2 * y.ratio.2)

/-- The rounded quotient of a finite number and one that is not zero. -/
def div (x y : Binary64) : Binary64 :=
  ofRatio (x.isNegative != y.isNegative) (x.ratio.1 * y.ratio.2) (x.ratio.2 * y.ratio.1)

/-- The number with the other sign. -/
def neg (x : Binary64) : Binary64 :=
  ofParts (!x.isNegative) (x.bits.toNat % Nat.pow 2 63)

/-- The binary64 number nearest to a power of ten. -/
def powerOfTen (k : Nat) : Binary64 :=
  ofRatio false (Nat.pow 10 k) 1

/-- Brings a decimal exponent up to at least -308 by dividing by `1e308`, as long as the number is not zero. -/
def descend (x : Binary64) (e : Int) : Binary64 × Int :=
  if e < -308 then
    if x.isZero then (x, 0) else descend (x.div (powerOfTen 308)) (e + 308)
  else (x, e)
termination_by (-e).toNat
decreasing_by omega

/-- The number `significand * 10 ^ e` computed in two roundings: the significand is rounded first, then its
product with or its quotient by a rounded power of ten. Nothing is given when the result is beyond the
range. -/
def ofDecimal? (significand : Nat) (e : Int) : Option Binary64 :=
  let x := ofRatio false significand 1
  if 308 < e then (if x.isZero then some x else none)
  else
    let (x, e) := descend x e
    let y := if 0 ≤ e then x.mul (powerOfTen e.toNat) else x.div (powerOfTen (-e).toNat)
    if y.isFinite then some y else none

end Binary64

end PageScript
