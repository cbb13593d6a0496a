/-!
# Punycode

The ASCII form of a label with other characters in it: the ASCII characters come first, and behind a hyphen the
places and values of the others as numbers to base 36 with digits of varying weight. A number says how far one has
to count on, through all places and then to the next value, to come to the next character.
-/

namespace PageScript.Url.Punycode

/-- The base of the digits. -/
def base : Nat := 36

/-- The value of the first character that is not ASCII. -/
def firstValue : Nat := 0x80

/-- The bias at the beginning. -/
def firstBias : Nat := 72

/-- The digit of a value. -/
def digit (n : Nat) : Char :=
  if n < 26 then Char.ofNat ('a'.toNat + n) else Char.ofNat ('0'.toNat + n - 26)

/-- The value of a digit. -/
def value? (c : Char) : Option Nat :=
  if 'a' ≤ c ∧ c ≤ 'z' then some (c.toNat - 'a'.toNat)
  else if 'A' ≤ c ∧ c ≤ 'Z' then some (c.toNat - 'A'.toNat)
  else if '0' ≤ c ∧ c ≤ '9' then some (c.toNat - '0'.toNat + 26)
  else none

/-- A digit at a position below its threshold is the last one of its number. -/
def threshold (bias position : Nat) : Nat :=
  min 26 (max 1 (position - bias))

theorem threshold_pos (bias position : Nat) : 0 < threshold bias position := by
  unfold threshold; omega

theorem threshold_lt (bias position : Nat) : threshold bias position < base := by
  unfold threshold base; omega

/-- How often a number has to be divided until it is small, and what is left. -/
def shrink (delta steps : Nat) : Nat × Nat :=
  if 455 < delta then shrink (delta / 35) (steps + 1) else (delta, steps)
termination_by delta

/-- The bias after a number, when so many characters are in place. -/
def adapt (delta count : Nat) (first : Bool) : Nat :=
  let delta := if first then delta / 700 else delta / 2
  let (rest, steps) := shrink (delta + delta / count) 0
  steps * base + base * rest / (rest + 38)

/-- The digits of a number. -/
def digits (bias position n : Nat) : List Char :=
  let t := threshold bias position
  if n < t then [digit n]
  else digit (t + (n - t) % (base - t)) :: digits bias (position + base) ((n - t) / (base - t))
termination_by n
decreasing_by
  have := threshold_pos bias position
  exact Nat.lt_of_le_of_lt (Nat.div_le_self _ _) (by omega)

/-- Where writing has come to. -/
structure Writing where
  /-- What has been written. -/
  out : List Char
  /-- How far one has counted on since the last character written. -/
  delta : Nat
  /-- The bias. -/
  bias : Nat
  /-- The number of characters in place. -/
  count : Nat

/-- Counts on over a character when a value is due. -/
def Writing.pass (basic due : Nat) (w : Writing) (c : Nat) : Writing :=
  if c < due then { w with delta := w.delta + 1 }
  else if c = due then
    { out := w.out ++ digits w.bias base w.delta
      delta := 0
      bias := adapt w.delta (w.count + 1) (w.count = basic)
      count := w.count + 1 }
  else w

/-- Writes the characters of some values, given in ascending order. -/
def writeValues (cs : List Nat) (basic : Nat) : List Nat → Nat → Writing → Writing
  | [], _, w => w
  | due :: rest, value, w =>
    let w := cs.foldl (Writing.pass basic due) { w with delta := w.delta + (due - value) * (w.count + 1) }
    writeValues cs basic rest (due + 1) { w with delta := w.delta + 1 }

/-- The punycode of a label. -/
def encode (label : List Char) : List Char :=
  let cs := label.map Char.toNat
  let basic := label.filter fun c => c.toNat < firstValue
  let values := ((cs.filter fun c => firstValue ≤ c).mergeSort).eraseDups
  let front := if basic.isEmpty then [] else basic ++ ['-']
  (writeValues cs basic.length values firstValue ⟨front, 0, firstBias, basic.length⟩).out

/-- Where reading has come to. -/
structure Reading where
  /-- The characters in place. -/
  out : List Nat
  /-- The value that is due. -/
  value : Nat
  /-- The place that is due, at the last character. -/
  place : Nat
  /-- How far one has counted on within the current number. -/
  delta : Nat
  /-- The weight of the next digit. -/
  weight : Nat
  /-- The position of the next digit. -/
  position : Nat
  /-- The bias. -/
  bias : Nat
  /-- No number has been read yet. -/
  first : Bool

/-- Takes in a digit. -/
def Reading.take (r : Reading) (c : Char) : Option Reading :=
  (value? c).bind fun d =>
    let delta := r.delta + d * r.weight
    let t := threshold r.bias r.position
    if t ≤ d then
      some { r with delta := delta, weight := r.weight * (base - t), position := r.position + base }
    else
      let count := r.out.length + 1
      let place := (r.place + delta) % count
      let value := r.value + (r.place + delta) / count
      if !Nat.isValidChar value then none
      else some {
        out := r.out.take place ++ value :: r.out.drop place
        value := value
        place := place + 1
        delta := 0
        weight := 1
        position := base
        bias := adapt delta count r.first
        first := false }

/-- The characters in front of the last hyphen and the digits behind it. A hyphen at the front is none. -/
def split (cs : List Char) : List Char × List Char :=
  match cs.reverse.span (· ≠ '-') with
  | (tail, _ :: c :: front) => ((c :: front).reverse, tail.reverse)
  | _ => ([], cs)

/-- The label of a punycode. -/
def decode (cs : List Char) : Option (List Char) :=
  let (front, tail) := split cs
  let start : Reading := ⟨front.map Char.toNat, firstValue, 0, 0, 1, base, firstBias, true⟩
  match tail.foldlM Reading.take start with
  | some r => if r.position = base then some (r.out.map Char.ofNat) else none
  | none => none

end PageScript.Url.Punycode
