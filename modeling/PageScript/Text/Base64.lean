/-!
# Base64

Reading and writing base64 with its padding. Digits come in groups of four, each for six bits; the last group may end
in one or two padding signs, and the bits of its last digit that belong to no byte must be zero.
-/

namespace PageScript.Text

/-- Why bytes are no base64. -/
inductive Base64Fault where
  | symbol (byte offset : Nat)
  | lastSymbol (byte offset : Nat)
  | length (n : Nat)
  | padding
deriving DecidableEq, Repr

/-- The wording of a fault. -/
def Base64Fault.message : Base64Fault → String
  | .symbol byte offset => s!"Invalid symbol {byte}, offset {offset}."
  | .lastSymbol byte offset => s!"Invalid last symbol {byte}, offset {offset}."
  | .length n => s!"Invalid input length: {n}"
  | .padding => "Invalid padding"

/-- The value of a base64 digit. -/
def sextet? (b : Nat) : Option Nat :=
  if 65 ≤ b ∧ b ≤ 90 then some (b - 65)
  else if 97 ≤ b ∧ b ≤ 122 then some (b - 71)
  else if 48 ≤ b ∧ b ≤ 57 then some (b + 4)
  else if b = 43 then some 62
  else if b = 47 then some 63
  else none

/-- The padding sign. -/
def paddingByte : Nat := 61

/-- The digit of a value. -/
def base64Digit (n : Nat) : Char :=
  if n < 26 then Char.ofNat (n + 65)
  else if n < 52 then Char.ofNat (n + 71)
  else if n < 62 then Char.ofNat (n - 4)
  else if n = 62 then '+'
  else '/'

/-- The base64 text of some bytes. -/
def encodeBase64 : List UInt8 → List Char
  | [] => []
  | [a] => [base64Digit (a.toNat / 4), base64Digit (a.toNat % 4 * 16), '=', '=']
  | [a, b] =>
    let n := a.toNat * 256 + b.toNat
    [base64Digit (n / 1024), base64Digit (n / 16 % 64), base64Digit (n % 16 * 4), '=']
  | a :: b :: c :: rest =>
    let n := (a.toNat * 256 + b.toNat) * 256 + c.toNat
    base64Digit (n / 262144) :: base64Digit (n / 4096 % 64) :: base64Digit (n / 64 % 64) :: base64Digit (n % 64)
      :: encodeBase64 rest

/-- The three bytes of four digits. -/
def ofSextets (a b c d : Nat) : List UInt8 :=
  let n := ((a * 64 + b) * 64 + c) * 64 + d
  [UInt8.ofNat (n / 65536), UInt8.ofNat (n / 256), UInt8.ofNat n]

/-- Reads digits up to the end of a group, with the number of padding signs behind them and where these begin. A
padding sign may stand only in the third and fourth place, and nothing but padding behind it. -/
def readGroup (offset : Nat) (digits : List Nat) (padding : Nat) : List UInt8 →
    Except Base64Fault (List Nat × Nat)
  | [] => .ok (digits.reverse, padding)
  | b :: rest =>
    let place := digits.length + padding
    if b.toNat = paddingByte then
      if place < 2 then .error (.symbol paddingByte (offset + place))
      else readGroup offset digits (padding + 1) rest
    else if 0 < padding then .error (.symbol paddingByte (offset + digits.length))
    else
      match sextet? b.toNat with
      | none => .error (.symbol b.toNat (offset + place))
      | some n => readGroup offset (n :: digits) padding rest

/-- The bytes of the last group. -/
def readLastGroup (offset : Nat) (group : List UInt8) : Except Base64Fault (List UInt8) := do
  let (digits, padding) ← readGroup offset [] 0 group
  if group.isEmpty then return []
  else if digits.length < 2 then .error (.length (offset + digits.length))
  else if (digits.length + padding) % 4 ≠ 0 then .error .padding
  else
    match digits with
    | [a, b] =>
      if b % 16 ≠ 0 then .error (.lastSymbol ((group[1]?.getD 0).toNat) (offset + 1))
      else return (ofSextets a b 0 0).take 1
    | [a, b, c] =>
      if c % 4 ≠ 0 then .error (.lastSymbol ((group[2]?.getD 0).toNat) (offset + 2))
      else return (ofSextets a b c 0).take 2
    | [a, b, c, d] => return ofSextets a b c d
    | _ => return []

/-- The bytes of groups the first of which stands at an offset. -/
def readGroups (offset : Nat) : List UInt8 → Except Base64Fault (List UInt8)
  | a :: b :: c :: d :: e :: rest =>
    match sextet? a.toNat, sextet? b.toNat, sextet? c.toNat, sextet? d.toNat with
    | some w, some x, some y, some z => do
      return ofSextets w x y z ++ (← readGroups (offset + 4) (e :: rest))
    | none, _, _, _ => .error (.symbol a.toNat offset)
    | _, none, _, _ => .error (.symbol b.toNat (offset + 1))
    | _, _, none, _ => .error (.symbol c.toNat (offset + 2))
    | _, _, _, none => .error (.symbol d.toNat (offset + 3))
  | group => readLastGroup offset group

/-- The bytes that a base64 text stands for. One byte that is left over and is no digit is reported before all
else. -/
def decodeBase64 (bytes : List UInt8) : Except Base64Fault (List UInt8) :=
  match bytes.getLast? with
  | some last =>
    if bytes.length % 4 = 1 ∧ last.toNat ≠ paddingByte ∧ sextet? last.toNat = none then
      .error (.symbol last.toNat (bytes.length - 1))
    else readGroups 0 bytes
  | none => .ok []

end PageScript.Text
