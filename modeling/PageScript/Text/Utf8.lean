/-!
# UTF-8

Reading bytes as text. Where bytes are no text, the fault lies at the first byte that does not begin a character;
it covers the bytes that could still have been the beginning of one.
-/

namespace PageScript.Text

/-- Bytes that are no text. -/
structure Utf8Fault where
  /-- The number of bytes that are text. -/
  index : Nat
  /-- The number of bytes of the fault, nothing when the bytes end inside a character. -/
  length : Option Nat
deriving DecidableEq, Repr

/-- The wording of a fault. -/
def Utf8Fault.message (f : Utf8Fault) : String :=
  match f.length with
  | some n => s!"invalid utf-8 sequence of {n} bytes from index {f.index}"
  | none => s!"incomplete utf-8 byte sequence from index {f.index}"

/-- A continuation byte. -/
def isContinuation (b : Nat) : Bool :=
  0x80 ≤ b && b < 0xC0

/-- The range of the byte after a first byte of two to four, and the number of continuation bytes after that. -/
def secondByte? (first : Nat) : Option (Nat × Nat × Nat) :=
  if 0xC2 ≤ first ∧ first ≤ 0xDF then some (0x80, 0xBF, 0)
  else if first = 0xE0 then some (0xA0, 0xBF, 1)
  else if first = 0xED then some (0x80, 0x9F, 1)
  else if 0xE1 ≤ first ∧ first ≤ 0xEF then some (0x80, 0xBF, 1)
  else if first = 0xF0 then some (0x90, 0xBF, 2)
  else if 0xF1 ≤ first ∧ first ≤ 0xF3 then some (0x80, 0xBF, 2)
  else if first = 0xF4 then some (0x80, 0x8F, 2)
  else none

/-- The payload of a first byte that is followed by a number of bytes. -/
def firstBits (first follow : Nat) : Nat :=
  if follow = 1 then first % 32 else if follow = 2 then first % 16 else first % 8

/-- The character at the front of some bytes and the number of its bytes, or the length of the fault. -/
def decodeFront (first : Nat) (rest : List UInt8) : Except (Option Nat) (Char × Nat) :=
  if first < 0x80 then .ok (Char.ofNat first, 1)
  else
    match secondByte? first with
    | none => .error (some 1)
    | some (low, high, more) =>
      match rest with
      | [] => .error none
      | second :: others =>
        if second.toNat < low ∨ high < second.toNat then .error (some 1)
        else
          let tail := (others.take more).map UInt8.toNat
          match tail.findIdx? (!isContinuation ·) with
          | some i => .error (some (i + 2))
          | none =>
            if tail.length < more then .error none
            else
              let code := (second.toNat :: tail).foldl (fun n b => n * 64 + b % 64) (firstBits first (more + 1))
              .ok (Char.ofNat code, more + 2)

/-- The characters of bytes the first of which has an index. -/
def decodeFrom (index : Nat) : List UInt8 → Except Utf8Fault (List Char)
  | [] => .ok []
  | b :: rest =>
    match decodeFront b.toNat rest with
    | .error length => .error ⟨index, length⟩
    | .ok (c, count) => (decodeFrom (index + count) (rest.drop (count - 1))).map (c :: ·)
termination_by bytes => bytes.length
decreasing_by simp only [List.length_drop, List.length_cons]; omega

/-- The text of some bytes. -/
def decodeUtf8 (bytes : List UInt8) : Except Utf8Fault String :=
  (decodeFrom 0 bytes).map String.ofList

end PageScript.Text
