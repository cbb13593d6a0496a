/-!
# Percent encoding

A byte that may not stand where it is written is replaced by `%` and two hexadecimal digits. Which bytes those are
depends on the part of the URL. Bytes above ASCII are replaced everywhere.
-/

namespace PageScript.Url

/-- A set of bytes to be replaced, given by the printable ones among them. All others are always replaced. -/
abbrev EscapeSet := List Char

namespace EscapeSet

/-- In an opaque path and in a host without rules of its own. -/
def controls : EscapeSet := []

/-- In a fragment. -/
def fragment : EscapeSet := [' ', '"', '<', '>', Char.ofNat 0x60]

/-- In a query. -/
def query : EscapeSet := [' ', '"', '#', '<', '>']

/-- In the query of a special URL. -/
def specialQuery : EscapeSet := '\'' :: query

/-- In a path. -/
def path : EscapeSet := ['#', '?', '{', '}'] ++ fragment

/-- In a user name or a password. -/
def userinfo : EscapeSet := ['/', ':', ';', '=', '@', '[', '\\', ']', '^', '|'] ++ path

/-- Whether a byte is replaced. -/
def replaces (set : EscapeSet) (b : UInt8) : Bool :=
  b < 0x20 || 0x7F ≤ b || set.contains (Char.ofNat b.toNat)

end EscapeSet

/-- An upper-case hexadecimal digit. -/
def upperHex (n : Nat) : Char :=
  (Nat.digitChar n).toUpper

/-- A byte as `%` and two digits. -/
def escape (b : UInt8) : List Char :=
  ['%', upperHex (b.toNat / 16), upperHex (b.toNat % 16)]

/-- The characters of a text with the bytes of a set replaced. -/
def percentEncode (set : EscapeSet) (cs : List Char) : List Char :=
  (String.ofList cs).toUTF8.toList.flatMap fun b => if set.replaces b then escape b else [Char.ofNat b.toNat]

/-- The value of a hexadecimal digit. -/
def hexDigit? (c : Char) : Option Nat :=
  if '0' ≤ c ∧ c ≤ '9' then some (c.toNat - '0'.toNat)
  else if 'a' ≤ c ∧ c ≤ 'f' then some (c.toNat - 'a'.toNat + 10)
  else if 'A' ≤ c ∧ c ≤ 'F' then some (c.toNat - 'A'.toNat + 10)
  else none

/-- Undoes the replacement of bytes. A `%` without two digits stands for itself. -/
def percentDecode : List UInt8 → List UInt8
  | a :: b :: c :: rest =>
    if a = 0x25 then
      match hexDigit? (Char.ofNat b.toNat), hexDigit? (Char.ofNat c.toNat) with
      | some high, some low => UInt8.ofNat (high * 16 + low) :: percentDecode rest
      | _, _ => a :: percentDecode (b :: c :: rest)
    else a :: percentDecode (b :: c :: rest)
  | bytes => bytes

end PageScript.Url
