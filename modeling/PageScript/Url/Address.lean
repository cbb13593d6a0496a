import PageScript.Url.Error
import PageScript.Url.Percent

/-!
# Addresses

IPv4 addresses in all the forms in which a host may give them, and IPv6 addresses.
-/

namespace PageScript.Url

/-- The parts of a text between dots. -/
def dotted (cs : List Char) : List (List Char) :=
  cs.splitOnP (· = '.')

/-- What is left of some parts when an empty last one, behind a final dot, is dropped. -/
def withoutFinalDot (parts : List (List Char)) : List (List Char) :=
  if parts.getLast? = some [] then parts.dropLast else parts

/-- The number that digits of a base write. -/
def numberOf? (base : Nat) (digits : List Char) : Option Nat :=
  digits.foldlM (fun n c => (hexDigit? c).bind fun d => if d < base then some (n * base + d) else none) 0

/-- A part of an IPv4 address: decimal, octal behind `0`, or hexadecimal behind `0x`, of which nothing more is
zero. -/
def ipv4Part? : List Char → Option Nat
  | [] => none
  | '0' :: 'x' :: digits => numberOf? 16 digits
  | '0' :: 'X' :: digits => numberOf? 16 digits
  | ['0'] => some 0
  | '0' :: digits => numberOf? 8 digits
  | digits => numberOf? 10 digits

/-- A host whose last part is a number is an IPv4 address or no host. -/
def endsInNumber (cs : List Char) : Bool :=
  match (withoutFinalDot (dotted cs)).getLast? with
  | none | some [] => false
  | some last => last.all (fun c => '0' ≤ c && c ≤ '9') || (ipv4Part? last).isSome

/-- The value of a run of numbers of which each but the last stands for one byte and the last for all bytes that are
left. -/
def ipv4Value? : Nat → List Nat → Option Nat
  | _, [] => none
  | width, [last] => if last < Nat.pow 256 width then some last else none
  | width, n :: rest =>
    if n < 256 ∧ 1 < width then (ipv4Value? (width - 1) rest).map (n * Nat.pow 256 (width - 1) + ·) else none

/-- Reads an IPv4 address. -/
def ipv4? (cs : List Char) : Except UrlError Nat :=
  let parts := withoutFinalDot (dotted cs)
  match (parts.mapM ipv4Part?).bind (ipv4Value? 4) with
  | some n => .ok n
  | none => .error .ipv4

/-- The text of an IPv4 address. -/
def ipv4Text (n : Nat) : String :=
  s!"{n / 16777216 % 256}.{n / 65536 % 256}.{n / 256 % 256}.{n % 256}"

/-- What is read of a piece of an IPv6 address, at most four digits. -/
def ipv6Digits (cs : List Char) : List Char :=
  (cs.take 4).takeWhile fun c => (hexDigit? c).isSome

/-- A byte of an IPv4 address inside an IPv6 address: decimal, without leading zeros. -/
def decimalByte? (cs : List Char) : Option Nat :=
  match cs with
  | [] => none
  | '0' :: _ :: _ => none
  | digits => (numberOf? 10 digits).filter (· < 256)

/-- The two last pieces of an IPv6 address, written as an IPv4 address. -/
def ipv4Pieces? (cs : List Char) : Option (List Nat) :=
  match (dotted cs).mapM decimalByte? with
  | some [a, b, c, d] => some [a * 256 + b, c * 256 + d]
  | _ => none

/-- The pieces of an IPv6 address up to its end, of which there may be at most a number, and how many of them stand
in front of the gap. A colon at the front is a gap. -/
def ipv6Pieces? : Nat → Nat → Option Nat → List Char → Option (List Nat × Option Nat)
  | _, _, gap, [] => some ([], gap)
  | 0, _, _, _ => none
  | room + 1, seen, gap, ':' :: rest =>
    if gap.isSome then none else ipv6Pieces? room seen (some seen) rest
  | room + 1, seen, gap, c :: cs =>
    let digits := ipv6Digits (c :: cs)
    match (c :: cs).drop digits.length with
    | [] => (numberOf? 16 digits).map fun n => ([n], gap)
    | '.' :: _ =>
      if digits.isEmpty ∨ room = 0 then none else (ipv4Pieces? (c :: cs)).map fun pieces => (pieces, gap)
    | ':' :: [] => none
    | ':' :: rest =>
      if digits.isEmpty then none
      else
        (numberOf? 16 digits).bind fun n =>
          (ipv6Pieces? room (seen + 1) gap rest).map fun read => (n :: read.1, read.2)
    | _ => none

/-- The eight pieces of an address: the gap stands for as many zeros as are missing. -/
def fillGap (pieces : List Nat) : Option Nat → Option (List Nat)
  | none => if pieces.length = 8 then some pieces else none
  | some front =>
    if pieces.length < 8 then
      some (pieces.take front ++ List.replicate (8 - pieces.length) 0 ++ pieces.drop front)
    else none

/-- Reads an IPv6 address. -/
def ipv6? (cs : List Char) : Except UrlError (List Nat) :=
  let read := match cs with
    | ':' :: ':' :: rest => ipv6Pieces? 7 0 (some 0) rest
    | ':' :: _ => none
    | _ :: _ :: _ => ipv6Pieces? 8 0 none cs
    | _ => none
  match read.bind fun pieces => fillGap pieces.1 pieces.2 with
  | some pieces => .ok pieces
  | none => .error .ipv6

/-- The number of zeros at the front of some pieces. -/
def zeroRun (pieces : List Nat) : Nat :=
  (pieces.takeWhile (· = 0)).length

/-- The first of the longest runs of at least two zeros: where it begins and its length. -/
def longestZeroRun (pieces : List Nat) : Option (Nat × Nat) :=
  (List.range pieces.length).foldl
    (fun best i =>
      let run := zeroRun (pieces.drop i)
      if (best.elim 1 Prod.snd) < run then some (i, run) else best)
    none

/-- The digits of a piece, in lower case. -/
def hexText (n : Nat) : String :=
  String.ofList (Nat.toDigits 16 n)

/-- The text of an IPv6 address. -/
def ipv6Text (pieces : List Nat) : String :=
  let join (pieces : List Nat) : String := ":".intercalate (pieces.map hexText)
  match longestZeroRun pieces with
  | none => join pieces
  | some (start, length) => join (pieces.take start) ++ "::" ++ join (pieces.drop (start + length))

end PageScript.Url
