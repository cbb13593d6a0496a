/-!
# SHA-1 digests

The digest with which a socket server proves that it has understood a greeting. The message is padded to blocks of 64
bytes, and each block is worked into five words in eighty rounds.
-/

namespace PageScript.Socket

/-- The five words of a digest. -/
structure Digest where
  a : UInt32
  b : UInt32
  c : UInt32
  d : UInt32
  e : UInt32
deriving DecidableEq, Repr

/-- The four bytes of a word, the highest first. -/
def wordBytes (w : UInt32) : List UInt8 :=
  [(w >>> 24).toUInt8, (w >>> 16).toUInt8, (w >>> 8).toUInt8, w.toUInt8]

/-- The words of bytes, four bytes each. -/
def wordsOf : List UInt8 → List UInt32
  | a :: b :: c :: d :: rest =>
    (a.toUInt32 <<< 24 ||| b.toUInt32 <<< 16 ||| c.toUInt32 <<< 8 ||| d.toUInt32) :: wordsOf rest
  | _ => []

/-- A word turned to the left. -/
def rotate (w n : UInt32) : UInt32 :=
  w <<< n ||| w >>> (32 - n)

namespace Digest

/-- The digest before the first block. -/
def start : Digest :=
  ⟨0x67452301, 0xEFCDAB89, 0x98BADCFE, 0x10325476, 0xC3D2E1F0⟩

/-- The bytes of a digest. -/
def bytes (s : Digest) : List UInt8 :=
  [s.a, s.b, s.c, s.d, s.e].flatMap wordBytes

/-- A message with the bytes that fill its last block: a set bit, zeros, and the length in bits. -/
def padded (message : List UInt8) : List UInt8 :=
  let length := message.length
  let zeros := (119 - length % 64) % 64
  message ++ [0x80] ++ List.replicate zeros 0
    ++ wordBytes (UInt32.ofNat (length * 8 / Nat.pow 2 32)) ++ wordBytes (UInt32.ofNat (length * 8))

/-- How a round mixes three words, and its constant. -/
def mixing (round : Nat) (b c d : UInt32) : UInt32 × UInt32 :=
  if round < 20 then (b &&& c ||| ~~~b &&& d, 0x5A827999)
  else if round < 40 then (b ^^^ c ^^^ d, 0x6ED9EBA1)
  else if round < 60 then (b &&& c ||| b &&& d ||| c &&& d, 0x8F1BBCDC)
  else (b ^^^ c ^^^ d, 0xCA62C1D6)

/-- One round, with the word of the block for it. -/
def step (s : Digest) (round : Nat) (word : UInt32) : Digest :=
  let (mixed, constant) := mixing round s.b s.c s.d
  ⟨rotate s.a 5 + mixed + s.e + constant + word, s.a, rotate s.b 30, s.c, s.d⟩

/-- The rounds from one on. `window` holds the words for the next sixteen rounds. -/
def rounds : Nat → Nat → List UInt32 → Digest → Digest
  | 0, _, _, s => s
  | _ + 1, _, [], s => s
  | count + 1, round, word :: window, s =>
    let next := word ^^^ (window[1]?).getD 0 ^^^ (window[7]?).getD 0 ^^^ (window[12]?).getD 0
    rounds count (round + 1) (window ++ [rotate next 1]) (s.step round word)

/-- A block is worked in. -/
def block (s : Digest) (words : List UInt32) : Digest :=
  let r := rounds 80 0 words s
  ⟨s.a + r.a, s.b + r.b, s.c + r.c, s.d + r.d, s.e + r.e⟩

/-- Blocks of sixteen words are worked in, one after another; the fuel bounds their number. -/
def blocks : Nat → List UInt32 → Digest → Digest
  | 0, _, s => s
  | fuel + 1, words, s =>
    if words.isEmpty then s else blocks fuel (words.drop 16) (s.block (words.take 16))

/-- The digest of a message. -/
def of (message : List UInt8) : Digest :=
  let words := wordsOf (padded message)
  blocks words.length words start

end Digest

end PageScript.Socket
