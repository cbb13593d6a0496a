/-!
# Frames

The frames in which a socket carries messages. Those of a client are masked, those of the server are not.
-/

namespace PageScript.Socket

/-- What a frame is for. -/
inductive FrameKind where
  | continuation
  | text
  | binary
  | close
  | ping
  | pong
deriving DecidableEq, Repr

namespace FrameKind

/-- The code of a kind. -/
def code : FrameKind → UInt8
  | .continuation => 0
  | .text => 1
  | .binary => 2
  | .close => 8
  | .ping => 9
  | .pong => 10

/-- The kind of a code. -/
def ofCode? (code : UInt8) : Option FrameKind :=
  [continuation, text, binary, close, ping, pong].find? fun kind => kind.code = code

/-- A frame that is no part of a message. -/
def isControl : FrameKind → Bool
  | .close => true
  | .ping => true
  | .pong => true
  | _ => false

end FrameKind

/-- A frame. -/
structure Frame where
  /-- Whether it is the last one of its message. -/
  final : Bool
  /-- What it is for. -/
  kind : FrameKind
  /-- What it carries. -/
  payload : ByteArray

/-- What bytes begin with. -/
inductive FrameReading where
  /-- The end of the frame has not come. -/
  | incomplete
  /-- No frame. -/
  | invalid
  /-- A frame, and the number of its bytes. -/
  | frame (frame : Frame) (length : Nat)

namespace Frame

/-- The most bytes that a frame may carry. -/
def payloadLimit : Nat := 16 * 1024 * 1024

/-- The most bytes that a control frame may carry. -/
def controlLimit : Nat := 125

/-- The bytes of a number, the highest first. -/
def numberBytes : Nat → Nat → List UInt8
  | 0, _ => []
  | width + 1, n => UInt8.ofNat (n / Nat.pow 256 width) :: numberBytes width n

/-- The number of some bytes, the highest first. -/
def numberOf (bytes : ByteArray) : Nat :=
  bytes.toList.foldl (fun n b => n * 256 + b.toNat) 0

/-- The length of a payload as a frame tells it. -/
def lengthBytes (n : Nat) : List UInt8 :=
  if n < 126 then [UInt8.ofNat n]
  else if n < 65536 then 126 :: numberBytes 2 n
  else 127 :: numberBytes 8 n

/-- A frame of the server that is a message of its own. -/
def encode (kind : FrameKind) (payload : ByteArray) : ByteArray :=
  ⟨((0x80 ||| kind.code) :: lengthBytes payload.size).toArray⟩ ++ payload

/-- A payload with its mask taken off. -/
def unmask (mask payload : ByteArray) : ByteArray :=
  ⟨payload.data.mapIdx fun i b => b ^^^ (mask.data[i % 4]?).getD 0⟩

/-- Reads a frame whose payload has a length and begins, with its mask, at a place. -/
def readPayload (bytes : ByteArray) (final : Bool) (kind : FrameKind) (start length : Nat) : FrameReading :=
  if payloadLimit < length then .invalid
  else if kind.isControl ∧ (controlLimit < length ∨ ¬final) then .invalid
  else if bytes.size < start + 4 + length then .incomplete
  else
    let mask := bytes.extract start (start + 4)
    let payload := bytes.extract (start + 4) (start + 4 + length)
    .frame ⟨final, kind, unmask mask payload⟩ (start + 4 + length)

/-- Reads a frame of a client. -/
def read (bytes : ByteArray) : FrameReading :=
  match bytes.data[0]?, bytes.data[1]? with
  | some first, some second =>
    match FrameKind.ofCode? (first &&& 0x0F) with
    | none => .invalid
    | some kind =>
      if first &&& 0x70 ≠ 0 ∨ second < 0x80 then .invalid
      else
        let final := 0x80 ≤ first
        let told := (second &&& 0x7F).toNat
        if told < 126 then readPayload bytes final kind 2 told
        else
          let width := if told = 126 then 2 else 8
          if bytes.size < 2 + width then .incomplete
          else readPayload bytes final kind (2 + width) (numberOf (bytes.extract 2 (2 + width)))
  | _, _ => .incomplete

end Frame

end PageScript.Socket
