import PageScript.Json.Printer
import PageScript.Remote.Connection
import PageScript.Socket.Frame
import PageScript.Socket.Handshake

/-!
# Streams

The bytes that come in from a client, taken for a greeting and then for the frames of messages.
-/

namespace PageScript.Socket

/-- What the bytes of a client bring. -/
inductive StreamEvent where
  /-- A greeting that is understood, or is not. -/
  | greeting (understood : Bool)
  /-- Something to take in. -/
  | incoming (incoming : Incoming)
  /-- Bytes to give back. -/
  | answer (bytes : ByteArray)

/-- What has come in from a client and is not complete. -/
structure Stream where
  /-- Whether the greeting is over. -/
  greeted : Bool
  /-- The bytes of a greeting or a frame. -/
  buffer : ByteArray
  /-- The message that has begun: whether it is a text, and what it carries so far. -/
  begun : Option (Bool × ByteArray)

namespace Stream

/-- The most bytes that a message may take. -/
def messageLimit : Nat := 64 * 1024 * 1024

/-- Nothing has come in. -/
def new : Stream :=
  ⟨false, .empty, none⟩

/-- A message that is complete. A text must be one. -/
def message (isText : Bool) (payload : ByteArray) : StreamEvent :=
  if isText then
    match String.fromUTF8? payload with
    | some s => .incoming (.text s)
    | none => .incoming .failure
  else .incoming .other

/-- A part of a message comes in. -/
def part (s : Stream) (final isText : Bool) (payload : ByteArray) : Stream × List StreamEvent :=
  if messageLimit < payload.size then (s, [.incoming .failure])
  else if final then ({ s with begun := none }, [message isText payload])
  else ({ s with begun := some (isText, payload) }, [])

/-- A frame comes in. -/
def take (s : Stream) (f : Frame) : Stream × List StreamEvent :=
  match f.kind, s.begun with
  | .text, none => s.part f.final true f.payload
  | .binary, none => s.part f.final false f.payload
  | .continuation, some (isText, start) => s.part f.final isText (start ++ f.payload)
  | .ping, _ => (s, [.incoming .other, .answer (Frame.encode .pong f.payload)])
  | .pong, _ => (s, [.incoming .other])
  | .close, _ => (s, [.incoming .close])
  | _, _ => (s, [.incoming .failure])

/-- Takes in the frames that are complete; the fuel bounds their number. -/
def takeFrames : Nat → Stream → Stream × List StreamEvent
  | 0, s => (s, [])
  | fuel + 1, s =>
    match Frame.read s.buffer with
    | .incomplete => (s, [])
    | .invalid => (s, [.incoming .failure])
    | .frame f length =>
      let (s, events) := { s with buffer := s.buffer.extract length s.buffer.size }.take f
      let (s, more) := takeFrames fuel s
      (s, events ++ more)

/-- Bytes come in. -/
def feed (s : Stream) (bytes : ByteArray) : Stream × List StreamEvent :=
  let s := { s with buffer := s.buffer ++ bytes }
  if s.greeted then takeFrames (s.buffer.size + 1) s
  else
    match Greeting.of s.buffer.toList with
    | .incomplete => (s, [])
    | .refused => (s, [.greeting false])
    | .understood answer =>
      ({ s with greeted := true, buffer := .empty }, [.answer answer.toUTF8, .greeting true])

/-- What a message to a client is sent as. -/
def encode (m : WireMessage) : ByteArray :=
  Frame.encode .text m.toJson.compact.toUTF8

end Stream

end PageScript.Socket
