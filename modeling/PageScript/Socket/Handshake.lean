import PageScript.Socket.Digest
import PageScript.Text.Base64

/-!
# Greetings

A client greets the server with the head of a web request that asks for a socket. The server answers with a digest
of the key it finds there; a head that asks for anything else is not answered.
-/

namespace PageScript.Socket

/-- The head of a request: its first line and its fields. -/
structure RequestHead where
  /-- The words of the first line. -/
  words : List String
  /-- The fields with their values. -/
  fields : List (String × String)
deriving DecidableEq, Repr

/-- Blanks at both ends are left out. -/
def trimBlanks (chars : List Char) : List Char :=
  let isBlank (c : Char) : Bool := c = ' ' || c = '\t'
  ((chars.dropWhile isBlank).reverse.dropWhile isBlank).reverse

namespace RequestHead

/-- Reads the line of a field. -/
def field? (line : String) : Option (String × String) :=
  match line.toList.dropWhile (· ≠ ':') with
  | _ :: value =>
    some (String.ofList (line.toList.takeWhile (· ≠ ':')), String.ofList (trimBlanks value))
  | [] => none

/-- Reads the lines of a head. -/
def ofLines? : List String → Option RequestHead
  | [] => none
  | first :: rest => (rest.mapM field?).map fun fields => ⟨first.splitOn " ", fields⟩

/-- The value of a field, whose name may be written in any case. -/
def get? (h : RequestHead) (name : String) : Option String :=
  (h.fields.find? fun field => field.1.toLower = name).map Prod.snd

/-- The head asks for a socket. -/
def asksForSocket (h : RequestHead) : Bool :=
  let version := match h.words with
    | ["GET", _, version] => version = "HTTP/1.1"
    | _ => false
  let connection := ((h.get? "connection").getD "").toLower
  version
    && ((connection.splitOn ",").flatMap fun part => part.splitOn " ").contains "upgrade"
    && (h.get? "upgrade").map String.toLower == some "websocket"
    && h.get? "sec-websocket-version" == some "13"

end RequestHead

/-- What is appended to a key before its digest is taken. -/
def keySuffix : String := "258EAFA5-E914-47DA-95CA-C5AB0DC85B11"

/-- The proof that a key has been understood. -/
def acceptKey (key : String) : String :=
  String.ofList (Text.encodeBase64 (Digest.of (key ++ keySuffix).toUTF8.toList).bytes)

/-- The answer to a greeting, if it asks for a socket. -/
def welcome? (h : RequestHead) : Option String :=
  if h.asksForSocket then
    (h.get? "sec-websocket-key").map fun key =>
      "HTTP/1.1 101 Switching Protocols\r\nConnection: Upgrade\r\nUpgrade: websocket\r\nSec-WebSocket-Accept: "
        ++ acceptKey key ++ "\r\n\r\n"
  else none

/-- The end of a head. -/
def headEnd : List UInt8 := "\r\n\r\n".toUTF8.toList

/-- The bytes before the end of a head, and those after it, once it has come. -/
def splitHead? : List UInt8 → Option (List UInt8 × List UInt8)
  | [] => none
  | b :: rest =>
    if headEnd.isPrefixOf (b :: rest) then some ([], rest.drop (headEnd.length - 1))
    else (splitHead? rest).map fun split => (b :: split.1, split.2)

/-- What has come in of a greeting. -/
inductive Greeting where
  /-- Its end has not come. -/
  | incomplete
  /-- It is answered with a text. -/
  | understood (answer : String)
  /-- It is not answered. -/
  | refused
deriving DecidableEq, Repr

/-- The most bytes that a greeting may take. -/
def greetingLimit : Nat := 65536

/-- What some bytes are as a greeting. Nothing may follow it before it is answered. -/
def Greeting.of (bytes : List UInt8) : Greeting :=
  match splitHead? bytes with
  | none => if bytes.length < greetingLimit then .incomplete else .refused
  | some (head, []) =>
    match (String.fromUTF8? ⟨head.toArray⟩).bind fun text => RequestHead.ofLines? (text.splitOn "\r\n") with
    | none => .refused
    | some head =>
      match welcome? head with
      | some answer => .understood answer
      | none => .refused
  | some (_, _ :: _) => .refused

end PageScript.Socket
