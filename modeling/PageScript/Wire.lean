import PageScript.Event.Record
import PageScript.Page.Request
import PageScript.Toast

/-!
# Messages to and from a page that is elsewhere

Requests to the page and its responses carry a number. Observed events and the messages of toasts travel on the
same socket.
-/

namespace PageScript

open Record

/-- A message on the socket. -/
inductive WireMessage where
  | pageRequest (id : UInt64) (request : PageRequest)
  | pageResponse (id : UInt64) (ok : Bool) (value : Json) (error : Option String)
  | observed (event : Event)
  | toastRequest (request : ToastRequest)
  | toastResponse (response : ToastResponse)
deriving Inhabited

namespace WireMessage

/-- A message of the toast channel on the socket. -/
def ofBridge : BridgeMessage → WireMessage
  | .request t => .toastRequest t
  | .response t => .toastResponse t

/-- The type and the fields of a message. -/
def parts : WireMessage → String × List (String × Json)
  | .pageRequest id request => ("PAGE_REQUEST", [("id", .int id.toNat), ("request", request.toJson)])
  | .pageResponse id ok value error =>
    ("PAGE_RESPONSE",
      [("id", .int id.toNat), ("ok", .bool ok), ("value", value)] ++ Json.fieldIfPresent "error" error)
  | .observed event => ("OBSERVER_EVENT", [("event", event.toJson)])
  | .toastRequest t => (BridgeMessage.requestType, t.fields)
  | .toastResponse t => (BridgeMessage.responseType, t.fields)

/-- The record of a message. -/
def toJson (m : WireMessage) : Json :=
  .obj (("type", .str m.parts.1) :: m.parts.2)

/-- Each type with the way to read what follows it. -/
def variants : List (String × Decoder WireMessage) := [
  ("PAGE_REQUEST", Record.record (.variantRecord "WireMessage" "PageRequest")
    (.pageRequest <$> required "id" word64 <*> required "request" PageRequest.decoder)),
  ("PAGE_RESPONSE", Record.record (.variantRecord "WireMessage" "PageResponse")
    (.pageResponse <$> required "id" word64 <*> required "ok" truth <*> defaulting "value" free .null
      <*> possible "error" text)),
  ("OBSERVER_EVENT", Record.record (.variantRecord "WireMessage" "ObserverEvent")
    (.observed <$> required "event" Event.decoder)),
  (BridgeMessage.requestType, fun r j => (ToastRequest.decoder r j).map .toastRequest),
  (BridgeMessage.responseType, fun r j => (ToastResponse.decoder r j).map .toastResponse)]

/-- Reads a message. -/
def decoder : Decoder WireMessage :=
  tagged "WireMessage" "type" variants

end WireMessage

end PageScript
