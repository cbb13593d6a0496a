import PageScript.Record.Decoder

/-!
# Toasts

A toast stops a run until the operator answers. The request and the answer carry the id of the toast and travel as
messages on one channel.
-/

namespace PageScript

open Record

/-- The labels of the two answers. -/
structure ToastOptions where
  /-- The label of the answer that goes on. -/
  continueLabel : String
  /-- The label of the answer that cancels. -/
  cancelLabel : String
deriving DecidableEq, Repr

/-- The labels of a toast that names none. -/
def ToastOptions.standard : ToastOptions :=
  ⟨"Continue", "Cancel"⟩

/-- A toast to be shown. -/
structure ToastRequest where
  /-- The id of the toast. -/
  id : String
  /-- What the operator is told. -/
  message : String
  /-- The labels of the answers. -/
  options : ToastOptions
deriving DecidableEq, Repr

/-- The answer to a toast. Anything but going on or cancelling counts as `other`. -/
inductive ToastAction where
  | continue
  | cancel
  | other
deriving DecidableEq, Repr, Inhabited

/-- The answer to a toast of an id. -/
structure ToastResponse where
  /-- The id of the toast. -/
  id : String
  /-- The answer. -/
  action : ToastAction
deriving DecidableEq, Repr

/-- A message on the channel between a run and the places where toasts are shown. -/
inductive BridgeMessage where
  | request (request : ToastRequest)
  | response (response : ToastResponse)
deriving DecidableEq, Repr

namespace ToastOptions

/-- The record of the labels. -/
def toJson (o : ToastOptions) : Json :=
  .obj [("continueLabel", .str o.continueLabel), ("cancelLabel", .str o.cancelLabel)]

/-- Reads the labels. -/
def decoder : Decoder ToastOptions :=
  Record.record (.record "ToastOptions")
    (ToastOptions.mk <$> required "continueLabel" text <*> required "cancelLabel" text)

end ToastOptions

namespace ToastAction

/-- The word for an answer. -/
def word : ToastAction → String
  | .continue => "continue"
  | .cancel => "cancel"
  | .other => "other"

/-- The answer that a word stands for. -/
def ofWord : String → ToastAction
  | "continue" => .continue
  | "cancel" => .cancel
  | _ => .other

/-- Reads an answer. -/
def decoder : Decoder ToastAction := fun r j =>
  (text r j).map ofWord

end ToastAction

namespace ToastRequest

/-- The fields of a toast. -/
def fields (t : ToastRequest) : List (String × Json) :=
  [("toastId", .str t.id), ("message", .str t.message), ("options", t.options.toJson)]

/-- Reads a toast. -/
def decoder : Decoder ToastRequest :=
  Record.record (.record "ToastRequest")
    (ToastRequest.mk <$> required "toastId" text <*> required "message" text
      <*> defaulting "options" ToastOptions.decoder .standard)

end ToastRequest

namespace ToastResponse

/-- The fields of an answer. -/
def fields (t : ToastResponse) : List (String × Json) :=
  [("toastId", .str t.id), ("action", .str t.action.word)]

/-- Reads an answer. -/
def decoder : Decoder ToastResponse :=
  Record.record (.record "ToastResponse")
    (ToastResponse.mk <$> required "toastId" text <*> required "action" ToastAction.decoder)

end ToastResponse

namespace BridgeMessage

/-- The type under which a toast travels. -/
def requestType : String := "SHOW_INTERACTIVE_TOAST_REQUEST"

/-- The type under which an answer travels. -/
def responseType : String := "INTERACTIVE_TOAST_RESPONSE"

/-- The record of a message. -/
def toJson : BridgeMessage → Json
  | .request t => .obj (("type", .str requestType) :: t.fields)
  | .response t => .obj (("type", .str responseType) :: t.fields)

/-- Reads a message. -/
def decoder : Decoder BridgeMessage :=
  tagged "BridgeMessage" "type" [
    (requestType, fun r j => (ToastRequest.decoder r j).map .request),
    (responseType, fun r j => (ToastResponse.decoder r j).map .response)]

end BridgeMessage

end PageScript
