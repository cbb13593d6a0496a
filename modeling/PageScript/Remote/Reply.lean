import PageScript.Page.Reply
import PageScript.Record.Decoder
import PageScript.Text.Base64
import PageScript.Text.Blank

/-!
# Reading responses

What a response of a page that is elsewhere means as the reply to a request.
-/

namespace PageScript.PageRequest

open Record

/-- Reads the value of a response as a type. -/
def readAs (d : Decoder α) (value : Json) : Except PageError α :=
  (d.run value).mapError fun failure => .remote ("Unexpected response shape: " ++ failure.message)

/-- What stands in front of the base64 part of a data URL. -/
def base64Mark : List Char :=
  "base64,".toList

/-- What follows the first occurrence of a mark. -/
def after? (mark : List Char) : List Char → Option (List Char)
  | [] => none
  | c :: cs => if mark.isPrefixOf (c :: cs) then some ((c :: cs).drop mark.length) else after? mark cs

/-- The bytes of an image in base64, which may come as a data URL. -/
def readImage (value : Json) : Except PageError (List UInt8) := do
  let encoded ← readAs text value
  let data := match after? base64Mark encoded.toList with
    | some rest => String.ofList rest
    | none => encoded
  (Text.decodeBase64 data.toUTF8.toList).mapError fun fault => .other ("Base64 decode failed: " ++ fault.message)

/-- The answer that a response means. An error of the other side is one of navigation or of a script if that was
asked for. -/
def answerOf : (request : PageRequest) → Except PageError Json → request.Answer
  | .navigate _, .error (.remote e) => .error (.navigation e)
  | .execute _, .error (.remote e) => .error (.script e)
  | _, .error e => .error e
  | .queryAll _, .ok value => readAs (list ElementInfo.decoder) value
  | .attributeOf _ _, .ok value => readAs (Record.optional text) value
  | .computedStyle _ _, .ok value => readAs text value
  | .execute _, .ok value => .ok value
  | .screenshot, .ok value => readImage value
  | .networkIdle _, .ok value => readAs truth value
  | .navigate _, .ok _ => .ok ()
  | .click _, .ok _ => .ok ()
  | .typeText _ _, .ok _ => .ok ()
  | .setValue _ _, .ok _ => .ok ()
  | .focus _, .ok _ => .ok ()
  | .enable _, .ok _ => .ok ()
  | .hover _, .ok _ => .ok ()
  | .scrollIntoView _, .ok _ => .ok ()
  | .scrollTo _ _, .ok _ => .ok ()
  | .handleDialogs _, .ok _ => .ok ()
  | .resize _ _, .ok _ => .ok ()
  | .showMessage _, .ok _ => .ok ()
  | .installListeners, .ok _ => .ok ()

/-- The JSON form of a reply. -/
def replyToJson : (request : PageRequest) → request.Reply → Json
  | .queryAll _, elements => .arr (List.map ElementInfo.toJson elements)
  | .attributeOf _ _, value => .ofText? value
  | .computedStyle _ _, value => .str value
  | .execute _, value => value
  | .screenshot, bytes => .arr (List.map (fun (b : UInt8) => .int b.toNat) bytes)
  | .networkIdle _, idle => .bool idle
  | .navigate _, _ => .null
  | .click _, _ => .null
  | .typeText _ _, _ => .null
  | .setValue _ _, _ => .null
  | .focus _, _ => .null
  | .enable _, _ => .null
  | .hover _, _ => .null
  | .scrollIntoView _, _ => .null
  | .scrollTo _ _, _ => .null
  | .handleDialogs _, _ => .null
  | .resize _ _, _ => .null
  | .showMessage _, _ => .null
  | .installListeners, _ => .null

end PageScript.PageRequest
