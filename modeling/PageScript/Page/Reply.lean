import PageScript.Page.Element
import PageScript.Page.Error
import PageScript.Page.Request

/-!
# Replies of a page

What a page gives back depends on what it was asked.
-/

namespace PageScript.PageRequest

/-- What a page gives back for a request it has carried out. -/
def Reply : PageRequest → Type
  | .queryAll _ => List ElementInfo
  | .attributeOf _ _ => Option String
  | .computedStyle _ _ => String
  | .execute _ => Json
  | .screenshot => List UInt8
  | .networkIdle _ => Bool
  | .navigate _ => Unit
  | .click _ => Unit
  | .typeText _ _ => Unit
  | .setValue _ _ => Unit
  | .focus _ => Unit
  | .enable _ => Unit
  | .hover _ => Unit
  | .scrollIntoView _ => Unit
  | .scrollTo _ _ => Unit
  | .handleDialogs _ => Unit
  | .resize _ _ => Unit
  | .showMessage _ => Unit
  | .installListeners => Unit

/-- The answer of a page: its reply, or why there is none. -/
abbrev Answer (request : PageRequest) : Type :=
  Except PageError request.Reply

end PageScript.PageRequest
