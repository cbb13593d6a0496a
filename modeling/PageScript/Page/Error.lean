/-!
# Errors of a page
-/

namespace PageScript

/-- Why a page did not do what it was asked. -/
inductive PageError where
  | notSupported (method : String)
  | notReady
  | connectionLost
  | navigation (text : String)
  | script (text : String)
  | timeout (text : String)
  | remote (text : String)
  | other (text : String)
deriving DecidableEq, Repr, Inhabited

namespace PageError

/-- The wording of an error. -/
def message : PageError → String
  | .notSupported method => "Not supported: " ++ method
  | .notReady => "Page not ready"
  | .connectionLost => "Connection lost"
  | .navigation text => "Navigation failed: " ++ text
  | .script text => "Script execution error: " ++ text
  | .timeout text => "Timeout: " ++ text
  | .remote text => "Remote error: " ++ text
  | .other text => "Backend error: " ++ text

/-- The page cannot do what it was asked at all. -/
def isNotSupported : PageError → Bool
  | .notSupported _ => true
  | _ => false

end PageError

end PageScript
