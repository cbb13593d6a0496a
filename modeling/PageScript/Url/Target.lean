import PageScript.Text.Blank
import PageScript.Url.Parser

/-!
# Targets of navigation

A target that does not show a scheme is a place on the web and is reached over `https`.
-/

namespace PageScript.Url

open Text

/-- The schemes that need no slashes to be known as such. -/
def bareSchemes : List String :=
  ["about:", "data:", "file:"]

/-- A target shows a scheme if it begins with one of those that need no slashes, or holds `://` anywhere. -/
def showsScheme (target : String) : Bool :=
  containsBlock "://".toList target.toList || bareSchemes.any fun scheme => target.startsWith scheme

/-- The URL of a target without white space at its ends. -/
def ofTrimmed (target : String) : Except UrlError Url :=
  parse (if showsScheme target then target else "https://" ++ target)

/-- The URL of a target. -/
def ofTarget (raw : String) : Except UrlError Url :=
  ofTrimmed (trimmed raw)

end PageScript.Url
