import PageScript.Url.Host

/-!
# URLs

The parts of a URL and its text.
-/

namespace PageScript

/-- The part of a URL that says where. -/
structure Url.Authority where
  /-- The user name. -/
  username : String
  /-- The password, if there is one. -/
  password : Option String
  /-- The host. -/
  host : Url.Host
  /-- The port, unless it is the usual one. -/
  port : Option Nat
deriving DecidableEq, Repr

/-- The path of a URL. -/
inductive Url.Path where
  /-- A text of which nothing is known. -/
  | opaqueText (text : String)
  /-- Segments, each behind a slash. -/
  | segments (segments : List String)
deriving DecidableEq, Repr

/-- A URL. All its parts are encoded already. -/
structure Url where
  /-- The scheme, in lower case. -/
  scheme : String
  /-- Where it points to. -/
  authority : Option Url.Authority
  /-- The path. -/
  path : Url.Path
  /-- What follows a question mark. -/
  query : Option String
  /-- What follows a number sign. -/
  fragment : Option String
deriving DecidableEq, Repr

namespace Url

/-- The schemes of special URLs with their usual ports. -/
def specialSchemes : List (String × Option Nat) :=
  [("http", some 80), ("https", some 443), ("ws", some 80), ("wss", some 443), ("ftp", some 21), ("file", none)]

/-- A special scheme. -/
def isSpecial (scheme : String) : Bool :=
  (specialSchemes.lookup scheme).isSome

/-- The usual port of a scheme. -/
def usualPort (scheme : String) : Option Nat :=
  (specialSchemes.lookup scheme).join

namespace Authority

/-- The text of the user name and the password. -/
def userinfo (a : Authority) : String :=
  match a.password with
  | some password => a.username ++ ":" ++ password ++ "@"
  | none => if a.username.isEmpty then "" else a.username ++ "@"

/-- The text of an authority. -/
def text (a : Authority) : String :=
  a.userinfo ++ a.host.text ++ match a.port with
    | some port => s!":{port}"
    | none => ""

end Authority

namespace Path

/-- The text of a path. -/
def text : Path → String
  | .opaqueText text => text
  | .segments parts => String.join (parts.map ("/" ++ ·))

end Path

/-- The text of a path that stands behind a scheme alone: it must not look like an authority. -/
def guarded (path : String) : String :=
  if path.startsWith "//" then "/." ++ path else path

/-- A part behind its mark, if there is one. -/
def marked (mark : String) : Option String → String
  | some part => mark ++ part
  | none => ""

/-- The text of a URL. -/
def text (u : Url) : String :=
  let place := match u.authority with
    | some authority => "//" ++ authority.text ++ u.path.text
    | none => guarded u.path.text
  u.scheme ++ ":" ++ place ++ marked "?" u.query ++ marked "#" u.fragment

end Url

end PageScript
