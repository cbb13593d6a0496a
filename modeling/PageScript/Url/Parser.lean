import PageScript.Url.Basic

/-!
# Reading URLs

A URL is read from its front to its back: the scheme, the authority, the path, the query and the fragment. Special
URLs treat backslashes as slashes, always have a host (except files) and always have a path.
-/

namespace PageScript.Url

/-- Controls and spaces stand at neither end of a URL, and tabs and line ends nowhere in it. -/
def cleaned (cs : List Char) : List Char :=
  let isEdge (c : Char) : Bool := c ≤ ' '
  let inner := ((cs.dropWhile isEdge).reverse.dropWhile isEdge).reverse
  inner.filter fun c => c ≠ '\t' ∧ c ≠ '\n' ∧ c ≠ '\r'

/-- An ASCII letter. -/
def isLetter (c : Char) : Bool :=
  ('a' ≤ c && c ≤ 'z') || ('A' ≤ c && c ≤ 'Z')

/-- A character of a scheme. -/
def isSchemeChar (c : Char) : Bool :=
  isLetter c || ('0' ≤ c && c ≤ '9') || c = '+' || c = '-' || c = '.'

/-- The scheme of a URL and what follows its colon. -/
def scheme? (cs : List Char) : Option (String × List Char) :=
  match cs, cs.span isSchemeChar with
  | c :: _, (name, ':' :: rest) =>
    if isLetter c then some (String.ofList (name.map Char.toLower), rest) else none
  | _, _ => none

/-- A slash of a URL: a backslash counts as one in a special URL. -/
def isSlash (special : Bool) (c : Char) : Bool :=
  c = '/' || (special && c = '\\')

/-- The end of an authority. -/
def endsAuthority (special : Bool) (c : Char) : Bool :=
  isSlash special c || c = '?' || c = '#'

/-- What stands in front of the last occurrence of a character, and what behind it. -/
def splitAtLast? (mark : Char) (cs : List Char) : Option (List Char × List Char) :=
  match cs.reverse.span (· ≠ mark) with
  | (after, _ :: before) => some (before.reverse, after.reverse)
  | (_, []) => none

/-- The user name and the password. An empty password is none. -/
def readUserinfo (cs : List Char) : String × Option String :=
  let encoded (cs : List Char) : String := String.ofList (percentEncode .userinfo cs)
  match cs.span (· ≠ ':') with
  | (name, ':' :: c :: password) => (encoded name, some (encoded (c :: password)))
  | (name, _) => (encoded name, none)

/-- The end of a host that is no file host: a colon ends it outside brackets. -/
def hostLength : Bool → List Char → Nat
  | _, [] => 0
  | inside, c :: cs =>
    if c = ':' ∧ !inside then 0
    else 1 + hostLength (if c = '[' then true else if c = ']' then false else inside) cs

/-- Reads a port. -/
def readPort (usual : Option Nat) (cs : List Char) : Except UrlError (Option Nat) :=
  match numberOf? 10 cs with
  | none => .error .port
  | some n =>
    if 65535 < n then .error .port
    else .ok (if cs.isEmpty ∨ some n = usual then none else some n)

/-- Reads an authority, up to its end. What follows a backslash behind the port belongs to the path in any URL. -/
def readAuthority (scheme : String) (cs : List Char) : Except UrlError (Authority × List Char) := do
  let special := isSpecial scheme
  let (inner, rest) := cs.span fun c => !endsAuthority special c
  let (userinfo, place) := (splitAtLast? '@' inner).getD ([], inner)
  if inner = ['@'] ∧ rest ≠ [] then throw .emptyHost
  let (username, password) := readUserinfo userinfo
  let (name, after) := place.splitAt (hostLength false place)
  if special ∧ name = [] then throw .emptyHost
  let host ← if special then Host.read name else Host.readOpaque name
  let named := username ≠ "" ∨ password ≠ none
  if host.isEmpty ∧ (after ≠ [] ∨ named) then throw .emptyHost
  match after with
  | ':' :: digits =>
    let (digits, behind) := digits.span (· ≠ '\\')
    return (⟨username, password, host, ← readPort (usualPort scheme) digits⟩, behind ++ rest)
  | _ => return (⟨username, password, host, none⟩, rest)

/-- The spellings of a segment that stands for the place itself. -/
def selfSegments : List String :=
  [".", "%2e", "%2E"]

/-- The spellings of a segment that stands for the place above. -/
def aboveSegments : List String :=
  ["..", "%2e%2e", "%2e%2E", "%2E%2e", "%2E%2E", "%2e.", "%2E.", ".%2e", ".%2E"]

/-- A letter with a colon or a bar, the name of a drive. -/
def drive? (segment : String) : Option Char :=
  match segment.toList with
  | [letter, mark] => if isLetter letter ∧ (mark = ':' ∨ mark = '|') then some letter else none
  | _ => none

/-- The segments of a path that goes up one place. The name of a drive stays. -/
def goUp (segments : List String) : List String :=
  match segments.getLast? with
  | some last => if (drive? last).isSome then segments else segments.dropLast
  | none => segments

/-- The segments of a path after one more has been read; the last one of a path is followed by no slash. -/
def addSegment (file last : Bool) (segments : List String) (raw : List Char) : List String :=
  let segment := String.ofList (percentEncode .path raw)
  if aboveSegments.contains segment then goUp segments ++ (if last then [""] else [])
  else if selfSegments.contains segment then segments ++ (if last then [""] else [])
  else
    match drive? segment with
    | some letter => segments ++ [if file && segments.isEmpty then String.ofList [letter, ':'] else segment]
    | none => segments ++ [segment]

/-- The segments of a path after others have been read. -/
def addSegments (file : Bool) (segments : List String) : List (List Char) → List String
  | [] => segments
  | [last] => addSegment file true segments last
  | raw :: rest => addSegments file (addSegment file false segments raw) rest

/-- The segments that some text gives between its slashes. -/
def readSegments (special file : Bool) (cs : List Char) : List String :=
  addSegments file [] (cs.splitOnP (isSlash special))

/-- Reads the path of a URL with an authority. Only a URL that is not special may have none. -/
def readPath (special : Bool) : List Char → List String
  | [] => if special then [""] else []
  | c :: cs => readSegments special false (if isSlash special c then cs else c :: cs)

/-- A file path has no empty segments at its front. -/
def dropEmptyFront (segments : List String) : List String :=
  match segments.dropWhile String.isEmpty with
  | [] => [""]
  | rest => rest

/-- What stands in front of the query and the fragment, the query and the fragment. -/
def splitTail (cs : List Char) : List Char × Option (List Char) × Option (List Char) :=
  let (body, fragment) := match cs.span (· ≠ '#') with
    | (body, _ :: fragment) => (body, some fragment)
    | (body, []) => (body, none)
  match body.span (· ≠ '?') with
  | (front, _ :: query) => (front, some query, fragment)
  | (front, []) => (front, none, fragment)

/-- The rest of a text behind one slash of a special URL. -/
def behindSlash? : List Char → Option (List Char)
  | c :: cs => if isSlash true c then some cs else none
  | [] => none

/-- The host of a file, which is none if it is empty or the local one. -/
def readFileHost (cs : List Char) : Except UrlError (Option Host) :=
  if cs.isEmpty then .ok none
  else (Host.read cs).map fun host => if host = .domain "localhost" then none else some host

/-- Reads what follows the two slashes of a file. A drive at the front stands for no host, and leaves none. -/
def readFilePlace (cs : List Char) : Except UrlError (Option Host × List String) := do
  let (name, path) := cs.span fun c => !isSlash true c
  if (drive? (String.ofList name)).isSome then return (none, readSegments true true cs)
  match ← readFileHost name with
  | none => return (none, readSegments true true path)
  | some host =>
    let segments := readSegments true true (path.drop 1)
    return (if (segments.head?.bind drive?).isSome then none else some host, segments)

/-- Reads the host and the path of a file. -/
def readFile (cs : List Char) : Except UrlError (Option Host × List String) :=
  match behindSlash? cs with
  | none => .ok (none, readSegments true true cs)
  | some rest =>
    match behindSlash? rest with
    | none => .ok (none, readSegments true true rest)
    | some place => readFilePlace place

/-- The authority of a file. -/
def fileAuthority (host : Option Host) : Authority :=
  ⟨"", none, host.getD (.domain ""), none⟩

/-- Reads the authority and the path of a URL, behind its scheme. -/
def readPlace (scheme : String) (cs : List Char) : Except UrlError (Option Authority × Path) := do
  if scheme = "file" then
    let (host, segments) ← readFile cs
    return (some (fileAuthority host), .segments (dropEmptyFront segments))
  else if isSpecial scheme then
    let (authority, rest) ← readAuthority scheme (cs.dropWhile (isSlash true))
    return (some authority, .segments (readPath true rest))
  else
    match cs with
    | '/' :: '/' :: rest => do
      let (authority, rest) ← readAuthority scheme rest
      return (some authority, .segments (readPath false rest))
    | '/' :: rest => return (none, .segments (readSegments false false rest))
    | _ => return (none, .opaqueText (String.ofList (percentEncode .controls cs)))

/-- Reads a URL. -/
def parse (s : String) : Except UrlError Url :=
  match scheme? (cleaned s.toList) with
  | none => .error .noScheme
  | some (scheme, rest) => do
    let (front, query, fragment) := splitTail rest
    let (authority, path) ← readPlace scheme front
    let encoded (set : EscapeSet) (cs : List Char) : String := String.ofList (percentEncode set cs)
    return {
      scheme := scheme
      authority := authority
      path := path
      query := query.map (encoded (if isSpecial scheme then .specialQuery else .query))
      fragment := fragment.map (encoded .fragment) }

end PageScript.Url
