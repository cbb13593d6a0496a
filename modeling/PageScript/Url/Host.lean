import PageScript.Text.Utf8
import PageScript.Url.Address
import PageScript.Url.Domain

/-!
# Hosts
-/

namespace PageScript.Url

/-- A host. -/
inductive Host where
  | domain (name : String)
  | ipv4 (address : Nat)
  | ipv6 (pieces : List Nat)
deriving DecidableEq, Repr

namespace Host

/-- The text of a host. -/
def text : Host → String
  | .domain name => name
  | .ipv4 address => ipv4Text address
  | .ipv6 pieces => "[" ++ ipv6Text pieces ++ "]"

/-- A host without a name. -/
def isEmpty : Host → Bool
  | .domain name => name.isEmpty
  | _ => false

/-- Reads an address in brackets, behind the opening one. -/
def bracketed (cs : List Char) : Except UrlError Host :=
  if cs.getLast? = some ']' then (ipv6? cs.dropLast).map .ipv6 else .error .ipv6

/-- Reads the host of a special URL: an address, or a domain name, which may be percent-encoded. -/
def read : List Char → Except UrlError Host
  | '[' :: rest => bracketed rest
  | cs =>
    match Text.decodeUtf8 (percentDecode (String.ofList cs).toUTF8.toList) with
    | .error _ => .error .domainName
    | .ok decoded =>
      match Domain.toAscii decoded.toList with
      | none => .error .domainName
      | some [] => .error .emptyHost
      | some name => if endsInNumber name then (ipv4? name).map .ipv4 else .ok (.domain (String.ofList name))

/-- The characters that no host may hold. -/
def forbidden : List Char :=
  [Char.ofNat 0, '\t', '\n', '\r', ' ', '#', '/', ':', '<', '>', '?', '@', '[', '\\', ']', '^', '|']

/-- Reads the host of any other URL: an address, or a text of which nothing is known. -/
def readOpaque : List Char → Except UrlError Host
  | '[' :: rest => bracketed rest
  | cs =>
    if cs.any forbidden.contains then .error .hostCharacter
    else .ok (.domain (String.ofList (percentEncode .controls cs)))

end Host

end PageScript.Url
