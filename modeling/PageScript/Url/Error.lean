/-!
# Errors of URLs
-/

namespace PageScript

/-- Why a text is no URL. -/
inductive UrlError where
  | emptyHost
  | domainName
  | port
  | ipv4
  | ipv6
  | hostCharacter
  | noScheme
deriving DecidableEq, Repr

/-- The wording of an error. -/
def UrlError.message : UrlError → String
  | .emptyHost => "empty host"
  | .domainName => "invalid international domain name"
  | .port => "invalid port number"
  | .ipv4 => "invalid IPv4 address"
  | .ipv6 => "invalid IPv6 address"
  | .hostCharacter => "invalid domain character"
  | .noScheme => "relative URL without a base"

end PageScript
