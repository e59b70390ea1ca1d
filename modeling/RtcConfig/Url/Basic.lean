/-! # URLs

A URL of a generic scheme is its scheme, its path and its query. A URL of a web scheme is only
checked: its host must be valid, and nothing but the scheme is kept, since no such URL names an
ICE endpoint.
-/

namespace RtcConfig

inductive UrlError where
  | relativeWithoutBase
  | emptyHost
  | invalidIpv6Address
  | invalidIpv4Address
  | invalidDomainCharacter
  | invalidDomainName
  | invalidPort
  deriving DecidableEq, Repr

def UrlError.message : UrlError → String
  | .relativeWithoutBase => "relative URL without a base"
  | .emptyHost => "empty host"
  | .invalidIpv6Address => "invalid IPv6 address"
  | .invalidIpv4Address => "invalid IPv4 address"
  | .invalidDomainCharacter => "invalid domain character"
  | .invalidDomainName => "invalid international domain name"
  | .invalidPort => "invalid port number"

inductive Url where
  | web (scheme : String)
  | generic (scheme : String) (path query : List Char)
  deriving DecidableEq, Repr

end RtcConfig
