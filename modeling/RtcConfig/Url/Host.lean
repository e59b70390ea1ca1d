import RtcConfig.Address.Reader
import RtcConfig.Url.Basic
import RtcConfig.Url.Percent

/-! # Hosts of URLs

A host that starts with a bracket is an IPv6 address in brackets. Any other host of a generic
scheme is opaque text without certain characters. Any other host of a web scheme is a domain
name after percent decoding; a name whose last label is a number must be an IPv4 address, of up
to four decimal, octal or hexadecimal parts where the last part fills all octets that are left.

International names are not mapped to ASCII. Characters outside ASCII and labels in Punycode
(`xn--`) are checked as they are written, so a name that only the mapping refuses passes here. No
URL of a web scheme names an endpoint, so such a URL is refused all the same, for its scheme and not
for its name.
-/

namespace RtcConfig.Url

/-- Checks an IPv6 address between brackets. -/
def checkBracketed (cs : List Char) : Except UrlError Unit :=
  if cs.getLast? = some ']' ∧ (Ipv6.ofChars? (cs.drop 1).dropLast).isSome then .ok ()
  else .error .invalidIpv6Address

def isForbiddenHostChar (c : Char) : Bool :=
  c ∈ ['\x00', ' ', '#', '/', ':', '<', '>', '?', '@', '[', '\\', ']', '^', '|']

def checkOpaqueHost (cs : List Char) : Except UrlError Unit :=
  if cs.head? = some '[' then checkBracketed cs
  else if cs.any isForbiddenHostChar then .error .invalidDomainCharacter
  else .ok ()

def isForbiddenDomainChar (c : Char) : Bool :=
  c.toNat < 0x20 || c.toNat == 0x7f || c == '%' || isForbiddenHostChar c

/-- A part of an IPv4 address: hexadecimal behind `0x`, octal behind `0`, else decimal. -/
def ipv4Part? : List Char → Option Nat
  | '0' :: 'x' :: r => Text.valueFrom 16 0 r
  | '0' :: 'X' :: r => Text.valueFrom 16 0 r
  | '0' :: c :: r => Text.valueFrom 8 0 (c :: r)
  | cs => Text.numeral? 10 cs

/-- The labels of a domain name; an empty one at the end does not count. -/
def domainLabels (cs : List Char) : List (List Char) :=
  let labels := cs.splitOn '.'
  if labels.getLast? = some [] then labels.dropLast else labels

def endsInNumber (cs : List Char) : Bool :=
  match (domainLabels cs).getLast? with
  | some (c :: r) => (c :: r).all (Text.isDigit 10) || (ipv4Part? (c :: r)).isSome
  | _ => false

def isIpv4 (cs : List Char) : Bool :=
  match (domainLabels cs).mapM ipv4Part? with
  | none => false
  | some parts =>
    let octets := parts.dropLast
    parts.length ≤ 4 && octets.all (· < 256) &&
      parts.getLast?.any (· < Nat.pow 256 (4 - octets.length))

def checkDomain (cs : List Char) : Except UrlError Unit :=
  match String.fromUTF8? ⟨(percentDecode cs).toArray⟩ with
  | none => .error .invalidDomainName
  | some name =>
    let name := name.toList
    if name.any isForbiddenDomainChar then .error .invalidDomainName
    else if name.isEmpty then .error .emptyHost
    else if endsInNumber name && !isIpv4 name then .error .invalidIpv4Address
    else .ok ()

def checkWebHost (cs : List Char) : Except UrlError Unit :=
  if cs.head? = some '[' then checkBracketed cs else checkDomain cs

end RtcConfig.Url
