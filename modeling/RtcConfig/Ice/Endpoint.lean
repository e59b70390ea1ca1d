import RtcConfig.Error
import RtcConfig.Url.Query
import RtcConfig.Url.Reader

/-! # ICE endpoints

The STUN or TURN service that a URL names: scheme, host, port and, for TURN only, a transport.
Such a URL has no authority, so host and port stand in its path, split at the last colon. A path
that ends in a bracket has no port. An IPv6 address stands in brackets and no other host has a
colon or a bracket.
-/

namespace RtcConfig

inductive IceScheme where
  | stun
  | stuns
  | turn
  | turns
  deriving DecidableEq, Repr

inductive IceTransport where
  | udp
  | tcp
  deriving DecidableEq, Repr

structure IceEndpoint where
  scheme : IceScheme
  host : String
  port : UInt16
  transport : Option IceTransport
  deriving DecidableEq, Repr

namespace IceScheme

def text : IceScheme → String
  | .stun => "stun"
  | .stuns => "stuns"
  | .turn => "turn"
  | .turns => "turns"

def ofText? : String → Option IceScheme
  | "stun" => some .stun
  | "stuns" => some .stuns
  | "turn" => some .turn
  | "turns" => some .turns
  | _ => none

def isTurn : IceScheme → Bool
  | .stun | .stuns => false
  | .turn | .turns => true

def defaultPort : IceScheme → UInt16
  | .stun | .turn => 3478
  | .stuns | .turns => 5349

end IceScheme

namespace IceTransport

def text : IceTransport → String
  | .udp => "udp"
  | .tcp => "tcp"

def ofBytes? (value : List UInt8) : Option IceTransport :=
  if value = Url.utf8 ['u', 'd', 'p'] then some .udp
  else if value = Url.utf8 ['t', 'c', 'p'] then some .tcp
  else none

end IceTransport

namespace IceEndpoint

def isTurn (e : IceEndpoint) : Bool := e.scheme.isTurn

/-- A decimal numeral in the range of ports; it may have a plus sign and leading zeros. -/
def readPort (cs : List Char) : Option UInt16 := do
  let n ← Text.numeral? 10 (match cs with
    | '+' :: r => r
    | cs => cs)
  if h : n < UInt16.size then some (UInt16.ofNatLT n h) else none

/-- The text before and behind the last colon. -/
def splitLastColon (cs : List Char) : Option (List Char × List Char) :=
  let (after, before) := cs.reverse.span (· != ':')
  match before with
  | [] => none
  | _ :: host => some (host.reverse, after.reverse)

def splitPort (defaultPort : UInt16) (path : List Char) : Option (List Char × UInt16) :=
  if path.getLast? = some ']' then some (path, defaultPort)
  else match splitLastColon path with
    | none => some (path, defaultPort)
    | some (host, port) => (readPort port).map fun p => (host, p)

/-- The host without the brackets of an IPv6 address. -/
def unbracket? : List Char → Option (List Char)
  | '[' :: r =>
    if r.getLast? = some ']' ∧ (Ipv6.ofChars? r.dropLast).isSome then some r.dropLast else none
  | cs => if cs.any fun c => c == ':' || c == '[' || c == ']' then none else some cs

/-- The transport that the query names; only TURN allows one. -/
def readTransport (scheme : IceScheme) (query : List Char) : Option (Option IceTransport) :=
  match Url.queryValue? "transport" query with
  | none => some none
  | some value => if scheme.isTurn then (IceTransport.ofBytes? value).map some else none

def ofUrl? : Url → Option IceEndpoint
  | .web _ => none
  | .generic scheme path query => do
    let scheme ← IceScheme.ofText? scheme
    let (host, port) ← splitPort scheme.defaultPort path
    let host ← unbracket? host
    if host.isEmpty || port == 0 then none
    else (readTransport scheme query).map fun t => ⟨scheme, String.ofList host, port, t⟩

def ofText (raw : String) : Except ConfigError IceEndpoint :=
  match Url.ofText raw with
  | .error e => .error (.malformedUrl e)
  | .ok url => match ofUrl? url with
    | some e => .ok e
    | none => .error (.invalidIceServerUrl raw)

end IceEndpoint

end RtcConfig
