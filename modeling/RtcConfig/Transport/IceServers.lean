import RtcConfig.Ice.Server
import RtcConfig.Settings.Basic
import RtcConfig.Text.Lowercase

/-! # ICE servers from settings

All STUN entries share one server. An entry that starts like a STUN URL is taken as it is, any
other as the host of one. Each TURN entry is a server of its own, whose URL is built from host,
port and protocol. An IPv6 address is put in brackets, and every other host is left for the URL
to accept or reject.
-/

namespace RtcConfig

namespace IceServer

def bracketIpv6 (host : String) : String :=
  if (Ipv6.ofChars? host.toList).isSome then "[" ++ host ++ "]" else host

/-- Whether a text starts like a STUN URL in lower case. -/
def startsAsStunUrl (entry : List Char) : Bool :=
  ['s', 't', 'u', 'n', ':'].isPrefixOf entry || ['s', 't', 'u', 'n', 's', ':'].isPrefixOf entry

def stunUrl (entry : String) : String :=
  if startsAsStunUrl entry.toList then entry else "stun:" ++ bracketIpv6 entry

/-- The server that all STUN entries share. -/
def ofStunEntries (entries : List String) : IceServer := ⟨entries.map stunUrl, "", ""⟩

/-- A server, provided that all its URLs are valid. -/
def validated (s : IceServer) : Except ConfigError IceServer :=
  match s.endpoints with
  | .ok _ => .ok s
  | .error e => .error e

end IceServer

namespace TurnServer

/-- Scheme and transport of the protocol, which is written in letters of either case. -/
def service? (t : TurnServer) : Option (IceScheme × IceTransport) :=
  match Text.lowercase t.protocol with
  | "" => some (.turn, .udp)
  | "udp" => some (.turn, .udp)
  | "tcp" => some (.turn, .tcp)
  | "tls" => some (.turns, .tcp)
  | _ => none

def url (t : TurnServer) (scheme : IceScheme) (transport : IceTransport) : String :=
  let port := if t.port = 0 then scheme.defaultPort else t.port
  scheme.text ++ ":" ++ IceServer.bracketIpv6 t.host ++ ":" ++ toString port.toNat ++
    "?transport=" ++ transport.text

def iceServer (t : TurnServer) : Except ConfigError IceServer :=
  if t.host.isEmpty then .error .turnServerMissingHost
  else match t.service? with
    | none => .error (.unsupportedTurnProtocol t.protocol)
    | some (scheme, transport) => .ok ⟨[t.url scheme transport], t.username, t.credential⟩

end TurnServer

namespace TransportSettings

/-- The STUN server, if there is an entry. -/
def stunIceServers (s : TransportSettings) : Except ConfigError (List IceServer) :=
  if s.stunServers.isEmpty then .ok []
  else match (IceServer.ofStunEntries s.stunServers).validated with
    | .ok server => .ok [server]
    | .error e => .error e

/-- The TURN servers; each entry is checked completely before the next one. -/
def turnIceServers (s : TransportSettings) : Except ConfigError (List IceServer) :=
  s.turnServers.mapM fun t => t.iceServer >>= IceServer.validated

def iceServers (s : TransportSettings) : Except ConfigError (List IceServer) := do
  let stun ← s.stunIceServers
  let turn ← s.turnIceServers
  .ok (stun ++ turn)

end TransportSettings

end RtcConfig
