import RtcConfig.Engine.Outline
import RtcConfig.Log
import RtcConfig.Transport.IceServers

/-! # Transport configuration

A transport configuration is an engine and a list of ICE servers, built from transport settings.
The settings are checked in this order: node address, ports, IP filter, STUN servers, TURN
servers. The first check that fails gives the error.
-/

namespace RtcConfig

structure TransportConfig where
  engine : Engine
  iceServers : List IceServer
  deriving DecidableEq

namespace PortRange

/-- A range is unset, or has both ends in order. -/
def validate (r : PortRange) : Except ConfigError (Option (UInt16 × UInt16)) :=
  if r.first = 0 ∧ r.last = 0 then .ok none
  else if r.first = 0 ∨ r.last = 0 then .error .incompletePortRange
  else if r.first > r.last then .error (.invalidPortRange r.first r.last)
  else .ok (some (r.first, r.last))

/-- The range of the UDP port, where a missing last port means the first one alone. -/
def validateUdp (r : PortRange) : Except ConfigError (UInt16 × UInt16) :=
  if r.last = 0 then .ok (r.first, r.first)
  else match r.validate with
    | .ok (some ports) => .ok ports
    | .ok none => .error .incompletePortRange
    | .error e => .error e

end PortRange

namespace TransportSettings

/-- The address to advertise for the node; an external one needs the address of the node. -/
def natIps (s : TransportSettings) : Except ConfigError (List String) :=
  if s.nodeIp.isEmpty then
    if s.useExternalIp then .error .externalIpWithoutNodeIp else .ok []
  else match IpAddress.ofText? s.nodeIp with
    | none => .error (.invalidNodeIp s.nodeIp)
    | some ip => .ok (if s.useExternalIp then [ip.text] else [])

/-- The ephemeral range counts, and is checked, only without a UDP port. -/
def ports (s : TransportSettings) : Except ConfigError Ports :=
  let tcpMux := if s.tcpPort = 0 then none else some s.tcpPort
  if s.udpPort.isUnset then
    s.ephemeral.validate.map fun range => { ephemeral := range, tcpMux := tcpMux }
  else s.udpPort.validateUdp.map fun range => { udpMux := some range, tcpMux := tcpMux }

def networkTypes (s : TransportSettings) : List NetworkType :=
  [.udp4, .udp6] ++ if s.tcpPort = 0 then [] else [.tcp4, .tcp6]

def network (entry : String) : Except ConfigError IpNetwork :=
  match IpNetwork.ofEntry? entry with
  | some n => .ok n
  | none => .error (.invalidIpFilter entry)

def ipFilter (s : TransportSettings) : Except ConfigError (Option (Filter IpNetwork)) :=
  if s.ips.isEmpty then .ok none
  else do
    let includes ← s.ips.includes.mapM network
    let excludes ← s.ips.excludes.mapM network
    .ok (some ⟨includes, excludes⟩)

def timeouts : Timeouts where
  disconnected := some (.ofSeconds 10)
  failed := some (.ofSeconds 5)
  keepalive := some (.ofSeconds 2)

/-- The configuration built from the settings; a server under development allows loopback. -/
def config (s : TransportSettings) (development : Bool) : Except ConfigError TransportConfig := do
  let natIps ← s.natIps
  let ports ← s.ports
  let ipFilter ← s.ipFilter
  let iceServers ← s.iceServers
  let candidates : Candidates := {
    lite := s.useIceLite
    networkTypes := s.networkTypes
    interfaceFilter := if s.interfaces.isEmpty then none else some s.interfaces
    ipFilter := ipFilter
    natIps := natIps
    natType := if s.useExternalIp then .host else .unspecified
    mdns := .ofBool s.useMdns
    loopback := development || s.enableLoopback }
  .ok ⟨{ timeouts := timeouts, candidates := candidates, ports := ports }, iceServers⟩

end TransportSettings

namespace TransportConfig

/-- The record that a newly built configuration leaves. -/
def record (c : TransportConfig) : LogRecord where
  level := .debug
  text :=
    "transport config: lite=" ++ Text.outlineBool c.engine.candidates.lite ++
    " mdns=" ++ c.engine.candidates.mdns.name ++
    " udp_mux=" ++ Ports.outlineRange c.engine.ports.udpMux ++
    " ephemeral=" ++ Ports.outlineRange c.engine.ports.ephemeral ++
    " tcp_mux=" ++ Ports.outlinePort c.engine.ports.tcpMux ++
    " ice_servers=" ++ toString c.iceServers.length

def build (s : TransportSettings) (development : Bool) :
    Except ConfigError (Logged TransportConfig) :=
  (s.config development).map fun c => ⟨c, [c.record]⟩

end TransportConfig

def IceServer.outline (s : IceServer) : String :=
  Text.outlineRecord "RTCIceServer" [
    ("urls", Text.outlineList (s.urls.map Text.quote)),
    ("username", Text.quote s.username),
    ("credential", Text.quote s.credential)]

def TransportConfig.outline (c : TransportConfig) : String :=
  Text.outlineRecord "TransportConfig" [
    ("setting_engine", c.engine.outline),
    ("ice_servers", Text.outlineList (c.iceServers.map IceServer.outline))]

end RtcConfig
