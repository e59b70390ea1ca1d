import RtcConfig.Json.Reader
import RtcConfig.Settings.Basic

/-! # Reading settings

Every field of a settings record has a default, and members with other names are skipped. A
record is an object or an array of its fields in order. The settings of a server are always an
object, whose members hold the fields of the transport settings beside its own; a port range is
an object or a single port.

While a text is read, some values are held before it is known whether they are used. They must
be representable and may not nest beyond a limit, even if nothing uses them in the end.
-/

namespace RtcConfig

def PortRange.ofMembers? (ms : Json.Members) : Option PortRange := do
  let first ← ms.field "start" Json.uint16? (some 0)
  let last ← ms.field "end" Json.uint16? (some 0)
  some ⟨first, last⟩

def PortRange.ofJson? : Json → Option PortRange
  | .object ms => ofMembers? ms
  | v => (Json.uint16? v).map fun port => ⟨port, 0⟩

namespace TurnServer

def ofMembers? (ms : Json.Members) : Option TurnServer := do
  let host ← ms.field "host" Json.string? (some "")
  let port ← ms.field "port" Json.uint16? (some 0)
  let protocol ← ms.field "protocol" Json.string? (some "")
  let username ← ms.field "username" Json.string? (some "")
  let credential ← ms.field "credential" Json.string? (some "")
  some ⟨host, port, protocol, username, credential⟩

def ofItems? (items : List Json) : Option TurnServer := do
  let (host, items) ← Json.next items Json.string? (some "")
  let (port, items) ← Json.next items Json.uint16? (some 0)
  let (protocol, items) ← Json.next items Json.string? (some "")
  let (username, items) ← Json.next items Json.string? (some "")
  let (credential, items) ← Json.next items Json.string? (some "")
  Json.done items ⟨host, port, protocol, username, credential⟩

def ofJson? : Json → Option TurnServer := Json.record? ofMembers? ofItems?

end TurnServer

namespace CongestionSettings

def ofMembers? (ms : Json.Members) : Option CongestionSettings := do
  let enabled ← ms.field "enabled" Json.bool? (some true)
  let allowPause ← ms.field "allow_pause" Json.bool? (some false)
  let useSendSide ← ms.field "use_send_side_bwe" Json.bool? (some false)
  some ⟨enabled, allowPause, useSendSide⟩

def ofItems? (items : List Json) : Option CongestionSettings := do
  let (enabled, items) ← Json.next items Json.bool? (some true)
  let (allowPause, items) ← Json.next items Json.bool? (some false)
  let (useSendSide, items) ← Json.next items Json.bool? (some false)
  Json.done items ⟨enabled, allowPause, useSendSide⟩

def ofJson? : Json → Option CongestionSettings := Json.record? ofMembers? ofItems?

end CongestionSettings

namespace TransportSettings

def ofMembers? (ms : Json.Members) : Option TransportSettings := do
  let udpPort ← ms.field "udp_port" PortRange.ofJson? (some {})
  let tcpPort ← ms.field "tcp_port" Json.uint16? (some 0)
  let first ← ms.field "port_range_start" Json.uint16? (some 0)
  let last ← ms.field "port_range_end" Json.uint16? (some 0)
  let nodeIp ← ms.field "node_ip" Json.string? (some "")
  let useExternalIp ← ms.field "use_external_ip" Json.bool? (some false)
  let stunServers ← ms.field "stun_servers" (Json.list? Json.string?) (some [])
  let turnServers ← ms.field "turn_servers" (Json.list? TurnServer.ofJson?) (some [])
  let useIceLite ← ms.field "use_ice_lite" Json.bool? (some false)
  let useMdns ← ms.field "use_mdns" Json.bool? (some false)
  let enableLoopback ← ms.field "enable_loopback_candidate" Json.bool? (some false)
  let interfaces ← ms.field "interfaces" Filter.ofJson? (some {})
  let ips ← ms.field "ips" Filter.ofJson? (some {})
  some ⟨udpPort, tcpPort, ⟨first, last⟩, nodeIp, useExternalIp, stunServers, turnServers,
    useIceLite, useMdns, enableLoopback, interfaces, ips⟩

def ofItems? (items : List Json) : Option TransportSettings := do
  let (udpPort, items) ← Json.next items PortRange.ofJson? (some {})
  let (tcpPort, items) ← Json.next items Json.uint16? (some 0)
  let (first, items) ← Json.next items Json.uint16? (some 0)
  let (last, items) ← Json.next items Json.uint16? (some 0)
  let (nodeIp, items) ← Json.next items Json.string? (some "")
  let (useExternalIp, items) ← Json.next items Json.bool? (some false)
  let (stunServers, items) ← Json.next items (Json.list? Json.string?) (some [])
  let (turnServers, items) ← Json.next items (Json.list? TurnServer.ofJson?) (some [])
  let (useIceLite, items) ← Json.next items Json.bool? (some false)
  let (useMdns, items) ← Json.next items Json.bool? (some false)
  let (enableLoopback, items) ← Json.next items Json.bool? (some false)
  let (interfaces, items) ← Json.next items Filter.ofJson? (some {})
  let (ips, items) ← Json.next items Filter.ofJson? (some {})
  Json.done items ⟨udpPort, tcpPort, ⟨first, last⟩, nodeIp, useExternalIp, stunServers,
    turnServers, useIceLite, useMdns, enableLoopback, interfaces, ips⟩

def ofJson? : Json → Option TransportSettings := Json.record? ofMembers? ofItems?

end TransportSettings

namespace RtcSettings

/-- The names of the fields that are not transport settings. -/
def ownNames : List String :=
  ["packet_buffer_size", "packet_buffer_size_video", "packet_buffer_size_audio", "strict_acks",
    "congestion_control", "development"]

/-- The members left for the transport settings. -/
def shared (ms : Json.Members) : Json.Members := ms.filter fun m => !ownNames.contains m.1

def ofMembers? (ms : Json.Members) : Option RtcSettings := do
  let bufferSize ← ms.field "packet_buffer_size" Json.uint64? (some 0)
  let videoBufferSize ← ms.field "packet_buffer_size_video" Json.uint64? (some 0)
  let audioBufferSize ← ms.field "packet_buffer_size_audio" Json.uint64? (some 0)
  let strictAcks ← ms.field "strict_acks" Json.bool? (some false)
  let congestion ← ms.field "congestion_control" CongestionSettings.ofJson? (some {})
  let development ← ms.field "development" Json.bool? (some false)
  let transport ← TransportSettings.ofMembers? (shared ms)
  some ⟨transport, bufferSize, videoBufferSize, audioBufferSize, strictAcks, congestion,
    development⟩

def ofJson? : Json → Option RtcSettings
  | .object ms => ofMembers? ms
  | _ => none

end RtcSettings

/-- A port range is held, to be read as a single port or as an object. -/
def PortRange.ofText? (text : String) : Option PortRange := do
  let v ← Json.read text
  if v.canHold Json.nestingLimit then ofJson? v else none

/-- The values held while transport settings are read: the UDP port. -/
def TransportSettings.held : Json → List Json
  | .object ms => Json.Members.values ms "udp_port"
  | .array items => items.take 1
  | _ => []

def TransportSettings.ofText? (text : String) : Option TransportSettings := do
  let v ← Json.read text
  if (held v).all (Json.canHold (Json.nestingLimit - 1)) then ofJson? v else none

/-- The values held while settings are read: all that may be transport settings. -/
def RtcSettings.held : Json → List Json
  | .object ms => (shared ms).map (·.2)
  | _ => []

def RtcSettings.ofText? (text : String) : Option RtcSettings := do
  let v ← Json.read text
  if (held v).all (Json.canHold (Json.nestingLimit - 1)) then ofJson? v else none

end RtcConfig
