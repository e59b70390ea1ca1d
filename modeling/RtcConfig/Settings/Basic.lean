import RtcConfig.Filter
import RtcConfig.Text.Outline

/-! # Settings

What an operator sets for the real-time transport of a server. Zero, false, the empty text and
the empty list mean that a setting is not made; only congestion control is on unless it is
switched off.
-/

namespace RtcConfig

/-- A range of ports. As the UDP port a range whose last port is zero is the first port alone. -/
structure PortRange where
  first : UInt16 := 0
  last : UInt16 := 0
  deriving DecidableEq, Repr

def PortRange.isUnset (r : PortRange) : Bool := r.first == 0 && r.last == 0

structure TurnServer where
  host : String := ""
  port : UInt16 := 0
  protocol : String := ""
  username : String := ""
  credential : String := ""
  deriving DecidableEq, Repr

structure CongestionSettings where
  enabled : Bool := true
  allowPause : Bool := false
  useSendSide : Bool := false
  deriving DecidableEq, Repr

def CongestionSettings.outline (s : CongestionSettings) : String :=
  Text.outlineRecord "CongestionControlSettings" [
    ("enabled", Text.outlineBool s.enabled),
    ("allow_pause", Text.outlineBool s.allowPause),
    ("use_send_side_bwe", Text.outlineBool s.useSendSide)]

structure TransportSettings where
  udpPort : PortRange := {}
  tcpPort : UInt16 := 0
  ephemeral : PortRange := {}
  nodeIp : String := ""
  useExternalIp : Bool := false
  stunServers : List String := []
  turnServers : List TurnServer := []
  useIceLite : Bool := false
  useMdns : Bool := false
  enableLoopback : Bool := false
  interfaces : Filter String := {}
  ips : Filter String := {}
  deriving DecidableEq

structure RtcSettings where
  transport : TransportSettings := {}
  bufferSize : UInt64 := 0
  videoBufferSize : UInt64 := 0
  audioBufferSize : UInt64 := 0
  strictAcks : Bool := false
  congestion : CongestionSettings := {}
  development : Bool := false
  deriving DecidableEq

end RtcConfig
