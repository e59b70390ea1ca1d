import RtcConfig.Json.Writer
import RtcConfig.Settings.Basic

/-! # Writing settings

The object of a settings record has a member for every field, in order. The object of all
settings of a server starts with the members of its transport settings.
-/

namespace RtcConfig

def PortRange.toJson (r : PortRange) : Json := .object [
  ("start", .ofNat r.first.toNat),
  ("end", .ofNat r.last.toNat)]

def TurnServer.toJson (s : TurnServer) : Json := .object [
  ("host", .string s.host),
  ("port", .ofNat s.port.toNat),
  ("protocol", .string s.protocol),
  ("username", .string s.username),
  ("credential", .string s.credential)]

def CongestionSettings.toJson (s : CongestionSettings) : Json := .object [
  ("enabled", .bool s.enabled),
  ("allow_pause", .bool s.allowPause),
  ("use_send_side_bwe", .bool s.useSendSide)]

def TransportSettings.members (s : TransportSettings) : Json.Members := [
  ("udp_port", s.udpPort.toJson),
  ("tcp_port", .ofNat s.tcpPort.toNat),
  ("port_range_start", .ofNat s.ephemeral.first.toNat),
  ("port_range_end", .ofNat s.ephemeral.last.toNat),
  ("node_ip", .string s.nodeIp),
  ("use_external_ip", .bool s.useExternalIp),
  ("stun_servers", .array (s.stunServers.map .string)),
  ("turn_servers", .array (s.turnServers.map TurnServer.toJson)),
  ("use_ice_lite", .bool s.useIceLite),
  ("use_mdns", .bool s.useMdns),
  ("enable_loopback_candidate", .bool s.enableLoopback),
  ("interfaces", s.interfaces.toJson),
  ("ips", s.ips.toJson)]

def TransportSettings.toJson (s : TransportSettings) : Json := .object s.members

def RtcSettings.members (s : RtcSettings) : Json.Members := s.transport.members ++ [
  ("packet_buffer_size", .ofNat s.bufferSize.toNat),
  ("packet_buffer_size_video", .ofNat s.videoBufferSize.toNat),
  ("packet_buffer_size_audio", .ofNat s.audioBufferSize.toNat),
  ("strict_acks", .bool s.strictAcks),
  ("congestion_control", s.congestion.toJson),
  ("development", .bool s.development)]

def RtcSettings.toJson (s : RtcSettings) : Json := .object s.members

end RtcConfig
