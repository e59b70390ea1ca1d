import RtcConfig.Engine.Basic
import RtcConfig.Text.Outline
import RtcConfig.Text.Quoted

/-! # Outlines of the transport engine

The one-line text of an engine and of its parts. Of the buffer factory it shows only whether
there is one.
-/

namespace RtcConfig

def Filter.outline {α : Type} (name : String) (item : α → String) (f : Filter α) : String :=
  Text.outlineRecord name [
    ("includes", Text.outlineList (f.includes.map item)),
    ("excludes", Text.outlineList (f.excludes.map item))]

def Timeouts.outlineWait (t : Option Duration) : String :=
  Text.outlineOption (t.map Duration.text)

def Timeouts.outline (t : Timeouts) : String :=
  Text.outlineRecord "Timeout" [
    ("ice_disconnected_timeout", outlineWait t.disconnected),
    ("ice_failed_timeout", outlineWait t.failed),
    ("ice_keepalive_interval", outlineWait t.keepalive),
    ("ice_srflx_acceptance_min_wait", outlineWait t.srflxWait),
    ("ice_prflx_acceptance_min_wait", outlineWait t.prflxWait),
    ("ice_relay_acceptance_min_wait", outlineWait t.relayWait)]

def Candidates.outline (c : Candidates) : String :=
  Text.outlineRecord "Candidates" [
    ("ice_lite", Text.outlineBool c.lite),
    ("ice_network_types", Text.outlineList (c.networkTypes.map NetworkType.name)),
    ("interface_filter",
      Text.outlineOption (c.interfaceFilter.map (Filter.outline "InterfaceFilter" Text.quote))),
    ("ip_filter", Text.outlineOption (c.ipFilter.map (Filter.outline "IpFilter" IpNetwork.text))),
    ("nat_1to1_ips", Text.outlineList (c.natIps.map Text.quote)),
    ("nat_1to1_ip_candidate_type", c.natType.name),
    ("multicast_dns_mode", c.mdns.name),
    ("include_loopback_candidate", Text.outlineBool c.loopback),
    ("disable_active_tcp", Text.outlineBool c.disableActiveTcp)]

def Ports.outlinePort (p : Option UInt16) : String :=
  Text.outlineOption (p.map fun n => toString n.toNat)

def Ports.outlineRange (r : Option (UInt16 × UInt16)) : String :=
  Text.outlineOption (r.map fun p => Text.outlinePair (toString p.1.toNat) (toString p.2.toNat))

def Ports.outline (p : Ports) : String :=
  Text.outlineRecord "Ports" [
    ("udp_mux_ports", outlineRange p.udpMux),
    ("ephemeral_udp_port_range", outlineRange p.ephemeral),
    ("tcp_mux_port", outlinePort p.tcpMux)]

def Engine.outline (e : Engine) : String :=
  Text.outlineRecord "SettingEngine" [
    ("timeout", e.timeouts.outline),
    ("candidates", e.candidates.outline),
    ("ports", e.ports.outline),
    ("sctp_zero_checksum", Text.outlineBool e.zeroChecksum),
    ("buffer_factory", Text.outlineBool e.bufferFactory.isSome)]

end RtcConfig
