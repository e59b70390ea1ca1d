import RtcConfig.Proofs.Ice.RoundTrip
import RtcConfig.Proofs.Transport.Servers

/-! # Endpoints of TURN servers

The URL of a TURN server is written in one place and read in another. Where the settings name a
host, a known protocol, a user name and a credential, what is written is read as the endpoint of the
settings: nothing of host, port and protocol is lost or moved. An unknown protocol is rejected
before anything is written. Protocols are compared in the lower case of Unicode, and still no letter
outside ASCII stands for a letter of their names.
-/

namespace RtcConfig

namespace TurnServer

/-- Settings that name an endpoint on a host. -/
structure NamesEndpoint (t : TurnServer) (host : String) : Prop where
  host : HostText host t.host
  protocol : t.protocol.toLower ∈ ["", "udp", "tcp", "tls"]
  username : t.username ≠ ""
  credential : t.credential ≠ ""

/-- The endpoint of the settings on a host. -/
def endpointOn (t : TurnServer) (host : String) : IceEndpoint :=
  ⟨t.scheme, host, t.endpointPort, some t.transport⟩

/-- The server that is written from the settings. -/
def written (t : TurnServer) : IceServer :=
  ⟨[t.url t.scheme t.transport], t.username, t.credential⟩

/-- A server with one URL and the credentials of the settings, where the URL names the endpoint. -/
structure Reaches (t : TurnServer) (e : IceEndpoint) (server : IceServer) : Prop where
  url : ∃ url, server = ⟨[url], t.username, t.credential⟩ ∧ IceEndpoint.ofText url = .ok e
  endpoints : server.endpoints = .ok [e]

variable {t : TurnServer} {host : String}

theorem endpointPort_ne_zero (t : TurnServer) : t.endpointPort ≠ 0 := by
  unfold endpointPort
  split
  · assumption
  · split <;> decide

/-- The URL is written as the endpoint on the host, with its port and its transport. -/
theorem url_eq_text (h : HostText host t.host) : t.url t.scheme t.transport =
    EndpointText.text ⟨t.scheme.text, host, some (0, t.endpointPort), some t.transport⟩ := by
  have hdecimal : toString t.endpointPort.toNat =
      String.ofList (List.replicate 0 '0' ++ Text.decimal t.endpointPort.toNat) := by
    apply String.toList_injective
    rw [Nat.toString_eq_repr, Nat.toList_repr, String.toList_ofList]
    rfl
  rw [url, port_eq, h.bracketIpv6_eq, hdecimal]
  simp only [EndpointText.text, EndpointText.portText, EndpointText.transportText,
    String.append_assoc]

theorem ofText_url_eq_ok (h : HostText host t.host) :
    IceEndpoint.ofText (t.url t.scheme t.transport) = .ok (t.endpointOn host) := by
  rw [url_eq_text h]
  have hscheme : t.scheme.text.toLower = t.scheme.text :=
    String.toList_inj.mp (String.toList_map.trans t.scheme.map_toLower_text)
  refine EndpointText.Names.ofText ⟨hscheme, h.namesHost, ?_, fun _ => t.isTurn_scheme⟩
  intro zeros p hp
  obtain ⟨-, rfl⟩ := Prod.mk.inj (Option.some.inj hp)
  exact t.endpointPort_ne_zero

theorem iceServer_eq_written (h : t.NamesEndpoint host) : t.iceServer = .ok t.written := by
  have hempty : ¬t.host.isEmpty = true := by simpa using h.host.ne_empty
  rw [iceServer, if_neg hempty, service?_eq, if_pos h.protocol]
  rfl

theorem endpoints_written (h : t.NamesEndpoint host) :
    t.written.endpoints = .ok [t.endpointOn host] := by
  have hcredentials : t.written.hasCredentials = true := by
    simp [written, IceServer.hasCredentials, h.username, h.credential]
  refine mapM_of_forall₂ (.cons ?_ .nil)
  rw [IceServer.endpoint, ofText_url_eq_ok h.host, hcredentials]
  simp

theorem reaches_written (h : t.NamesEndpoint host) :
    t.iceServer >>= IceServer.validated = .ok t.written ∧
      t.Reaches (t.endpointOn host) t.written := by
  refine ⟨?_, ⟨_, rfl, ofText_url_eq_ok h.host⟩, endpoints_written h⟩
  rw [iceServer_eq_written h, ok_bind, IceServer.validated_eq_map, endpoints_written h]
  rfl

/-- A protocol that is not known is an error, whatever else the settings are. -/
theorem iceServer_unsupported (hhost : t.host ≠ "")
    (hprotocol : t.protocol.toLower ∉ ["", "udp", "tcp", "tls"]) :
    t.iceServer = .error (.unsupportedTurnProtocol t.protocol) := by
  have hempty : ¬t.host.isEmpty = true := by simpa using hhost
  rw [iceServer, if_neg hempty, service?_eq, if_neg hprotocol]

end TurnServer

namespace TransportSettings

theorem iceServers_turn (t : TurnServer) :
    iceServers { turnServers := [t] } =
      (t.iceServer >>= IceServer.validated).map fun server => [server] := by
  have hturn : turnIceServers { turnServers := [t] } =
      (t.iceServer >>= IceServer.validated).map fun server => [server] := by
    rw [turnIceServers, List.mapM_cons]
    cases t.iceServer >>= IceServer.validated with
    | error e => rfl
    | ok server => rfl
  have hstun : stunIceServers { turnServers := [t] } = .ok [] := rfl
  rw [iceServers, hstun, ok_bind, hturn]
  cases t.iceServer >>= IceServer.validated with
  | error e => rfl
  | ok server => rfl

/-- A TURN server that names an endpoint is accepted, and its one URL is read as this endpoint. A
protocol that is none of the four names in ASCII letters of either case is rejected and reported as
it was written. -/
theorem build_turnServer (t : TurnServer) (development : Bool) :
    (∀ host, t.NamesEndpoint host → ∃ c server,
      TransportConfig.build { turnServers := [t] } development = .ok c ∧
        c.value.iceServers = [server] ∧ t.Reaches (t.endpointOn host) server) ∧
    (t.host ≠ "" → t.protocol.toLower ∉ ["", "udp", "tcp", "tls"] →
      TransportConfig.build { turnServers := [t] } development =
        .error (.unsupportedTurnProtocol t.protocol)) := by
  obtain ⟨engine, hbuild⟩ := build_servers [] [t] development
  rw [hbuild, iceServers_turn]
  constructor
  · intro host h
    obtain ⟨hvalid, hreaches⟩ := TurnServer.reaches_written h
    rw [hvalid]
    exact ⟨_, _, rfl, rfl, hreaches⟩
  · intro hhost hprotocol
    rw [TurnServer.iceServer_unsupported hhost hprotocol]
    rfl

/-- A server over TLS on an address in brackets. -/
def tlsOnAddress : TurnServer := ⟨"[2001:db8::1]", 0, "TlS", "user", "secret"⟩

/-- A protocol with a long `s`, which is the letter of TLS in upper case only. -/
def longS : TurnServer := ⟨"turn.example.org", 443, "tlſ", "user", "secret"⟩

theorem build_turnServer_both :
    (∃ c server, TransportConfig.build { turnServers := [tlsOnAddress] } false = .ok c ∧
      c.value.iceServers = [server] ∧
        tlsOnAddress.Reaches ⟨.turns, "2001:db8::1", 5349, some .tcp⟩ server) ∧
    TransportConfig.build { turnServers := [longS] } false =
      .error (.unsupportedTurnProtocol "tlſ") := by
  have hnames : tlsOnAddress.NamesEndpoint "2001:db8::1" := {
    host := by
      have htext : tlsOnAddress.host = "[" ++ "2001:db8::1" ++ "]" := by decide
      exact htext ▸ .bracketed (by decide)
    protocol := by decide +kernel
    username := by decide
    credential := by decide }
  have hendpoint : tlsOnAddress.endpointOn "2001:db8::1" =
      ⟨.turns, "2001:db8::1", 5349, some .tcp⟩ := by
    decide +kernel
  have hlong : longS.protocol.toLower ∉ ["", "udp", "tcp", "tls"] := by
    decide +kernel
  exact ⟨hendpoint ▸ (build_turnServer tlsOnAddress false).1 _ hnames,
    (build_turnServer longS false).2 (by decide) hlong⟩

end TransportSettings

end RtcConfig
