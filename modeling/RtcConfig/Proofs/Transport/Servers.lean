import RtcConfig.Proofs.Transport.Faults

/-! # Servers of a configuration

The ICE servers of a configuration that is built can all be used: each of them is valid when it is
validated again, with one endpoint for each of its URLs. First comes the one server that all STUN
entries share, if there is an entry, and behind it a server for each TURN entry. No host and no
entry changes the kind of endpoint that its URL names.
-/

namespace RtcConfig

namespace IceEndpoint

structure IsStun (e : IceEndpoint) : Prop where
  scheme : e.scheme = .stun ∨ e.scheme = .stuns
  noTransport : e.transport = none

def IsTurnService (e : IceEndpoint) : Prop := e.scheme = .turn ∨ e.scheme = .turns

end IceEndpoint

/-- Validating the server gives an endpoint for each of its URLs in order, all of one kind. -/
def IceServer.Offers (kind : IceEndpoint → Prop) (server : IceServer) : Prop :=
  ∃ es, server.endpoints = .ok es ∧
    List.Forall₂ (fun url e => IceEndpoint.ofText url = .ok e ∧ kind e) server.urls es

/-- The server of STUN entries has a URL for each of them in order and no credentials. -/
structure IceServer.IsShared (entries : List String) (server : IceServer) : Prop where
  urls : server.urls = entries.map stunUrl
  username : server.username = ""
  credential : server.credential = ""
  offers : server.Offers IceEndpoint.IsStun

/-- One server for all STUN entries, or none without an entry. -/
inductive IceServer.Share : List String → List IceServer → Prop
  | none : Share [] []
  | one {entries : List String} {server : IceServer} (hne : entries ≠ [])
    (hshared : server.IsShared entries) : Share entries [server]

/-- The server of a TURN entry has one URL and the credentials of the entry. -/
structure TurnServer.HasServer (t : TurnServer) (server : IceServer) : Prop where
  url : ∃ url, server.urls = [url]
  username : server.username = t.username
  credential : server.credential = t.credential
  username_ne : t.username ≠ ""
  credential_ne : t.credential ≠ ""
  offers : server.Offers IceEndpoint.IsTurnService

/-! ## Kinds of endpoints -/

namespace IceEndpoint

variable {raw : String} {e : IceEndpoint}

theorem isTurn_iff : e.isTurn = true ↔ e.IsTurnService := by
  rw [isTurn, IsTurnService]
  cases e.scheme <;> decide

theorem isTurn_eq_false_iff : e.isTurn = false ↔ e.scheme = .stun ∨ e.scheme = .stuns := by
  rw [isTurn]
  cases e.scheme <;> decide

/-- Only an endpoint of TURN has a transport. -/
theorem isStun_of_ofText (h : ofText raw = .ok e) (hturn : e.isTurn = false) : e.IsStun := by
  obtain ⟨url, -, he⟩ := ofText_eq_ok.mp h
  obtain ⟨-, query, -, -, -, -, -, -, htransport⟩ := ofUrl?_eq_some.mp he
  exact ⟨isTurn_eq_false_iff.mp hturn, (readTransport_eq_some htransport).2 hturn⟩

end IceEndpoint

/-! ## The servers of entries -/

namespace IceServer

variable {server : IceServer}

/-- With an endpoint of TURN comes a user name and a credential. -/
theorem credentials_of_endpoint {url : String} {e : IceEndpoint}
    (h : server.endpoint url = .ok e) (hturn : e.isTurn = true) :
    server.username ≠ "" ∧ server.credential ≠ "" := by
  rw [endpoint, ofText_of_endpoint h] at h
  simp only [hturn, Bool.true_and] at h
  split at h
  · cases h
  · next hcredentials => simpa [hasCredentials] using hcredentials

theorem isShared_ofStunEntries {entries : List String} {valid : IceServer}
    (h : (ofStunEntries entries).validated = .ok valid) : valid.IsShared entries := by
  obtain ⟨rfl, es, hes⟩ := endpoints_of_validated h
  refine ⟨rfl, rfl, rfl, es, hes, ?_⟩
  have hread := List.forall₂_map_left_iff.mp (mapM_eq_ok hes)
  refine List.forall₂_map_left_iff.mpr (hread.imp fun entry e he => ?_)
  have htext := ofText_of_endpoint he
  exact ⟨htext, IceEndpoint.isStun_of_ofText htext (isTurn_of_stunUrl htext)⟩

/-- The URL of a STUN entry does not ask for credentials. -/
theorem endpoint_stunUrl (s : IceServer) (entry : String) :
    s.endpoint (stunUrl entry) = IceEndpoint.ofText (stunUrl entry) := by
  unfold endpoint
  cases hread : IceEndpoint.ofText (stunUrl entry) with
  | error e => rfl
  | ok e => simp [isTurn_of_stunUrl hread]

/-- Validating the URLs of STUN entries is reading them. -/
theorem endpoints_ofStunEntries (entries : List String) :
    (ofStunEntries entries).endpoints =
      entries.mapM fun entry => IceEndpoint.ofText (stunUrl entry) := by
  have hread : (ofStunEntries entries).endpoint ∘ stunUrl =
      fun entry => IceEndpoint.ofText (stunUrl entry) := by
    funext entry
    rw [Function.comp_apply, endpoint_stunUrl]
  rw [← hread]
  exact List.mapM_map

end IceServer

theorem TurnServer.hasServer_of_eq_ok {t : TurnServer} {server : IceServer}
    (h : t.iceServer >>= IceServer.validated = .ok server) : t.HasServer server := by
  obtain ⟨written, hwritten, hvalid⟩ := bind_eq_ok h
  obtain ⟨rfl, es, hes⟩ := IceServer.endpoints_of_validated hvalid
  obtain rfl := eq_of_iceServer hwritten
  cases mapM_eq_ok hes with
  | cons he hrest =>
    cases hrest
    have htext := IceServer.ofText_of_endpoint he
    have hturn := isTurn_of_url htext
    obtain ⟨husername, hcredential⟩ := IceServer.credentials_of_endpoint he hturn
    exact ⟨⟨_, rfl⟩, rfl, rfl, husername, hcredential, _, hes,
      .cons ⟨htext, IceEndpoint.isTurn_iff.mp hturn⟩ .nil⟩

namespace TransportSettings

variable {s : TransportSettings} {development : Bool}

theorem share_of_stunIceServers {servers : List IceServer}
    (h : s.stunIceServers = .ok servers) : IceServer.Share s.stunServers servers := by
  rw [stunIceServers] at h
  split at h
  · next hempty =>
    obtain rfl := Except.ok.inj h
    rw [List.isEmpty_iff.mp hempty]
    exact .none
  · next hne =>
    split at h
    · next hvalid =>
      obtain rfl := Except.ok.inj h
      exact .one (by simpa using hne) (IceServer.isShared_ofStunEntries hvalid)
    · cases h

/-- A configuration that is built has the server that all STUN entries share, if there is an entry,
and behind it one for each TURN entry in order. All of them are valid when they are validated
again. -/
theorem build_offers {c : Logged TransportConfig}
    (h : TransportConfig.build s development = .ok c) :
    ∃ stun turn, c.value.iceServers = stun ++ turn ∧ IceServer.Share s.stunServers stun ∧
      List.Forall₂ TurnServer.HasServer s.turnServers turn := by
  obtain ⟨config, hconfig, rfl⟩ := map_eq_ok h
  obtain ⟨stun, hstun, hservers⟩ := bind_eq_ok (iceServers_of_config hconfig)
  obtain ⟨turn, hturn, hservers⟩ := bind_eq_ok hservers
  exact ⟨stun, turn, (Except.ok.inj hservers).symm, share_of_stunIceServers hstun,
    (mapM_eq_ok hturn).imp fun _ _ => TurnServer.hasServer_of_eq_ok⟩

/-- Two STUN entries, of which one is a URL, and a TURN server whose host looks like a URL. -/
def bothKinds : TransportSettings where
  stunServers := ["2001:db8::1", "stuns:stun.example.org:443"]
  turnServers := [⟨"stun", 0, "TLS", "user", "secret"⟩]

theorem build_offers_bothKinds :
    ∃ c, TransportConfig.build bothKinds true = .ok c ∧
      c.value.iceServers = [
        ⟨["stun:[2001:db8::1]", "stuns:stun.example.org:443"], "", ""⟩,
        ⟨["turns:stun:5349?transport=tcp"], "user", "secret"⟩] ∧
      ∃ stun turn, c.value.iceServers = stun ++ turn ∧
        IceServer.Share bothKinds.stunServers stun ∧
        List.Forall₂ TurnServer.HasServer bothKinds.turnServers turn := by
  have hbuild : (TransportConfig.build bothKinds true).map (·.value.iceServers) = .ok [
      ⟨["stun:[2001:db8::1]", "stuns:stun.example.org:443"], "", ""⟩,
      ⟨["turns:stun:5349?transport=tcp"], "user", "secret"⟩] := by
    decide +kernel
  obtain ⟨c, hc, hservers⟩ := map_eq_ok hbuild
  exact ⟨c, hc, hservers, build_offers hc⟩

/-! ## Servers alone -/

/-- Where only servers are set, the configuration is the one of the servers. -/
theorem build_servers (entries : List String) (turns : List TurnServer) (development : Bool) :
    ∃ engine : Engine,
      TransportConfig.build { stunServers := entries, turnServers := turns } development =
        (iceServers { stunServers := entries, turnServers := turns }).map fun servers =>
          ⟨⟨engine, servers⟩, [TransportConfig.record ⟨engine, servers⟩]⟩ := by
  refine ⟨{ timeouts := timeouts, candidates := {
    networkTypes := [.udp4, .udp6], loopback := development || false } }, ?_⟩
  rw [TransportConfig.build, config]
  cases iceServers { stunServers := entries, turnServers := turns } with
  | ok servers => rfl
  | error e => rfl

/-- Settings of these STUN entries alone are accepted with one server, and validating it gives the
endpoints. -/
def StunServersGive (entries : List String) (development : Bool) (es : List IceEndpoint) : Prop :=
  ∃ c server, TransportConfig.build { stunServers := entries } development = .ok c ∧
    c.value.iceServers = [server] ∧ server.endpoints = .ok es

theorem iceServers_stun {entries : List String} (hne : entries ≠ []) :
    iceServers { stunServers := entries } =
      (IceServer.ofStunEntries entries).endpoints.map fun _ =>
        [IceServer.ofStunEntries entries] := by
  have hempty : ¬entries.isEmpty = true := by simpa using hne
  rw [iceServers, stunIceServers, if_neg hempty, IceServer.validated_eq_map]
  cases (IceServer.ofStunEntries entries).endpoints with
  | ok es => rfl
  | error e => rfl

theorem stunServersGive_iff {entries : List String} (hne : entries ≠ []) {es : List IceEndpoint} :
    StunServersGive entries development es ↔
      (entries.mapM fun entry => IceEndpoint.ofText (IceServer.stunUrl entry)) = .ok es := by
  obtain ⟨engine, hbuild⟩ := build_servers entries [] development
  rw [StunServersGive, hbuild, iceServers_stun hne, ← IceServer.endpoints_ofStunEntries]
  constructor
  · rintro ⟨c, server, hc, hserver, hes⟩
    obtain ⟨servers, hservers, rfl⟩ := map_eq_ok hc
    obtain ⟨-, -, rfl⟩ := map_eq_ok hservers
    obtain rfl : IceServer.ofStunEntries entries = server := by simpa using hserver
    exact hes
  · intro hes
    rw [hes]
    exact ⟨_, _, rfl, rfl, hes⟩

end TransportSettings

end RtcConfig
