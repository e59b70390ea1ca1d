import RtcConfig.Proofs.Transport.TurnUrl

/-! # Faults of settings

Every check of transport settings is a condition of its own with the error that it gives. In the
order of the checks these errors are the faults of the settings: a configuration is built exactly if
there are none, and otherwise the first one is the error.
-/

namespace RtcConfig

/-! ## Checks -/

/-- The error of a check, if its condition for failure holds. -/
def faultIf (fails : Prop) [Decidable fails] (e : ConfigError) : List ConfigError :=
  if fails then [e] else []

theorem faultIf_eq_nil {fails : Prop} [Decidable fails] {e : ConfigError} :
    faultIf fails e = [] ↔ ¬fails := by
  unfold faultIf
  split
  · next h => simp [h]
  · next h => simp [h]

/-- The error of a URL that names no endpoint. -/
def urlFaults (url : String) : List ConfigError :=
  match IceEndpoint.ofText url with
  | .ok _ => []
  | .error e => [e]

namespace PortRange

def faults (r : PortRange) : List ConfigError :=
  faultIf (r.first = 0 ∧ r.last ≠ 0 ∨ r.first ≠ 0 ∧ r.last = 0) .incompletePortRange ++
    faultIf (r.last < r.first) (.invalidPortRange r.first r.last)

/-- A UDP port may leave out its last port. -/
def udpFaults (r : PortRange) : List ConfigError :=
  faultIf (r.first = 0 ∧ r.last ≠ 0) .incompletePortRange ++
    faultIf (r.last ≠ 0 ∧ r.last < r.first) (.invalidPortRange r.first r.last)

end PortRange

namespace TurnServer

/-- The checks of host, protocol and URL. -/
def endpointFaults (t : TurnServer) : List ConfigError :=
  faultIf (t.host = "") .turnServerMissingHost ++
    faultIf (t.protocol.toLower ∉ ["", "udp", "tcp", "tls"])
      (.unsupportedTurnProtocol t.protocol) ++
      urlFaults (t.url t.scheme t.transport)

def credentialFaults (t : TurnServer) : List ConfigError :=
  faultIf (t.username = "" ∨ t.credential = "")
    (.turnServerMissingCredentials (t.url t.scheme t.transport))

def faults (t : TurnServer) : List ConfigError := t.endpointFaults ++ t.credentialFaults

end TurnServer

namespace TransportSettings

def nodeFaults (s : TransportSettings) : List ConfigError :=
  faultIf (s.nodeIp ≠ "" ∧ IpAddress.ofText? s.nodeIp = none) (.invalidNodeIp s.nodeIp) ++
    faultIf (s.nodeIp = "" ∧ s.useExternalIp) .externalIpWithoutNodeIp

def portFaults (s : TransportSettings) : List ConfigError :=
  if s.udpPort.first = 0 ∧ s.udpPort.last = 0 then s.ephemeral.faults else s.udpPort.udpFaults

def entryFaults (entry : String) : List ConfigError :=
  faultIf (IpNetwork.ofText? entry = none ∧ IpAddress.ofText? entry = none) (.invalidIpFilter entry)

def filterFaults (s : TransportSettings) : List ConfigError :=
  s.ips.includes.flatMap entryFaults ++ s.ips.excludes.flatMap entryFaults

def stunFaults (s : TransportSettings) : List ConfigError :=
  (s.stunServers.map IceServer.stunUrl).flatMap urlFaults

/-- The faults of the settings in the order of their checks. -/
def faults (s : TransportSettings) : List ConfigError :=
  s.nodeFaults ++ (s.portFaults ++ (s.filterFaults ++
    (s.stunFaults ++ s.turnServers.flatMap TurnServer.faults)))

end TransportSettings

/-! ## Ports and addresses -/

theorem PortRange.validate_reports (r : PortRange) : Reports r.validate r.faults := by
  unfold validate faults faultIf
  by_cases hfirst : r.first = 0
  · by_cases hlast : r.last = 0
    · simp [hfirst, hlast]
    · simp [hfirst, hlast]
  · by_cases hlast : r.last = 0
    · simp [hfirst, hlast]
    · by_cases hlt : r.last < r.first
      · simp [hfirst, hlast, hlt]
      · simp [hfirst, hlast, hlt]

theorem PortRange.validateUdp_reports (r : PortRange) : Reports r.validateUdp r.udpFaults := by
  unfold validateUdp validate udpFaults faultIf
  by_cases hlast : r.last = 0
  · simp [hlast]
  · by_cases hfirst : r.first = 0
    · simp [hfirst, hlast]
    · by_cases hlt : r.last < r.first
      · simp [hfirst, hlast, hlt]
      · simp [hfirst, hlast, hlt]

namespace TransportSettings

variable (s : TransportSettings)

theorem natIps_reports : Reports s.natIps s.nodeFaults := by
  unfold natIps nodeFaults faultIf
  by_cases hempty : s.nodeIp = ""
  · by_cases hexternal : s.useExternalIp
    · simp [hempty, hexternal]
    · simp [hempty, hexternal]
  · cases haddress : IpAddress.ofText? s.nodeIp with
    | none => simp [hempty]
    | some ip => simp [hempty]

theorem ports_reports : Reports s.ports s.portFaults := by
  unfold ports portFaults
  by_cases hunset : s.udpPort.first = 0 ∧ s.udpPort.last = 0
  · rw [if_pos hunset, if_pos (by simp [PortRange.isUnset, hunset])]
    exact s.ephemeral.validate_reports.map _
  · rw [if_neg hunset, if_neg (by simpa [PortRange.isUnset] using hunset)]
    exact s.udpPort.validateUdp_reports.map _

theorem network_reports (entry : String) : Reports (network entry) (entryFaults entry) := by
  unfold network entryFaults faultIf IpNetwork.ofEntry?
  cases hnetwork : IpNetwork.ofText? entry with
  | some n => simp
  | none => cases haddress : IpAddress.ofText? entry <;> simp

theorem networks_reports (entries : List String) :
    Reports (entries.mapM network) (entries.flatMap entryFaults) :=
  Reports.mapM fun entry _ => network_reports entry

theorem ipFilter_reports : Reports s.ipFilter s.filterFaults := by
  unfold ipFilter filterFaults
  by_cases hempty : s.ips.isEmpty
  · have hlists : s.ips.includes = [] ∧ s.ips.excludes = [] := by
      simpa [Filter.isEmpty] using hempty
    simp [hempty, hlists]
  · rw [if_neg hempty]
    exact (networks_reports s.ips.includes).bind fun includes _ =>
      (networks_reports s.ips.excludes).map _

end TransportSettings

/-! ## Servers -/

namespace IceServer

variable {s : IceServer} {url : String}

theorem endpoint_reports_stun (h : ∀ e, IceEndpoint.ofText url = .ok e → e.isTurn = false) :
    Reports (s.endpoint url) (urlFaults url) := by
  unfold endpoint urlFaults
  cases hurl : IceEndpoint.ofText url with
  | error err => exact .error err _
  | ok e => simp [h e hurl]

theorem endpoint_reports_turn (h : ∀ e, IceEndpoint.ofText url = .ok e → e.isTurn = true) :
    Reports (s.endpoint url) (urlFaults url ++
      faultIf (s.username = "" ∨ s.credential = "") (.turnServerMissingCredentials url)) := by
  unfold endpoint urlFaults faultIf
  cases hurl : IceEndpoint.ofText url with
  | error err => exact .error err _
  | ok e =>
    by_cases hc : s.username = "" ∨ s.credential = ""
    · simp [h e hurl, hasCredentials, hc]
    · simp [h e hurl, hasCredentials, hc]

theorem validated_reports {faults : List ConfigError} (h : Reports s.endpoints faults) :
    Reports s.validated faults := by
  rw [validated_eq_map]
  exact h.map _

theorem validated_reports_turn {username credential : String}
    (h : ∀ e, IceEndpoint.ofText url = .ok e → e.isTurn = true) :
    Reports (validated ⟨[url], username, credential⟩) (urlFaults url ++
      faultIf (username = "" ∨ credential = "") (.turnServerMissingCredentials url)) := by
  apply validated_reports
  have hone : ∀ u ∈ [url], Reports (endpoint ⟨[url], username, credential⟩ u) (urlFaults url ++
      faultIf (username = "" ∨ credential = "") (.turnServerMissingCredentials url)) := by
    intro u hu
    obtain rfl := List.mem_singleton.mp hu
    exact endpoint_reports_turn h
  have hlist := Reports.mapM hone
  rw [List.flatMap_cons, List.flatMap_nil, List.append_nil] at hlist
  exact hlist

/-- The URL of a STUN entry starts with a scheme of STUN. -/
theorem stunUrl_eq (entry : String) : ∃ (scheme : IceScheme) (rest : List Char),
    scheme.isTurn = false ∧ stunUrl entry = String.ofList (scheme.text.toList ++ ':' :: rest) := by
  unfold stunUrl
  split
  · next hstart =>
    rw [startsAsStunUrl, Bool.or_eq_true, List.isPrefixOf_iff_prefix,
      List.isPrefixOf_iff_prefix] at hstart
    rcases hstart with ⟨rest, hrest⟩ | ⟨rest, hrest⟩
    · refine ⟨.stun, rest, rfl, ?_⟩
      rw [← String.ofList_toList (s := entry), ← hrest]
      rfl
    · refine ⟨.stuns, rest, rfl, ?_⟩
      rw [← String.ofList_toList (s := entry), ← hrest]
      rfl
  · refine ⟨.stun, (bracketIpv6 entry).toList, rfl, ?_⟩
    rw [← String.ofList_toList (s := "stun:" ++ bracketIpv6 entry), String.toList_append]
    rfl

theorem isTurn_of_stunUrl {entry : String} {e : IceEndpoint}
    (h : IceEndpoint.ofText (stunUrl entry) = .ok e) : e.isTurn = false := by
  obtain ⟨scheme, rest, hturn, hurl⟩ := stunUrl_eq entry
  rw [hurl] at h
  rw [IceEndpoint.isTurn, IceEndpoint.scheme_of_ofText scheme.map_toLower_text h, hturn]

end IceServer

theorem TurnServer.isTurn_of_url {t : TurnServer} {e : IceEndpoint}
    (h : IceEndpoint.ofText (t.url t.scheme t.transport) = .ok e) : e.isTurn = true := by
  rw [IceEndpoint.isTurn, scheme_of_ofText h, t.isTurn_scheme]

/-- Host and protocol are checked before there is a URL. -/
theorem TurnServer.iceServer_reports (t : TurnServer) : Reports t.iceServer
    (faultIf (t.host = "") .turnServerMissingHost ++
      faultIf (t.protocol.toLower ∉ ["", "udp", "tcp", "tls"])
        (.unsupportedTurnProtocol t.protocol)) := by
  unfold iceServer faultIf
  rw [service?_eq]
  by_cases hhost : t.host = ""
  · simp [hhost]
  · by_cases hprotocol : t.protocol.toLower ∈ ["", "udp", "tcp", "tls"]
    · rw [if_pos hprotocol, if_neg (not_not.mpr hprotocol)]
      simp [hhost]
    · rw [if_neg hprotocol, if_pos hprotocol]
      simp [hhost]

theorem TurnServer.validated_reports (t : TurnServer) :
    Reports (t.iceServer >>= IceServer.validated) t.faults := by
  rw [faults, endpointFaults, credentialFaults, List.append_assoc]
  refine t.iceServer_reports.bind fun server hserver => ?_
  rw [eq_of_iceServer hserver]
  have hturn (e : IceEndpoint) (he : IceEndpoint.ofText (t.url t.scheme t.transport) = .ok e) :
      e.isTurn = true := isTurn_of_url he
  exact IceServer.validated_reports_turn hturn

namespace TransportSettings

variable (s : TransportSettings)

theorem stunIceServers_reports : Reports s.stunIceServers s.stunFaults := by
  unfold stunIceServers stunFaults
  by_cases hempty : s.stunServers = []
  · simp [hempty]
  · rw [if_neg (by simpa using hempty)]
    have hall : ∀ url ∈ s.stunServers.map IceServer.stunUrl,
        Reports ((IceServer.ofStunEntries s.stunServers).endpoint url) (urlFaults url) := by
      intro url hurl
      obtain ⟨entry, -, rfl⟩ := List.mem_map.mp hurl
      exact IceServer.endpoint_reports_stun fun e he => IceServer.isTurn_of_stunUrl he
    have hvalid : Reports (IceServer.ofStunEntries s.stunServers).validated
        ((s.stunServers.map IceServer.stunUrl).flatMap urlFaults) :=
      IceServer.validated_reports (Reports.mapM hall)
    cases hserver : (IceServer.ofStunEntries s.stunServers).validated with
    | ok server =>
      rw [hserver] at hvalid
      simpa using hvalid
    | error e =>
      rw [hserver] at hvalid
      simpa using hvalid

theorem iceServers_reports :
    Reports s.iceServers (s.stunFaults ++ s.turnServers.flatMap TurnServer.faults) := by
  refine s.stunIceServers_reports.bind fun stun _ => ?_
  have hturn : Reports s.turnIceServers (s.turnServers.flatMap TurnServer.faults) :=
    Reports.mapM fun t _ => t.validated_reports
  exact hturn.map (stun ++ ·)

theorem config_reports (development : Bool) : Reports (s.config development) s.faults := by
  refine s.natIps_reports.bind fun ips _ => ?_
  refine s.ports_reports.bind fun ports _ => ?_
  refine s.ipFilter_reports.bind fun filter _ => ?_
  exact s.iceServers_reports.map _

theorem exists_build_iff {development : Bool} :
    (∃ c, TransportConfig.build s development = .ok c) ↔ s.faults = [] := by
  have h : Reports (TransportConfig.build s development) s.faults :=
    (s.config_reports development).map _
  exact h.exists_ok_iff

/-- A configuration is built exactly if the settings have no fault, and else the first fault in the
order of the checks is the error. -/
theorem build_reports (development : Bool) :
    ((∃ c, TransportConfig.build s development = .ok c) ↔ s.faults = []) ∧
      ∀ e, TransportConfig.build s development = .error e ↔ s.faults.head? = some e := by
  have h : Reports (TransportConfig.build s development) s.faults :=
    (s.config_reports development).map _
  exact ⟨h.exists_ok_iff, h.eq_error_iff⟩

/-- The settings of a TURN server without user name and credential. -/
def noCredentials : TransportSettings where
  turnServers := [{ host := "turn.example.org" }]

/-- No check but the one of user name and credential rejects these settings. -/
theorem build_noCredentials :
    noCredentials.nodeFaults = [] ∧ noCredentials.portFaults = [] ∧
      noCredentials.filterFaults = [] ∧ noCredentials.stunFaults = [] ∧
      noCredentials.turnServers.flatMap TurnServer.endpointFaults = [] ∧
      ¬∃ c, TransportConfig.build noCredentials false = .ok c := by
  refine ⟨rfl, rfl, rfl, rfl, by decide +kernel, ?_⟩
  rintro ⟨c, hc⟩
  have hnone : (TransportConfig.build noCredentials false).toOption.isNone := by decide +kernel
  rw [hc] at hnone
  cases hnone

end TransportSettings

end RtcConfig
