import RtcConfig.Proofs.Capability.Assembly
import RtcConfig.Proofs.Text.Quoted
import RtcConfig.Proofs.Transport.Faults

/-! # Messages of rejections

The message of a rejection shows the text that was rejected. It is one line whatever this text is,
since the text is quoted, with one exception: the URL of a TURN server without user name and
credential stands as it was given. A host with a line end passes the checks before, as URLs drop
line ends, so settings can break this message into lines.
-/

namespace RtcConfig

open Text

theorem UrlError.isOneLine_message (e : UrlError) : isOneLine e.message := by
  cases e <;> decide +kernel

namespace ConfigError

variable {e : ConfigError}

theorem isOneLine_message (h : ∀ url, e ≠ .turnServerMissingCredentials url) :
    isOneLine e.message := by
  have hquoted {text : String} (s : String) (htext : isOneLine text) :
      isOneLine (text ++ quote s) := by
    simp [htext]
  cases e with
  | turnServerMissingCredentials url => exact absurd rfl (h url)
  | invalidPortRange first last =>
    have hfront : isOneLine "rtc config: port range start " := by decide +kernel
    have hmiddle : isOneLine " is greater than end " := by decide +kernel
    change isOneLine ("rtc config: port range start " ++ toString first.toNat ++
      " is greater than end " ++ toString last.toNat)
    simp [hfront, hmiddle]
  | malformedUrl cause =>
    have hfront : isOneLine "url parse: " := by decide +kernel
    change isOneLine ("url parse: " ++ cause.message)
    simp [hfront, cause.isOneLine_message]
  | invalidNodeIp text => exact hquoted text (by decide +kernel)
  | invalidIpFilter entry => exact hquoted entry (by decide +kernel)
  | invalidIceServerUrl url => exact hquoted url (by decide +kernel)
  | unsupportedTurnProtocol protocol => exact hquoted protocol (by decide +kernel)
  | incompletePortRange | externalIpWithoutNodeIp | turnServerMissingHost => decide +kernel

theorem isOneLine_message_missingCredentials (url : String) :
    isOneLine (turnServerMissingCredentials url).message = isOneLine url := by
  have hfront : isOneLine "rtc config: turn server " := by decide +kernel
  have hback : isOneLine " requires username and credential" := by decide +kernel
  change isOneLine ("rtc config: turn server " ++ url ++ " requires username and credential") = _
  simp [hfront, hback]

/-- Only a URL that is not quoted can break a message. -/
theorem isOneLine_message_iff :
    isOneLine e.message ↔ ∀ url, e = .turnServerMissingCredentials url → isOneLine url := by
  constructor
  · rintro h url rfl
    rwa [isOneLine_message_missingCredentials] at h
  · intro h
    by_cases hmissing : ∃ url, e = .turnServerMissingCredentials url
    · obtain ⟨url, rfl⟩ := hmissing
      rw [isOneLine_message_missingCredentials]
      exact h url rfl
    · exact isOneLine_message (not_exists.mp hmissing)

end ConfigError

/-! ## ICE servers -/

theorem mem_faultIf {fails : Prop} [Decidable fails] {e e' : ConfigError} :
    e' ∈ faultIf fails e ↔ fails ∧ e' = e := by
  unfold faultIf
  split <;> simp_all

theorem IceEndpoint.ofText_ne_missingCredentials (text url : String) :
    ofText text ≠ .error (.turnServerMissingCredentials url) := by
  unfold ofText
  split
  · simp
  · split <;> simp

theorem missingCredentials_notMem_urlFaults (text url : String) :
    .turnServerMissingCredentials url ∉ urlFaults text := by
  unfold urlFaults
  split
  · simp
  · next e he =>
    rw [List.mem_singleton]
    rintro rfl
    exact IceEndpoint.ofText_ne_missingCredentials _ _ he

namespace IceServer

variable {s : IceServer} {url : String}

theorem url_of_endpoint_eq_error {given : String}
    (h : s.endpoint given = .error (.turnServerMissingCredentials url)) : given = url := by
  unfold endpoint at h
  split at h
  · next e he =>
    rw [Except.error.inj h] at he
    exact absurd he (IceEndpoint.ofText_ne_missingCredentials _ _)
  · split at h
    · simpa using h
    · cases h

/-- The URL without user name and credential is one of the server. -/
theorem mem_urls_of_endpoints_eq_error
    (h : s.endpoints = .error (.turnServerMissingCredentials url)) : url ∈ s.urls := by
  obtain ⟨given, hgiven, hfails⟩ := exists_of_mapM_eq_error h
  exact url_of_endpoint_eq_error hfails ▸ hgiven

theorem isOneLine_bracketIpv6 (host : String) :
    isOneLine (bracketIpv6 host) = isOneLine host := by
  have hopen : isOneLine "[" := by decide +kernel
  have hclose : isOneLine "]" := by decide +kernel
  unfold bracketIpv6
  split
  · simp [hopen, hclose]
  · rfl

end IceServer

/-! ## TURN servers -/

namespace TurnServer

/-- The URL is the host between texts that are always one line. -/
theorem isOneLine_url (t : TurnServer) (scheme : IceScheme) (transport : IceTransport) :
    isOneLine (t.url scheme transport) = isOneLine t.host := by
  have hscheme : isOneLine scheme.text := by cases scheme <;> decide +kernel
  have htransport : isOneLine transport.text := by cases transport <;> decide +kernel
  have hcolon : isOneLine ":" := by decide +kernel
  have hquery : isOneLine "?transport=" := by decide +kernel
  simp [url, hscheme, htransport, hcolon, hquery, IceServer.isOneLine_bracketIpv6]

theorem url_of_mem_faults {t : TurnServer} {url : String}
    (h : .turnServerMissingCredentials url ∈ t.faults) : url = t.url t.scheme t.transport := by
  rw [faults, endpointFaults, List.mem_append, List.mem_append, List.mem_append] at h
  rcases h with ((hhost | hprotocol) | hurl) | hcredentials
  · simp [mem_faultIf] at hhost
  · simp [mem_faultIf] at hprotocol
  · exact absurd hurl (missingCredentials_notMem_urlFaults _ _)
  · simpa using (mem_faultIf.mp hcredentials).2

end TurnServer

/-- Of all checks only the last one of a TURN server asks for user name and credential. -/
theorem TransportSettings.exists_turnServer_of_mem_faults {s : TransportSettings} {url : String}
    (h : .turnServerMissingCredentials url ∈ s.faults) :
    ∃ t ∈ s.turnServers, url = t.url t.scheme t.transport := by
  have hentries (entries : List String) :
      .turnServerMissingCredentials url ∉ entries.flatMap entryFaults := by
    simp [entryFaults, mem_faultIf]
  have hrange (r : PortRange) : .turnServerMissingCredentials url ∉ r.faults ∧
      .turnServerMissingCredentials url ∉ r.udpFaults := by
    simp [PortRange.faults, PortRange.udpFaults, mem_faultIf]
  simp only [faults, List.mem_append] at h
  rcases h with hnode | hports | hfilter | hstun | hturn
  · simp [nodeFaults, mem_faultIf] at hnode
  · unfold portFaults at hports
    split at hports
    · exact absurd hports (hrange _).1
    · exact absurd hports (hrange _).2
  · rcases List.mem_append.mp hfilter with hincludes | hexcludes
    · exact absurd hincludes (hentries _)
    · exact absurd hexcludes (hentries _)
  · obtain ⟨stun, -, hurl⟩ := List.mem_flatMap.mp hstun
    exact absurd hurl (missingCredentials_notMem_urlFaults _ _)
  · obtain ⟨t, ht, hfault⟩ := List.mem_flatMap.mp hturn
    exact ⟨t, ht, TurnServer.url_of_mem_faults hfault⟩

/-! ## Configurations -/

namespace CapabilityConfig

variable {s : RtcSettings} {e : ConfigError}

theorem build_eq_error_iff : build s = .error e ↔ s.transport.faults.head? = some e := by
  have hreports : Reports (TransportConfig.build s.transport s.development) s.transport.faults :=
    (s.transport.config_reports s.development).map _
  rw [← hreports.eq_error_iff]
  cases hbase : TransportConfig.build s.transport s.development with
  | error e' => simp [build_of_error hbase]
  | ok base =>
    obtain ⟨c, hc, -⟩ := build_of_ok hbase
    simp [hc]

theorem isOneLine_message_of_build (h : build s = .error e) :
    isOneLine e.message ↔ ∀ t ∈ s.transport.turnServers,
      e = .turnServerMissingCredentials (t.url t.scheme t.transport) → isOneLine t.host := by
  rw [ConfigError.isOneLine_message_iff]
  constructor
  · intro hurl t _ ht
    rw [← t.isOneLine_url t.scheme t.transport]
    exact hurl _ ht
  · rintro hhost url rfl
    obtain ⟨t, ht, rfl⟩ := TransportSettings.exists_turnServer_of_mem_faults
      (List.mem_of_head? (build_eq_error_iff.mp h))
    rw [t.isOneLine_url]
    exact hhost t ht rfl

end CapabilityConfig

theorem IceServer.isOneLine_message_of_endpoints {s : IceServer} {e : ConfigError}
    (h : s.endpoints = .error e) :
    isOneLine e.message ↔
      ∀ url ∈ s.urls, e = .turnServerMissingCredentials url → isOneLine url := by
  rw [ConfigError.isOneLine_message_iff]
  constructor
  · exact fun hurl url _ he => hurl url he
  · rintro hurl url rfl
    exact hurl url (mem_urls_of_endpoints_eq_error h) rfl

/-- The message of a rejection is one line, unless it asks for user name and credential of a TURN
server whose host, or whose URL among those of an ICE server, has a control character. -/
theorem rejections_oneLine (s : RtcSettings) (server : IceServer) (e : ConfigError) :
    (CapabilityConfig.build s = .error e →
      (isOneLine e.message ↔ ∀ t ∈ s.transport.turnServers,
        e = .turnServerMissingCredentials (t.url t.scheme t.transport) → isOneLine t.host)) ∧
      (server.endpoints = .error e →
        (isOneLine e.message ↔
          ∀ url ∈ server.urls, e = .turnServerMissingCredentials url → isOneLine url)) :=
  ⟨CapabilityConfig.isOneLine_message_of_build, IceServer.isOneLine_message_of_endpoints⟩

/-- A node address that is two lines, and no host for a TURN server. -/
def brokenAddress : RtcSettings where
  transport.nodeIp := "192.0.2.1\nnode"
  transport.turnServers := [{ protocol := "tls" }]

/-- An ICE server with a user name but without credential. -/
def userOnly : IceServer := ⟨["turn:192.0.2.1"], "user", ""⟩

theorem rejections_oneLine_brokenAddress :
    CapabilityConfig.build brokenAddress = .error (.invalidNodeIp "192.0.2.1\nnode") ∧
      isOneLine (ConfigError.invalidNodeIp "192.0.2.1\nnode").message ∧
      userOnly.endpoints = .error (.turnServerMissingCredentials "turn:192.0.2.1") ∧
      isOneLine (ConfigError.turnServerMissingCredentials "turn:192.0.2.1").message := by
  have hbuild : CapabilityConfig.build brokenAddress =
      .error (.invalidNodeIp "192.0.2.1\nnode") :=
    CapabilityConfig.build_eq_error_iff.mpr (by decide +kernel)
  have hendpoints : userOnly.endpoints =
      .error (.turnServerMissingCredentials "turn:192.0.2.1") := by decide +kernel
  refine ⟨hbuild, ?_, hendpoints, ?_⟩
  · rw [(rejections_oneLine brokenAddress userOnly _).1 hbuild]
    simp
  · rw [(rejections_oneLine brokenAddress userOnly _).2 hendpoints]
    intro url hurl _
    rw [List.mem_singleton.mp hurl]
    decide +kernel

/-- A TURN server whose host is broken into two lines, without user name and credential. -/
def brokenHost : RtcSettings where
  transport.turnServers := [{ host := "turn.example.org\nturn", port := 5000 }]

/-- The host passes as that of a URL, and the message has its line end. -/
theorem not_oneLine_brokenHost :
    CapabilityConfig.build brokenHost = .error (.turnServerMissingCredentials
      "turn:turn.example.org\nturn:5000?transport=udp") ∧
      (ConfigError.turnServerMissingCredentials
        "turn:turn.example.org\nturn:5000?transport=udp").message =
          "rtc config: turn server turn:turn.example.org\n" ++
            "turn:5000?transport=udp requires username and credential" ∧
      ¬isOneLine (ConfigError.turnServerMissingCredentials
        "turn:turn.example.org\nturn:5000?transport=udp").message := by
  refine ⟨CapabilityConfig.build_eq_error_iff.mpr (by decide +kernel), ?_, ?_⟩
  · decide +kernel
  · rw [ConfigError.isOneLine_message_missingCredentials]
    decide +kernel

end RtcConfig
