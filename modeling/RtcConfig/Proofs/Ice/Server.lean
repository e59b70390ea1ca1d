import RtcConfig.Ice.Server
import RtcConfig.Proofs.Report

/-! # URLs of an ICE server

The URLs of a server are checked one by one in order. A URL is refused if it names no endpoint, or
if it names one of TURN and the server has no user name or no credential. Either every URL gives its
endpoint, or the first URL that is refused gives the error, so a list of URLs can be checked in
parts. User name and credential matter only in whether they are given, and only to TURN.
-/

namespace RtcConfig.IceServer

def NamesTurn (url : String) : Prop :=
  ∃ e, IceEndpoint.ofText url = .ok e ∧ (e.scheme = .turn ∨ e.scheme = .turns)

/-- Why a server refuses one of its URLs. -/
inductive Refuses (s : IceServer) (url : String) : ConfigError → Prop
  | noEndpoint {e : ConfigError} (h : IceEndpoint.ofText url = .error e) : Refuses s url e
  | noCredentials (hturn : NamesTurn url) (hempty : s.username = "" ∨ s.credential = "") :
    Refuses s url (.turnServerMissingCredentials url)

variable {s t : IceServer} {url : String}

/-! ## One URL -/

theorem hasCredentials_iff : s.hasCredentials ↔ s.username ≠ "" ∧ s.credential ≠ "" := by
  simp [hasCredentials]

theorem needsCredentials_iff {e : IceEndpoint} (h : IceEndpoint.ofText url = .ok e) :
    (e.isTurn && !s.hasCredentials) = true ↔
      NamesTurn url ∧ (s.username = "" ∨ s.credential = "") := by
  have hscheme : e.isTurn ↔ e.scheme = .turn ∨ e.scheme = .turns := by
    rw [IceEndpoint.isTurn]
    cases e.scheme <;> decide
  have hturn : e.isTurn ↔ NamesTurn url := by
    rw [hscheme, NamesTurn]
    simp [h]
  simp [hturn, hasCredentials]

theorem endpoint_eq_error_iff {e : ConfigError} : s.endpoint url = .error e ↔ s.Refuses url e := by
  constructor
  · intro h
    unfold endpoint at h
    split at h
    · next e' hread =>
      obtain rfl := Except.error.inj h
      exact .noEndpoint hread
    · next e' hread =>
      split at h
      · next hneeds =>
        obtain rfl := Except.error.inj h
        obtain ⟨hturn, hempty⟩ := (needsCredentials_iff hread).mp hneeds
        exact .noCredentials hturn hempty
      · cases h
  · rintro (hread | ⟨hturn, hempty⟩)
    · rw [endpoint, hread]
    · obtain ⟨e, hread, -⟩ := id hturn
      have hneeds := (needsCredentials_iff hread).mpr ⟨hturn, hempty⟩
      simp only [endpoint, hread]
      rw [if_pos hneeds]

theorem exists_endpoint_iff : (∃ e, s.endpoint url = .ok e) ↔ ¬∃ e, s.Refuses url e := by
  simp only [← endpoint_eq_error_iff]
  cases s.endpoint url <;> simp

/-- A URL that is not refused gives the endpoint that it names. -/
theorem endpoint_eq_ok_iff {e : IceEndpoint} :
    s.endpoint url = .ok e ↔ (¬∃ e', s.Refuses url e') ∧ IceEndpoint.ofText url = .ok e := by
  simp only [← endpoint_eq_error_iff]
  unfold endpoint
  cases IceEndpoint.ofText url with
  | error e' => simp
  | ok e' => by_cases hneeds : (e'.isTurn && !s.hasCredentials) = true <;> simp [hneeds]

theorem endpoint_congr (h : s.hasCredentials ∧ t.hasCredentials ∨ ¬NamesTurn url) :
    t.endpoint url = s.endpoint url := by
  rcases h with ⟨hs, ht⟩ | hstun
  · rw [endpoint, endpoint, hs, ht]
  · unfold endpoint
    cases hread : IceEndpoint.ofText url with
    | error e => rfl
    | ok e =>
      have hneeds (server : IceServer) : ¬(e.isTurn && !server.hasCredentials) = true :=
        fun hneeds => hstun ((needsCredentials_iff hread).mp hneeds).1
      simp only [hneeds]

/-! ## Lists of URLs -/

theorem endpoints_append (s : IceServer) (xs ys : List String) :
    endpoints { s with urls := xs ++ ys } = do
      let es ← endpoints { s with urls := xs }
      let fs ← endpoints { s with urls := ys }
      return es ++ fs :=
  List.mapM_append

theorem endpoints_eq_ok_iff {es : List IceEndpoint} :
    s.endpoints = .ok es ↔ (∀ url ∈ s.urls, ¬∃ e, s.Refuses url e) ∧
      List.Forall₂ (fun url e => IceEndpoint.ofText url = .ok e) s.urls es := by
  rw [← List.forall₂_and_left]
  simp only [← endpoint_eq_ok_iff]
  exact ⟨mapM_eq_ok, mapM_of_forall₂⟩

theorem exists_endpoints_eq_error_iff :
    (∃ e, s.endpoints = .error e) ↔ ∃ url ∈ s.urls, ∃ e, s.Refuses url e := by
  have hok : (∃ es, s.endpoints = .ok es) ↔ ∀ url ∈ s.urls, ¬∃ e, s.Refuses url e := by
    simp only [← exists_endpoint_iff]
    exact exists_mapM_eq_ok_iff
  have herror : (∃ e, s.endpoints = .error e) ↔ ¬∃ es, s.endpoints = .ok es := by
    cases s.endpoints <;> simp
  rw [herror, hok]
  push Not
  rfl

theorem endpoints_eq_error_iff {e : ConfigError} :
    s.endpoints = .error e ↔ ∃ before url after, s.urls = before ++ url :: after ∧
      (∀ u ∈ before, ¬∃ e', s.Refuses u e') ∧ s.Refuses url e := by
  rw [endpoints, mapM_eq_error_iff]
  simp only [exists_mapM_eq_ok_iff, exists_endpoint_iff, endpoint_eq_error_iff]

theorem endpoints_congr (hurls : t.urls = s.urls)
    (h : s.hasCredentials ∧ t.hasCredentials ∨ ∀ url ∈ s.urls, ¬NamesTurn url) :
    t.endpoints = s.endpoints := by
  have hsame : ∀ url ∈ s.urls, t.endpoint url = s.endpoint url :=
    fun url hurl => endpoint_congr (h.imp_right fun hstun => hstun url hurl)
  rw [endpoints, endpoints, hurls]
  exact mapM_congr_forall₂ (List.forall₂_same.mpr hsame)

/-- The URLs of a server are checked in order up to the first one that is refused. Other credentials
make no difference if both are given in either case, or if no URL names TURN. -/
theorem endpoints_inOrder (s : IceServer) :
    (∀ xs ys, endpoints { s with urls := xs ++ ys } = do
      let es ← endpoints { s with urls := xs }
      let fs ← endpoints { s with urls := ys }
      return es ++ fs) ∧
    (∀ es, s.endpoints = .ok es ↔ (∀ url ∈ s.urls, ¬∃ e, s.Refuses url e) ∧
      List.Forall₂ (fun url e => IceEndpoint.ofText url = .ok e) s.urls es) ∧
    ((∃ e, s.endpoints = .error e) ↔ ∃ url ∈ s.urls, ∃ e, s.Refuses url e) ∧
    (∀ e, s.endpoints = .error e ↔ ∃ before url after, s.urls = before ++ url :: after ∧
      (∀ u ∈ before, ¬∃ e', s.Refuses u e') ∧ s.Refuses url e) ∧
    ∀ t : IceServer, t.urls = s.urls →
      (s.username ≠ "" ∧ s.credential ≠ "") ∧ t.username ≠ "" ∧ t.credential ≠ "" ∨
        (∀ url ∈ s.urls, ¬NamesTurn url) →
      t.endpoints = s.endpoints := by
  refine ⟨endpoints_append s, fun es => endpoints_eq_ok_iff, exists_endpoints_eq_error_iff,
    fun e => endpoints_eq_error_iff, fun t hurls h => endpoints_congr hurls ?_⟩
  rw [hasCredentials_iff, hasCredentials_iff]
  exact h

/-- A server without credentials, with a URL of TURN between one of STUN and one of the web. -/
def mixed : IceServer :=
  ⟨["stun:stun.example.org", "turn:turn.example.org", "http://stun.example.org"], "", ""⟩

theorem endpoints_inOrder_mixed :
    mixed.endpoints = .error (.turnServerMissingCredentials "turn:turn.example.org") ∧
      endpoints { mixed with username := "user", credential := "secret" } =
        .error (.invalidIceServerUrl "http://stun.example.org") ∧
      endpoints ⟨["stun:stun.example.org"], "user", ""⟩ =
        endpoints { mixed with urls := ["stun:stun.example.org"] } := by
  obtain ⟨-, -, -, herror, -⟩ := endpoints_inOrder mixed
  obtain ⟨-, -, -, hwebError, -⟩ :=
    endpoints_inOrder { mixed with username := "user", credential := "secret" }
  obtain ⟨-, -, -, -, hcongr⟩ := endpoints_inOrder { mixed with urls := ["stun:stun.example.org"] }
  have hstun : IceEndpoint.ofText "stun:stun.example.org" =
      .ok ⟨.stun, "stun.example.org", 3478, none⟩ := rfl
  have hturn : NamesTurn "turn:turn.example.org" :=
    ⟨⟨.turn, "turn.example.org", 3478, none⟩, rfl, .inl rfl⟩
  have hnotTurn : ¬NamesTurn "stun:stun.example.org" := by
    rintro ⟨e, he, hscheme⟩
    rw [hstun] at he
    obtain rfl := Except.ok.inj he
    simp at hscheme
  refine ⟨?_, ?_, ?_⟩
  · refine (herror _).mpr
      ⟨["stun:stun.example.org"], _, _, rfl, ?_, .noCredentials hturn (.inl rfl)⟩
    exact List.forall_mem_singleton.mpr (exists_endpoint_iff.mp ⟨_, rfl⟩)
  · refine (hwebError _).mpr
      ⟨["stun:stun.example.org", "turn:turn.example.org"], _, [], rfl, ?_, .noEndpoint rfl⟩
    rw [List.forall_mem_cons, List.forall_mem_singleton]
    exact ⟨exists_endpoint_iff.mp ⟨_, rfl⟩, exists_endpoint_iff.mp ⟨_, rfl⟩⟩
  · exact hcongr ⟨["stun:stun.example.org"], "user", ""⟩ rfl
      (.inr (List.forall_mem_singleton.mpr hnotTurn))

end RtcConfig.IceServer
