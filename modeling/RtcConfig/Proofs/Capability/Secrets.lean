import RtcConfig.Proofs.Alike
import RtcConfig.Proofs.Capability.Assembly
import RtcConfig.Proofs.Transport.TurnUrl

/-! # Secrets of TURN servers

User names and credentials go from the settings into the ICE servers and nowhere else. Settings that
differ only in these texts, but not in which of them are empty, are rejected with the same error or
give configurations that differ only in the same texts, and the records that are left are the same.
-/

namespace RtcConfig

/-! ## Settings and configurations without their secrets -/

structure TurnServer.SameButSecrets (t t' : TurnServer) : Prop where
  host : t'.host = t.host
  port : t'.port = t.port
  protocol : t'.protocol = t.protocol
  username : t'.username = "" ↔ t.username = ""
  credential : t'.credential = "" ↔ t.credential = ""

structure TransportSettings.SameButSecrets (s s' : TransportSettings) : Prop where
  turnServers : List.Forall₂ TurnServer.SameButSecrets s.turnServers s'.turnServers
  rest : s' = { s with turnServers := s'.turnServers }

structure RtcSettings.SameButSecrets (s s' : RtcSettings) : Prop where
  transport : s.transport.SameButSecrets s'.transport
  rest : s' = { s with transport := s'.transport }

structure IceServer.SameButSecrets (server server' : IceServer) : Prop where
  urls : server'.urls = server.urls
  username : server'.username = "" ↔ server.username = ""
  credential : server'.credential = "" ↔ server.credential = ""

structure TransportConfig.SameButSecrets (c c' : TransportConfig) : Prop where
  engine : c'.engine = c.engine
  iceServers : List.Forall₂ IceServer.SameButSecrets c.iceServers c'.iceServers

structure CapabilityConfig.SameButSecrets (c c' : CapabilityConfig) : Prop where
  transport : c.transport.SameButSecrets c'.transport
  rest : c' = { c with transport := c'.transport }

/-- The same records beside values in relation. -/
structure Logged.Alike {α : Type} (R : α → α → Prop) (x x' : Logged α) : Prop where
  value : R x.value x'.value
  records : x'.records = x.records

/-! ## Records -/

/-- The records that come with a result, of which an error has none. -/
def Logged.recordsOf {α : Type} : Except ConfigError (Logged α) → List LogRecord
  | .error _ => []
  | .ok built => built.records

theorem Alike.recordsOf {α : Type} {R : α → α → Prop} {r r' : Except ConfigError (Logged α)}
    (h : Alike (Logged.Alike R) r r') : Logged.recordsOf r' = Logged.recordsOf r := by
  cases h with
  | error e => rfl
  | ok hbuilt => exact hbuilt.records

theorem TransportConfig.log_construct (s : TransportSettings) (development : Bool)
    (log : List LogRecord) :
    ((construct s development).run.run log).2 = log ++ Logged.recordsOf (build s development) := by
  rw [construct_run]
  cases build s development with
  | error e => exact (List.append_nil log).symm
  | ok built => rfl

theorem CapabilityConfig.log_construct (s : RtcSettings) (log : List LogRecord) :
    ((construct s).run.run log).2 = log ++ Logged.recordsOf (build s) := by
  rw [construct_run]
  cases build s with
  | error e => exact (List.append_nil log).symm
  | ok built => rfl

/-! ## Servers -/

namespace IceServer

variable {server server' : IceServer}

theorem SameButSecrets.refl (server : IceServer) : server.SameButSecrets server :=
  ⟨rfl, Iff.rfl, Iff.rfl⟩

theorem SameButSecrets.hasCredentials (h : server.SameButSecrets server') :
    server'.hasCredentials = server.hasCredentials := by
  apply Bool.eq_iff_iff.mpr
  simp [IceServer.hasCredentials, h.username, h.credential]

theorem SameButSecrets.endpoints (h : server.SameButSecrets server') :
    server'.endpoints = server.endpoints := by
  have hone : server'.endpoint = server.endpoint := by
    funext url
    rw [endpoint, endpoint, h.hasCredentials]
  rw [IceServer.endpoints, IceServer.endpoints, hone, h.urls]

theorem SameButSecrets.validated (h : server.SameButSecrets server') :
    Alike SameButSecrets server.validated server'.validated := by
  rw [validated_eq_map, validated_eq_map, h.endpoints]
  exact (Alike.refl _).map fun _ _ _ => h

end IceServer

namespace TurnServer

variable {t t' : TurnServer}

theorem SameButSecrets.iceServer (h : t.SameButSecrets t') :
    Alike IceServer.SameButSecrets t.iceServer t'.iceServer := by
  have hservice : t'.service? = t.service? := by
    rw [service?, service?, h.protocol]
  have hurl : t'.url = t.url := by
    funext scheme transport
    rw [url, url, h.host, h.port]
  rw [TurnServer.iceServer, TurnServer.iceServer, h.host, hservice, h.protocol, hurl]
  split
  · exact .error _
  · cases t.service? with
    | none => exact .error _
    | some service => exact .ok ⟨rfl, h.username, h.credential⟩

end TurnServer

/-! ## Configurations -/

namespace TransportSettings

variable {s s' : TransportSettings}

theorem SameButSecrets.iceServers (h : s.SameButSecrets s') :
    Alike (List.Forall₂ IceServer.SameButSecrets) s.iceServers s'.iceServers := by
  have hturn : Alike (List.Forall₂ IceServer.SameButSecrets) s.turnIceServers s'.turnIceServers :=
    Alike.mapM h.turnServers fun t t' ht => ht.iceServer.bind fun _ _ hserver => hserver.validated
  have hstun : s'.stunIceServers = s.stunIceServers := by
    rw [h.rest]
    rfl
  rw [TransportSettings.iceServers, TransportSettings.iceServers, hstun]
  refine Alike.bind_same s.stunIceServers fun stun => hturn.bind fun turn turn' hservers => ?_
  have hshared : List.Forall₂ IceServer.SameButSecrets stun stun :=
    List.forall₂_same.mpr fun server _ => .refl server
  exact .ok (List.rel_append hshared hservers)

/-- No check but the one of the ICE servers reads the TURN entries. -/
theorem SameButSecrets.config (h : s.SameButSecrets s') (development : Bool) :
    Alike TransportConfig.SameButSecrets (s.config development) (s'.config development) := by
  have hservers := h.iceServers
  rw [h.rest] at hservers ⊢
  refine Alike.bind_same s.natIps fun natIps => ?_
  refine Alike.bind_same s.ports fun ports => ?_
  refine Alike.bind_same s.ipFilter fun ipFilter => ?_
  exact hservers.bind fun _ _ hsame => .ok ⟨rfl, hsame⟩

end TransportSettings

namespace TransportConfig

theorem SameButSecrets.record {c c' : TransportConfig} (h : c.SameButSecrets c') :
    c'.record = c.record := by
  rw [TransportConfig.record, TransportConfig.record, h.engine, h.iceServers.length_eq]

theorem build_alike {s s' : TransportSettings} (h : s.SameButSecrets s') (development : Bool) :
    Alike (Logged.Alike SameButSecrets) (build s development) (build s' development) :=
  (h.config development).map fun _ _ hc => ⟨hc, congrArg (fun r => [r]) hc.record⟩

end TransportConfig

namespace CapabilityConfig

/-- A capability configuration takes engine and servers from its transport configuration, and only
the engine shows in its records. -/
theorem build_alike {s s' : RtcSettings} (h : s.SameButSecrets s') :
    Alike (Logged.Alike SameButSecrets) (build s) (build s') := by
  have htransport := TransportConfig.build_alike h.transport s.development
  rw [h.rest]
  refine htransport.bind fun base base' hbase => .ok ⟨⟨⟨?engine, ?iceServers⟩, rfl⟩, ?records⟩
  case engine => exact congrArg Engine.withPolicy hbase.value.engine
  case iceServers => exact hbase.value.iceServers
  case records =>
    show base'.records ++ base'.value.engine.withPolicy.policyRecord :: _ =
      base.records ++ base.value.engine.withPolicy.policyRecord :: _
    rw [hbase.records, hbase.value.engine]
    rfl

/-- Settings that differ only in user names and credentials, of which the same ones are empty, are
rejected with the same error or give configurations that differ only in user names and credentials.
The log is the same in either case. -/
theorem build_sameButSecrets :
    (∀ s s' : RtcSettings, s.SameButSecrets s' →
      Alike (Logged.Alike SameButSecrets) (build s) (build s') ∧
        ∀ log, ((construct s).run.run log).2 = ((construct s').run.run log).2) ∧
    ∀ s s' : TransportSettings, s.SameButSecrets s' → ∀ development,
      Alike (Logged.Alike TransportConfig.SameButSecrets)
          (TransportConfig.build s development) (TransportConfig.build s' development) ∧
        ∀ log, ((TransportConfig.construct s development).run.run log).2 =
          ((TransportConfig.construct s' development).run.run log).2 := by
  constructor
  · intro s s' h
    have hbuild := build_alike h
    refine ⟨hbuild, fun log => ?_⟩
    rw [log_construct, log_construct, hbuild.recordsOf]
  · intro s s' h development
    have hbuild := TransportConfig.build_alike h development
    refine ⟨hbuild, fun log => ?_⟩
    rw [TransportConfig.log_construct, TransportConfig.log_construct, hbuild.recordsOf]

/-- A STUN server beside a TURN server with the given secrets. -/
def secretSettings (username credential : String) : RtcSettings where
  transport.stunServers := ["stun.example.org"]
  transport.turnServers := [⟨"turn.example.org", 443, "tls", username, credential⟩]

theorem build_sameButSecrets_turn :
    (secretSettings "user" "secret").SameButSecrets (secretSettings "alice" "other") ∧
      (∃ c c', build (secretSettings "user" "secret") = .ok c ∧
        build (secretSettings "alice" "other") = .ok c' ∧ c.value.SameButSecrets c'.value ∧
        c'.records = c.records) ∧
    (secretSettings "user" "").SameButSecrets (secretSettings "alice" "") ∧
      build (secretSettings "user" "") =
        .error (.turnServerMissingCredentials "turns:turn.example.org:443?transport=tcp") ∧
      build (secretSettings "alice" "") =
        .error (.turnServerMissingCredentials "turns:turn.example.org:443?transport=tcp") := by
  obtain ⟨halike, -⟩ := build_sameButSecrets
  have hboth : (secretSettings "user" "secret").SameButSecrets (secretSettings "alice" "other") :=
    ⟨⟨.cons ⟨rfl, rfl, rfl, by decide, by decide⟩ .nil, rfl⟩, rfl⟩
  have hnone : (secretSettings "user" "").SameButSecrets (secretSettings "alice" "") :=
    ⟨⟨.cons ⟨rfl, rfl, rfl, by decide, by decide⟩ .nil, rfl⟩, rfl⟩
  obtain ⟨c, hc⟩ : ∃ c, build (secretSettings "user" "secret") = .ok c :=
    exists_ok_of_isSome (by decide +kernel)
  have herror : (build (secretSettings "user" "")).map (fun _ => ()) =
      .error (.turnServerMissingCredentials "turns:turn.example.org:443?transport=tcp") := by
    decide +kernel
  obtain ⟨c', hc', hsame⟩ := (halike _ _ hboth).1.exists_ok hc
  exact ⟨hboth, ⟨c, c', hc, hc', hsame.value, hsame.records⟩, hnone, map_eq_error herror,
    (halike _ _ hnone).1.eq_error (map_eq_error herror)⟩

end CapabilityConfig

end RtcConfig
