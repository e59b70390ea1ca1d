import RtcConfig.Capability.Basic
import RtcConfig.Proofs.Transport.Config

/-! # What a configuration is assembled from

A capability configuration is the transport configuration of the same settings under the policy of
the server, beside parts that come from the settings directly. It fails where the transport
configuration fails, and only a construction that succeeds leaves records.
-/

namespace RtcConfig

/-! ## Constructions and their log -/

/-- A construction that may fail, on a log to which it adds records on the way. -/
abbrev Construction := ExceptT ConfigError (StateM (List LogRecord))

def Construction.emit (r : LogRecord) : Construction Unit := modify (· ++ [r])

def TransportConfig.construct (s : TransportSettings) (development : Bool) :
    Construction TransportConfig := do
  let c ← liftExcept (s.config development)
  Construction.emit c.record
  return c

theorem TransportConfig.construct_run (s : TransportSettings) (development : Bool)
    (log : List LogRecord) :
    (construct s development).run.run log = match build s development with
      | .error e => (.error e, log)
      | .ok built => (.ok built.value, log ++ built.records) := by
  unfold construct build
  cases s.config development <;> rfl

/-- The settings by which the server applies its policy. -/
def Engine.policy : List EngineSetting := [
  .disableActiveTcp true,
  .relayWait (some relayWait),
  .prflxWait (some .zero),
  .srflxWait (some .zero),
  .networkTypes [.udp4, .tcp4],
  .zeroChecksum true]

theorem Engine.foldl_policy (e : Engine) : policy.foldl set e = e.withPolicy := rfl

namespace CapabilityConfig

/-- Building a configuration step by step. -/
def construct (s : RtcSettings) : Construction CapabilityConfig := do
  let base ← TransportConfig.construct s.transport s.development
  let engine := Engine.policy.foldl Engine.set base.engine
  Construction.emit engine.policyRecord
  Construction.emit (sizingRecord s.sizing)
  Construction.emit (builtRecord s.strictAcks s.strategy)
  return {
    publisher := .publisher
    subscriber := .subscriber s.strictAcks s.strategy
    receiver := s.sizing
    transport := { base with engine := engine }
    congestion := s.congestion
    bufferFactory := none }

/-- A construction step by step gives what is built at once, and adds its records to the log if it
succeeds. -/
theorem construct_run (s : RtcSettings) (log : List LogRecord) :
    (construct s).run.run log = match build s with
      | .error e => (.error e, log)
      | .ok built => (.ok built.value, log ++ built.records) := by
  unfold construct TransportConfig.construct build TransportConfig.build
  cases s.transport.config s.development with
  | error e => rfl
  | ok base =>
    -- The transport configuration leaves the first record, and the policy the second one.
    show (Except.ok _, log ++ [_] ++ [_] ++ [_] ++ [_]) = _
    simp only [List.append_assoc, Engine.foldl_policy]
    rfl

end CapabilityConfig

/-! ## The parts of a configuration -/

/-- The engine `e` is the engine `base` but for the fields that the policy decides. -/
structure Engine.UnderPolicy (base e : Engine) : Prop where
  disableActiveTcp : e.candidates.disableActiveTcp = true
  relayWait : e.timeouts.relayWait = some (.ofMillis 500)
  srflxWait : e.timeouts.srflxWait = some (.ofMillis 0)
  prflxWait : e.timeouts.prflxWait = some (.ofMillis 0)
  networkTypes : e.candidates.networkTypes = [.udp4, .tcp4]
  zeroChecksum : e.zeroChecksum = true
  disconnected : e.timeouts.disconnected = base.timeouts.disconnected
  failed : e.timeouts.failed = base.timeouts.failed
  keepalive : e.timeouts.keepalive = base.timeouts.keepalive
  lite : e.candidates.lite = base.candidates.lite
  interfaceFilter : e.candidates.interfaceFilter = base.candidates.interfaceFilter
  ipFilter : e.candidates.ipFilter = base.candidates.ipFilter
  natIps : e.candidates.natIps = base.candidates.natIps
  natType : e.candidates.natType = base.candidates.natType
  mdns : e.candidates.mdns = base.candidates.mdns
  loopback : e.candidates.loopback = base.candidates.loopback
  ports : e.ports = base.ports
  bufferFactory : e.bufferFactory = base.bufferFactory

theorem Engine.withPolicy_underPolicy (base : Engine) : UnderPolicy base base.withPolicy := by
  constructor <;> rfl

/-- A size of its own wins over the common one, and without either there are 500 packets. -/
def BufferSizing.sizeOf (common own : UInt64) : UInt64 :=
  if own ≠ 0 then own else if common ≠ 0 then common else 500

theorem BufferSizing.resolve_eq (common audio video : UInt64) :
    resolve common audio video = ⟨sizeOf common audio, sizeOf common video⟩ := by
  simp [resolve, sizeOf, standard]

theorem BufferSizing.sizeOf_pos (common own : UInt64) : 0 < sizeOf common own := by
  unfold sizeOf
  split
  · next h => exact UInt64.pos_iff_ne_zero.mpr h
  · split
    · next h => exact UInt64.pos_iff_ne_zero.mpr h
    · decide

namespace MediaProfile

/-- The profile ends with what the strategy needs and holds nothing of the other one. -/
structure EndsWith (p : MediaProfile) (s : CongestionStrategy) : Prop where
  extension : p.extensions.getLast? = some s.extension
  feedback : p.feedback.getLast? = some s.feedback
  noOtherExtension : s.other.extension ∉ p.extensions
  noOtherFeedback : s.other.feedback ∉ p.feedback

end MediaProfile

namespace CapabilityConfig

/-- Where each part of a configuration comes from: the transport configuration, or the settings. -/
structure Assembles (s : RtcSettings) (base : TransportConfig) (c : CapabilityConfig) : Prop where
  iceServers : c.transport.iceServers = base.iceServers
  engine : Engine.UnderPolicy base.engine c.engine
  publisher : c.publisher = .publisher
  subscriber : c.subscriber = .subscriber s.strictAcks (.ofSendSide s.congestion.useSendSide)
  strictAcks : c.subscriber.strictAcks = s.strictAcks
  video : c.subscriber.video.EndsWith (.ofSendSide s.congestion.useSendSide)
  audioBuffer : c.receiver.audio = BufferSizing.sizeOf s.bufferSize s.audioBufferSize
  videoBuffer : c.receiver.video = BufferSizing.sizeOf s.bufferSize s.videoBufferSize
  audioBuffer_pos : 0 < c.receiver.audio
  videoBuffer_pos : 0 < c.receiver.video
  congestion : c.congestion = s.congestion
  noFactory : c.bufferFactory = none
  noEngineFactory : c.engine.bufferFactory = none

/-- The records that follow the one of the transport configuration. -/
def policyRecords (s : RtcSettings) (c : CapabilityConfig) : List LogRecord := [
  ⟨.debug, "transport policy applied: network_types=[Udp4, Tcp4] relay_min_wait=500ms"⟩,
  ⟨.debug, "packet buffer sizes: audio=" ++ toString c.receiver.audio.toNat ++
    " video=" ++ toString c.receiver.video.toNat⟩,
  ⟨.info, "capability config built: subscriber strict_acks=" ++
    (if s.strictAcks then "true" else "false") ++ " congestion_control=" ++
    (if s.congestion.useSendSide then "send-side" else "receiver-side")⟩]

theorem policyRecord_withPolicy (e : Engine) : e.withPolicy.policyRecord =
    ⟨.debug, "transport policy applied: network_types=[Udp4, Tcp4] relay_min_wait=500ms"⟩ := by
  have htext : "transport policy applied: network_types=" ++
      Text.outlineList ([NetworkType.udp4, .tcp4].map NetworkType.name) ++
      " relay_min_wait=" ++ Engine.relayWait.text =
        "transport policy applied: network_types=[Udp4, Tcp4] relay_min_wait=500ms" := by
    decide +kernel
  exact congrArg (LogRecord.mk .debug) htext

theorem builtRecord_eq (strictAcks sendSide : Bool) :
    builtRecord strictAcks (.ofSendSide sendSide) =
      ⟨.info, "capability config built: subscriber strict_acks=" ++
        (if strictAcks then "true" else "false") ++ " congestion_control=" ++
        (if sendSide then "send-side" else "receiver-side")⟩ := by
  cases strictAcks <;> cases sendSide <;> rfl

theorem video_subscriber (strictAcks : Bool) (s : CongestionStrategy) :
    (DirectionProfile.subscriber strictAcks s).video.EndsWith s := by
  cases strictAcks <;> cases s <;> constructor <;> decide

/-- The transport configuration of settings has no buffer factory. -/
theorem bufferFactory_of_build {s : TransportSettings} {development : Bool}
    {base : Logged TransportConfig} (h : TransportConfig.build s development = .ok base) :
    base.value.engine.bufferFactory = none := by
  obtain ⟨c, hc, rfl⟩ := map_eq_ok h
  exact congrArg Engine.bufferFactory (TransportSettings.engine_of_config hc)

theorem build_of_error {s : RtcSettings} {e : ConfigError}
    (h : TransportConfig.build s.transport s.development = .error e) : build s = .error e := by
  rw [build, h]
  rfl

theorem build_of_ok {s : RtcSettings} {base : Logged TransportConfig}
    (h : TransportConfig.build s.transport s.development = .ok base) :
    ∃ c, build s = .ok c ∧ Assembles s base.value c.value ∧
      c.records = base.records ++ policyRecords s c.value := by
  have hsizes := BufferSizing.resolve_eq s.bufferSize s.audioBufferSize s.videoBufferSize
  rw [build, h]
  refine ⟨_, rfl, ?assembles, ?records⟩
  case records =>
    show base.records ++ [base.value.engine.withPolicy.policyRecord, sizingRecord s.sizing,
      builtRecord s.strictAcks (.ofSendSide s.congestion.useSendSide)] = _
    rw [policyRecord_withPolicy, builtRecord_eq]
    rfl
  constructor
  case engine => exact base.value.engine.withPolicy_underPolicy
  case video => exact video_subscriber s.strictAcks s.strategy
  case noEngineFactory => exact bufferFactory_of_build h
  case audioBuffer => exact congrArg BufferSizing.audio hsizes
  case videoBuffer => exact congrArg BufferSizing.video hsizes
  case audioBuffer_pos =>
    show 0 < (BufferSizing.resolve _ _ _).audio
    rw [hsizes]
    exact BufferSizing.sizeOf_pos _ _
  case videoBuffer_pos =>
    show 0 < (BufferSizing.resolve _ _ _).video
    rw [hsizes]
    exact BufferSizing.sizeOf_pos _ _
  all_goals rfl

/-- A configuration is built exactly when the transport configuration is, with the same error and no
record otherwise. Each of its parts comes from the transport configuration or from the settings. -/
theorem build_assembles (s : RtcSettings) (log : List LogRecord) :
    ((∃ c, build s = .ok c) ↔
        ∃ base, TransportConfig.build s.transport s.development = .ok base) ∧
      (∀ e, build s = .error e ↔
        TransportConfig.build s.transport s.development = .error e) ∧
      (∀ e, build s = .error e → (construct s).run.run log = (.error e, log)) ∧
      ∀ base, TransportConfig.build s.transport s.development = .ok base →
        ∃ c, build s = .ok c ∧ Assembles s base.value c.value ∧
          c.records = base.records ++ policyRecords s c.value ∧
          (construct s).run.run log = (.ok c.value, log ++ c.records) := by
  cases hbase : TransportConfig.build s.transport s.development with
  | error e =>
    have hbuild := build_of_error hbase
    simp [hbuild, construct_run]
  | ok base =>
    obtain ⟨c, hbuild, hassembles, hrecords⟩ := build_of_ok hbase
    simp [hbuild, construct_run, hassembles, hrecords]

/-- A size of its own for audio, and a strategy that is not the default one. -/
def sendSideSettings : RtcSettings where
  transport.udpPort := ⟨7882, 0⟩
  audioBufferSize := 300
  strictAcks := true
  congestion.useSendSide := true

/-- Settings with an address that is none. -/
def noAddressSettings : RtcSettings where
  transport.nodeIp := "node"
  strictAcks := true

theorem build_assembles_sendSide :
    (∃ base c, TransportConfig.build sendSideSettings.transport false = .ok base ∧
      build sendSideSettings = .ok c ∧ Assembles sendSideSettings base.value c.value ∧
      (construct sendSideSettings).run.run [] = (.ok c.value, c.records)) ∧
    build noAddressSettings = .error (.invalidNodeIp "node") ∧
      (construct noAddressSettings).run.run [] = (.error (.invalidNodeIp "node"), []) := by
  obtain ⟨base, hbase⟩ :
      ∃ base, TransportConfig.build sendSideSettings.transport false = .ok base :=
    exists_ok_of_isSome (by decide +kernel)
  obtain ⟨-, -, -, hok⟩ := build_assembles sendSideSettings []
  obtain ⟨c, hc, hassembles, -, hconstruct⟩ := hok base hbase
  obtain ⟨-, herror, hnone, -⟩ := build_assembles noAddressSettings []
  have hfails : build noAddressSettings = .error (.invalidNodeIp "node") := by
    rw [herror]
    rfl
  exact ⟨⟨base, c, hbase, hc, hassembles, hconstruct⟩, hfails, hnone _ hfails⟩

end CapabilityConfig

end RtcConfig
