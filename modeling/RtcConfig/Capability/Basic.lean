import RtcConfig.Buffer.Sizing
import RtcConfig.Profile.Basic
import RtcConfig.Transport.Basic

/-! # Capability configuration

The configuration that all connections of a server share: the profiles of both directions, the
buffer sizes and the transport configuration under the policy of the server. A buffer factory
can be attached; the configuration and its engine then hold the same one.
-/

namespace RtcConfig

structure CapabilityConfig where
  publisher : DirectionProfile
  subscriber : DirectionProfile
  receiver : BufferSizing
  transport : TransportConfig
  congestion : CongestionSettings
  bufferFactory : Option FactoryId
  deriving DecidableEq

namespace Engine

def relayWait : Duration := .ofMillis 500

/-- The policy of the server: it never dials out over TCP, gathers IPv4 candidates only and takes
relayed candidates last. -/
def withPolicy (e : Engine) : Engine :=
  { e with
    timeouts := { e.timeouts with
      srflxWait := some .zero, prflxWait := some .zero, relayWait := some relayWait }
    candidates := { e.candidates with disableActiveTcp := true, networkTypes := [.udp4, .tcp4] }
    zeroChecksum := true }

def policyRecord (e : Engine) : LogRecord where
  level := .debug
  text :=
    "transport policy applied: network_types=" ++
    Text.outlineList (e.networkTypes.map NetworkType.name) ++
    " relay_min_wait=" ++ relayWait.text

end Engine

namespace RtcSettings

def strategy (s : RtcSettings) : CongestionStrategy := .ofSendSide s.congestion.useSendSide

def sizing (s : RtcSettings) : BufferSizing :=
  .resolve s.bufferSize s.audioBufferSize s.videoBufferSize

end RtcSettings

namespace CapabilityConfig

def sizingRecord (s : BufferSizing) : LogRecord where
  level := .debug
  text :=
    "packet buffer sizes: audio=" ++ toString s.audio.toNat ++ " video=" ++
    toString s.video.toNat

def builtRecord (strictAcks : Bool) (s : CongestionStrategy) : LogRecord where
  level := .info
  text :=
    "capability config built: subscriber strict_acks=" ++ Text.outlineBool strictAcks ++
    " congestion_control=" ++ s.text

/-- Fails only if the transport configuration does. -/
def build (s : RtcSettings) : Except ConfigError (Logged CapabilityConfig) := do
  let base ← TransportConfig.build s.transport s.development
  let engine := base.value.engine.withPolicy
  let config : CapabilityConfig := {
    publisher := .publisher
    subscriber := .subscriber s.strictAcks s.strategy
    receiver := s.sizing
    transport := { base.value with engine := engine }
    congestion := s.congestion
    bufferFactory := none }
  .ok ⟨config, base.records ++
    [engine.policyRecord, sizingRecord s.sizing, builtRecord s.strictAcks s.strategy]⟩

def engine (c : CapabilityConfig) : Engine := c.transport.engine

/-- Attaches a buffer factory in place of the one before. -/
def attach (c : CapabilityConfig) (f : FactoryId) : Logged CapabilityConfig where
  value :=
    { c with
      transport := { c.transport with engine := c.transport.engine.set (.bufferFactory f) }
      bufferFactory := some f }
  records := match c.bufferFactory with
    | some _ => [⟨.warn, "replacing previously attached buffer factory"⟩]
    | none => [⟨.debug, "buffer factory attached"⟩]

def outline (c : CapabilityConfig) : String :=
  Text.outlineRecord "CapabilityConfig" [
    ("publisher", c.publisher.outline),
    ("subscriber", c.subscriber.outline),
    ("receiver", c.receiver.outline),
    ("transport", c.transport.outline),
    ("congestion_control", c.congestion.outline),
    ("buffer_factory", Text.outlineBool c.bufferFactory.isSome)]

end CapabilityConfig

end RtcConfig
