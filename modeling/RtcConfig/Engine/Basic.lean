import RtcConfig.Address.Network
import RtcConfig.Buffer.Pool
import RtcConfig.Duration
import RtcConfig.Engine.Mode
import RtcConfig.Engine.NetworkType
import RtcConfig.Filter

/-! # The transport engine

What the transport engine of a server is set to: timeouts, candidates, ports, the checksum mode
of data channels and the factory from which connections acquire their packet buffers. A setting
writes the fields that belong to it and leaves all others.
-/

namespace RtcConfig

structure Timeouts where
  disconnected : Option Duration := none
  failed : Option Duration := none
  keepalive : Option Duration := none
  srflxWait : Option Duration := none
  prflxWait : Option Duration := none
  relayWait : Option Duration := none
  deriving DecidableEq

structure Candidates where
  lite : Bool := false
  networkTypes : List NetworkType := []
  interfaceFilter : Option (Filter String) := none
  ipFilter : Option (Filter IpNetwork) := none
  natIps : List String := []
  natType : NatCandidateType := .unspecified
  mdns : MdnsMode := .disabled
  loopback : Bool := false
  disableActiveTcp : Bool := false
  deriving DecidableEq

structure Ports where
  udpMux : Option (UInt16 × UInt16) := none
  ephemeral : Option (UInt16 × UInt16) := none
  tcpMux : Option UInt16 := none
  deriving DecidableEq

structure Engine where
  timeouts : Timeouts := {}
  candidates : Candidates := {}
  ports : Ports := {}
  zeroChecksum : Bool := false
  bufferFactory : Option FactoryId := none
  deriving DecidableEq

inductive EngineSetting where
  | iceTimeouts (disconnected failed keepalive : Option Duration)
  | srflxWait (wait : Option Duration)
  | prflxWait (wait : Option Duration)
  | relayWait (wait : Option Duration)
  | lite (on : Bool)
  | networkTypes (types : List NetworkType)
  | interfaceFilter (filter : Filter String)
  | ipFilter (filter : Filter IpNetwork)
  | natIps (ips : List String) (type : NatCandidateType)
  | mdns (mode : MdnsMode)
  | loopback (on : Bool)
  | disableActiveTcp (on : Bool)
  | udpMux (first last : UInt16)
  | ephemeral (first last : UInt16)
  | tcpMux (port : UInt16)
  | zeroChecksum (on : Bool)
  | bufferFactory (factory : FactoryId)

namespace Engine

def set (e : Engine) : EngineSetting → Engine
  | .iceTimeouts d f k =>
    { e with timeouts := { e.timeouts with disconnected := d, failed := f, keepalive := k } }
  | .srflxWait t => { e with timeouts := { e.timeouts with srflxWait := t } }
  | .prflxWait t => { e with timeouts := { e.timeouts with prflxWait := t } }
  | .relayWait t => { e with timeouts := { e.timeouts with relayWait := t } }
  | .lite b => { e with candidates := { e.candidates with lite := b } }
  | .networkTypes ts => { e with candidates := { e.candidates with networkTypes := ts } }
  | .interfaceFilter f => { e with candidates := { e.candidates with interfaceFilter := some f } }
  | .ipFilter f => { e with candidates := { e.candidates with ipFilter := some f } }
  | .natIps ips t => { e with candidates := { e.candidates with natIps := ips, natType := t } }
  | .mdns m => { e with candidates := { e.candidates with mdns := m } }
  | .loopback b => { e with candidates := { e.candidates with loopback := b } }
  | .disableActiveTcp b => { e with candidates := { e.candidates with disableActiveTcp := b } }
  | .udpMux a b => { e with ports := { e.ports with udpMux := some (a, b) } }
  | .ephemeral a b => { e with ports := { e.ports with ephemeral := some (a, b) } }
  | .tcpMux p => { e with ports := { e.ports with tcpMux := some p } }
  | .zeroChecksum b => { e with zeroChecksum := b }
  | .bufferFactory f => { e with bufferFactory := some f }

/-- The types for which candidates are gathered: all that are supported if none are set. -/
def networkTypes (e : Engine) : List NetworkType :=
  if e.candidates.networkTypes.isEmpty then NetworkType.supported else e.candidates.networkTypes

/-- The decision of the interface filter, if there is one. -/
def allowsInterface (e : Engine) (name : String) : Option Bool :=
  e.candidates.interfaceFilter.map (Filter.allows fun i => i == name)

/-- The decision of the IP filter, if there is one. -/
def allowsIp (e : Engine) (ip : IpAddress) : Option Bool :=
  e.candidates.ipFilter.map (Filter.allows fun n => n.contains ip)

/-- Acquires a buffer with one call on the factory, or nothing without a factory. -/
def acquireBuffer {m : Type → Type} [Monad m] {β : Type} (getOrNew : BufferKey → m β) (e : Engine)
    (type : PacketType) (ssrc : UInt32) : m (Option β) :=
  match e.bufferFactory with
  | none => pure none
  | some f => some <$> getOrNew ⟨f, type, ssrc⟩

end Engine

end RtcConfig
