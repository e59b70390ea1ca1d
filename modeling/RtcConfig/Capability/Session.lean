import RtcConfig.Capability.Basic
import RtcConfig.Engine.Desk

/-! # Sessions

A session works on a list of configurations, one of which is the current one. A clone of the
current configuration goes its own way from then on, and all of them share one buffer desk.
-/

namespace RtcConfig

structure Session where
  configs : List CapabilityConfig
  current : Nat
  current_lt : current < configs.length
  desk : BufferDesk

namespace Session

def start (c : CapabilityConfig) : Session := ⟨[c], 0, Nat.one_pos, {}⟩

def config (s : Session) : CapabilityConfig := s.configs.get ⟨s.current, s.current_lt⟩

/-- Attaches a factory to the current configuration. -/
def attach (s : Session) (f : FactoryId) : List LogRecord × Session :=
  let attached := s.config.attach f
  (attached.records, { s with
    configs := s.configs.set s.current attached.value
    current_lt := by simpa using s.current_lt })

/-- Adds a clone of the current configuration and returns its number. -/
def clone (s : Session) : Nat × Session :=
  (s.configs.length, { s with
    configs := s.configs ++ [s.config]
    current_lt := by simpa using Nat.lt_succ_of_lt s.current_lt })

/-- Makes a configuration the current one, if there is one with this number. -/
def use? (s : Session) (i : Nat) : Option Session :=
  if h : i < s.configs.length then some { s with current := i, current_lt := h } else none

/-- Asks the factory of the current configuration itself for the buffer of a stream. -/
def getOrNew (s : Session) (ssrc : UInt32) : Option (Nat × BufferCall) × Session :=
  match s.config.bufferFactory with
  | none => (none, s)
  | some f =>
    let (answer, desk) := (BufferDesk.call ⟨f, .rtp, ssrc⟩).run s.desk
    (some answer, { s with desk := desk })

end Session

end RtcConfig
