import RtcConfig.Proofs.Transport.Faults

/-! # Port ranges of a configuration

The UDP port of settings that are accepted is a range with both ends in order, a first port alone or
unset. The ephemeral range is a range or unset as well if there is no UDP port. With a UDP port it
is not looked at: any other ephemeral range gives the same configuration.
-/

namespace RtcConfig

namespace PortRange

/-- A range is unset, or has ports as both ends in order. -/
def IsRange (r : PortRange) : Prop :=
  (r.first = 0 ∧ r.last = 0) ∨ (1 ≤ r.first.toNat ∧ r.first.toNat ≤ r.last.toNat)

/-- A UDP port may be a first port alone. -/
def IsUdpPort (r : PortRange) : Prop := r.IsRange ∨ (r.first ≠ 0 ∧ r.last = 0)

variable (r : PortRange)

theorem isUnset_iff : r.isUnset = true ↔ r.first = 0 ∧ r.last = 0 := by
  simp [isUnset]

theorem port_eq_zero {port : UInt16} : port = 0 ↔ port.toNat = 0 := UInt16.toNat_inj.symm

theorem faults_eq_nil : r.faults = [] ↔ r.IsRange := by
  rw [faults, List.append_eq_nil_iff, faultIf_eq_nil, faultIf_eq_nil, UInt16.lt_iff_toNat_lt]
  simp only [IsRange, ne_eq, port_eq_zero]
  omega

theorem udpFaults_eq_nil : r.udpFaults = [] ↔ r.IsUdpPort := by
  rw [udpFaults, List.append_eq_nil_iff, faultIf_eq_nil, faultIf_eq_nil, UInt16.lt_iff_toNat_lt]
  simp only [IsUdpPort, IsRange, ne_eq, port_eq_zero]
  omega

end PortRange

namespace TransportSettings

variable {s : TransportSettings} {development : Bool}

/-- The ports pass their checks if the UDP port is well formed and, where it is unset, the ephemeral
range is. -/
theorem portFaults_eq_nil :
    s.portFaults = [] ↔ s.udpPort.IsUdpPort ∧ (s.udpPort.isUnset = true → s.ephemeral.IsRange) := by
  rw [portFaults, PortRange.isUnset_iff]
  split
  · next hunset =>
    have hudp : s.udpPort.IsUdpPort := .inl (.inl hunset)
    rw [PortRange.faults_eq_nil]
    simp [hudp, hunset]
  · next hset =>
    rw [PortRange.udpFaults_eq_nil]
    simp [hset]

theorem portFaults_of_build {c : Logged TransportConfig}
    (h : TransportConfig.build s development = .ok c) : s.portFaults = [] := by
  have hnone : s.faults = [] := s.exists_build_iff.mp ⟨c, h⟩
  rw [faults, List.append_eq_nil_iff, List.append_eq_nil_iff] at hnone
  exact hnone.2.1

/-- With a UDP port the ephemeral range does not count. -/
theorem ports_ephemeral (hset : s.udpPort.isUnset = false) (r : PortRange) :
    ports { s with ephemeral := r } = s.ports := by
  simp [ports, hset]

theorem build_ephemeral (hset : s.udpPort.isUnset = false) (r : PortRange) :
    TransportConfig.build { s with ephemeral := r } development =
      TransportConfig.build s development := by
  have hports := ports_ephemeral hset r
  rw [TransportConfig.build, TransportConfig.build, config, config, hports]
  rfl

/-- The UDP port of accepted settings is well formed, and the ephemeral range is if there is no UDP
port. If there is one, every ephemeral range is accepted and gives the same configuration. -/
theorem build_checksPorts {c : Logged TransportConfig}
    (h : TransportConfig.build s development = .ok c) :
    s.udpPort.IsUdpPort ∧ (s.udpPort.isUnset = true → s.ephemeral.IsRange) ∧
      (s.udpPort.isUnset = false → ∀ r : PortRange,
        TransportConfig.build { s with ephemeral := r } development = .ok c) := by
  obtain ⟨hudp, hephemeral⟩ := portFaults_eq_nil.mp (portFaults_of_build h)
  refine ⟨hudp, hephemeral, fun hset r => ?_⟩
  rw [build_ephemeral hset r]
  exact h

/-- A UDP port beside an ephemeral range that starts behind its end. -/
def reversedEphemeral : TransportSettings where
  udpPort := ⟨7882, 0⟩
  ephemeral := ⟨60000, 50000⟩

theorem build_checksPorts_reversed :
    ∃ c, TransportConfig.build reversedEphemeral false = .ok c ∧
      reversedEphemeral.udpPort.IsUdpPort ∧
      (reversedEphemeral.udpPort.isUnset = true → reversedEphemeral.ephemeral.IsRange) ∧
      (reversedEphemeral.udpPort.isUnset = false → ∀ r : PortRange,
        TransportConfig.build { reversedEphemeral with ephemeral := r } false = .ok c) := by
  obtain ⟨c, hc⟩ := exists_ok_of_isSome
    (show (TransportConfig.build reversedEphemeral false).toOption.isSome by decide +kernel)
  exact ⟨c, hc, build_checksPorts hc⟩

/-- Settings are accepted although their ephemeral range is not well formed. -/
theorem not_checksPorts_reversed :
    (∃ c, TransportConfig.build reversedEphemeral false = .ok c) ∧
      ¬reversedEphemeral.ephemeral.IsRange := by
  refine ⟨exists_ok_of_isSome (by decide +kernel), ?_⟩
  rintro (⟨hfirst, -⟩ | ⟨-, hle⟩)
  · exact absurd hfirst (by decide)
  · exact absurd hle (by decide)

end TransportSettings

end RtcConfig
