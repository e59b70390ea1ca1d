import RtcConfig.Proofs.Settings.UdpPlace
import RtcConfig.Proofs.Transport.Ports

/-! # Ports of a configuration

The ports of a configuration that is built are those that its settings name. The UDP port comes
first: only without it is there an ephemeral range, and both are ranges of ports in order wherever
they are there. With a TCP port, and only then, candidates are gathered over TCP as well. So the
forms of a single port in a document all give the same configuration.
-/

namespace RtcConfig

open Json

/-- The ports of an engine are those of the settings. -/
structure TransportSettings.HasPorts (s : TransportSettings) (e : Engine) : Prop where
  exclusive : e.ports.udpMux = none ∨ e.ports.ephemeral = none
  udpMux : ∀ a b, e.ports.udpMux = some (a, b) ↔ s.udpPort.isUnset = false ∧
    a = s.udpPort.first ∧ b = if s.udpPort.last = 0 then s.udpPort.first else s.udpPort.last
  ephemeral : ∀ a b, e.ports.ephemeral = some (a, b) ↔ s.udpPort.isUnset = true ∧
    s.ephemeral.isUnset = false ∧ a = s.ephemeral.first ∧ b = s.ephemeral.last
  ordered : ∀ a b, e.ports.udpMux = some (a, b) ∨ e.ports.ephemeral = some (a, b) →
    1 ≤ a.toNat ∧ a.toNat ≤ b.toNat
  tcpMux : ∀ port, e.ports.tcpMux = some port ↔ s.tcpPort = port ∧ port ≠ 0
  networkTypes : e.candidates.networkTypes =
    [.udp4, .udp6] ++ if e.ports.tcpMux.isSome then [.tcp4, .tcp6] else []

/-- Two documents give the same configuration or the same error, alone or among the settings of a
server, or neither of them is read. -/
structure GiveSame (text text' : String) : Prop where
  alone : ∀ development,
    (TransportSettings.ofText? text).map (TransportConfig.build · development) =
      (TransportSettings.ofText? text').map (TransportConfig.build · development)
  within :
    (RtcSettings.ofText? text).map (fun s => TransportConfig.build s.transport s.development) =
      (RtcSettings.ofText? text').map fun s => TransportConfig.build s.transport s.development

namespace PortRange

variable {r : PortRange}

theorem validate_eq_ok {range : Option (UInt16 × UInt16)} (h : r.validate = .ok range) :
    range = if r.isUnset then none else some (r.first, r.last) := by
  unfold validate at h
  split at h
  · next hunset =>
    rw [if_pos (r.isUnset_iff.mpr hunset), Except.ok.inj h]
  · next hset =>
    split at h
    · cases h
    · split at h
      · cases h
      · rw [if_neg (mt r.isUnset_iff.mp hset), ← Except.ok.inj h]

theorem validateUdp_eq_ok {range : UInt16 × UInt16} (h : r.validateUdp = .ok range) :
    range = (r.first, if r.last = 0 then r.first else r.last) := by
  unfold validateUdp at h
  split at h
  · next hlast => rw [if_pos hlast, Except.ok.inj h]
  · next hlast =>
    split at h
    · next hvalid =>
      have hset : ¬r.isUnset = true := fun hunset => hlast (r.isUnset_iff.mp hunset).2
      have hports := validate_eq_ok hvalid
      rw [if_neg hset, Option.some.injEq] at hports
      rw [if_neg hlast, ← hports, Except.ok.inj h]
    · cases h
    · cases h

/-- A UDP port that is set is a range of ports, which ends with the first one if there is no last
port. -/
theorem IsUdpPort.ordered (h : r.IsUdpPort) (hset : r.isUnset = false) :
    1 ≤ r.first.toNat ∧
      r.first.toNat ≤ (if r.last = 0 then r.first else r.last).toNat := by
  have hnot : ¬(r.first = 0 ∧ r.last = 0) := fun hunset =>
    absurd (r.isUnset_iff.mpr hunset) (by simp [hset])
  rcases h with (hunset | hrange) | ⟨hfirst, hlast⟩
  · exact absurd hunset hnot
  · split
    · exact ⟨hrange.1, Nat.le_refl _⟩
    · exact hrange
  · rw [if_pos hlast]
    exact ⟨Nat.one_le_iff_ne_zero.mpr (mt port_eq_zero.mpr hfirst), Nat.le_refl _⟩

theorem IsRange.ordered (h : r.IsRange) (hset : r.isUnset = false) :
    1 ≤ r.first.toNat ∧ r.first.toNat ≤ r.last.toNat := by
  rcases h with hunset | hrange
  · exact absurd (r.isUnset_iff.mpr hunset) (by simp [hset])
  · exact hrange

end PortRange

namespace TransportSettings

variable {s : TransportSettings} {development : Bool}

/-- The ports are the UDP port, or without one the ephemeral range, beside the TCP port. -/
theorem ports_eq_ok {ports : Ports} (h : s.ports = .ok ports) :
    ports.udpMux = (if s.udpPort.isUnset then none else
      some (s.udpPort.first, if s.udpPort.last = 0 then s.udpPort.first else s.udpPort.last)) ∧
    ports.ephemeral = (if s.udpPort.isUnset = true ∧ s.ephemeral.isUnset = false then
      some (s.ephemeral.first, s.ephemeral.last) else none) ∧
    ports.tcpMux = if s.tcpPort = 0 then none else some s.tcpPort := by
  unfold TransportSettings.ports at h
  cases hudp : s.udpPort.isUnset with
  | true =>
    rw [hudp, if_pos rfl] at h
    obtain ⟨range, hrange, rfl⟩ := map_eq_ok h
    rw [PortRange.validate_eq_ok hrange]
    cases s.ephemeral.isUnset <;> simp
  | false =>
    rw [hudp, if_neg Bool.false_ne_true] at h
    obtain ⟨range, hrange, rfl⟩ := map_eq_ok h
    rw [PortRange.validateUdp_eq_ok hrange]
    simp

theorem networkTypes_of_config {c : TransportConfig} (h : s.config development = .ok c) :
    c.engine.candidates.networkTypes = s.networkTypes :=
  congrArg (·.candidates.networkTypes) (engine_of_config h)

theorem hasPorts_of_build {c : Logged TransportConfig}
    (h : TransportConfig.build s development = .ok c) : s.HasPorts c.value.engine := by
  obtain ⟨hudp, hephemeral⟩ := portFaults_eq_nil.mp (portFaults_of_build h)
  obtain ⟨config, hconfig, rfl⟩ := map_eq_ok h
  obtain ⟨hmux, hrange, htcp⟩ := ports_eq_ok (parts_of_config hconfig).2.1
  have htypes := networkTypes_of_config hconfig
  have hmux_iff (a b : UInt16) : config.engine.ports.udpMux = some (a, b) ↔
      s.udpPort.isUnset = false ∧ a = s.udpPort.first ∧
        b = if s.udpPort.last = 0 then s.udpPort.first else s.udpPort.last := by
    rw [hmux]
    cases s.udpPort.isUnset <;> simp [eq_comm]
  have hrange_iff (a b : UInt16) : config.engine.ports.ephemeral = some (a, b) ↔
      s.udpPort.isUnset = true ∧ s.ephemeral.isUnset = false ∧
        a = s.ephemeral.first ∧ b = s.ephemeral.last := by
    rw [hrange]
    cases s.udpPort.isUnset <;> cases s.ephemeral.isUnset <;> simp [eq_comm]
  exact {
    exclusive := by
      rw [hmux, hrange]
      cases s.udpPort.isUnset <;> simp
    udpMux := hmux_iff
    ephemeral := hrange_iff
    ordered := by
      rintro a b (hab | hab)
      · obtain ⟨hset, rfl, rfl⟩ := (hmux_iff a b).mp hab
        exact hudp.ordered hset
      · obtain ⟨hunset, hset, rfl, rfl⟩ := (hrange_iff a b).mp hab
        exact (hephemeral hunset).ordered hset
    tcpMux := by
      intro port
      rw [htcp]
      by_cases hport : s.tcpPort = 0
      · simp only [hport, if_pos, reduceCtorEq, false_iff, not_and, not_not]
        exact Eq.symm
      · rw [if_neg hport, Option.some.injEq]
        exact (and_iff_left_of_imp fun heq => heq ▸ hport).symm
    networkTypes := by
      rw [htypes, networkTypes, htcp]
      by_cases hport : s.tcpPort = 0 <;> simp [hport] }

/-! ## Forms of a single port -/

theorem ports_single {port last : UInt16} (hport : port ≠ 0) (hlast : last = 0 ∨ last = port) :
    ports { s with udpPort := ⟨port, last⟩ } = ports { s with udpPort := ⟨port, 0⟩ } := by
  have hset (last : UInt16) : ¬PortRange.isUnset ⟨port, last⟩ = true := by
    simp [PortRange.isUnset, hport]
  have hvalid : PortRange.validateUdp ⟨port, last⟩ = .ok (port, port) := by
    rcases hlast with rfl | rfl
    · rfl
    · simp [PortRange.validateUdp, PortRange.validate, hport]
  unfold TransportSettings.ports
  rw [if_neg (hset last), if_neg (hset 0), hvalid]
  rfl

/-- A single port gives the same configuration with and without itself as its last port. -/
theorem build_single (s : TransportSettings) (development : Bool) {port last : UInt16}
    (hport : port ≠ 0) (hlast : last = 0 ∨ last = port) :
    TransportConfig.build { s with udpPort := ⟨port, last⟩ } development =
      TransportConfig.build { s with udpPort := ⟨port, 0⟩ } development := by
  rw [TransportConfig.build, config, ports_single hport hlast]
  rfl

theorem giveSame {port : UInt16} (hport : port ≠ 0) {v w : Json} (hv : SinglePort port v)
    (hw : SinglePort port w) {place : UdpPlace} {text text' : String}
    (h : read text = some (place.fill v)) (h' : read text' = some (place.fill w)) :
    GiveSame text text' := by
  obtain ⟨last, hlast, hr⟩ := hv.exists_ofJson?
  obtain ⟨last', hlast', hr'⟩ := hw.exists_ofJson?
  constructor
  · intro development
    obtain ⟨others, hothers⟩ := exists_ofText?_fill place
    rw [hothers text v _ h hv.canHold hr, hothers text' w _ h' hw.canHold hr', Option.map_map,
      Option.map_map]
    congr 1
    funext s
    exact (build_single s development hport hlast).trans
      (build_single s development hport hlast').symm
  · obtain ⟨others, hothers⟩ := RtcSettings.exists_ofText?_fill place
    rw [hothers text v _ h hv.canHold hr, hothers text' w _ h' hw.canHold hr', Option.map_map,
      Option.map_map]
    congr 1
    funext s
    exact (build_single s.transport s.development hport hlast).trans
      (build_single s.transport s.development hport hlast').symm

/-- Every configuration that is built has the ports of its settings, and documents that differ in
the form of a single UDP port alone give the same configuration. -/
theorem build_hasPorts :
    (∀ s development c, TransportConfig.build s development = .ok c →
      s.HasPorts c.value.engine) ∧
    ∀ (port : UInt16) (v w : Json) (place : UdpPlace) (text text' : String), port ≠ 0 →
      SinglePort port v → SinglePort port w → read text = some (place.fill v) →
        read text' = some (place.fill w) → GiveSame text text' := by
  constructor
  · intro s development c h
    exact hasPorts_of_build h
  · intro port v w place text text' hport hv hw h h'
    exact giveSame hport hv hw h h'

/-- A single UDP port beside a TCP port and a range that does not count. -/
def singlePort : TransportSettings where
  udpPort := ⟨7882, 0⟩
  tcpPort := 7881
  ephemeral := ⟨50000, 60000⟩

/-- A document of a UDP port between other settings. -/
def betweenPorts : UdpPlace :=
  .member [("tcp_port", .ofNat 7881)]
    [("port_range_end", .ofNat 60000), ("port_range_start", .ofNat 50000)]

theorem build_hasPorts_singlePort :
    (∃ c, TransportConfig.build singlePort true = .ok c ∧ singlePort.HasPorts c.value.engine ∧
      c.value.engine.ports = { udpMux := some (7882, 7882), tcpMux := some 7881 }) ∧
    ∃ text text', read text = some (betweenPorts.fill (.ofNat 7882)) ∧
      read text' = some (betweenPorts.fill
        (.object [("start", .ofNat 7882), ("end", .ofNat 7882)])) ∧
      TransportSettings.ofText? text = some singlePort ∧
      RtcSettings.ofText? text = some { transport := singlePort } ∧ GiveSame text text' := by
  have hbuild : (TransportConfig.build singlePort true).map (·.value.engine.ports) =
      .ok { udpMux := some (7882, 7882), tcpMux := some 7881 } := by
    decide +kernel
  obtain ⟨c, hc, hports⟩ := map_eq_ok hbuild
  have hread : read (betweenPorts.fill (.ofNat 7882)).write =
      some (betweenPorts.fill (.ofNat 7882)) :=
    read_write (by decide +kernel)
  have hread' : read (betweenPorts.fill
      (.object [("start", .ofNat 7882), ("end", .ofNat 7882)])).write =
        some (betweenPorts.fill (.object [("start", .ofNat 7882), ("end", .ofNat 7882)])) :=
    read_write (by decide +kernel)
  have hsettings : TransportSettings.ofText? (betweenPorts.fill (.ofNat 7882)).write =
      some singlePort := by
    rw [TransportSettings.ofText?, hread]
    decide +kernel
  have hwithin : RtcSettings.ofText? (betweenPorts.fill (.ofNat 7882)).write =
      some { transport := singlePort } := by
    rw [RtcSettings.ofText?, hread]
    decide +kernel
  exact ⟨⟨c, hc, build_hasPorts.1 singlePort true c hc, hports⟩, _, _, hread, hread', hsettings,
    hwithin, build_hasPorts.2 7882 _ _ betweenPorts _ _ (by decide) .number (.startEnd (.inr rfl))
      hread hread'⟩

end TransportSettings

end RtcConfig
