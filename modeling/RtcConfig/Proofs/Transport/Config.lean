import RtcConfig.Proofs.Report
import RtcConfig.Transport.Basic

/-! # What a configuration holds

A configuration is built after four checks, each of which gives one part of it. All other fields of
its engine are what the settings say, or what no setting touches.
-/

namespace RtcConfig.TransportSettings

variable {s : TransportSettings} {development : Bool} {c : TransportConfig}

/-- The engine of the settings with what the checks of addresses, ports and filter give. -/
def engineOf (s : TransportSettings) (development : Bool) (natIps : List String) (ports : Ports)
    (ipFilter : Option (Filter IpNetwork)) : Engine where
  timeouts := timeouts
  candidates := {
    lite := s.useIceLite
    networkTypes := s.networkTypes
    interfaceFilter := if s.interfaces.isEmpty then none else some s.interfaces
    ipFilter := ipFilter
    natIps := natIps
    natType := if s.useExternalIp then .host else .unspecified
    mdns := .ofBool s.useMdns
    loopback := development || s.enableLoopback }
  ports := ports

theorem config_eq_ok (h : s.config development = .ok c) :
    ∃ natIps ports ipFilter servers, s.natIps = .ok natIps ∧ s.ports = .ok ports ∧
      s.ipFilter = .ok ipFilter ∧ s.iceServers = .ok servers ∧
      c = ⟨s.engineOf development natIps ports ipFilter, servers⟩ := by
  obtain ⟨ips, hips, h⟩ := bind_eq_ok h
  obtain ⟨ports, hports, h⟩ := bind_eq_ok h
  obtain ⟨filter, hfilter, h⟩ := bind_eq_ok h
  obtain ⟨servers, hservers, h⟩ := bind_eq_ok h
  exact ⟨ips, ports, filter, servers, hips, hports, hfilter, hservers, (Except.ok.inj h).symm⟩

/-- A configuration holds what each check of its settings gives. -/
theorem parts_of_config (h : s.config development = .ok c) :
    s.natIps = .ok c.engine.candidates.natIps ∧ s.ports = .ok c.engine.ports ∧
      s.ipFilter = .ok c.engine.candidates.ipFilter ∧ s.iceServers = .ok c.iceServers := by
  obtain ⟨ips, ports, filter, servers, hips, hports, hfilter, hservers, rfl⟩ := config_eq_ok h
  exact ⟨hips, hports, hfilter, hservers⟩

theorem engine_of_config (h : s.config development = .ok c) :
    c.engine = s.engineOf development c.engine.candidates.natIps c.engine.ports
      c.engine.candidates.ipFilter := by
  obtain ⟨ips, ports, filter, servers, -, -, -, -, rfl⟩ := config_eq_ok h
  rfl

theorem iceServers_of_config (h : s.config development = .ok c) :
    s.iceServers = .ok c.iceServers :=
  (parts_of_config h).2.2.2

end RtcConfig.TransportSettings
