import RtcConfig.Proofs.Address.RoundTrip
import RtcConfig.Proofs.Transport.Config

/-! # The address of the node

What a configuration advertises for its node is the address that the settings name, and not the text
in which they name it: every spelling of an address is advertised in the one form that is written
for it. Settings with that form in place of their own spelling give the same configuration. Where no
external address is asked for, nothing is advertised, but the settings are read all the same.
-/

namespace RtcConfig.TransportSettings

/-- The configuration advertises an address by itself, in a text that names the address of the
settings and may take the place of theirs. -/
structure Advertises (s : TransportSettings) (development : Bool) (c : Logged TransportConfig)
    (text : String) : Prop where
  natIps : c.value.engine.candidates.natIps = [text]
  natType : c.value.engine.candidates.natType = .host
  names : ∃ a, IpAddress.ofText? s.nodeIp = some a ∧ IpAddress.ofText? text = some a
  rebuild : TransportConfig.build { s with nodeIp := text } development = .ok c

variable {s : TransportSettings} {development : Bool}

theorem natIps_of_external (s : TransportSettings) (hexternal : s.useExternalIp = true)
    {ips : List String} :
    s.natIps = .ok ips ↔ ∃ a, IpAddress.ofText? s.nodeIp = some a ∧ ips = [a.text] := by
  unfold natIps
  by_cases hempty : s.nodeIp = ""
  · have hnone : IpAddress.ofText? "" = none := by decide +kernel
    simp [hempty, hexternal, hnone]
  · cases haddress : IpAddress.ofText? s.nodeIp with
    | none => simp [hempty]
    | some a => simpa [hempty, hexternal] using eq_comm

theorem natIps_of_internal (hinternal : s.useExternalIp = false) {ips : List String}
    (h : s.natIps = .ok ips) : ips = [] := by
  unfold natIps at h
  split at h
  · rw [if_neg (by simp [hinternal])] at h
    exact (Except.ok.inj h).symm
  · split at h
    · cases h
    · rw [if_neg (by simp [hinternal])] at h
      exact (Except.ok.inj h).symm

theorem natType_of_config {c : TransportConfig} (h : s.config development = .ok c) :
    c.engine.candidates.natType = if s.useExternalIp then .host else .unspecified :=
  congrArg (·.candidates.natType) (engine_of_config h)

/-- The text of the node's address matters only through what is advertised. -/
theorem build_nodeIp {text : String} (h : natIps { s with nodeIp := text } = s.natIps) :
    TransportConfig.build { s with nodeIp := text } development =
      TransportConfig.build s development := by
  rw [TransportConfig.build, config, h]
  rfl

theorem advertises_of_build {c : Logged TransportConfig}
    (h : TransportConfig.build s development = .ok c) (hexternal : s.useExternalIp = true) :
    ∃ a, IpAddress.ofText? s.nodeIp = some a ∧ s.Advertises development c a.text := by
  obtain ⟨config, hconfig, rfl⟩ := map_eq_ok h
  have hips := (parts_of_config hconfig).1
  obtain ⟨a, ha, hsingle⟩ := (s.natIps_of_external hexternal).mp hips
  have htext := IpAddress.ofText?_text a
  have hadvertised : natIps { s with nodeIp := a.text } = .ok config.engine.candidates.natIps :=
    (natIps_of_external { s with nodeIp := a.text } hexternal).mpr ⟨a, htext, hsingle⟩
  exact ⟨a, ha, {
    natIps := hsingle
    natType := by rw [natType_of_config hconfig, if_pos hexternal]
    names := ⟨a, ha, htext⟩
    rebuild := (build_nodeIp (hadvertised.trans hips.symm)).trans h }⟩

/-- An external address is advertised in a text of its own: one for all spellings of the address,
and another one for every other address. Without an external address nothing is advertised. -/
theorem build_advertises :
    (∀ s development c, TransportConfig.build s development = .ok c → s.useExternalIp = true →
      ∃ text, s.Advertises development c text) ∧
    (∀ s s' development development' c c' text text',
      TransportConfig.build s development = .ok c → TransportConfig.build s' development' = .ok c' →
      s.useExternalIp = true → s'.useExternalIp = true →
      c.value.engine.candidates.natIps = [text] → c'.value.engine.candidates.natIps = [text'] →
        (text = text' ↔ ∃ a, IpAddress.ofText? s.nodeIp = some a ∧
          IpAddress.ofText? s'.nodeIp = some a)) ∧
    ∀ s development c, TransportConfig.build s development = .ok c → s.useExternalIp = false →
      c.value.engine.candidates.natIps = [] ∧
        c.value.engine.candidates.natType = .unspecified := by
  refine ⟨?_, ?_, ?_⟩
  · intro s development c h hexternal
    obtain ⟨a, -, hadvertises⟩ := advertises_of_build h hexternal
    exact ⟨a.text, hadvertises⟩
  · intro s s' development development' c c' text text' h h' hexternal hexternal' htext htext'
    obtain ⟨a, ha, hadvertises⟩ := advertises_of_build h hexternal
    obtain ⟨a', ha', hadvertises'⟩ := advertises_of_build h' hexternal'
    obtain rfl : a.text = text := List.singleton_inj.mp (hadvertises.natIps.symm.trans htext)
    obtain rfl : a'.text = text' := List.singleton_inj.mp (hadvertises'.natIps.symm.trans htext')
    rw [ha, ha', IpAddress.text_injective.eq_iff]
    constructor
    · rintro rfl
      exact ⟨a, rfl, rfl⟩
    · rintro ⟨b, hb, hb'⟩
      exact Option.some.inj (hb.trans hb'.symm)
  · intro s development c h hinternal
    obtain ⟨config, hconfig, rfl⟩ := map_eq_ok h
    refine ⟨natIps_of_internal hinternal (parts_of_config hconfig).1, ?_⟩
    rw [natType_of_config hconfig, if_neg (by simp [hinternal])]

/-- A node whose address maps an IPv4 address, in a long spelling. -/
def mappedNode : TransportSettings where
  nodeIp := "0:0:0:0:0:FFFF:C000:0201"
  useExternalIp := true

/-- The IPv4 address that the other one maps has a text and is an address of its own. -/
theorem build_advertises_mapped :
    ∃ c c' internal, TransportConfig.build mappedNode false = .ok c ∧
      TransportConfig.build { mappedNode with nodeIp := "192.0.2.1" } true = .ok c' ∧
      TransportConfig.build { mappedNode with useExternalIp := false } true = .ok internal ∧
      c.value.engine.candidates.natIps = ["::ffff:192.0.2.1"] ∧
      mappedNode.Advertises false c "::ffff:192.0.2.1" ∧
      c'.value.engine.candidates.natIps = ["192.0.2.1"] ∧
      (¬∃ a, IpAddress.ofText? mappedNode.nodeIp = some a ∧
        IpAddress.ofText? "192.0.2.1" = some a) ∧
      internal.value.engine.candidates.natIps = [] ∧
        internal.value.engine.candidates.natType = .unspecified := by
  have hmapped : (TransportConfig.build mappedNode false).map
      (·.value.engine.candidates.natIps) = .ok ["::ffff:192.0.2.1"] := by
    decide +kernel
  have hplain : (TransportConfig.build { mappedNode with nodeIp := "192.0.2.1" } true).map
      (·.value.engine.candidates.natIps) = .ok ["192.0.2.1"] := by
    decide +kernel
  have hinternal : (TransportConfig.build { mappedNode with useExternalIp := false } true).map
      (·.value.engine.candidates.natIps) = .ok [] := by
    decide +kernel
  obtain ⟨c, hc, hips⟩ := map_eq_ok hmapped
  obtain ⟨c', hc', hips'⟩ := map_eq_ok hplain
  obtain ⟨internal, hbuild, -⟩ := map_eq_ok hinternal
  obtain ⟨hexternal, hsame, hnone⟩ := build_advertises
  obtain ⟨text, hadvertises⟩ := hexternal _ _ _ hc rfl
  obtain rfl : "::ffff:192.0.2.1" = text :=
    List.singleton_inj.mp (hips.symm.trans hadvertises.natIps)
  refine ⟨c, c', internal, hc, hc', hbuild, hips, hadvertises, hips', fun ha => ?_,
    hnone _ _ _ hbuild rfl⟩
  have heq := (hsame _ _ _ _ _ _ _ _ hc hc' rfl rfl hips hips').mpr ha
  exact absurd heq (by decide)

end RtcConfig.TransportSettings
