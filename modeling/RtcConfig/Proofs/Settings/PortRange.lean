import RtcConfig.Proofs.Settings.Restated

/-! # Values that denote port ranges

A port range is a port, or an object whose start and end are ports or missing; no other value is
one. As the UDP port of settings the same values are accepted for the same ranges. A text is refused
besides when its value cannot be held, which allows one level less for a member.
-/

namespace RtcConfig

open Json

namespace Json

theorem Number.natural?_eq_some_iff {x : Number} {n : Nat} :
    x.natural? = some n ↔ x = .ofNat n ∧ n < UInt64.size := by
  constructor
  · intro h
    unfold natural? at h
    split at h
    · next hplain =>
      obtain ⟨hsign, hfraction, hexponent, hsize⟩ := hplain
      obtain rfl := Option.some.inj h
      refine ⟨?_, hsize⟩
      rw [ofNat, ← hsign, ← hfraction, ← hexponent]
    · cases h
  · rintro ⟨rfl, h⟩
    exact natural?_ofNat h

/-- A port is written as a plain numeral: no sign, no fraction and no exponent. -/
theorem uint16?_eq_some_iff {v : Json} {port : UInt16} :
    uint16? v = some port ↔ v = .ofNat port.toNat := by
  constructor
  · intro h
    unfold uint16? at h
    split at h
    · next x =>
      split at h
      · next n hn =>
        split at h
        · next hlt =>
          obtain rfl := Option.some.inj h
          rw [(Number.natural?_eq_some_iff.mp hn).1]
          simp [Json.ofNat]
        · cases h
      · cases h
    · cases h
  · rintro rfl
    exact encodes_uint16.decode port

/-- The port of a member that is the only one of its name, or zero without a member. -/
inductive Members.HasPort (ms : Members) (name : String) : UInt16 → Prop
  | missing (h : ms.values name = []) : HasPort ms name 0
  | only (port : UInt16) (h : ms.values name = [.ofNat port.toNat]) : HasPort ms name port

theorem Members.hasPort_iff {ms : Members} {name : String} {port : UInt16} :
    ms.HasPort name port ↔ ms.field name uint16? (some 0) = some port := by
  constructor
  · intro h
    cases h with
    | missing hnone => rw [field, hnone]
    | only _ hone =>
      rw [field, hone]
      exact encodes_uint16.decode port
  · intro h
    unfold field at h
    split at h
    · next hnone =>
      obtain rfl := Option.some.inj h
      exact .missing hnone
    · next v hone =>
      obtain rfl := uint16?_eq_some_iff.mp h
      exact .only port hone
    · cases h

end Json

/-- The port range that a value denotes. -/
inductive PortRange.Denotes : Json → PortRange → Prop
  | port (port : UInt16) : Denotes (.ofNat port.toNat) ⟨port, 0⟩
  | ends {ms : Members} {first last : UInt16} (hfirst : ms.HasPort "start" first)
    (hlast : ms.HasPort "end" last) : Denotes (.object ms) ⟨first, last⟩

theorem PortRange.ofJson?_eq_some_iff {v : Json} {r : PortRange} :
    ofJson? v = some r ↔ Denotes v r := by
  constructor
  · intro h
    unfold ofJson? at h
    split at h
    · next ms =>
      have hfields := (readsFields.eq_some_iff ms r).mp h
      simp only [fields, SettingsField.read, List.forall_mem_cons] at hfields
      exact .ends (Members.hasPort_iff.mpr hfields.1) (Members.hasPort_iff.mpr hfields.2.1)
    · obtain ⟨port, hport, rfl⟩ := Option.map_eq_some_iff.mp h
      obtain rfl := uint16?_eq_some_iff.mp hport
      exact .port port
  · rintro (port | ⟨hfirst, hlast⟩)
    · show (uint16? (.ofNat port.toNat)).map (fun p => (⟨p, 0⟩ : PortRange)) = _
      rw [encodes_uint16.decode port]
      rfl
    · rw [Members.hasPort_iff] at hfirst hlast
      simp [ofJson?, ofMembers?, hfirst, hlast]

/-! ## The UDP port of settings -/

/-- Settings with a UDP port are those without it but for the range that it denotes. -/
structure PortRange.IsUdpMember {σ : Type} (ofText? : String → Option σ)
    (decode : Json → Option σ) (set : PortRange → σ → σ) (before after : Members) (v : Json) :
    Prop where
  decode_iff : ∀ s, decode (.object (before ++ ("udp_port", v) :: after)) = some s ↔
    ∃ r t, Denotes v r ∧ decode (.object (before ++ after)) = some t ∧ set r t = s
  ofText?_iff : ∀ {text bare},
    Json.read text = some (.object (before ++ ("udp_port", v) :: after)) →
    Json.read bare = some (.object (before ++ after)) → ∀ s, ofText? text = some s ↔
      v.canHold (nestingLimit - 1) ∧ ∃ r t, Denotes v r ∧ ofText? bare = some t ∧ set r t = s

theorem PortRange.IsUdpMember.of_insert {σ : Type} {ofText? : String → Option σ}
    {decode : Json → Option σ} {held : Json → List Json} {set : PortRange → σ → σ}
    {before after : Members} {v : Json}
    (hinsert : decode (.object (before ++ ("udp_port", v) :: after)) =
      (ofJson? v).bind fun r => (decode (.object (before ++ after))).map (set r))
    (htext : ∀ text, ofText? text = (Json.read text).bind fun v =>
      if (held v).all (canHold (nestingLimit - 1)) then decode v else none)
    (hheld : ∀ p : Json → Bool, (held (.object (before ++ ("udp_port", v) :: after))).all p =
      (p v && (held (.object (before ++ after))).all p)) :
    IsUdpMember ofText? decode set before after v := by
  have hdecode (s : σ) : decode (.object (before ++ ("udp_port", v) :: after)) = some s ↔
      ∃ r t, Denotes v r ∧ decode (.object (before ++ after)) = some t ∧ set r t = s := by
    simp only [hinsert, Option.bind_eq_some_iff, Option.map_eq_some_iff, ofJson?_eq_some_iff,
      exists_and_left]
  refine ⟨hdecode, ?_⟩
  intro text bare hread hbare s
  rw [htext, htext, hread, hbare, Option.bind_some, Option.bind_some, hheld]
  by_cases hv : v.canHold (nestingLimit - 1)
  · by_cases hall : (held (.object (before ++ after))).all (canHold (nestingLimit - 1))
    · simp only [hv, hall, Bool.and_self, if_true, true_and]
      exact hdecode s
    · simp [hall]
  · simp [hv]

section

variable {before after : Members} {v : Json}

theorem TransportSettings.isUdpMember (honly : Members.values (before ++ after) "udp_port" = []) :
    PortRange.IsUdpMember ofText? ofJson? (fun r s => { s with udpPort := r }) before after v := by
  have hinsert := ofMembers?_insert before after v
  rw [if_pos honly] at hinsert
  refine .of_insert hinsert (fun _ => rfl) fun p => ?_
  have hnone := honly
  rw [Members.values_append, List.append_eq_nil_iff] at hnone
  simp only [held, Members.values_insert, hnone, honly, List.nil_append, List.all_cons]

theorem RtcSettings.isUdpMember (honly : Members.values (before ++ after) "udp_port" = []) :
    PortRange.IsUdpMember ofText? ofJson?
      (fun r s => { s with transport := { s.transport with udpPort := r } }) before after v := by
  have hinsert := ofMembers?_insert before after v
  rw [if_pos honly] at hinsert
  refine .of_insert hinsert (fun _ => rfl) fun p => ?_
  have hshared : shared (before ++ after) = shared before ++ shared after := List.filter_append _ _
  simp only [held, shared_insert, hshared, List.map_append, List.map_cons, List.all_append,
    List.all_cons, Bool.and_left_comm]

end

namespace PortRange

/-- A value is read as a port range exactly if it is a port or an object of ports, alone and as the
UDP port of settings. A text is besides refused if its value cannot be held. -/
theorem ofText?_denotes :
    (∀ v r, ofJson? v = some r ↔ Denotes v r) ∧
      (∀ text r, ofText? text = some r ↔
        ∃ v, Json.read text = some v ∧ v.canHold nestingLimit ∧ Denotes v r) ∧
      ∀ before after v, Members.values (before ++ after) "udp_port" = [] →
        IsUdpMember TransportSettings.ofText? TransportSettings.ofJson?
          (fun r s => { s with udpPort := r }) before after v ∧
        IsUdpMember RtcSettings.ofText? RtcSettings.ofJson?
          (fun r s => { s with transport := { s.transport with udpPort := r } })
          before after v := by
  refine ⟨fun v r => ofJson?_eq_some_iff, fun text r => ?_, ?_⟩
  · simp only [ofText?_eq_some, ofJson?_eq_some_iff]
  · exact fun before after v honly =>
      ⟨TransportSettings.isUdpMember honly, RtcSettings.isUdpMember honly⟩

/-- A range whose end is missing, with a member that is ignored. -/
def openRange : Json := .object [("from", .null), ("start", .ofNat 7882)]

theorem denotes_openRange : Denotes openRange ⟨7882, 0⟩ :=
  .ends (.only 7882 rfl) (.missing rfl)

theorem ofText?_denotes_openRange :
    ofText? openRange.write = some ⟨7882, 0⟩ ∧
      Members.values ([("tcp_port", .ofNat 7881)] ++ []) "udp_port" = [] ∧
      TransportSettings.ofJson? (.object [("tcp_port", .ofNat 7881), ("udp_port", openRange)]) =
        some { udpPort := ⟨7882, 0⟩, tcpPort := 7881 } ∧
      RtcSettings.ofJson? (.object [("tcp_port", .ofNat 7881), ("udp_port", openRange)]) =
        some { transport := { udpPort := ⟨7882, 0⟩, tcpPort := 7881 } } := by
  have hread : Json.read openRange.write = some openRange := read_write (by decide +kernel)
  have honly : Members.values ([("tcp_port", .ofNat 7881)] ++ []) "udp_port" = [] := rfl
  obtain ⟨-, htext, hmember⟩ := ofText?_denotes
  obtain ⟨htransport, hrtc⟩ := hmember [("tcp_port", .ofNat 7881)] [] openRange honly
  refine ⟨(htext _ _).mpr ⟨openRange, hread, by decide +kernel, denotes_openRange⟩, honly, ?_, ?_⟩
  · exact (htransport.decode_iff _).mpr
      ⟨_, { tcpPort := 7881 }, denotes_openRange, by decide +kernel, rfl⟩
  · exact (hrtc.decode_iff _).mpr
      ⟨_, { transport := { tcpPort := 7881 } }, denotes_openRange, by decide +kernel, rfl⟩

/-- A range whose end is missing, with a member that is ignored but nests to the limit. -/
def deepRange : Json := .object [("start", .ofNat 7882), ("x", RtcSettings.nested 126)]

/-- The object denotes a range, but as a text it is refused. -/
theorem not_ofText?_deepRange :
    Json.read deepRange.write = some deepRange ∧ deepRange.isRepresentable ∧
      Denotes deepRange ⟨7882, 0⟩ ∧ ofText? deepRange.write = none := by
  have hread : Json.read deepRange.write = some deepRange := read_write (by decide +kernel)
  refine ⟨hread, by decide +kernel, .ends (.only 7882 rfl) (.missing rfl), ?_⟩
  rw [Option.eq_none_iff_forall_ne_some]
  intro r hr
  obtain ⟨v, hv, hheld, -⟩ := ofText?_eq_some.mp hr
  rw [hread] at hv
  obtain rfl := Option.some.inj hv
  exact absurd hheld (by decide +kernel)

end PortRange

end RtcConfig
