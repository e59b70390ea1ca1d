import Mathlib.Data.List.Nodup
import RtcConfig.Proofs.Settings.UdpPlace

/-! # Fields of settings objects

Which members an object of settings is read from: for each field the name of its member, how the
value is decoded, and the value without a member. Every settings object is read field by field. It
is refused when a field is, because its name occurs twice or its value does not decode, and
otherwise each field has the value of its only member or the default one. The settings of a server
have their own fields and those of the transport settings side by side.
-/

namespace RtcConfig

open Json

/-- A field of a settings object, with the part of the settings that it decides. -/
structure SettingsField (σ : Type) where
  name : String
  {Value : Type}
  decode : Json → Option Value
  absent : Value
  get : σ → Value

namespace SettingsField

variable {σ τ : Type} (f : SettingsField σ) (ms : Members)

/-- The field of settings that have the given ones as a part. -/
def within (part : τ → σ) : SettingsField τ := ⟨f.name, f.decode, f.absent, fun t => f.get (part t)⟩

def read : Option f.Value := ms.field f.name f.decode (some f.absent)

/-- The name occurs twice, or its value does not decode. -/
def Fails : Prop := 2 ≤ (ms.values f.name).length ∨ ∃ v ∈ ms.values f.name, f.decode v = none

/-- The value of the only member, or the default one without a member. -/
def Gives (a : f.Value) : Prop :=
  ms.values f.name = [] ∧ a = f.absent ∨ ∃ v, ms.values f.name = [v] ∧ f.decode v = some a

theorem read_eq_none_iff : f.read ms = none ↔ f.Fails ms := by
  unfold read Members.field Fails
  split
  · next h => simp [h]
  · next v h => simp [h]
  · next h hone =>
    match hvalues : ms.values f.name with
    | [] => exact absurd hvalues h
    | [v] => exact absurd hvalues (hone v)
    | v :: w :: vs => simp

theorem read_eq_some_iff {a : f.Value} : f.read ms = some a ↔ f.Gives ms a := by
  unfold read Members.field Gives
  split
  · next h => simp [h, eq_comm]
  · next v h => simp [h]
  · next h hone =>
    simp only [reduceCtorEq, false_iff, not_or, not_and, not_exists]
    exact ⟨fun hvalues => absurd hvalues h, fun v hvalues => absurd hvalues (hone v)⟩

end SettingsField

/-! ## The fields of each object -/

def PortRange.fields : List (SettingsField PortRange) := [
  ⟨"start", uint16?, 0, first⟩,
  ⟨"end", uint16?, 0, last⟩]

def TurnServer.fields : List (SettingsField TurnServer) := [
  ⟨"host", string?, "", host⟩,
  ⟨"port", uint16?, 0, port⟩,
  ⟨"protocol", string?, "", protocol⟩,
  ⟨"username", string?, "", username⟩,
  ⟨"credential", string?, "", credential⟩]

def Filter.fields : List (SettingsField (Filter String)) := [
  ⟨"includes", list? string?, [], includes⟩,
  ⟨"excludes", list? string?, [], excludes⟩]

def CongestionSettings.fields : List (SettingsField CongestionSettings) := [
  ⟨"enabled", bool?, true, enabled⟩,
  ⟨"allow_pause", bool?, false, allowPause⟩,
  ⟨"use_send_side_bwe", bool?, false, useSendSide⟩]

def TransportSettings.fields : List (SettingsField TransportSettings) := [
  ⟨"udp_port", PortRange.ofJson?, {}, udpPort⟩,
  ⟨"tcp_port", uint16?, 0, tcpPort⟩,
  ⟨"port_range_start", uint16?, 0, fun s => s.ephemeral.first⟩,
  ⟨"port_range_end", uint16?, 0, fun s => s.ephemeral.last⟩,
  ⟨"node_ip", string?, "", nodeIp⟩,
  ⟨"use_external_ip", bool?, false, useExternalIp⟩,
  ⟨"stun_servers", list? string?, [], stunServers⟩,
  ⟨"turn_servers", list? TurnServer.ofJson?, [], turnServers⟩,
  ⟨"use_ice_lite", bool?, false, useIceLite⟩,
  ⟨"use_mdns", bool?, false, useMdns⟩,
  ⟨"enable_loopback_candidate", bool?, false, enableLoopback⟩,
  ⟨"interfaces", Filter.ofJson?, {}, interfaces⟩,
  ⟨"ips", Filter.ofJson?, {}, ips⟩]

def RtcSettings.ownFields : List (SettingsField RtcSettings) := [
  ⟨"packet_buffer_size", uint64?, 0, bufferSize⟩,
  ⟨"packet_buffer_size_video", uint64?, 0, videoBufferSize⟩,
  ⟨"packet_buffer_size_audio", uint64?, 0, audioBufferSize⟩,
  ⟨"strict_acks", bool?, false, strictAcks⟩,
  ⟨"congestion_control", CongestionSettings.ofJson?, {}, congestion⟩,
  ⟨"development", bool?, false, development⟩]

def RtcSettings.fields : List (SettingsField RtcSettings) :=
  ownFields ++ TransportSettings.fields.map fun f => f.within transport

/-! ## Reading field by field -/

/-- Objects are read from these fields and from nothing else. -/
structure ReadsFields {σ : Type} (ofMembers? : Members → Option σ)
    (fields : List (SettingsField σ)) : Prop where
  eq_some_iff : ∀ ms s, ofMembers? ms = some s ↔ ∀ f ∈ fields, f.read ms = some (f.get s)
  eq_none_iff : ∀ ms, ofMembers? ms = none ↔ ∃ f ∈ fields, f.read ms = none

/-- The outcome of reading the fields that are left, with what is known of the settings from those
read before. -/
structure ReadsOn {σ : Type} (ms : Members) (fields : List (SettingsField σ)) (known : σ → Prop)
    (outcome : Option σ) : Prop where
  eq_some : ∀ s, outcome = some s → known s ∧ ∀ f ∈ fields, f.read ms = some (f.get s)
  eq_none_iff : outcome = none ↔ ∃ f ∈ fields, f.read ms = none

namespace ReadsOn

variable {σ τ : Type} {ms : Members} {fields : List (SettingsField σ)} {known : σ → Prop}

theorem done {s : σ} (hs : known s) : ReadsOn ms [] known (some s) where
  eq_some t h := by
    obtain rfl := Option.some.inj h
    exact ⟨hs, List.forall_mem_nil _⟩
  eq_none_iff := by simp

/-- Reading fails at the next field or behind it, and otherwise the settings have its value. -/
theorem field {f : SettingsField σ} {rest : f.Value → Option σ}
    (h : ∀ a, ReadsOn ms fields (fun s => f.get s = a ∧ known s) (rest a)) :
    ReadsOn ms (f :: fields) known (f.read ms >>= rest) where
  eq_some s hs := by
    obtain ⟨a, ha, hrest⟩ := Option.bind_eq_some_iff.mp hs
    obtain ⟨⟨rfl, hknown⟩, hfields⟩ := (h a).eq_some s hrest
    exact ⟨hknown, List.forall_mem_cons.mpr ⟨ha, hfields⟩⟩
  eq_none_iff := by
    cases hread : f.read ms with
    | none => simp [hread]
    | some a => simpa [hread] using (h a).eq_none_iff

/-- The last fields may be those of a part, which is read as such. -/
theorem part {ofMembers? : Members → Option τ} {fields : List (SettingsField τ)}
    {get : σ → τ} {put : τ → σ} (hreads : ReadsFields ofMembers? fields)
    (hput : ∀ t, get (put t) = t) (hknown : ∀ t, known (put t)) :
    ReadsOn ms (fields.map fun f => f.within get) known
      (ofMembers? ms >>= fun t => some (put t)) where
  eq_some s hs := by
    obtain ⟨t, ht, hst⟩ := Option.bind_eq_some_iff.mp hs
    obtain rfl := Option.some.inj hst
    refine ⟨hknown t, List.forall_mem_map.mpr fun f hf => ?_⟩
    have hread := (hreads.eq_some_iff ms t).mp ht f hf
    rw [← hput t] at hread
    exact hread
  eq_none_iff := by
    have hnone : (ofMembers? ms >>= fun t => some (put t)) = none ↔ ofMembers? ms = none := by
      cases ofMembers? ms <;> simp
    rw [hnone, hreads.eq_none_iff]
    simp only [List.mem_map, exists_exists_and_eq_and]
    rfl

end ReadsOn

theorem ReadsFields.of_readsOn {σ : Type} {ofMembers? : Members → Option σ}
    {fields : List (SettingsField σ)}
    (hreads : ∀ ms, ReadsOn ms fields (fun _ => True) (ofMembers? ms))
    (hgiven : ∀ ms s, (∀ f ∈ fields, f.read ms = some (f.get s)) → ofMembers? ms = some s) :
    ReadsFields ofMembers? fields where
  eq_some_iff ms s := ⟨fun h => ((hreads ms).eq_some s h).2, hgiven ms s⟩
  eq_none_iff ms := (hreads ms).eq_none_iff

theorem PortRange.readsFields : ReadsFields ofMembers? fields := by
  apply ReadsFields.of_readsOn
  · intro ms
    unfold ofMembers? fields
    repeat refine .field fun _ => ?_
    exact .done (by simp)
  · intro ms s h
    simp only [fields, SettingsField.read, List.forall_mem_cons] at h
    simp only [ofMembers?, h, Option.bind_eq_bind, Option.bind_some]

theorem TurnServer.readsFields : ReadsFields ofMembers? fields := by
  apply ReadsFields.of_readsOn
  · intro ms
    unfold ofMembers? fields
    repeat refine .field fun _ => ?_
    exact .done (by simp)
  · intro ms s h
    simp only [fields, SettingsField.read, List.forall_mem_cons] at h
    simp only [ofMembers?, h, Option.bind_eq_bind, Option.bind_some]

theorem Filter.readsFields : ReadsFields ofMembers? fields := by
  apply ReadsFields.of_readsOn
  · intro ms
    unfold ofMembers? fields
    repeat refine .field fun _ => ?_
    exact .done (by simp)
  · intro ms s h
    simp only [fields, SettingsField.read, List.forall_mem_cons] at h
    simp only [ofMembers?, h, Option.bind_eq_bind, Option.bind_some]

theorem CongestionSettings.readsFields : ReadsFields ofMembers? fields := by
  apply ReadsFields.of_readsOn
  · intro ms
    unfold ofMembers? fields
    repeat refine .field fun _ => ?_
    exact .done (by simp)
  · intro ms s h
    simp only [fields, SettingsField.read, List.forall_mem_cons] at h
    simp only [ofMembers?, h, Option.bind_eq_bind, Option.bind_some]

theorem TransportSettings.readsFields : ReadsFields ofMembers? fields := by
  apply ReadsFields.of_readsOn
  · intro ms
    unfold ofMembers? fields
    repeat refine .field fun _ => ?_
    exact .done (by simp)
  · intro ms s h
    simp only [fields, SettingsField.read, List.forall_mem_cons] at h
    simp only [ofMembers?, h, Option.bind_eq_bind, Option.bind_some]

/-- The own members and those of the transport settings are read from the same object. -/
theorem RtcSettings.readsFields : ReadsFields ofMembers? fields := by
  apply ReadsFields.of_readsOn
  · intro ms
    unfold ofMembers? fields ownFields
    rw [ofMembers?_shared]
    iterate 6 refine .field fun _ => ?_
    exact .part TransportSettings.readsFields (fun _ => rfl) (by simp)
  · intro ms s h
    obtain ⟨hown, hparts⟩ := List.forall_mem_append.mp h
    have ht : TransportSettings.ofMembers? ms = some s.transport :=
      (TransportSettings.readsFields.eq_some_iff ms _).mpr (List.forall_mem_map.mp hparts)
    simp only [ownFields, SettingsField.read, List.forall_mem_cons] at hown
    simp only [ofMembers?, ofMembers?_shared, hown, ht, Option.bind_eq_bind, Option.bind_some]

/-! ## Settings objects -/

/-- A decoder of settings whose objects are read from the given fields. -/
inductive IsSettings : {σ : Type} → (Json → Option σ) → List (SettingsField σ) → Prop
  | rtc : IsSettings RtcSettings.ofJson? RtcSettings.fields
  | transport : IsSettings TransportSettings.ofJson? TransportSettings.fields
  | turnServer : IsSettings TurnServer.ofJson? TurnServer.fields
  | filter : IsSettings Filter.ofJson? Filter.fields
  | congestion : IsSettings CongestionSettings.ofJson? CongestionSettings.fields
  | portRange : IsSettings PortRange.ofJson? PortRange.fields

namespace IsSettings

variable {σ : Type} {decode : Json → Option σ} {fields : List (SettingsField σ)}

theorem readsFields (h : IsSettings decode fields) :
    ReadsFields (fun ms => decode (.object ms)) fields := by
  cases h with
  | rtc => exact RtcSettings.readsFields
  | transport => exact TransportSettings.readsFields
  | turnServer => exact TurnServer.readsFields
  | filter => exact Filter.readsFields
  | congestion => exact CongestionSettings.readsFields
  | portRange => exact PortRange.readsFields

theorem nodup_names (h : IsSettings decode fields) : (fields.map SettingsField.name).Nodup := by
  cases h <;> decide +kernel

theorem eq_of_name_eq (h : IsSettings decode fields) {f g : SettingsField σ} (hf : f ∈ fields)
    (hg : g ∈ fields) (hname : f.name = g.name) : f = g :=
  List.inj_on_of_nodup_map h.nodup_names hf hg hname

theorem exists_members (h : IsSettings decode fields) (s : σ) :
    ∃ ms, decode (.object ms) = some s := by
  cases h with
  | rtc => exact ⟨_, RtcSettings.encodes.decode s⟩
  | transport => exact ⟨_, TransportSettings.encodes.decode s⟩
  | turnServer => exact ⟨_, TurnServer.encodes.decode s⟩
  | filter => exact ⟨_, Filter.encodes.decode s⟩
  | congestion => exact ⟨_, CongestionSettings.encodes.decode s⟩
  | portRange => exact ⟨_, PortRange.encodes.decode s⟩

/-- Settings have no part but their fields. -/
theorem eq_of_fields (h : IsSettings decode fields) {s t : σ}
    (hst : ∀ f ∈ fields, f.get s = f.get t) : s = t := by
  obtain ⟨ms, hs⟩ := h.exists_members s
  have ht : decode (.object ms) = some t := by
    rw [h.readsFields.eq_some_iff]
    intro f hf
    rw [← hst f hf]
    exact (h.readsFields.eq_some_iff ms s).mp hs f hf
  rw [hs] at ht
  exact Option.some.inj ht

end IsSettings

end RtcConfig
