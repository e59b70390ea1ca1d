import RtcConfig.Proofs.Settings.RoundTrip

/-! # Settings and the transport settings among them

The members of an object are those of the settings' own fields and the rest, which is read as
transport settings. No transport setting bears the name of an own field, so the same object read as
transport settings alone gives the same ones. From a text the readers differ in what they hold:
every member that may be a transport setting, or only the UDP port. An unknown member that nests
beyond the limit is therefore skipped by one and refused by the other.
-/

namespace RtcConfig

open Json

namespace RtcSettings

variable {ms : Members} {name : String}

theorem values_shared (h : name ∉ ownNames) : Members.values (shared ms) name = ms.values name := by
  rw [Members.values, shared, List.filter_filter, Members.values]
  congr 1
  apply List.filter_congr
  intro m _
  by_cases hname : m.1 = name
  · simp [hname, h]
  · simp [hname]

theorem field_shared {α : Type} (h : name ∉ ownNames) (decode : Json → Option α)
    (absent : Option α) :
    Members.field (shared ms) name decode absent = ms.field name decode absent := by
  rw [Members.field, values_shared h, Members.field]

/-- The own members make no difference to the transport settings. -/
theorem ofMembers?_shared (ms : Members) :
    TransportSettings.ofMembers? (shared ms) = TransportSettings.ofMembers? ms := by
  unfold TransportSettings.ofMembers?
  simp (disch := decide) only [field_shared]

theorem transport_of_ofMembers? {s : RtcSettings} (h : ofMembers? ms = some s) :
    TransportSettings.ofMembers? ms = some s.transport := by
  simp only [ofMembers?, Option.bind_eq_bind, Option.bind_eq_some_iff, Option.some.injEq] at h
  obtain ⟨_, -, _, -, _, -, _, -, _, -, _, -, transport, htransport, rfl⟩ := h
  rw [← htransport, ofMembers?_shared]

/-! ## Objects without own members -/

theorem field_of_notOwn {α : Type} (h : ∀ m ∈ ms, m.1 ∉ ownNames) (hname : name ∈ ownNames)
    (decode : Json → Option α) (absent : Option α) :
    ms.field name decode absent = absent := by
  have hvalues : ms.values name = [] := by
    rw [Members.values, List.map_eq_nil_iff, List.filter_eq_nil_iff]
    intro m hm heq
    exact h m hm (eq_of_beq heq ▸ hname)
  rw [Members.field, hvalues]

theorem ofMembers?_of_notOwn (h : ∀ m ∈ ms, m.1 ∉ ownNames) :
    ofMembers? ms = (TransportSettings.ofMembers? ms).map fun t => { transport := t } := by
  unfold ofMembers?
  simp (disch := decide) only [field_of_notOwn h, ofMembers?_shared]
  cases TransportSettings.ofMembers? ms <;> rfl

theorem ofMembers?_iff_of_notOwn (h : ∀ m ∈ ms, m.1 ∉ ownNames) (s : RtcSettings) :
    ofMembers? ms = some s ↔
      TransportSettings.ofMembers? ms = some s.transport ∧ s = { transport := s.transport } := by
  rw [ofMembers?_of_notOwn h, Option.map_eq_some_iff]
  constructor
  · rintro ⟨t, ht, rfl⟩
    exact ⟨ht, rfl⟩
  · rintro ⟨ht, hs⟩
    exact ⟨s.transport, ht, hs.symm⟩

/-! ## Texts -/

variable {text : String}

theorem ofText?_object (h : read text = some (.object ms)) (s : RtcSettings) :
    ofText? text = some s ↔
      (∀ m ∈ shared ms, m.2.canHold (nestingLimit - 1)) ∧ ofMembers? ms = some s := by
  rw [ofText?_eq_some]
  constructor
  · rintro ⟨v, hv, hheld, hs⟩
    rw [h] at hv
    obtain rfl := Option.some.inj hv
    exact ⟨List.forall_mem_map.mp hheld, hs⟩
  · rintro ⟨hheld, hs⟩
    exact ⟨_, h, List.forall_mem_map.mpr hheld, hs⟩

theorem transport_ofText?_object (h : read text = some (.object ms)) (t : TransportSettings) :
    TransportSettings.ofText? text = some t ↔
      (∀ m ∈ ms.filter fun m => m.1 == "udp_port", m.2.canHold (nestingLimit - 1)) ∧
        TransportSettings.ofMembers? ms = some t := by
  rw [TransportSettings.ofText?_eq_some]
  constructor
  · rintro ⟨v, hv, hheld, ht⟩
    rw [h] at hv
    obtain rfl := Option.some.inj hv
    exact ⟨List.forall_mem_map.mp hheld, ht⟩
  · rintro ⟨hheld, ht⟩
    exact ⟨_, h, List.forall_mem_map.mpr hheld, ht⟩

/-- What the settings hold is all that the transport settings hold, and more. -/
theorem transport_of_ofText? (h : read text = some (.object ms)) {s : RtcSettings}
    (hs : ofText? text = some s) : TransportSettings.ofText? text = some s.transport := by
  rw [ofText?_object h] at hs
  rw [transport_ofText?_object h]
  refine ⟨fun m hm => hs.1 m ?_, transport_of_ofMembers? hs.2⟩
  obtain ⟨hmem, hname⟩ := List.mem_filter.mp hm
  rw [shared, List.mem_filter, eq_of_beq hname]
  exact ⟨hmem, by decide⟩

/-- An object read as settings gives the transport settings that it gives alone. Without own members
it is read as settings whenever it is read as transport settings and no member nests to the limit,
and the own fields take their defaults. -/
theorem ofText?_agrees (h : read text = some (.object ms)) :
    (∀ s, ofText? text = some s → TransportSettings.ofText? text = some s.transport) ∧
      ((∀ m ∈ ms, m.1 ∉ ownNames) →
        (∀ s, ofMembers? ms = some s ↔
          TransportSettings.ofMembers? ms = some s.transport ∧ s = { transport := s.transport }) ∧
        ((Json.object ms).isRepresentable → ∀ s, ofText? text = some s ↔
          TransportSettings.ofText? text = some s.transport ∧
            (∀ m ∈ ms, m.2.depth < nestingLimit) ∧ s = { transport := s.transport })) := by
  refine ⟨fun s => transport_of_ofText? h, fun hown => ⟨ofMembers?_iff_of_notOwn hown, ?_⟩⟩
  intro hrepresentable s
  have hshared : shared ms = ms := by
    rw [shared, List.filter_eq_self]
    intro m hm
    simpa using hown m hm
  have hheld (m : String × Json) (hm : m ∈ ms) :
      m.2.canHold (nestingLimit - 1) ↔ m.2.depth < nestingLimit := by
    rw [canHold_iff, Nat.le_sub_one_iff_lt (by decide)]
    exact and_iff_right (membersRepresentable_iff.mp hrepresentable m hm)
  rw [ofText?_object h, transport_ofText?_object h, ofMembers?_iff_of_notOwn hown, hshared]
  constructor
  · rintro ⟨hall, ht, hs⟩
    refine ⟨⟨fun m hm => hall m (List.mem_filter.mp hm).1, ht⟩, ?_, hs⟩
    exact fun m hm => (hheld m hm).mp (hall m hm)
  · rintro ⟨⟨-, ht⟩, hdepth, hs⟩
    exact ⟨fun m hm => (hheld m hm).mpr (hdepth m hm), ht, hs⟩

/-- An unknown name twice and the UDP port as a single port. -/
def unknownTwice : Members :=
  [("x", .null), ("udp_port", .ofNat 7882), ("x", .array [.string "x", .bool true])]

theorem ofText?_agrees_unknownTwice :
    read (Json.object unknownTwice).write = some (.object unknownTwice) ∧
      (∀ m ∈ unknownTwice, m.1 ∉ ownNames) ∧ (Json.object unknownTwice).isRepresentable ∧
      ofText? (Json.object unknownTwice).write =
        some { transport := { udpPort := ⟨7882, 0⟩ } } := by
  have hread : read (Json.object unknownTwice).write = some (.object unknownTwice) :=
    read_write (by decide +kernel)
  have hown : ∀ m ∈ unknownTwice, m.1 ∉ ownNames := by simp [unknownTwice, ownNames]
  have htransport : TransportSettings.ofText? (Json.object unknownTwice).write =
      some { udpPort := ⟨7882, 0⟩ } :=
    (transport_ofText?_object hread _).mpr ⟨by simp [unknownTwice]; decide, by decide +kernel⟩
  refine ⟨hread, hown, rfl, ?_⟩
  rw [((ofText?_agrees hread).2 hown).2 rfl]
  exact ⟨htransport, by simp [unknownTwice]; decide, rfl⟩

/-- An array that lies inside as many others. -/
def nested : Nat → Json
  | 0 => .array []
  | n + 1 => .array [nested n]

/-- One unknown member, which nests to the limit. -/
def deepMember : Members := [("x", nested 126)]

/-- The object names no field, but the unknown member nests to the limit: it is skipped among
transport settings and refused among settings. -/
theorem not_agrees_deepMember :
    read (Json.object deepMember).write = some (.object deepMember) ∧
      (∀ m ∈ deepMember, m.1 ∉ ownNames) ∧ (Json.object deepMember).isRepresentable ∧
      TransportSettings.ofText? (Json.object deepMember).write = some {} ∧
      ofText? (Json.object deepMember).write = none := by
  have hread : read (Json.object deepMember).write = some (.object deepMember) :=
    read_write (by decide +kernel)
  refine ⟨hread, by simp [deepMember, ownNames], by decide +kernel, ?_, ?_⟩
  · exact (transport_ofText?_object hread _).mpr ⟨by simp [deepMember], by decide +kernel⟩
  · rw [Option.eq_none_iff_forall_ne_some]
    intro s hs
    have hmem : ("x", nested 126) ∈ shared deepMember := by simp [shared, deepMember, ownNames]
    exact absurd (((ofText?_object hread s).mp hs).1 _ hmem) (by decide +kernel)

end RtcSettings

end RtcConfig
