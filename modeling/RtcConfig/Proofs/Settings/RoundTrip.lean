import RtcConfig.Buffer.Sizing
import RtcConfig.Ice.Server
import RtcConfig.Proofs.Json.Held
import RtcConfig.Settings.Reader
import RtcConfig.Settings.Writer

/-! # Writing and reading settings

Every settings record is read back as it is written: its text denotes its JSON form, and decoding
the JSON form finds each field under its name. The values held on the way are representable and
nest three deep at most.
-/

namespace RtcConfig

namespace Json

/-- The JSON form loses nothing: its text denotes it, and it decodes to what it was made from. -/
structure Encodes {α : Type} (toJson : α → Json) (ofJson? : Json → Option α) : Prop where
  denotable : ∀ a, (toJson a).isDenotable
  decode : ∀ a, ofJson? (toJson a) = some a

/-- A value of the type that a text denotes. -/
def readAs {α : Type} (ofJson? : Json → Option α) (text : String) : Option α :=
  (read text).bind ofJson?

/-- What is written is read back, so writing what was read loses nothing, and different values have
different texts. -/
structure RoundTrips {α : Type} (toJson : α → Json) (ofText? : String → Option α) : Prop where
  read_write : ∀ a, ofText? (toJson a).write = some a
  rewrite : ∀ text a, ofText? text = some a → ofText? (toJson a).write = ofText? text
  injective : ∀ a b, (toJson a).write = (toJson b).write → a = b

section

variable {α : Type} {toJson : α → Json} {ofJson? : Json → Option α} {ofText? : String → Option α}

theorem RoundTrips.of_read_write (h : ∀ a, ofText? (toJson a).write = some a) :
    RoundTrips toJson ofText? where
  read_write := h
  rewrite := by
    intro text a ha
    rw [h, ha]
  injective := by
    intro a b hab
    apply Option.some.inj
    rw [← h a, hab, h b]

theorem Encodes.roundTrips (h : Encodes toJson ofJson?) : RoundTrips toJson (readAs ofJson?) := by
  apply RoundTrips.of_read_write
  intro a
  rw [readAs, read_write (h.denotable a), Option.bind_some, h.decode]

/-! ## Parts of records -/

theorem itemsDenotable_map (h : ∀ a, (toJson a).isDenotable) (as : List α) :
    itemsDenotable (as.map toJson) := by
  induction as with
  | nil => rfl
  | cons a as ih => simp [itemsDenotable, h, ih]

theorem Encodes.list (h : Encodes toJson ofJson?) :
    Encodes (fun as => .array (as.map toJson)) (list? ofJson?) where
  denotable as := itemsDenotable_map h.denotable as
  decode as := by
    rw [list?]
    induction as with
    | nil => rfl
    | cons a as ih =>
      rw [List.map_cons, List.mapM_cons, h.decode, ih]
      rfl

end

theorem encodes_string : Encodes .string string? := ⟨fun _ => rfl, fun _ => rfl⟩

theorem encodes_bool : Encodes .bool bool? := ⟨fun _ => rfl, fun _ => rfl⟩

theorem natural?_ofNat {n : Nat} (h : n < UInt64.size) : (Number.ofNat n).natural? = some n :=
  if_pos ⟨rfl, rfl, rfl, h⟩

theorem encodes_uint16 : Encodes (fun n : UInt16 => .ofNat n.toNat) uint16? where
  denotable n := Number.isFinite_ofNat (Nat.lt_trans n.toNat_lt (by decide))
  decode n := by
    have hnatural := natural?_ofNat (Nat.lt_trans n.toNat_lt (by decide : 2 ^ 16 < UInt64.size))
    simp [ofNat, uint16?, hnatural, n.toNat_lt]

theorem encodes_uint64 : Encodes (fun n : UInt64 => .ofNat n.toNat) uint64? where
  denotable n := Number.isFinite_ofNat n.toNat_lt
  decode n := by simp [ofNat, uint64?, natural?_ofNat n.toNat_lt, n.toNat_lt]

theorem encodes_strings : Encodes (fun ss : List String => .array (ss.map .string))
    (list? string?) :=
  encodes_string.list

theorem isDenotable_object (ms : Members) : (object ms).isDenotable = membersDenotable ms := rfl

theorem membersDenotable_append (ms ns : Members) :
    membersDenotable (ms ++ ns) = (membersDenotable ms && membersDenotable ns) := by
  induction ms with
  | nil => rfl
  | cons m ms ih => rw [List.cons_append, membersDenotable, membersDenotable, ih, Bool.and_assoc]

end Json

/-! ## Records -/

open Json

section

attribute [local simp] Members.field Members.values record? isDenotable_object membersDenotable

theorem PortRange.encodes : Encodes toJson ofJson? where
  denotable r := by simp [toJson, encodes_uint16.denotable]
  decode r := by simp [toJson, ofJson?, ofMembers?, encodes_uint16.decode]

theorem TurnServer.encodes : Encodes toJson ofJson? where
  denotable s := by simp [toJson, encodes_uint16.denotable, encodes_string.denotable]
  decode s := by simp [toJson, ofJson?, ofMembers?, encodes_uint16.decode, encodes_string.decode]

theorem CongestionSettings.encodes : Encodes toJson ofJson? where
  denotable s := by simp [toJson, encodes_bool.denotable]
  decode s := by simp [toJson, ofJson?, ofMembers?, encodes_bool.decode]

theorem Filter.encodes : Encodes toJson ofJson? where
  denotable f := by simp [toJson, encodes_strings.denotable]
  decode f := by simp [toJson, ofJson?, ofMembers?, encodes_strings.decode]

theorem BufferSizing.encodes : Encodes toJson ofJson? where
  denotable s := by simp [toJson, encodes_uint64.denotable]
  decode s := by simp [toJson, ofJson?, ofMembers?, encodes_uint64.decode]

theorem IceServer.encodes : Encodes toJson ofJson? where
  denotable s := by simp [toJson, encodes_strings.denotable, encodes_string.denotable]
  decode s := by simp [toJson, ofJson?, ofMembers?, encodes_strings.decode, encodes_string.decode]

theorem TransportSettings.membersDenotable_members (s : TransportSettings) :
    membersDenotable s.members := by
  simp [members, encodes_uint16.denotable, encodes_bool.denotable, encodes_string.denotable,
    encodes_strings.denotable, PortRange.encodes.denotable, TurnServer.encodes.list.denotable,
    Filter.encodes.denotable]

theorem TransportSettings.ofMembers?_members (s : TransportSettings) :
    ofMembers? s.members = some s := by
  simp [members, ofMembers?, encodes_uint16.decode, encodes_bool.decode, encodes_string.decode,
    encodes_strings.decode, PortRange.encodes.decode, TurnServer.encodes.list.decode,
    Filter.encodes.decode]

theorem TransportSettings.encodes : Encodes toJson ofJson? where
  denotable := membersDenotable_members
  decode := ofMembers?_members

/-- The own fields stand under other names than the transport settings. -/
theorem RtcSettings.shared_members (s : RtcSettings) : shared s.members = s.transport.members := by
  simp [shared, members, TransportSettings.members, ownNames]

theorem RtcSettings.encodes : Encodes toJson ofJson? where
  denotable s := by
    simp [toJson, members, membersDenotable_append, s.transport.membersDenotable_members,
      encodes_uint64.denotable, encodes_bool.denotable, CongestionSettings.encodes.denotable]
  decode s := by
    simp only [toJson, ofJson?, ofMembers?, shared_members, s.transport.ofMembers?_members]
    simp [members, TransportSettings.members, encodes_uint64.decode, encodes_bool.decode,
      CongestionSettings.encodes.decode]

end

/-! ## Held values -/

theorem PortRange.ofText?_eq_some {text : String} {r : PortRange} :
    ofText? text = some r ↔
      ∃ v, read text = some v ∧ v.canHold nestingLimit ∧ ofJson? v = some r := by
  cases hread : read text with
  | none => simp [ofText?, hread]
  | some v => simp [ofText?, hread]

theorem TransportSettings.ofText?_eq_some {text : String} {s : TransportSettings} :
    ofText? text = some s ↔ ∃ v, read text = some v ∧
      (∀ w ∈ held v, w.canHold (nestingLimit - 1)) ∧ ofJson? v = some s := by
  cases hread : read text with
  | none => simp [ofText?, hread]
  | some v => simp [ofText?, hread]

theorem RtcSettings.ofText?_eq_some {text : String} {s : RtcSettings} :
    ofText? text = some s ↔ ∃ v, read text = some v ∧
      (∀ w ∈ held v, w.canHold (nestingLimit - 1)) ∧ ofJson? v = some s := by
  cases hread : read text with
  | none => simp [ofText?, hread]
  | some v => simp [ofText?, hread]

theorem itemsDepth_strings (ss : List String) : itemsDepth (ss.map .string) = 0 := by
  apply Nat.eq_zero_of_le_zero
  rw [itemsDepth_le_iff]
  intro v hv
  obtain ⟨s, -, rfl⟩ := List.mem_map.mp hv
  exact Nat.le_refl 0

theorem Filter.depth_toJson (f : Filter String) : f.toJson.depth = 2 := by
  simp [toJson, depth, membersDepth, itemsDepth_strings]

theorem TurnServer.itemsDepth_toJson (ts : List TurnServer) : itemsDepth (ts.map toJson) ≤ 1 := by
  rw [itemsDepth_le_iff]
  intro v hv
  obtain ⟨t, -, rfl⟩ := List.mem_map.mp hv
  exact Nat.le_refl 1

/-- No transport setting nests deeper than the list of TURN servers and the filters. -/
theorem TransportSettings.membersDepth_members (s : TransportSettings) :
    membersDepth s.members ≤ 2 := by
  have hturns := TurnServer.itemsDepth_toJson s.turnServers
  simp only [members, membersDepth, depth, PortRange.toJson, ofNat, itemsDepth_strings,
    Filter.depth_toJson]
  omega

theorem TransportSettings.canHold_members {s : TransportSettings} {m : String × Json}
    (h : m ∈ s.members) : m.2.canHold (nestingLimit - 1) := by
  have hrepresentable : membersRepresentable s.members :=
    membersRepresentable_of_membersDenotable s.membersDenotable_members
  have hdepth : m.2.depth ≤ 2 := membersDepth_le_iff.mp s.membersDepth_members m h
  rw [canHold_iff]
  exact ⟨membersRepresentable_iff.mp hrepresentable m h, Nat.le_trans hdepth (by decide)⟩

/-! ## Texts -/

theorem PortRange.roundTrips : RoundTrips toJson ofText? := by
  apply RoundTrips.of_read_write
  intro r
  have hdepth : r.toJson.depth ≤ nestingLimit := by
    show 1 ≤ nestingLimit
    decide
  rw [ofText?_eq_some]
  exact ⟨r.toJson, read_write (encodes.denotable r),
    canHold_iff.mpr ⟨isRepresentable_of_isDenotable (encodes.denotable r), hdepth⟩,
    encodes.decode r⟩

theorem TransportSettings.roundTrips : RoundTrips toJson ofText? := by
  apply RoundTrips.of_read_write
  intro s
  rw [ofText?_eq_some]
  refine ⟨s.toJson, read_write (encodes.denotable s), ?_, encodes.decode s⟩
  intro w hw
  obtain ⟨m, hm, rfl⟩ := List.mem_map.mp hw
  exact canHold_members (List.mem_filter.mp hm).1

theorem RtcSettings.roundTrips : RoundTrips toJson ofText? := by
  apply RoundTrips.of_read_write
  intro s
  rw [ofText?_eq_some]
  refine ⟨s.toJson, read_write (encodes.denotable s), ?_, encodes.decode s⟩
  intro w hw
  obtain ⟨m, hm, rfl⟩ := List.mem_map.mp hw
  rw [shared_members] at hm
  exact TransportSettings.canHold_members hm

/-- Settings, the records in them, buffer sizes and ICE servers are read back as they are
written. -/
theorem settings_roundTrip :
    RoundTrips RtcSettings.toJson RtcSettings.ofText? ∧
      RoundTrips TransportSettings.toJson TransportSettings.ofText? ∧
      RoundTrips PortRange.toJson PortRange.ofText? ∧
      RoundTrips Filter.toJson (readAs Filter.ofJson?) ∧
      RoundTrips TurnServer.toJson (readAs TurnServer.ofJson?) ∧
      RoundTrips CongestionSettings.toJson (readAs CongestionSettings.ofJson?) ∧
      RoundTrips BufferSizing.toJson (readAs BufferSizing.ofJson?) ∧
      RoundTrips IceServer.toJson (readAs IceServer.ofJson?) :=
  ⟨RtcSettings.roundTrips, TransportSettings.roundTrips, PortRange.roundTrips,
    Filter.encodes.roundTrips, TurnServer.encodes.roundTrips,
    CongestionSettings.encodes.roundTrips, BufferSizing.encodes.roundTrips,
    IceServer.encodes.roundTrips⟩

end RtcConfig
