import RtcConfig.Proofs.Settings.Flatten

/-! # The UDP port in a document

The UDP port stands under its name among the members of an object, or as the first item of an
array. What is read of all the other settings does not depend on it: documents that differ in their
UDP port alone are read as settings that do. A single port may be written in several forms, as a
number or as a range that ends with it or leaves out its end.
-/

namespace RtcConfig

open Json

/-- Where the UDP port of transport settings stands in a document. -/
inductive UdpPlace where
  | member (before after : Members)
  | firstItem (items : List Json)

namespace UdpPlace

/-- The document with a value as the UDP port. -/
def fill (v : Json) : UdpPlace → Json
  | member before after => .object (before ++ ("udp_port", v) :: after)
  | firstItem items => .array (v :: items)

/-- Where neither what is held nor what is read of all others depends on the UDP port, a text is
read as the others with this port. -/
theorem exists_others {α : Type} {held : Json → List Json} {decode : Json → Option α}
    {set : PortRange → α → α} (place : UdpPlace)
    (hheld : ∀ {v w : Json} {p : Json → Bool}, p v = p w →
      (held (place.fill v)).all p = (held (place.fill w)).all p)
    (hdecode : ∃ others : Option α, ∀ v, decode (place.fill v) =
      (PortRange.ofJson? v).bind fun r => others.map (set r)) :
    ∃ others : Option α, ∀ text v r, read text = some (place.fill v) →
      v.canHold (nestingLimit - 1) → PortRange.ofJson? v = some r →
        ((read text).bind fun w =>
          if (held w).all (canHold (nestingLimit - 1)) then decode w else none) =
            others.map (set r) := by
  obtain ⟨others, hothers⟩ := hdecode
  refine ⟨if (held (place.fill .null)).all (canHold (nestingLimit - 1)) then others else none, ?_⟩
  intro text v r hread hv hr
  have hnull : canHold (nestingLimit - 1) v = canHold (nestingLimit - 1) .null := hv
  rw [hread, Option.bind_some, hheld hnull, hothers, hr]
  split <;> rfl

end UdpPlace

/-! ## Members -/

namespace Json.Members

variable {α : Type} {name key : String} (before after : Members) (v : Json)

theorem values_append (ms ns : Members) (name : String) :
    values (ms ++ ns) name = ms.values name ++ ns.values name := by
  rw [values, List.filter_append, List.map_append]
  rfl

theorem values_insert (key : String) : values (before ++ (key, v) :: after) key =
    before.values key ++ v :: after.values key := by
  rw [values_append]
  simp [values]

theorem values_insert_of_ne (h : name ≠ key) :
    values (before ++ (key, v) :: after) name = values (before ++ after) name := by
  rw [values_append, values_append]
  simp [values, h.symm]

theorem field_insert_of_ne (h : name ≠ key) (decode : Json → Option α) (absent : Option α) :
    field (before ++ (key, v) :: after) name decode absent =
      field (before ++ after) name decode absent := by
  rw [field, values_insert_of_ne before after v h, field]

/-- A member is the only one of its name, or the field is refused. -/
theorem field_insert (key : String) (decode : Json → Option α) (absent : Option α) :
    field (before ++ (key, v) :: after) key decode absent =
      if values (before ++ after) key = [] then decode v else none := by
  rw [field, values_insert, values_append]
  cases before.values key with
  | cons w ws => cases ws <;> simp
  | nil =>
    cases after.values key with
    | cons w ws => simp
    | nil => simp

end Json.Members

/-! ## Transport settings -/

section

variable {α β : Type} {set : β → β}

/-- A change of the result passes a step that does not depend on what changes. -/
theorem bind_eq_map {o : Option α} {f g : α → Option β} (h : ∀ a, f a = (g a).map set) :
    o >>= f = (o >>= g).map set := by
  cases o with
  | none => rfl
  | some a => exact h a

/-- The step in which the change is made. -/
theorem some_bind_eq_map {a b : α} {f : α → Option β} (h : f a = (f b).map set) :
    some a >>= f = (some b >>= f).map set := h

theorem map_done (items : List Json) (b : β) : (done items b).map set = done items (set b) := by
  unfold done
  split <;> rfl

end

namespace TransportSettings

theorem ofMembers?_insert (before after : Members) (v : Json) :
    ofMembers? (before ++ ("udp_port", v) :: after) =
      (PortRange.ofJson? v).bind fun r =>
        (if Members.values (before ++ after) "udp_port" = [] then ofMembers? (before ++ after)
          else none).map fun s => { s with udpPort := r } := by
  unfold ofMembers?
  rw [Members.field_insert]
  simp (disch := decide) only [Members.field_insert_of_ne]
  split
  · next hnone =>
    have habsent : Members.field (before ++ after) "udp_port" PortRange.ofJson? (some {}) =
        some {} := by
      rw [Members.field, hnone]
    rw [habsent]
    cases PortRange.ofJson? v with
    | none => rfl
    | some r =>
      rw [Option.bind_some]
      refine some_bind_eq_map ?_
      -- Each setting behind the UDP port is one step.
      repeat refine bind_eq_map fun _ => ?_
      rfl
  · cases PortRange.ofJson? v <;> rfl

theorem ofItems?_cons (v : Json) (items : List Json) :
    ofItems? (v :: items) = (PortRange.ofJson? v).bind fun r =>
      (ofItems? (PortRange.toJson {} :: items)).map fun s => { s with udpPort := r } := by
  unfold ofItems?
  have hunset : next (PortRange.toJson {} :: items) PortRange.ofJson? (some {}) =
      some ({}, items) := by
    rw [next, PortRange.encodes.decode]
    rfl
  have hnext : next (v :: items) PortRange.ofJson? (some {}) =
      (PortRange.ofJson? v).map fun r => (r, items) := rfl
  rw [hunset, hnext]
  cases PortRange.ofJson? v with
  | none => rfl
  | some r =>
    rw [Option.bind_some, Option.map_some]
    refine some_bind_eq_map ?_
    repeat
      refine bind_eq_map ?_
      rintro ⟨_, items⟩
    rw [map_done]

/-- What is held beside the UDP port does not depend on it. -/
theorem all_held_fill (place : UdpPlace) {v w : Json} {p : Json → Bool} (h : p v = p w) :
    (held (place.fill v)).all p = (held (place.fill w)).all p := by
  cases place with
  | member before after => simp [held, UdpPlace.fill, Members.values_insert, h]
  | firstItem items => simp [held, UdpPlace.fill, h]

theorem exists_ofJson?_fill (place : UdpPlace) : ∃ others : Option TransportSettings,
    ∀ v, ofJson? (place.fill v) =
      (PortRange.ofJson? v).bind fun r => others.map fun s => { s with udpPort := r } := by
  cases place with
  | member before after => exact ⟨_, ofMembers?_insert before after⟩
  | firstItem items => exact ⟨_, fun v => ofItems?_cons v items⟩

/-- A document is read as settings that depend on its UDP port in nothing but theirs. -/
theorem exists_ofText?_fill (place : UdpPlace) : ∃ others : Option TransportSettings,
    ∀ text v r, read text = some (place.fill v) → v.canHold (nestingLimit - 1) →
      PortRange.ofJson? v = some r →
        ofText? text = others.map fun s => { s with udpPort := r } :=
  place.exists_others (all_held_fill place) (exists_ofJson?_fill place)

end TransportSettings

namespace RtcSettings

theorem shared_insert (before after : Members) (v : Json) :
    shared (before ++ ("udp_port", v) :: after) =
      shared before ++ ("udp_port", v) :: shared after := by
  have hown : "udp_port" ∉ ownNames := by decide
  simp [shared, hown]

theorem all_held_fill (place : UdpPlace) {v w : Json} {p : Json → Bool} (h : p v = p w) :
    (held (place.fill v)).all p = (held (place.fill w)).all p := by
  cases place with
  | member before after => simp [held, UdpPlace.fill, shared_insert, h]
  | firstItem items => rfl

theorem ofMembers?_insert (before after : Members) (v : Json) :
    ofMembers? (before ++ ("udp_port", v) :: after) =
      (PortRange.ofJson? v).bind fun r =>
        (if Members.values (before ++ after) "udp_port" = [] then ofMembers? (before ++ after)
          else none).map fun s => { s with transport := { s.transport with udpPort := r } } := by
  unfold ofMembers?
  simp (disch := decide) only [Members.field_insert_of_ne, ofMembers?_shared,
    TransportSettings.ofMembers?_insert]
  cases PortRange.ofJson? v with
  | none => simp
  | some r =>
    split
    · rw [Option.bind_some]
      repeat refine bind_eq_map fun _ => ?_
      cases TransportSettings.ofMembers? (before ++ after) <;> rfl
    · simp

theorem exists_ofJson?_fill (place : UdpPlace) : ∃ others : Option RtcSettings,
    ∀ v, ofJson? (place.fill v) = (PortRange.ofJson? v).bind fun r =>
      others.map fun s => { s with transport := { s.transport with udpPort := r } } := by
  cases place with
  | member before after => exact ⟨_, ofMembers?_insert before after⟩
  | firstItem items =>
    refine ⟨none, fun v => ?_⟩
    cases PortRange.ofJson? v <;> rfl

theorem exists_ofText?_fill (place : UdpPlace) : ∃ others : Option RtcSettings,
    ∀ text v r, read text = some (place.fill v) → v.canHold (nestingLimit - 1) →
      PortRange.ofJson? v = some r → ofText? text =
        others.map fun s => { s with transport := { s.transport with udpPort := r } } :=
  place.exists_others (all_held_fill place) (exists_ofJson?_fill place)

end RtcSettings

/-! ## Forms of a single port -/

/-- A single port as a document has it: as a number, or as a range without an end, with zero as its
end or with itself as its end. -/
inductive SinglePort (port : UInt16) : Json → Prop
  | number : SinglePort port (.ofNat port.toNat)
  | start : SinglePort port (.object [("start", .ofNat port.toNat)])
  | startEnd {last : UInt16} (hlast : last = 0 ∨ last = port) :
    SinglePort port (.object [("start", .ofNat port.toNat), ("end", .ofNat last.toNat)])
  | endStart {last : UInt16} (hlast : last = 0 ∨ last = port) :
    SinglePort port (.object [("end", .ofNat last.toNat), ("start", .ofNat port.toNat)])

namespace SinglePort

variable {port : UInt16} {v : Json}

theorem canHold (h : SinglePort port v) : v.canHold (nestingLimit - 1) := by
  cases h <;> rfl

theorem exists_ofJson? (h : SinglePort port v) :
    ∃ last, (last = 0 ∨ last = port) ∧ PortRange.ofJson? v = some ⟨port, last⟩ := by
  have hread (p : UInt16) : uint16? (.ofNat p.toNat) = some p := encodes_uint16.decode p
  cases h with
  | number =>
    refine ⟨0, .inl rfl, ?_⟩
    show (uint16? (.ofNat port.toNat)).map (fun p => (⟨p, 0⟩ : PortRange)) = _
    rw [hread]
    rfl
  | start =>
    refine ⟨0, .inl rfl, ?_⟩
    simp [PortRange.ofJson?, PortRange.ofMembers?, Members.field, Members.values, hread]
  | startEnd hlast | endStart hlast =>
    refine ⟨_, hlast, ?_⟩
    simp [PortRange.ofJson?, PortRange.ofMembers?, Members.field, Members.values, hread]

end SinglePort

end RtcConfig
