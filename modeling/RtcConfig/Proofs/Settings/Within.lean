import RtcConfig.Proofs.Settings.Positional

/-! # Records given as arrays inside others

A record may be given as an array wherever it stands in a document. The document is read as the one
with the object in its place, and is refused if the array is longer than the fields of the record. A
text of settings is read alike too, since both forms nest equally deep.
-/

namespace RtcConfig

open Json

/-- A place in documents for a value that is read by a decoder of its own, at any depth. -/
inductive Within {β : Type} (inner : Json → Option β) :
    {α : Type} → (Json → Option α) → (Json → Json) → Prop
  | here : Within inner inner id
  | member {σ : Type} {decode : Json → Option σ} {fields : List (SettingsField σ)}
    (before after : Members) {f : SettingsField σ} {fill : Json → Json}
    (hset : IsSettings decode fields) (hf : f ∈ fields) (h : Within inner f.decode fill) :
    Within inner decode fun v => .object (before ++ (f.name, fill v) :: after)
  | slot {σ : Type} {toJson : σ → Json} {ofText? : String → Option σ} {decode : Json → Option σ}
    {fields : List (SettingsField σ)} (before after : List Json) {f : SettingsField σ}
    {fill : Json → Json} (hset : IsSettings decode fields)
    (hrecord : IsRecord toJson ofText? decode (fields.map SettingsField.name))
    (hf : fields[before.length]? = some f) (h : Within inner f.decode fill) :
    Within inner decode fun v => .array (before ++ fill v :: after)
  | item {α : Type} {decode : Json → Option α} (before after : List Json) {fill : Json → Json}
    (h : Within inner decode fill) :
    Within inner (list? decode) fun v => .array (before ++ fill v :: after)

/-! ## Members and items that are refused -/

/-- A member of a field that does not decode makes the object be refused. -/
theorem IsSettings.decode_member_eq_none {σ : Type} {decode : Json → Option σ}
    {fields : List (SettingsField σ)} (h : IsSettings decode fields) {f : SettingsField σ}
    (hf : f ∈ fields) (before after : Members) {v : Json} (hv : f.decode v = none) :
    decode (.object (before ++ (f.name, v) :: after)) = none := by
  rw [h.readsFields.eq_none_iff]
  refine ⟨f, hf, ?_⟩
  rw [SettingsField.read, Members.field_insert, hv, ite_self]

theorem Json.Members.exists_zip_append_cons {names : List String} {before : List Json}
    {name : String} (h : names[before.length]? = some name) (after : List Json) :
    ∃ front back : Members, ∀ v,
      names.zip (before ++ v :: after) = front ++ (name, v) :: back := by
  induction names generalizing before with
  | nil => simp at h
  | cons first names ih =>
    cases before with
    | nil =>
      obtain rfl := Option.some.inj h
      exact ⟨[], names.zip after, fun v => rfl⟩
    | cons w before =>
      obtain ⟨front, back, hzip⟩ := ih h
      refine ⟨(first, w) :: front, back, fun v => ?_⟩
      rw [List.cons_append, List.zip_cons_cons, hzip, List.cons_append]

/-- An item of an array stands for the member of the field at its place. -/
theorem IsRecord.exists_decode_item {σ : Type} {toJson : σ → Json} {ofText? : String → Option σ}
    {decode : Json → Option σ} {fields : List (SettingsField σ)}
    (h : IsRecord toJson ofText? decode (fields.map SettingsField.name)) {before : List Json}
    {f : SettingsField σ} (hf : fields[before.length]? = some f) (after : List Json) :
    ∃ front back : Members, ∀ v, decode (.array (before ++ v :: after)) =
      if before.length + (after.length + 1) ≤ fields.length then
        decode (.object (front ++ (f.name, v) :: back)) else none := by
  have hname : (fields.map SettingsField.name)[before.length]? = some f.name := by
    rw [List.getElem?_map, hf, Option.map_some]
  obtain ⟨front, back, hzip⟩ := Members.exists_zip_append_cons hname after
  refine ⟨front, back, fun v => ?_⟩
  rw [h.decode_array, hzip]
  simp only [List.length_append, List.length_cons, List.length_map]

namespace Within

variable {α β : Type} {inner : Json → Option β} {decode : Json → Option α} {fill : Json → Json}

/-- What is read of the document depends on what is read of the value only. -/
theorem decode_congr (h : Within inner decode fill) {v w : Json} (hvw : inner v = inner w) :
    decode (fill v) = decode (fill w) := by
  induction h with
  | here => exact hvw
  | member before after hset hf _ ih => exact hset.decode_member hf before after ih
  | slot before after hset hrecord hf _ ih =>
    obtain ⟨front, back, harray⟩ := hrecord.exists_decode_item hf after
    rw [harray, harray, hset.decode_member (List.mem_of_getElem? hf) front back ih]
  | item before after _ ih => simp only [list?, List.mapM_append, List.mapM_cons, ih]

theorem decode_eq_none (h : Within inner decode fill) {v : Json} (hv : inner v = none) :
    decode (fill v) = none := by
  induction h with
  | here => exact hv
  | member before after hset hf _ ih => exact hset.decode_member_eq_none hf before after ih
  | slot before after hset hrecord hf _ ih =>
    obtain ⟨front, back, harray⟩ := hrecord.exists_decode_item hf after
    rw [harray, hset.decode_member_eq_none (List.mem_of_getElem? hf) front back ih, ite_self]
  | item before after _ ih => simp [list?, ih]

theorem canHold_congr (h : Within inner decode fill) {v w : Json}
    (hvw : ∀ limit, v.canHold limit = w.canHold limit) (limit : Nat) :
    (fill v).canHold limit = (fill w).canHold limit := by
  induction h generalizing limit with
  | here => exact hvw limit
  | member before after _ _ _ ih => exact canHold_member ih before after _ limit
  | slot before after _ _ _ _ ih => exact canHold_item ih before after limit
  | item before after _ ih => exact canHold_item ih before after limit

variable {toJson : β → Json} {ofText? : String → Option β} {names : List String}

/-- A document with an array for a record is read as the one with the object in its place. -/
theorem decode_array_iff (h : Within inner decode fill)
    (hrecord : IsRecord toJson ofText? inner names) (items : List Json) (a : α) :
    decode (fill (.array items)) = some a ↔
      items.length ≤ names.length ∧ decode (fill (.object (names.zip items))) = some a := by
  by_cases hle : items.length ≤ names.length
  · have hsame : inner (.array items) = inner (.object (names.zip items)) := by
      rw [hrecord.decode_array, if_pos hle]
    simp [h.decode_congr hsame, hle]
  · have hnone : inner (.array items) = none := by
      rw [hrecord.decode_array, if_neg hle]
    simp [h.decode_eq_none hnone, hle]

end Within

/-! ## Texts -/

/-- Both forms of a record nest equally deep. -/
theorem Json.canHold_zip {names : List String} {items : List Json}
    (h : items.length ≤ names.length) (limit : Nat) :
    canHold limit (.array items) = canHold limit (.object (names.zip items)) := by
  have hvalues : (∀ v ∈ items, v.canHold (limit - 1)) ↔
      ∀ m ∈ names.zip items, m.2.canHold (limit - 1) := by
    conv_lhs => rw [← List.map_snd_zip h]
    exact List.forall_mem_map
  rw [Bool.eq_iff_iff, canHold_array_iff, canHold_object_iff, hvalues]

/-- Texts with an array for a record are read as those with the object in its place. -/
def ReadsArraysWithin {σ : Type} (ofText? : String → Option σ) (fields : List (SettingsField σ)) :
    Prop :=
  ∀ {β : Type} {toJson : β → Json} {ofText?' : String → Option β} {inner : Json → Option β}
    {names : List String} {f : SettingsField σ} {fill : Json → Json} {text text' : String}
    (before after : Members) (items : List Json), IsRecord toJson ofText?' inner names →
    f ∈ fields → Within inner f.decode fill →
    Json.read text = some (.object (before ++ (f.name, fill (.array items)) :: after)) →
    Json.read text' =
      some (.object (before ++ (f.name, fill (.object (names.zip items))) :: after)) →
    ∀ s, ofText? text = some s ↔ items.length ≤ names.length ∧ ofText? text' = some s

theorem ReadsArraysWithin.of_canHoldUnder {σ : Type} {ofText? : String → Option σ}
    {decode : Json → Option σ} {held : Json → List Json} {fields : List (SettingsField σ)}
    (hset : IsSettings decode fields) (asks : String → Bool)
    (htext : ∀ text, ofText? text = (Json.read text).bind fun v =>
      if (held v).all (canHold (nestingLimit - 1)) then decode v else none)
    (hheld : ∀ ms, (held (.object ms)).all (canHold (nestingLimit - 1)) =
      canHoldUnder asks (.object ms)) : ReadsArraysWithin ofText? fields := by
  intro β toJson ofText?' inner names f fill text text' before after items hrecord hf h hread
    hread' s
  have hobject {text : String} {ms : Members} (hread : Json.read text = some (.object ms)) :
      ofText? text = some s ↔
        canHoldUnder asks (.object ms) ∧ decode (.object ms) = some s := by
    rw [htext, hread, Option.bind_some, hheld]
    simp
  have hdecode := (h.member before after hset hf).decode_array_iff hrecord items s
  rw [hobject hread, hobject hread', hdecode]
  -- An array that is too long is refused whatever its nesting, which the object need not have.
  by_cases hle : items.length ≤ names.length
  · rw [canHoldUnder_member (h.canHold_congr (canHold_zip hle))]
    simp [hle]
  · simp [hle]

theorem TransportSettings.readsArraysWithin : ReadsArraysWithin ofText? fields :=
  ReadsArraysWithin.of_canHoldUnder .transport (· == "udp_port") (fun _ => rfl)
    fun _ => List.all_map

theorem RtcSettings.readsArraysWithin : ReadsArraysWithin ofText? fields :=
  ReadsArraysWithin.of_canHoldUnder .rtc (fun name => !ownNames.contains name) (fun _ => rfl)
    fun _ => List.all_map

/-- Every record is read from an array as from the object that gives the same values in the order of
its fields, alone and wherever it stands in settings. Where fields are required, neither form may
leave them out. -/
theorem records_readArrays :
    (∀ {σ : Type} {toJson : σ → Json} {ofText? : String → Option σ} {decode : Json → Option σ}
      {names : List String}, IsRecord toJson ofText? decode names →
        ReadsArrays toJson ofText? decode names) ∧
      (∀ items : List Json, items.length < BufferSizing.names.length →
        BufferSizing.ofJson? (.array items) = none ∧
          BufferSizing.ofJson? (.object (BufferSizing.names.zip items)) = none) ∧
      (∀ items : List Json, items.length < IceServer.names.length →
        IceServer.ofJson? (.array items) = none ∧
          IceServer.ofJson? (.object (IceServer.names.zip items)) = none) ∧
      (∀ {α β : Type} {toJson : β → Json} {ofText? : String → Option β} {inner : Json → Option β}
        {names : List String} {decode : Json → Option α} {fill : Json → Json},
        IsRecord toJson ofText? inner names → Within inner decode fill → ∀ items a,
          decode (fill (.array items)) = some a ↔
            items.length ≤ names.length ∧ decode (fill (.object (names.zip items))) = some a) ∧
      ReadsArraysWithin RtcSettings.ofText? RtcSettings.fields ∧
      ReadsArraysWithin TransportSettings.ofText? TransportSettings.fields :=
  ⟨IsRecord.readsArrays, fun _ => BufferSizing.refuses_short, fun _ => IceServer.refuses_short,
    fun hrecord h => h.decode_array_iff hrecord, RtcSettings.readsArraysWithin,
    TransportSettings.readsArraysWithin⟩

namespace RtcSettings

/-- The first values of a TURN server. -/
def turnItems : List Json := [.string "turn.example.org", .ofNat 443]

/-- Settings with one TURN server. -/
def membersWith (server : Json) : Members :=
  [("strict_acks", .bool true), ("turn_servers", .array [server])]

theorem records_readArrays_turnItems :
    IsRecord TurnServer.toJson (readAs TurnServer.ofJson?) TurnServer.ofJson?
      (TurnServer.fields.map SettingsField.name) ∧
    TurnServer.ofJson? (.array turnItems) = some { host := "turn.example.org", port := 443 } ∧
    [Json.ofNat 500].length < BufferSizing.names.length ∧
    BufferSizing.ofJson? (.array [.ofNat 500]) = none ∧
    [Json.array [], .string "user"].length < IceServer.names.length ∧
    IceServer.ofJson? (.array [.array [], .string "user"]) = none ∧
    Within TurnServer.ofJson? (list? TurnServer.ofJson?) (fun v => .array ([] ++ v :: [])) ∧
    list? TurnServer.ofJson? (.array [.array turnItems]) =
      some [{ host := "turn.example.org", port := 443 }] ∧
    Json.read (Json.object (membersWith (.array turnItems))).write =
      some (.object (membersWith (.array turnItems))) ∧
    ofText? (Json.object (membersWith (.array turnItems))).write = some {
      strictAcks := true
      transport.turnServers := [{ host := "turn.example.org", port := 443 }] } := by
  obtain ⟨hrecords, hsizes, hserver, hwithin, htexts, -⟩ := records_readArrays
  have hturn := (hrecords .turnServer).decode_iff turnItems
  have hplace : Within TurnServer.ofJson? (list? TurnServer.ofJson?)
      (fun v => .array ([] ++ v :: [])) := .item [] [] .here
  have harray : Json.read (Json.object (membersWith (.array turnItems))).write =
      some (.object (membersWith (.array turnItems))) := read_write (by decide +kernel)
  have hobject : Json.read (Json.object (membersWith (.object
      [("host", .string "turn.example.org"), ("port", .ofNat 443)]))).write =
        some (.object (membersWith (.object
          [("host", .string "turn.example.org"), ("port", .ofNat 443)]))) :=
    read_write (by decide +kernel)
  refine ⟨.turnServer, (hturn _).mpr ⟨by decide, by decide +kernel⟩, by decide,
    (hsizes _ (by decide)).1, by decide, (hserver _ (by decide)).1, hplace,
    (hwithin .turnServer hplace _ _).mpr ⟨by decide, by decide +kernel⟩, harray, ?_⟩
  refine (htexts [("strict_acks", .bool true)] [] turnItems .turnServer turnServers_mem_fields
    hplace harray hobject _).mpr ⟨by decide, ?_⟩
  exact (ofText?_object hobject _).mpr ⟨by decide +kernel, by decide +kernel⟩

end RtcSettings

end RtcConfig
