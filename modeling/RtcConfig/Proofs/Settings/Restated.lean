import RtcConfig.Proofs.Settings.Fields

/-! # Documents that say the same settings

Members of settings objects, at any depth of a document, may change their order, and members that
are not recognised or that give an absent field its default value may come or go: the document is
decoded as before. From a text the settings are read as before as well, except that what the reader
holds must be representable and may not nest beyond the limit, which a member that comes can.
-/

namespace RtcConfig

open Json

/-! ## Reading of one object -/

/-- The result of reading an object field by field, unless something hinders the reader. -/
structure ReadsObject {σ : Type} (fields : List (SettingsField σ)) (hindered : Prop) (ms : Members)
    (result : Option σ) : Prop where
  eq_none_iff : result = none ↔ hindered ∨ ∃ f ∈ fields, f.Fails ms
  gives : ∀ s, result = some s → ∀ f ∈ fields, f.Gives ms (f.get s)

theorem ReadsFields.readsObject {σ : Type} {ofMembers? : Members → Option σ}
    {fields : List (SettingsField σ)} (h : ReadsFields ofMembers? fields) (ms : Members) :
    ReadsObject fields False ms (ofMembers? ms) where
  eq_none_iff := by
    rw [h.eq_none_iff, false_or]
    simp only [SettingsField.read_eq_none_iff]
  gives := by
    intro s hs f hf
    rw [← SettingsField.read_eq_some_iff]
    exact (h.eq_some_iff ms s).mp hs f hf

theorem ReadsFields.congr {σ : Type} {ofMembers? : Members → Option σ}
    {fields : List (SettingsField σ)} (h : ReadsFields ofMembers? fields) {ms ns : Members}
    (hread : ∀ f ∈ fields, f.read ms = f.read ns) : ofMembers? ms = ofMembers? ns := by
  cases hms : ofMembers? ms with
  | none =>
    obtain ⟨f, hf, hnone⟩ := (h.eq_none_iff ms).mp hms
    exact ((h.eq_none_iff ns).mpr ⟨f, hf, hread f hf ▸ hnone⟩).symm
  | some s =>
    have hns : ofMembers? ns = some s := by
      rw [h.eq_some_iff]
      intro f hf
      rw [← hread f hf]
      exact (h.eq_some_iff ms s).mp hms f hf
    exact hns.symm

/-- A member may have another value that decodes to the same. -/
theorem IsSettings.decode_member {σ : Type} {decode : Json → Option σ}
    {fields : List (SettingsField σ)} (h : IsSettings decode fields) {f : SettingsField σ}
    (hf : f ∈ fields) (before after : Members) {v w : Json} (hvw : f.decode v = f.decode w) :
    decode (.object (before ++ (f.name, v) :: after)) =
      decode (.object (before ++ (f.name, w) :: after)) := by
  apply h.readsFields.congr
  intro g hg
  unfold SettingsField.read
  by_cases hname : g.name = f.name
  · obtain rfl := h.eq_of_name_eq hg hf hname
    rw [Members.field_insert, Members.field_insert, hvw]
  · rw [Members.field_insert_of_ne _ _ _ hname, Members.field_insert_of_ne _ _ _ hname]

/-! ## Changes of a document -/

/-- Whether the members of an object can be held whose names are asked for. -/
def Json.canHoldUnder (asks : String → Bool) : Json → Bool
  | .object ms => (ms.filter fun m => asks m.1).all fun m => m.2.canHold (nestingLimit - 1)
  | _ => true

section

variable {v w : Json} (h : ∀ limit, v.canHold limit = w.canHold limit)

include h

theorem Json.canHold_member (before after : Members) (name : String) (limit : Nat) :
    canHold limit (.object (before ++ (name, v) :: after)) =
      canHold limit (.object (before ++ (name, w) :: after)) := by
  rw [Bool.eq_iff_iff, canHold_object_iff, canHold_object_iff]
  simp only [List.forall_mem_append, List.forall_mem_cons, h]

theorem Json.canHold_item (before after : List Json) (limit : Nat) :
    canHold limit (.array (before ++ v :: after)) =
      canHold limit (.array (before ++ w :: after)) := by
  rw [Bool.eq_iff_iff, canHold_array_iff, canHold_array_iff]
  simp only [List.forall_mem_append, List.forall_mem_cons, h]

theorem Json.canHoldUnder_member (asks : String → Bool) (before after : Members) (name : String) :
    canHoldUnder asks (.object (before ++ (name, v) :: after)) =
      canHoldUnder asks (.object (before ++ (name, w) :: after)) := by
  simp only [canHoldUnder, List.filter_append, List.all_append]
  by_cases hasks : asks name
  · simp [hasks, h]
  · simp [hasks]

end

/-- A document said again for the same decoder, with members added or left out only if they may. -/
inductive Restates (mayAdd : Prop) : {α : Type} → (Json → Option α) → Json → Json → Prop
  | refl {α : Type} (decode : Json → Option α) (v : Json) : Restates mayAdd decode v v
  | symm {α : Type} {decode : Json → Option α} {v w : Json} (h : Restates mayAdd decode v w) :
    Restates mayAdd decode w v
  | trans {α : Type} {decode : Json → Option α} {v w x : Json} (h : Restates mayAdd decode v w)
    (h' : Restates mayAdd decode w x) : Restates mayAdd decode v x
  | order {σ : Type} {decode : Json → Option σ} {fields : List (SettingsField σ)}
    {ms ns : Members} (hset : IsSettings decode fields) (h : ms.Perm ns) :
    Restates mayAdd decode (.object ms) (.object ns)
  | unknown {σ : Type} {decode : Json → Option σ} {fields : List (SettingsField σ)}
    (ms : Members) {name : String} (v : Json) (hadd : mayAdd) (hset : IsSettings decode fields)
    (hname : name ∉ fields.map SettingsField.name) :
    Restates mayAdd decode (.object ms) (.object ((name, v) :: ms))
  | default {σ : Type} {decode : Json → Option σ} {fields : List (SettingsField σ)} {ms : Members}
    {f : SettingsField σ} {v : Json} (hadd : mayAdd) (hset : IsSettings decode fields)
    (hf : f ∈ fields) (hnone : ms.values f.name = []) (hv : f.decode v = some f.absent) :
    Restates mayAdd decode (.object ms) (.object ((f.name, v) :: ms))
  | member {σ : Type} {decode : Json → Option σ} {fields : List (SettingsField σ)}
    (before after : Members) {f : SettingsField σ} {v w : Json} (hset : IsSettings decode fields)
    (hf : f ∈ fields) (h : Restates mayAdd f.decode v w) :
    Restates mayAdd decode (.object (before ++ (f.name, v) :: after))
      (.object (before ++ (f.name, w) :: after))
  | item {α : Type} {decode : Json → Option α} (before after : List Json) {v w : Json}
    (h : Restates mayAdd decode v w) :
    Restates mayAdd (list? decode) (.array (before ++ v :: after)) (.array (before ++ w :: after))

namespace Json.Members

theorem field_perm {α : Type} {ms ns : Members} (h : ms.Perm ns) (name : String)
    (decode : Json → Option α) (absent : Option α) :
    ms.field name decode absent = ns.field name decode absent := by
  have hvalues : (ms.values name).Perm (ns.values name) := (h.filter _).map _
  unfold field
  match hms : ms.values name with
  | [] =>
    rw [hms, List.nil_perm] at hvalues
    rw [hvalues]
  | [v] =>
    rw [hms, List.singleton_perm] at hvalues
    rw [hvalues]
  | v :: w :: vs =>
    have hlength := hvalues.length_eq
    rw [hms] at hlength
    match hns : ns.values name with
    | [] | [_] => simp [hns] at hlength
    | _ :: _ :: _ => rfl

end Json.Members

namespace Restates

variable {mayAdd : Prop} {α : Type} {decode : Json → Option α} {v w : Json}

/-- One case for each change: what was added or moved is not read, or is read the same. -/
theorem decode_eq (h : Restates mayAdd decode v w) : decode v = decode w := by
  induction h with
  | refl => rfl
  | symm _ ih => exact ih.symm
  | trans _ _ ih ih' => exact ih.trans ih'
  | order hset h => exact hset.readsFields.congr fun f _ => Members.field_perm h _ _ _
  | @unknown _ _ _ ms name v _ hset hname =>
    apply hset.readsFields.congr
    intro g hg
    have hne : g.name ≠ name := fun h => hname (List.mem_map.mpr ⟨g, hg, h⟩)
    exact (Members.field_insert_of_ne [] ms v hne _ _).symm
  | @default _ _ _ ms f v _ hset hf hnone hv =>
    apply hset.readsFields.congr
    intro g hg
    by_cases hname : g.name = f.name
    · obtain rfl := hset.eq_of_name_eq hg hf hname
      have habsent : g.read ms = some g.absent := by
        rw [SettingsField.read, Members.field, hnone]
      have hpresent : g.read ((g.name, v) :: ms) = g.decode v :=
        (Members.field_insert [] ms v _ _ _).trans (if_pos hnone)
      rw [habsent, hpresent, hv]
    · exact (Members.field_insert_of_ne [] ms v hname _ _).symm
  | member before after hset hf _ ih => exact hset.decode_member hf before after ih
  | item before after _ ih =>
    simp only [list?, List.mapM_append, List.mapM_cons, ih]

/-- Members that only change their order are held as before. -/
theorem canHold_eq (h : Restates False decode v w) (limit : Nat) :
    v.canHold limit = w.canHold limit := by
  induction h generalizing limit with
  | refl => rfl
  | symm _ ih => exact (ih limit).symm
  | trans _ _ ih ih' => exact (ih limit).trans (ih' limit)
  | order _ h =>
    rw [Bool.eq_iff_iff, canHold_object_iff, canHold_object_iff]
    simp only [h.mem_iff]
  | unknown _ _ hadd => exact hadd.elim
  | default hadd => exact hadd.elim
  | member before after _ _ _ ih => exact canHold_member ih before after _ limit
  | item before after _ ih => exact canHold_item ih before after limit

theorem canHoldUnder_eq (h : Restates False decode v w) (asks : String → Bool) :
    v.canHoldUnder asks = w.canHoldUnder asks := by
  induction h with
  | refl => rfl
  | symm _ ih => exact ih.symm
  | trans _ _ ih ih' => exact ih.trans ih'
  | order _ h => exact (h.filter _).all_eq
  | unknown _ _ hadd => exact hadd.elim
  | default hadd => exact hadd.elim
  | member before after _ _ h _ => exact canHoldUnder_member h.canHold_eq asks before after _
  | item => rfl

end Restates

/-! ## Texts -/

/-- Texts are read as the documents that they denote, if what is held of these can be held. -/
structure ReadsTexts {σ : Type} (ofText? : String → Option σ) (decode : Json → Option σ)
    (held : Json → List Json) (fields : List (SettingsField σ)) : Prop where
  object : ∀ {text ms}, Json.read text = some (.object ms) →
    ReadsObject fields (∃ v ∈ held (.object ms), ¬v.canHold (nestingLimit - 1)) ms (ofText? text)
  restated : ∀ {mayAdd text text' ms ns}, Json.read text = some (.object ms) →
    Json.read text' = some (.object ns) → Restates mayAdd decode (.object ms) (.object ns) →
    (mayAdd → (held (.object ms)).all (canHold (nestingLimit - 1)) =
      (held (.object ns)).all (canHold (nestingLimit - 1))) →
    ofText? text = ofText? text'

theorem ReadsTexts.of_canHoldUnder {σ : Type} {ofText? : String → Option σ}
    {decode : Json → Option σ} {held : Json → List Json} {fields : List (SettingsField σ)}
    (hset : IsSettings decode fields) (asks : String → Bool)
    (htext : ∀ text, ofText? text = (Json.read text).bind fun v =>
      if (held v).all (canHold (nestingLimit - 1)) then decode v else none)
    (hheld : ∀ ms, (held (.object ms)).all (canHold (nestingLimit - 1)) =
      canHoldUnder asks (.object ms)) : ReadsTexts ofText? decode held fields where
  object := by
    intro text ms hread
    have hobject := hset.readsFields.readsObject ms
    rw [htext, hread, Option.bind_some]
    split
    · next hall =>
      have hnone : ¬∃ v ∈ held (.object ms), ¬v.canHold (nestingLimit - 1) := by simpa using hall
      rw [eq_false hnone]
      exact hobject
    · next hall =>
      have hsome : ∃ v ∈ held (.object ms), ¬v.canHold (nestingLimit - 1) := by simpa using hall
      exact ⟨by simp only [true_iff]; exact .inl hsome, nofun⟩
  restated := by
    intro mayAdd text text' ms ns hread hread' hrestates hadd
    have hall : (held (.object ms)).all (canHold (nestingLimit - 1)) =
        (held (.object ns)).all (canHold (nestingLimit - 1)) := by
      by_cases hmay : mayAdd
      · exact hadd hmay
      · rw [eq_false hmay] at hrestates
        rw [hheld, hheld, hrestates.canHoldUnder_eq]
    rw [htext, htext, hread, hread', Option.bind_some, Option.bind_some, hall, hrestates.decode_eq]

theorem TransportSettings.readsTexts : ReadsTexts ofText? ofJson? held fields :=
  .of_canHoldUnder .transport (· == "udp_port") (fun _ => rfl) fun _ => List.all_map

theorem RtcSettings.readsTexts : ReadsTexts ofText? ofJson? held fields :=
  .of_canHoldUnder .rtc (fun name => !ownNames.contains name) (fun _ => rfl) fun _ => List.all_map

/-- Every settings object is read field by field and is made of its fields. Decoding does not depend
on the order of members, on members that are not recognised, and on default values that are given.
Reading a text does not either, if what comes and goes can be held where the reader holds it. -/
theorem settings_readFields :
    (∀ {σ : Type} {decode : Json → Option σ} {fields : List (SettingsField σ)},
      IsSettings decode fields →
        (∀ ms, ReadsObject fields False ms (decode (.object ms))) ∧
          ∀ s t, (∀ f ∈ fields, f.get s = f.get t) → s = t) ∧
      (∀ {mayAdd : Prop} {α : Type} {decode : Json → Option α} {v w : Json},
        Restates mayAdd decode v w → decode v = decode w) ∧
      ReadsTexts RtcSettings.ofText? RtcSettings.ofJson? RtcSettings.held RtcSettings.fields ∧
      ReadsTexts TransportSettings.ofText? TransportSettings.ofJson? TransportSettings.held
        TransportSettings.fields :=
  ⟨fun h => ⟨h.readsFields.readsObject, fun _ _ => h.eq_of_fields⟩, Restates.decode_eq,
    RtcSettings.readsTexts, TransportSettings.readsTexts⟩

namespace RtcSettings

/-- A TURN server among other members, and in it a name that is no field. -/
def looseMembers : Members := [
  ("strict_acks", .bool true),
  ("turn_servers", .array [.object [("realm", .null), ("host", .string "turn.example.org")]])]

/-- The same settings with the members in another order and a default value given. -/
def tidyMembers : Members := [
  ("turn_servers", .array [.object [("port", .ofNat 0), ("host", .string "turn.example.org")]]),
  ("strict_acks", .bool true)]

theorem turnServers_mem_fields :
    ⟨"turn_servers", list? TurnServer.ofJson?, [], fun s => s.transport.turnServers⟩ ∈ fields := by
  iterate 13 apply List.Mem.tail
  exact .head _

theorem restates_tidyMembers :
    Restates True ofJson? (.object looseMembers) (.object tidyMembers) := by
  have hrealm : "realm" ∉ TurnServer.fields.map SettingsField.name := by decide +kernel
  have hport : (⟨"port", uint16?, 0, TurnServer.port⟩ : SettingsField TurnServer) ∈
      TurnServer.fields := .tail _ (.head _)
  have hserver : Restates True TurnServer.ofJson?
      (.object [("realm", .null), ("host", .string "turn.example.org")])
      (.object [("port", .ofNat 0), ("host", .string "turn.example.org")]) :=
    (Restates.unknown _ _ trivial .turnServer hrealm).symm.trans
      (.default trivial .turnServer hport rfl rfl)
  have hmember : Restates True ofJson? (.object looseMembers) (.object [
      ("strict_acks", .bool true),
      ("turn_servers", .array [
        .object [("port", .ofNat 0), ("host", .string "turn.example.org")]])]) :=
    .member [("strict_acks", .bool true)] [] .rtc turnServers_mem_fields (.item [] [] hserver)
  exact hmember.trans (.order .rtc (.swap _ _ _))

theorem settings_readFields_tidyMembers :
    IsSettings ofJson? fields ∧
      (∃ s, ofJson? (.object tidyMembers) = some s ∧ ∀ f ∈ fields, f.Gives tidyMembers (f.get s)) ∧
      Restates True ofJson? (.object looseMembers) (.object tidyMembers) ∧
      ofJson? (.object looseMembers) = ofJson? (.object tidyMembers) ∧
      read (Json.object looseMembers).write = some (.object looseMembers) ∧
      read (Json.object tidyMembers).write = some (.object tidyMembers) ∧
      ofText? (Json.object looseMembers).write = ofText? (Json.object tidyMembers).write := by
  have hloose : read (Json.object looseMembers).write = some (.object looseMembers) :=
    read_write (by decide +kernel)
  have htidy : read (Json.object tidyMembers).write = some (.object tidyMembers) :=
    read_write (by decide +kernel)
  obtain ⟨hobjects, hdecode, htexts, -⟩ := settings_readFields
  obtain ⟨s, hs⟩ : ∃ s, ofJson? (.object tidyMembers) = some s :=
    Option.isSome_iff_exists.mp (by decide +kernel)
  have hgives := ((hobjects .rtc).1 tidyMembers).gives s hs
  exact ⟨.rtc, ⟨s, hs, hgives⟩, restates_tidyMembers, hdecode restates_tidyMembers, hloose, htidy,
    htexts.restated hloose htidy restates_tidyMembers fun _ => by decide +kernel⟩

/-- One member that is recognised and one that is not, which nests to the limit. -/
def deepUnknown : Members := [("strict_acks", .bool true), ("x", nested 126)]

/-- No field is refused and the deep member is none, but with this member the text is refused. -/
theorem not_readFields_deepUnknown :
    read (Json.object deepUnknown).write = some (.object deepUnknown) ∧
      (Json.object deepUnknown).isRepresentable ∧ "x" ∉ fields.map SettingsField.name ∧
      (¬∃ f ∈ fields, f.Fails deepUnknown) ∧ ofText? (Json.object deepUnknown).write = none ∧
      ofText? (Json.object [("strict_acks", .bool true)]).write = some { strictAcks := true } := by
  have hread : read (Json.object deepUnknown).write = some (.object deepUnknown) :=
    read_write (by decide +kernel)
  have hdecode : ofMembers? deepUnknown = some { strictAcks := true } := by decide +kernel
  have hnotHeld : ¬(nested 126).canHold (nestingLimit - 1) := by decide +kernel
  have hheld : nested 126 ∈ held (.object deepUnknown) := by
    simp [held, shared, deepUnknown, ownNames]
  refine ⟨hread, by decide +kernel, by decide +kernel, ?_, ?_, by decide +kernel⟩
  · intro hfails
    have hnone := (readsFields.readsObject deepUnknown).eq_none_iff.mpr (.inr hfails)
    rw [hdecode] at hnone
    cases hnone
  · exact (readsTexts.object hread).eq_none_iff.mpr (.inl ⟨_, hheld, hnotHeld⟩)

end RtcSettings

end RtcConfig
