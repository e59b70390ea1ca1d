import RtcConfig.Proofs.Settings.Restated

/-! # Records given as arrays

A record may be given as an array of its values in the order in which its fields are written. The
array is read exactly as the object that gives the same values under the names of the fields. It may
not be longer than the fields, and it may leave out the last values as far as the object may.
-/

namespace RtcConfig

open Json

/-! ## Values by name and by position -/

/-- Under each of the names stands the item at its place. -/
def Json.Members.Lists (ms : Members) (names : List String) (items : List Json) : Prop :=
  ∀ (i : Nat) (name : String), names[i]? = some name → ms.values name = items[i]?.toList

namespace Json.Members

variable {ms : Members} {name : String} {names : List String} {items : List Json}

theorem values_zip_of_notMem (h : name ∉ names) (items : List Json) :
    values (names.zip items) name = [] := by
  rw [values, List.map_eq_nil_iff, List.filter_eq_nil_iff]
  intro m hm heq
  exact h (eq_of_beq heq ▸ (List.of_mem_zip hm).1)

theorem lists_zip (h : names.Nodup) (items : List Json) : Lists (names.zip items) names items := by
  induction names generalizing items with
  | nil => exact fun i name hname => by simp at hname
  | cons first names ih =>
    obtain ⟨hfirst, hnames⟩ := List.nodup_cons.mp h
    cases items with
    | nil => exact fun i name _ => rfl
    | cons v items =>
      intro i name hname
      rw [List.zip_cons_cons]
      cases i with
      | zero =>
        -- The first name does not come again, so nothing but its own item stands under it.
        obtain rfl := Option.some.inj hname
        have hvalues := values_insert [] (names.zip items) v first
        rw [values_zip_of_notMem hfirst] at hvalues
        exact hvalues
      | succ i =>
        have hne : name ≠ first := fun he => hfirst (he ▸ List.mem_of_getElem? hname)
        have hvalues := values_insert_of_ne [] (names.zip items) v hne
        exact hvalues.trans (ih hnames items i name hname)

theorem Lists.head (h : ms.Lists (name :: names) items) : ms.values name = items.head?.toList := by
  rw [List.head?_eq_getElem?]
  exact h 0 name rfl

theorem Lists.tail (h : ms.Lists (name :: names) items) : ms.Lists names items.tail := by
  intro i name' hname
  rw [List.getElem?_tail]
  exact h (i + 1) name' hname

end Json.Members

/-- Reading the next item is reading the member that it stands for. -/
theorem Json.next_eq {α : Type} {ms : Members} {name : String} {items : List Json}
    (h : ms.values name = items.head?.toList) (decode : Json → Option α) (absent : Option α) :
    next items decode absent = (ms.field name decode absent).map fun a => (a, items.tail) := by
  rw [Members.field, h]
  cases items <;> rfl

/-- The fields that are left are read alike from the items that are left and from the members. -/
def ReadsAlike {σ : Type} (ms : Members) (names : List String) (items : List Json)
    (fromItems fromMembers : Option σ) : Prop :=
  ms.Lists names items → fromItems = if items.length ≤ names.length then fromMembers else none

namespace ReadsAlike

variable {σ : Type} {ms : Members} {names : List String} {items : List Json}

theorem done (s : σ) : ReadsAlike ms [] items (Json.done items s) (some s) := by
  intro _
  cases items <;> rfl

theorem field {α : Type} {name : String} {decode : Json → Option α} {absent : Option α}
    {fromItems : α × List Json → Option σ} {fromMembers : α → Option σ}
    (h : ∀ a, ReadsAlike ms names items.tail (fromItems (a, items.tail)) (fromMembers a)) :
    ReadsAlike ms (name :: names) items (next items decode absent >>= fromItems)
      (ms.field name decode absent >>= fromMembers) := by
  intro hlists
  rw [next_eq hlists.head]
  cases ms.field name decode absent with
  | none => exact (ite_self none).symm
  | some a =>
    have hrest := h a hlists.tail
    simp only [List.length_tail, Nat.sub_le_iff_le_add] at hrest
    exact hrest

end ReadsAlike

/-! ## The records -/

def BufferSizing.names : List String := ["packet_buffer_size_audio", "packet_buffer_size_video"]

def IceServer.names : List String := ["urls", "username", "credential"]

theorem TransportSettings.readsAlike (ms : Members) (items : List Json) :
    ReadsAlike ms (fields.map SettingsField.name) items (ofItems? items) (ofMembers? ms) := by
  unfold ofItems? ofMembers?
  repeat refine .field fun _ => ?_
  exact .done _

theorem TurnServer.readsAlike (ms : Members) (items : List Json) :
    ReadsAlike ms (fields.map SettingsField.name) items (ofItems? items) (ofMembers? ms) := by
  unfold ofItems? ofMembers?
  repeat refine .field fun _ => ?_
  exact .done _

theorem Filter.readsAlike (ms : Members) (items : List Json) :
    ReadsAlike ms (fields.map SettingsField.name) items (ofItems? items) (ofMembers? ms) := by
  unfold ofItems? ofMembers?
  repeat refine .field fun _ => ?_
  exact .done _

theorem CongestionSettings.readsAlike (ms : Members) (items : List Json) :
    ReadsAlike ms (fields.map SettingsField.name) items (ofItems? items) (ofMembers? ms) := by
  unfold ofItems? ofMembers?
  repeat refine .field fun _ => ?_
  exact .done _

theorem BufferSizing.readsAlike (ms : Members) (items : List Json) :
    ReadsAlike ms names items (ofItems? items) (ofMembers? ms) := by
  unfold ofItems? ofMembers?
  repeat refine .field fun _ => ?_
  exact .done _

theorem IceServer.readsAlike (ms : Members) (items : List Json) :
    ReadsAlike ms names items (ofItems? items) (ofMembers? ms) := by
  unfold ofItems? ofMembers?
  repeat refine .field fun _ => ?_
  exact .done _

/-- The records that may be given as arrays: how they are written and read, and the names of their
fields in order. -/
inductive IsRecord : {σ : Type} → (σ → Json) → (String → Option σ) → (Json → Option σ) →
    List String → Prop
  | transport : IsRecord TransportSettings.toJson TransportSettings.ofText?
    TransportSettings.ofJson? (TransportSettings.fields.map SettingsField.name)
  | turnServer : IsRecord TurnServer.toJson (readAs TurnServer.ofJson?) TurnServer.ofJson?
    (TurnServer.fields.map SettingsField.name)
  | filter : IsRecord Filter.toJson (readAs Filter.ofJson?) Filter.ofJson?
    (Filter.fields.map SettingsField.name)
  | congestion : IsRecord CongestionSettings.toJson (readAs CongestionSettings.ofJson?)
    CongestionSettings.ofJson? (CongestionSettings.fields.map SettingsField.name)
  | bufferSizing : IsRecord BufferSizing.toJson (readAs BufferSizing.ofJson?) BufferSizing.ofJson?
    BufferSizing.names
  | iceServer : IsRecord IceServer.toJson (readAs IceServer.ofJson?) IceServer.ofJson?
    IceServer.names

namespace IsRecord

variable {σ : Type} {toJson : σ → Json} {ofText? : String → Option σ} {decode : Json → Option σ}
  {names : List String}

theorem nodup_names (h : IsRecord toJson ofText? decode names) : names.Nodup := by
  cases h <;> decide +kernel

theorem exists_members (h : IsRecord toJson ofText? decode names) (s : σ) :
    ∃ ms, toJson s = .object ms ∧ ms.map Prod.fst = names := by
  cases h <;> exact ⟨_, rfl, rfl⟩

theorem readsAlike (h : IsRecord toJson ofText? decode names) (ms : Members) (items : List Json) :
    ReadsAlike ms names items (decode (.array items)) (decode (.object ms)) := by
  cases h with
  | transport => exact TransportSettings.readsAlike ms items
  | turnServer => exact TurnServer.readsAlike ms items
  | filter => exact Filter.readsAlike ms items
  | congestion => exact CongestionSettings.readsAlike ms items
  | bufferSizing => exact BufferSizing.readsAlike ms items
  | iceServer => exact IceServer.readsAlike ms items

theorem decode_array (h : IsRecord toJson ofText? decode names) (items : List Json) :
    decode (.array items) =
      if items.length ≤ names.length then decode (.object (names.zip items)) else none :=
  h.readsAlike _ items (Members.lists_zip h.nodup_names items)

end IsRecord

/-- An array is read as the object with the same values under the names in front, from a text too.
The names are those that the record is written with. -/
structure ReadsArrays {σ : Type} (toJson : σ → Json) (ofText? : String → Option σ)
    (decode : Json → Option σ) (names : List String) : Prop where
  exists_members : ∀ s, ∃ ms, toJson s = .object ms ∧ ms.map Prod.fst = names
  decode_iff : ∀ items s, decode (.array items) = some s ↔
    items.length ≤ names.length ∧ decode (.object (names.zip items)) = some s
  ofText?_iff : ∀ {text text' items}, Json.read text = some (.array items) →
    Json.read text' = some (.object (names.zip items)) → ∀ s, ofText? text = some s ↔
      items.length ≤ names.length ∧ ofText? text' = some s

namespace IsRecord

variable {σ : Type} {toJson : σ → Json} {ofText? : String → Option σ} {decode : Json → Option σ}
  {names : List String}

theorem decode_iff (h : IsRecord toJson ofText? decode names) (items : List Json) (s : σ) :
    decode (.array items) = some s ↔
      items.length ≤ names.length ∧ decode (.object (names.zip items)) = some s := by
  rw [h.decode_array]
  split
  · next hle => simp [hle]
  · next hle => simp [hle]

/-- Texts are read alike where what may hinder the reader does not depend on the form. -/
theorem readsArrays_of (h : IsRecord toJson ofText? decode names) (holds : Json → Bool)
    (htext : ∀ text, ofText? text =
      (Json.read text).bind fun v => if holds v then decode v else none)
    (hholds : ∀ items, holds (.array items) = holds (.object (names.zip items))) :
    ReadsArrays toJson ofText? decode names where
  exists_members := h.exists_members
  decode_iff := h.decode_iff
  ofText?_iff := by
    intro text text' items hread hread' s
    rw [htext, htext, hread, hread', Option.bind_some, Option.bind_some, hholds]
    split
    · exact h.decode_iff items s
    · simp

theorem readsArrays (h : IsRecord toJson ofText? decode names) :
    ReadsArrays toJson ofText? decode names := by
  cases h with
  | transport =>
    refine readsArrays_of .transport _ (fun _ => rfl) fun items => ?_
    have hport := Members.lists_zip (nodup_names .transport) items 0 "udp_port" rfl
    rw [TransportSettings.held, TransportSettings.held, hport, List.take_one,
      List.head?_eq_getElem?]
  | turnServer => exact readsArrays_of .turnServer (fun _ => true) (fun _ => rfl) fun _ => rfl
  | filter => exact readsArrays_of .filter (fun _ => true) (fun _ => rfl) fun _ => rfl
  | congestion => exact readsArrays_of .congestion (fun _ => true) (fun _ => rfl) fun _ => rfl
  | bufferSizing => exact readsArrays_of .bufferSizing (fun _ => true) (fun _ => rfl) fun _ => rfl
  | iceServer => exact readsArrays_of .iceServer (fun _ => true) (fun _ => rfl) fun _ => rfl

end IsRecord

/-! ## Fields that are required -/

/-- Values that do not reach a required field are refused in both forms. -/
theorem IsRecord.refuses_short {σ : Type} {toJson : σ → Json} {ofText? : String → Option σ}
    {decode : Json → Option σ} {names : List String} {name : String}
    (h : IsRecord toJson ofText? decode names) (i : Nat) (hname : names[i]? = some name)
    (hrequired : ∀ ms : Members, ms.values name = [] → decode (.object ms) = none)
    {items : List Json} (hshort : items.length ≤ i) :
    decode (.array items) = none ∧ decode (.object (names.zip items)) = none := by
  have hvalues := Members.lists_zip h.nodup_names items i name hname
  rw [List.getElem?_eq_none hshort] at hvalues
  have hobject := hrequired _ hvalues
  refine ⟨?_, hobject⟩
  rw [h.decode_array, hobject, ite_self]

theorem BufferSizing.refuses_short {items : List Json} (h : items.length < names.length) :
    ofJson? (.array items) = none ∧ ofJson? (.object (names.zip items)) = none := by
  refine IsRecord.bufferSizing.refuses_short 1 rfl (fun ms hnone => ?_) (Nat.le_of_lt_succ h)
  have hvideo : ms.field "packet_buffer_size_video" uint64? none = none := by
    rw [Members.field, hnone]
  simp [ofJson?, record?, ofMembers?, hvideo]

theorem IceServer.refuses_short {items : List Json} (h : items.length < names.length) :
    ofJson? (.array items) = none ∧ ofJson? (.object (names.zip items)) = none := by
  refine IsRecord.iceServer.refuses_short 2 rfl (fun ms hnone => ?_) (Nat.le_of_lt_succ h)
  have hcredential : ms.field "credential" string? none = none := by
    rw [Members.field, hnone]
  simp [ofJson?, record?, ofMembers?, hcredential]

end RtcConfig
