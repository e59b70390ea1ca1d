import RtcConfig.Engine.NetworkType
import RtcConfig.Media.Kind
import RtcConfig.Profile.Direction
import RtcConfig.Proofs.Media.Vocabulary
import RtcConfig.Proofs.Settings.RoundTrip

/-! # Names of values

Media kinds, directions and network types have one name each, which their text, settings and the
reader of texts share: in settings a value is written by its name and nothing else is read as the
value, and any text is read as the value of this name, or as the unspecified one if there is none.
Header extensions and their URIs are paired in the same way.
-/

namespace RtcConfig

open Json

/-- The tables of a vocabulary agree on every text. -/
structure NamesAgree {α : Type} (unspecified : α) (text : α → String) (ofText : String → α)
    (toJson : α → Json) (ofJson? : Json → Option α) : Prop where
  ofJson?_iff : ∀ name v, ofJson? (.string name) = some v ↔ name = text v
  readAs_iff : ∀ name v, readAs ofJson? (Json.string name).write = some v ↔ name = text v
  ofText_eq : ∀ name, ofText name = (ofJson? (.string name)).getD unspecified
  toJson_eq : ∀ v, toJson v = .string (text v)

/-- It is enough that a name gives its value back and that no other text gives a value. -/
theorem NamesAgree.of_tables {α : Type} {unspecified : α} {text : α → String}
    {ofText : String → α} {toJson : α → Json} {ofJson? : Json → Option α}
    (hvalue : ∀ v, toJson v = .string (text v) ∧ ofJson? (.string (text v)) = some v ∧
      ofText (text v) = v)
    (hjson : ∀ {name v}, ofJson? (.string name) = some v → name = text v)
    (htext : ∀ name, ofText name ≠ unspecified → text (ofText name) = name) :
    NamesAgree unspecified text ofText toJson ofJson? := by
  have hiff (name : String) (v : α) : ofJson? (.string name) = some v ↔ name = text v :=
    ⟨hjson, fun h => h ▸ (hvalue v).2.1⟩
  refine ⟨hiff, fun name v => ?_, fun name => ?_, fun v => (hvalue v).1⟩
  · rw [readAs, read_write rfl]
    exact hiff name v
  · cases hread : ofJson? (.string name) with
    | some v => rw [hjson hread, (hvalue v).2.2, Option.getD_some]
    | none =>
      -- A value other than the unspecified one has `name` as its name, which settings do read.
      by_contra hne
      rw [← htext name hne, (hvalue _).2.1] at hread
      cases hread

theorem MediaKind.namesAgree : NamesAgree .unspecified text ofText toJson ofJson? := by
  refine .of_tables (fun v => ?_) (fun {name v} => ?_) fun name => ?_
  · cases v <;> exact ⟨rfl, rfl, rfl⟩
  · fun_cases ofJson? (.string name) with
    | case4 => exact nofun
    | _ hname =>
      obtain rfl := Option.some.inj hname
      rintro ⟨⟩
      rfl
  · fun_cases ofText name with
    | case3 => exact fun h => absurd rfl h
    | _ => exact fun _ => rfl

theorem Direction.namesAgree : NamesAgree .unspecified text ofText toJson ofJson? := by
  refine .of_tables (fun v => ?_) (fun {name v} => ?_) fun name => ?_
  · cases v <;> exact ⟨rfl, rfl, rfl⟩
  · fun_cases ofJson? (.string name) with
    | case4 => exact nofun
    | _ hname =>
      obtain rfl := Option.some.inj hname
      rintro ⟨⟩
      rfl
  · fun_cases ofText name with
    | case3 => exact fun h => absurd rfl h
    | _ => exact fun _ => rfl

theorem NetworkType.namesAgree : NamesAgree .unspecified text ofText toJson ofJson? := by
  refine .of_tables (fun v => ?_) (fun {name v} => ?_) fun name => ?_
  · cases v <;> exact ⟨rfl, rfl, rfl⟩
  · fun_cases ofJson? (.string name) with
    | case6 => exact nofun
    | _ hname =>
      obtain rfl := Option.some.inj hname
      rintro ⟨⟩
      rfl
  · fun_cases ofText name with
    | case5 => exact fun h => absurd rfl h
    | _ => exact fun _ => rfl

namespace HeaderExtension

theorem ofUri_eq_unspecified_iff {u : String} : ofUri u = .unspecified ↔ IsUnknownUri u := by
  constructor
  · rintro h x hx rfl
    exact hx ((ofUri_uri x).symm.trans h)
  · intro h
    by_contra hne
    exact h _ hne (uri_ofUri hne).symm

/-- A text is the URI of one extension or of none. -/
theorem ofUri_cases (u : String) :
    (∀ x : HeaderExtension, x ≠ .unspecified ∧ x.uri = u ↔ x = ofUri u) ∨
      ofUri u = .unspecified ∧ IsUnknownUri u := by
  by_cases h : ofUri u = .unspecified
  · exact .inr ⟨h, ofUri_eq_unspecified_iff.mp h⟩
  · refine .inl fun x => ⟨?_, ?_⟩
    · rintro ⟨-, rfl⟩
      exact (ofUri_uri x).symm
    · rintro rfl
      exact ⟨h, uri_ofUri h⟩

end HeaderExtension

/-- In every vocabulary the reader of texts, the text of a value and the settings agree on which
name is which value, and URIs and header extensions on which is whose. -/
theorem names_agree :
    NamesAgree .unspecified MediaKind.text MediaKind.ofText MediaKind.toJson MediaKind.ofJson? ∧
      NamesAgree .unspecified Direction.text Direction.ofText Direction.toJson Direction.ofJson? ∧
      NamesAgree .unspecified NetworkType.text NetworkType.ofText NetworkType.toJson
        NetworkType.ofJson? ∧
      (∀ u, (∀ x : HeaderExtension, x ≠ .unspecified ∧ x.uri = u ↔ x = .ofUri u) ∨
        .ofUri u = HeaderExtension.unspecified ∧ HeaderExtension.IsUnknownUri u) ∧
      (∀ x : HeaderExtension, .ofUri x.uri = x) ∧
      Function.Injective HeaderExtension.uri :=
  ⟨MediaKind.namesAgree, Direction.namesAgree, NetworkType.namesAgree, HeaderExtension.ofUri_cases,
    HeaderExtension.ofUri_uri, HeaderExtension.uri_injective⟩

end RtcConfig
