import Mathlib.Logic.Function.Basic
import RtcConfig.Media.Feedback
import RtcConfig.Media.HeaderExtension

/-! # Extensions and feedback entries by name

Reading the URI of an extension gives the extension back, so no two of them share one. A text that
is the URI of no extension is read as the unspecified one, and so is its own text. A feedback entry
is its mechanism and its parameter, so the search for an entry that agrees in both is the search for
the entry.
-/

namespace RtcConfig

namespace HeaderExtension

theorem ofUri_uri (x : HeaderExtension) : ofUri x.uri = x := by
  cases x <;> rfl

theorem uri_injective : Function.Injective uri := Function.LeftInverse.injective ofUri_uri

/-- A text that is the URI of no extension. -/
def IsUnknownUri (u : String) : Prop := ∀ x : HeaderExtension, x ≠ .unspecified → u ≠ x.uri

theorem isUnknownUri_unspecified : IsUnknownUri "Unspecified" := by
  intro x hx hu
  have huri : unspecified.uri = x.uri := hu
  exact hx (uri_injective huri).symm

theorem uri_ofUri {u : String} : ofUri u ≠ .unspecified → (ofUri u).uri = u := by
  fun_cases ofUri u with
  | case10 => exact fun h => absurd rfl h
  | _ => exact fun _ => rfl

/-- A text is read as an extension exactly if it is the URI of that extension. -/
theorem ofUri_eq_iff {u : String} {x : HeaderExtension} (hx : x ≠ .unspecified) :
    ofUri u = x ↔ u = x.uri := by
  constructor
  · rintro rfl
    exact (uri_ofUri hx).symm
  · rintro rfl
    exact ofUri_uri x

end HeaderExtension

namespace Feedback

theorem occursIn_iff {f : Feedback} {gs : List Feedback} : f.occursIn gs = true ↔ f ∈ gs := by
  induction gs with
  | nil => simp [occursIn]
  | cons g gs ih =>
    have hsame : f.mechanism = g.mechanism ∧ f.parameter = g.parameter ↔ f = g := by
      cases f
      cases g
      simp
    rw [occursIn, List.mem_cons, ← hsame, ← ih]
    split
    · next h => simp [h]
    · next h => simp [h]

/-- The search for common entries keeps the entries that are in the second list, as often as they
are in the first one. -/
theorem intersection_eq (fs gs : List Feedback) :
    intersection fs gs = fs.filter fun f => gs.contains f := by
  induction fs with
  | nil => rfl
  | cons f fs ih =>
    rw [intersection, List.filter_cons, ih]
    simp only [occursIn_iff, List.contains_iff_mem]

end Feedback

end RtcConfig
