import RtcConfig.Media.Feedback
import RtcConfig.Proofs.Text.Split

/-! # Feedback entries as attribute values

The text of a feedback entry is cut at its first blank into mechanism and parameter. This gives the
entry back exactly if its mechanism has no blank, whatever its parameter is. No mechanism that is
negotiated has one, so such entries are told apart by their texts.
-/

namespace RtcConfig.Feedback

/-- The entry of an attribute value, which is cut at its first blank. -/
def ofText (value : String) : Feedback :=
  let (mechanism, rest) := value.toList.span (· != ' ')
  ⟨String.ofList mechanism, String.ofList rest.tail⟩

variable {f g : Feedback}

theorem blank_notMem_ofText (value : String) : ' ' ∉ (ofText value).mechanism.toList := by
  have hmechanism : (ofText value).mechanism.toList = value.toList.takeWhile (· != ' ') := by
    simp [ofText, List.span_eq_takeWhile_dropWhile]
  rw [hmechanism]
  intro hmem
  simpa using List.mem_takeWhile_imp hmem

theorem ofText_text_of_notMem (h : ' ' ∉ f.mechanism.toList) : ofText f.text = f := by
  have hfront : ∀ c ∈ f.mechanism.toList, (c != ' ') = true := by
    intro c hc
    have hne : c ≠ ' ' := fun he => h (he ▸ hc)
    simpa using hne
  unfold text
  split
  · next hnone =>
    have hparameter : f.parameter = "" := by simpa using hnone
    rw [ofText, Text.span_of_forall hfront]
    simp [← hparameter]
  · have htext : (f.mechanism ++ " " ++ f.parameter).toList =
        f.mechanism.toList ++ ' ' :: f.parameter.toList := by
      simp
    rw [ofText, htext, Text.span_append hfront rfl]
    simp

/-- Only a blank in the mechanism keeps an entry from being recovered. -/
theorem ofText_text_iff : ofText f.text = f ↔ ' ' ∉ f.mechanism.toList := by
  refine ⟨fun h => ?_, ofText_text_of_notMem⟩
  rw [← h]
  exact blank_notMem_ofText f.text

theorem blank_notMem_of_isKnown (h : f.isKnown) : ' ' ∉ f.mechanism.toList := by
  have hmechanisms : ∀ m ∈ ["transport-cc", "goog-remb", "ack", "ccm", "nack"],
      ' ' ∉ m.toList := by
    decide
  exact hmechanisms _ (of_decide_eq_true h)

/-- An entry of a mechanism that is negotiated is recovered from its text, so no two of them have
the same text. -/
theorem text_known_iff (hf : f.isKnown) :
    ofText f.text = f ∧ ∀ g : Feedback, g.isKnown → (f.text = g.text ↔ f = g) := by
  have hrecovered {e : Feedback} (he : e.isKnown) : ofText e.text = e :=
    ofText_text_iff.mpr (blank_notMem_of_isKnown he)
  refine ⟨hrecovered hf, fun g hg => ⟨fun htext => ?_, congrArg text⟩⟩
  rw [← hrecovered hf, htext, hrecovered hg]

/-- A parameter that starts with a blank and has more of them. -/
def spaced : Feedback := ⟨"ack", " rpsi  app"⟩

theorem text_known_iff_spaced :
    spaced.isKnown ∧ ofText spaced.text = spaced ∧ isKnown ⟨"ack", "rpsi  app"⟩ ∧
      spaced.text ≠ text ⟨"ack", "rpsi  app"⟩ := by
  obtain ⟨hrecovered, htext⟩ := text_known_iff (f := spaced) rfl
  refine ⟨rfl, hrecovered, rfl, fun h => ?_⟩
  exact absurd ((htext ⟨"ack", "rpsi  app"⟩ rfl).mp h) (by decide)

/-- A mechanism with a blank in it can have the text of another entry. -/
example : text ⟨"nack pli", ""⟩ = text ⟨"nack", "pli"⟩ := rfl

end RtcConfig.Feedback
