import RtcConfig.Proofs.Text.Classes
import RtcConfig.Proofs.Text.Digits
import RtcConfig.Text.Quoted

/-! # Texts on one line

A text stays on its line when it has no control character of ASCII, neither a line end nor any
other. Quoting brings every text on one line, since the control characters are among those that it
writes by number or by a letter.
-/

namespace RtcConfig.Text

def isControl (c : Char) : Bool := c.toNat < 0x20 || c.toNat == 0x7f

def isOneLine (s : String) : Bool := s.toList.all fun c => !isControl c

theorem isOneLine_iff {s : String} : isOneLine s ↔ ∀ c ∈ s.toList, ¬isControl c := by
  simp [isOneLine]

@[simp] theorem isOneLine_append (s t : String) :
    isOneLine (s ++ t) = (isOneLine s && isOneLine t) := by
  simp [isOneLine]

theorem isUnprintable_of_isControl {c : Char} (h : isControl c) : isUnprintable c := by
  have hlow : (0, 31) ∈ unprintableRanges := .head _
  have hdelete : (127, 160) ∈ unprintableRanges := .tail _ (.head _)
  rw [isControl, Bool.or_eq_true, decide_eq_true_iff, beq_iff_eq] at h
  rw [isUnprintable, List.any_eq_true]
  rcases h with h | h
  · refine ⟨_, hlow, ?_⟩
    simp only [Bool.and_eq_true, decide_eq_true_eq]
    omega
  · refine ⟨_, hdelete, ?_⟩
    simp [h]

theorem not_isControl_of_isDigit {c : Char} (h : isDigit 16 c) : ¬isControl c := by
  rw [isDigit_sixteen_iff_toNat] at h
  simp only [isControl, Bool.or_eq_true, decide_eq_true_eq, beq_iff_eq]
  omega

theorem isDigit_of_mem_hexadecimal {n : Nat} {c : Char} (h : c ∈ hexadecimal n) :
    isDigit 16 c := by
  have hnumeral : (numeral? 16 (hexadecimal n)).isSome := by rw [numeral?_hexadecimal]; rfl
  exact ((numeral?_isSome _).mp hnumeral).2 c h

theorem not_isControl_of_mem_escape {c d : Char} (h : c ∈ escape d) : ¬isControl c := by
  unfold escape at h
  split at h
  -- The letters behind a backslash and the characters that stand behind one themselves.
  iterate 6
    rcases List.mem_cons.mp h with rfl | h
    · decide
    · rw [List.mem_singleton.mp h]
      decide
  · split at h
    · simp only [List.mem_append, List.mem_cons, List.not_mem_nil, or_false] at h
      rcases h with ((rfl | rfl | rfl) | hdigit) | rfl
      · decide
      · decide
      · decide
      · exact not_isControl_of_isDigit (isDigit_of_mem_hexadecimal hdigit)
      · decide
    · next hprintable =>
      rw [List.mem_singleton.mp h]
      exact fun hcontrol => hprintable (isUnprintable_of_isControl hcontrol)

@[simp] theorem isOneLine_quote (s : String) : isOneLine (quote s) := by
  rw [isOneLine_iff, quote, String.toList_ofList]
  intro c hc
  simp only [List.cons_append, List.mem_cons, List.mem_append, List.mem_flatMap,
    List.not_mem_nil, or_false] at hc
  rcases hc with rfl | ⟨d, -, hd⟩ | rfl
  · decide
  · exact not_isControl_of_mem_escape hd
  · decide

@[simp] theorem isOneLine_repr (n : Nat) : isOneLine n.repr := by
  rw [isOneLine_iff, Nat.toList_repr]
  intro c hc
  have hdigit := isDigit_iff_toNat.mp (isDigit_of_mem_decimal hc)
  simp only [isControl, Bool.or_eq_true, decide_eq_true_eq, beq_iff_eq]
  omega

end RtcConfig.Text
