import RtcConfig.Proofs.Url.Path

/-! # Registered names

A registered name is made of letters, digits, a few signs and percent triples. The opaque path of
a text is a registered name exactly when the text is one, where a character that the path encodes
stands for the triples it becomes.
-/

namespace RtcConfig.Url

/-- The characters that a registered name has outside percent triples. -/
def IsRegNameChar (c : Char) : Prop :=
  c.isAlphanum ∨ c ∈ ['-', '.', '_', '~', '!', '$', '&', '\x27', '(', ')', '*', '+', ',', ';', '=']

instance (c : Char) : Decidable (IsRegNameChar c) := inferInstanceAs (Decidable (_ ∨ _))

/-- A name by the grammar of registered names; the empty one is among them. -/
inductive IsRegName : List Char → Prop
  | nil : IsRegName []
  | char {c : Char} {cs : List Char} (hc : IsRegNameChar c) (hcs : IsRegName cs) :
      IsRegName (c :: cs)
  | triple {a b : Char} {cs : List Char} (ha : Text.isDigit 16 a) (hb : Text.isDigit 16 b)
      (hcs : IsRegName cs) : IsRegName ('%' :: a :: b :: cs)

/-- A text that becomes a registered name in an opaque path. -/
inductive IsWrittenName : List Char → Prop
  | nil : IsWrittenName []
  | char {c : Char} {cs : List Char} (hc : IsRegNameChar c) (hcs : IsWrittenName cs) :
      IsWrittenName (c :: cs)
  | triple {a b : Char} {cs : List Char} (ha : Text.isDigit 16 a) (hb : Text.isDigit 16 b)
      (hcs : IsWrittenName cs) : IsWrittenName ('%' :: a :: b :: cs)
  | encoded {c : Char} {cs : List Char} (hc : keptInOpaquePath c = false)
      (hcs : IsWrittenName cs) : IsWrittenName (c :: cs)

theorem isRegNameChar_iff_toNat {c : Char} :
    IsRegNameChar c ↔ c.isAlphanum ∨
      c.toNat ∈ [45, 46, 95, 126, 33, 36, 38, 39, 40, 41, 42, 43, 44, 59, 61] := by
  have hc (d : Char) : c = d ↔ c.toNat = d.toNat := Char.toNat_inj.symm
  simp only [IsRegNameChar, List.mem_cons, List.not_mem_nil, or_false, hc]
  exact Iff.rfl

/-- The characters that registered names are free of and that matter to URLs. -/
theorem IsRegNameChar.ne {c : Char} (h : IsRegNameChar c) :
    c ≠ '%' ∧ c ≠ ':' ∧ c ≠ '[' ∧ c ≠ ']' ∧ c ≠ '/' := by
  rw [isRegNameChar_iff_toNat, Text.isAlphanum_iff_toNat] at h
  refine ⟨?_, ?_, ?_, ?_, ?_⟩ <;>
  · rintro rfl
    exact absurd h (by decide)

theorem IsRegNameChar.kept {c : Char} (h : IsRegNameChar c) : keptInOpaquePath c := by
  simp only [isRegNameChar_iff_toNat, Text.isAlphanum_iff_toNat, List.mem_cons,
    List.not_mem_nil, or_false] at h
  simp only [keptInOpaquePath, Bool.and_eq_true, decide_eq_true_eq]
  omega

theorem isDigit_sixteen_ne {c : Char} (h : Text.isDigit 16 c) :
    c ≠ '%' ∧ c ≠ ':' ∧ c ≠ '[' ∧ c ≠ ']' ∧ c ≠ '/' := by
  refine ⟨?_, ?_, ?_, ?_, ?_⟩ <;>
  · rintro rfl
    exact absurd h (by decide)

theorem keptInOpaquePath_of_isDigit {c : Char} (h : Text.isDigit 16 c) : keptInOpaquePath c := by
  rw [Text.isDigit_sixteen_iff_toNat] at h
  simp only [keptInOpaquePath, Bool.and_eq_true, decide_eq_true_eq]
  omega

theorem IsRegName.ne {cs : List Char} (h : IsRegName cs) :
    ∀ c ∈ cs, c ≠ ':' ∧ c ≠ '[' ∧ c ≠ ']' ∧ c ≠ '/' := by
  induction h with
  | nil => simp
  | char hc _ ih => exact List.forall_mem_cons.mpr ⟨hc.ne.2, ih⟩
  | triple ha hb _ ih =>
    exact List.forall_mem_cons.mpr ⟨by decide, List.forall_mem_cons.mpr
      ⟨(isDigit_sixteen_ne ha).2, List.forall_mem_cons.mpr ⟨(isDigit_sixteen_ne hb).2, ih⟩⟩⟩

theorem IsWrittenName.of_all {cs : List Char} (h : cs.all (IsRegNameChar ·)) :
    IsWrittenName cs := by
  induction cs with
  | nil => exact .nil
  | cons c cs ih =>
    rw [List.all_cons, Bool.and_eq_true, decide_eq_true_eq] at h
    exact .char h.1 (ih h.2)

/-! ## Encoding names -/

theorem isRegName_percentByte {b : UInt8} {cs : List Char} :
    IsRegName (percentByte b ++ cs) ↔ IsRegName cs := by
  constructor
  · intro h
    cases h with
    | char hc _ => exact absurd rfl hc.ne.1
    | triple _ _ hcs => exact hcs
  · intro h
    have hb : b.toNat < 256 := b.toNat_lt
    have hdigit (n : Fin 16) : Text.isDigit 16 (Text.upperHexDigit n) := by decide +revert
    exact .triple (hdigit ⟨b.toNat / 16, by omega⟩) (hdigit ⟨b.toNat % 16, by omega⟩) h

theorem isRegName_percentEncode_singleton {c : Char} (hc : keptInOpaquePath c = false)
    (cs : List Char) : IsRegName (percentEncode keptInOpaquePath [c] ++ cs) ↔ IsRegName cs := by
  have hbytes (bs : List UInt8) : IsRegName (bs.flatMap percentByte ++ cs) ↔ IsRegName cs := by
    induction bs with
    | nil => rfl
    | cons b bs ih => rw [List.flatMap_cons, List.append_assoc, isRegName_percentByte, ih]
  simpa [percentEncode, hc] using hbytes (String.utf8EncodeChar c)

/-- The encoding starts with a digit only if the text does. -/
theorem exists_cons_of_percentEncode {cs r : List Char} {a : Char} (ha : Text.isDigit 16 a)
    (h : percentEncode keptInOpaquePath cs = a :: r) :
    ∃ cs', cs = a :: cs' ∧ percentEncode keptInOpaquePath cs' = r := by
  cases cs with
  | nil => simp at h
  | cons c cs =>
    by_cases hc : keptInOpaquePath c
    · rw [percentEncode_cons_of_kept hc] at h
      obtain ⟨rfl, rfl⟩ := List.cons.inj h
      exact ⟨cs, rfl, rfl⟩
    · obtain ⟨r', hr'⟩ := percentEncode_singleton_of_not (Bool.not_eq_true _ ▸ hc)
      rw [percentEncode_cons, hr', List.cons_append] at h
      exact absurd (List.cons.inj h).1.symm (isDigit_sixteen_ne ha).1

theorem isRegName_percentEncode {cs : List Char} (h : IsWrittenName cs) :
    IsRegName (percentEncode keptInOpaquePath cs) := by
  induction h with
  | nil => exact .nil
  | char hc _ ih =>
    rw [percentEncode_cons_of_kept hc.kept]
    exact .char hc ih
  | triple ha hb _ ih =>
    rw [percentEncode_cons_of_kept rfl, percentEncode_cons_of_kept (keptInOpaquePath_of_isDigit ha),
      percentEncode_cons_of_kept (keptInOpaquePath_of_isDigit hb)]
    exact .triple ha hb ih
  | encoded hc _ ih =>
    rw [percentEncode_cons, isRegName_percentEncode_singleton hc]
    exact ih

/-- By recursion on the text: a percent sign that is kept takes the two digits behind it. -/
theorem isWrittenName_of_percentEncode : ∀ {cs : List Char},
    IsRegName (percentEncode keptInOpaquePath cs) → IsWrittenName cs
  | [], _ => .nil
  | c :: cs, h => by
    by_cases hc : keptInOpaquePath c
    · rw [percentEncode_cons_of_kept hc] at h
      generalize hr : percentEncode keptInOpaquePath cs = r at h
      cases h with
      | char hname hcs => exact .char hname (isWrittenName_of_percentEncode (hr ▸ hcs))
      | triple ha hb hcs =>
        obtain ⟨cs', rfl, hcs'⟩ := exists_cons_of_percentEncode ha hr
        obtain ⟨cs'', rfl, hcs''⟩ := exists_cons_of_percentEncode hb hcs'
        exact .triple ha hb (isWrittenName_of_percentEncode (hcs'' ▸ hcs))
    · rw [Bool.not_eq_true] at hc
      rw [percentEncode_cons, isRegName_percentEncode_singleton hc] at h
      exact .encoded hc (isWrittenName_of_percentEncode h)
termination_by cs => cs.length

end RtcConfig.Url
