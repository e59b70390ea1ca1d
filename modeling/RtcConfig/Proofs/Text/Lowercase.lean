import RtcConfig.Proofs.Text.Classes
import RtcConfig.Text.Lowercase

/-! # Names in lower case

A text whose lower case is a name of ASCII letters is that name in letters of either case. For names
with the letters `i` and `k` that does not hold: these two are small forms of characters beyond
ASCII as well, of the capital I with a dot and of the Kelvin sign.
-/

namespace RtcConfig.Text

/-- A letter that is the small form of ASCII letters only. -/
structure IsOwnLetter (c : Char) : Prop where
  isAlpha : c.isAlpha
  ne : c ≠ 'i' ∧ c ≠ 'k'

theorem IsOwnLetter.toNat_lt {c : Char} (h : IsOwnLetter c) : c.toNat < 128 := by
  have hletter := isAlpha_iff_toNat.mp h.isAlpha
  omega

theorem not_isOwnLetter_ofNat {n : Nat} (h : 128 ≤ n) : ¬IsOwnLetter (Char.ofNat n) := by
  intro hletter
  by_cases hvalid : n.isValidChar
  · rw [Char.ofNat, dif_pos hvalid] at hletter
    have hlt : n < 128 := hletter.toNat_lt
    omega
  · rw [Char.ofNat, dif_neg hvalid] at hletter
    exact absurd hletter.isAlpha (by decide)

/-- The only run whose small forms are in ASCII is the Kelvin sign. -/
theorem small_of_mem_capitalRuns :
    ∀ r ∈ capitalRuns, 128 ≤ r.small ∨ r = ⟨8490, 8490, 1, 'k'.toNat⟩ := by
  decide +kernel

theorem not_isOwnLetter_smallForm {c : Char} (h : ¬c.toNat < 128) : ¬IsOwnLetter (smallForm c) := by
  unfold smallForm
  split
  · next r hr =>
    have hcontains := List.find?_some hr
    rcases small_of_mem_capitalRuns r (List.mem_of_find?_eq_some hr) with hsmall | rfl
    · exact not_isOwnLetter_ofNat (Nat.le_add_right_of_le hsmall)
    · have hkelvin : c.toNat = 8490 := by
        simp only [CapitalRun.contains, Bool.and_eq_true, decide_eq_true_eq] at hcontains
        omega
      rw [hkelvin]
      exact fun hletter => hletter.ne.2 rfl
  · exact fun hletter => h hletter.toNat_lt

/-- The small form of a character beyond ASCII starts with no such letter. -/
theorem exists_lowercaseChar {c : Char} (h : ¬c.toNat < 128) (before after : List Char) :
    ∃ d ds, lowercaseChar before after c = d :: ds ∧ ¬IsOwnLetter d := by
  rw [lowercaseChar, if_neg h]
  split
  · refine ⟨_, _, rfl, ?_⟩
    split
    · exact not_isOwnLetter_ofNat (by decide)
    · exact not_isOwnLetter_ofNat (by decide)
  · split
    · exact ⟨_, _, rfl, fun hletter => hletter.ne.1 rfl⟩
    · exact ⟨_, _, rfl, not_isOwnLetter_smallForm h⟩

theorem not_isOwnLetter_toLower {c : Char} (h : ¬c.toNat < 128) : ¬IsOwnLetter c.toLower := by
  have hupper : ¬('A'.val ≤ c.val ∧ c.val ≤ 'Z'.val) :=
    fun hc => h (Nat.lt_of_le_of_lt hc.2 (by decide))
  have hself : c.toLower = c := dif_neg hupper
  rw [hself]
  exact fun hletter => h hletter.toNat_lt

theorem lowercaseFrom_eq_iff {name : List Char} (hname : ∀ c ∈ name, IsOwnLetter c)
    (before cs : List Char) : lowercaseFrom before cs = name ↔ cs.map Char.toLower = name := by
  induction cs generalizing before name with
  | nil => exact Iff.rfl
  | cons c after ih =>
    rw [lowercaseFrom, List.map_cons]
    by_cases hc : c.toNat < 128
    · rw [lowercaseChar, if_pos hc, List.singleton_append]
      cases name with
      | nil => simp
      | cons d ds =>
        rw [List.cons.injEq, List.cons.injEq, ih (List.forall_mem_cons.mp hname).2]
    -- A character beyond ASCII puts something else than a letter of the name in both texts.
    · obtain ⟨d, ds, hd, hletter⟩ := exists_lowercaseChar hc before after
      rw [hd, List.cons_append]
      refine iff_of_false ?_ ?_
      · rintro rfl
        exact hletter (hname d List.mem_cons_self)
      · rintro rfl
        exact not_isOwnLetter_toLower hc (hname _ List.mem_cons_self)

/-- No character beyond ASCII makes a text a name of such letters in lower case. -/
theorem lowercase_eq_iff {name : String} (hname : ∀ c ∈ name.toList, IsOwnLetter c) (s : String) :
    lowercase s = name ↔ s.toLower = name := by
  rw [lowercase, ← String.toList_inj, ← String.toList_inj, String.toList_ofList,
    lowercaseFrom_eq_iff hname]
  exact iff_of_eq (congrArg (· = name.toList) String.toList_map.symm)

/-- The Kelvin sign is no capital of ASCII, but its small form is. -/
example : lowercase "\u212a" = "k" ∧ ("\u212a" : String).toLower ≠ "k" := by
  decide +kernel

end RtcConfig.Text
