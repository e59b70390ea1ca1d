import RtcConfig.Json.Reader
import RtcConfig.Json.Writer

/-! # Writing and reading strings

Each character of a string is written as itself, behind a backslash, or by its number, and read back
as one element. The numbers that are written lie below the surrogates, so the elements spell the
string.
-/

namespace RtcConfig.Json

/-- The element as which a written character is read: a control character without a letter of its
own is given by number. -/
def piece (c : Char) : Piece :=
  if c.toNat < 0x20 ∧ c ∉ ['\x08', '\x0c', '\n', '\r', '\t'] then .unit c.toNat else .char c

theorem valueFrom_controlDigits {n : Nat} (h : n < 0x20) :
    Text.valueFrom 16 0 ['0', '0', Nat.digitChar (n / 16), Nat.digitChar (n % 16)] = some n := by
  revert n
  decide

theorem readPieces_char {c : Char} (hquote : c ≠ '"') (hslash : c ≠ '\\') (hc : ¬c.toNat < 0x20)
    (cs : List Char) :
    readPieces (c :: cs) = (readPieces cs).map fun p => (.char c :: p.1, p.2) := by
  rw [readPieces, if_neg (not_or.mpr ⟨hc, hslash⟩)]
  · exact hquote
  · intro _ _ _ _ _ h
    exact absurd h hslash
  · intro _ _ h
    exact absurd h hslash

theorem readPieces_escapeChar (c : Char) (cs : List Char) :
    readPieces (escapeChar c ++ cs) = (readPieces cs).map fun p => (piece c :: p.1, p.2) := by
  unfold escapeChar
  split
  case h_8 hquote hslash hb hf hn hr ht =>
    by_cases hc : c.toNat < 0x20
    · have hnot : c ∉ ['\x08', '\x0c', '\n', '\r', '\t'] := by
        simpa using ⟨hb, hf, hn, hr, ht⟩
      have hpiece : piece c = .unit c.toNat := if_pos ⟨hc, hnot⟩
      rw [if_pos hc, hpiece]
      show readPieces ('\\' :: 'u' :: '0' :: '0' :: Nat.digitChar (c.toNat / 16) ::
        Nat.digitChar (c.toNat % 16) :: cs) = _
      rw [readPieces, valueFrom_controlDigits hc]
    · have hpiece : piece c = .char c := if_neg fun h => hc h.1
      rw [if_neg hc, hpiece]
      exact readPieces_char hquote hslash hc cs
  all_goals rfl

theorem readPieces_flatMap (cs rest : List Char) :
    readPieces (cs.flatMap escapeChar ++ '"' :: rest) = some (cs.map piece, rest) := by
  induction cs with
  | nil => rfl
  | cons c cs ih =>
    rw [List.flatMap_cons, List.append_assoc, readPieces_escapeChar, ih]
    rfl

theorem spell_unit {n : Nat} (h : n < 0xd800) (ps : List Piece) :
    spell (.unit n :: ps) = (spell ps).map (Char.ofNat n :: ·) := by
  have hhigh : isHighSurrogate n = false := by
    rw [isHighSurrogate, decide_eq_false (by omega), Bool.false_and]
  have hlow : isLowSurrogate n = false := by
    rw [isLowSurrogate, decide_eq_false (by omega), Bool.false_and]
  rcases ps with _ | ⟨_ | m, ps⟩ <;> simp [spell, hhigh, hlow]

theorem spell_piece (c : Char) (ps : List Piece) :
    spell (piece c :: ps) = (spell ps).map (c :: ·) := by
  unfold piece
  split
  · next h => rw [spell_unit (by omega), Char.ofNat_toNat]
  · rw [spell]

theorem spell_map_piece (cs : List Char) : spell (cs.map piece) = some cs := by
  induction cs with
  | nil => rfl
  | cons c cs ih =>
    rw [List.map_cons, spell_piece, ih]
    rfl

/-- A written string is read back, with the text behind it. -/
theorem readString_writeString (s : String) (rest : List Char) :
    ∃ cs, writeString s ++ rest = '"' :: cs ∧ readString cs = some (some s, rest) := by
  refine ⟨s.toList.flatMap escapeChar ++ '"' :: rest, ?_, ?_⟩
  · simp [writeString]
  · rw [readString, readPieces_flatMap, Option.map_some, spell_map_piece, Option.map_some,
      String.ofList_toList]

end RtcConfig.Json
