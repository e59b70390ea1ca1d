import RtcConfig.Proofs.Text.Classes
import RtcConfig.Proofs.Text.Split
import RtcConfig.Url.Path

/-! # Characters of paths

Percent encoding works character by character, so a path is made of printable ASCII characters
only, a kept character stands where it stood before, and a segment path that is extended by a text
without slashes and dots ends in that text.
-/

namespace RtcConfig.Url

/-! ## Percent encoding -/

variable {kept : Char → Bool}

@[simp] theorem percentEncode_nil : percentEncode kept [] = [] := rfl

theorem percentEncode_cons (c : Char) (cs : List Char) :
    percentEncode kept (c :: cs) = percentEncode kept [c] ++ percentEncode kept cs := by
  simp [percentEncode]

@[simp] theorem percentEncode_append (a b : List Char) :
    percentEncode kept (a ++ b) = percentEncode kept a ++ percentEncode kept b :=
  List.flatMap_append

theorem percentEncode_cons_of_kept {c : Char} (hc : kept c) (cs : List Char) :
    percentEncode kept (c :: cs) = c :: percentEncode kept cs := by
  rw [percentEncode_cons]
  simp [percentEncode, hc]

theorem percentEncode_singleton_of_not {c : Char} (hc : kept c = false) :
    ∃ r, percentEncode kept [c] = '%' :: r := by
  obtain ⟨b, bs, hb⟩ := List.exists_cons_of_ne_nil (String.utf8EncodeChar_ne_nil (c := c))
  simp [percentEncode, hc, hb, percentByte]

theorem percentEncode_of_kept {cs : List Char} (h : ∀ c ∈ cs, kept c) :
    percentEncode kept cs = cs := by
  induction cs with
  | nil => rfl
  | cons c cs ih =>
    have hc : kept c := h c (by simp)
    rw [percentEncode_cons_of_kept hc, ih fun d hd => h d (by simp [hd])]

/-- An encoding without percent signs is the text itself. -/
theorem percentEncode_eq_self {cs : List Char} (h : '%' ∉ percentEncode kept cs) :
    percentEncode kept cs = cs := by
  refine percentEncode_of_kept fun c hc => ?_
  by_contra hk
  obtain ⟨r, hr⟩ := percentEncode_singleton_of_not (Bool.not_eq_true _ ▸ hk)
  obtain ⟨a, b, rfl⟩ := List.append_of_mem hc
  apply h
  rw [percentEncode_append, percentEncode_cons, hr]
  simp

theorem percentEncode_singleton_ne_nil (c : Char) : percentEncode kept [c] ≠ [] := by
  by_cases hk : kept c
  · simp [percentEncode, hk]
  · obtain ⟨r, hr⟩ := percentEncode_singleton_of_not (Bool.not_eq_true _ ▸ hk)
    simp [hr]

theorem percentEncode_eq_nil {cs : List Char} : percentEncode kept cs = [] ↔ cs = [] := by
  cases cs with
  | nil => simp
  | cons c cs =>
    rw [percentEncode_cons]
    simp [percentEncode_singleton_ne_nil]

/-- The characters that percent triples consist of. -/
def IsTripleChar (c : Char) : Prop :=
  c = '%' ∨ 48 ≤ c.toNat ∧ c.toNat ≤ 57 ∨ 65 ≤ c.toNat ∧ c.toNat ≤ 70

theorem upperHexDigit_range (n : Fin 16) :
    48 ≤ (Text.upperHexDigit n).toNat ∧ (Text.upperHexDigit n).toNat ≤ 57 ∨
      65 ≤ (Text.upperHexDigit n).toNat ∧ (Text.upperHexDigit n).toNat ≤ 70 := by
  decide +revert

theorem isTripleChar_of_mem_percentByte {b : UInt8} {c : Char} (h : c ∈ percentByte b) :
    IsTripleChar c := by
  have hb : b.toNat < 256 := b.toNat_lt
  simp only [percentByte, List.mem_cons, List.not_mem_nil, or_false] at h
  rcases h with rfl | rfl | rfl
  · exact .inl rfl
  · exact .inr (upperHexDigit_range ⟨b.toNat / 16, by omega⟩)
  · exact .inr (upperHexDigit_range ⟨b.toNat % 16, by omega⟩)

theorem mem_percentEncode {cs : List Char} {c : Char} (h : c ∈ percentEncode kept cs) :
    (kept c ∧ c ∈ cs) ∨ IsTripleChar c := by
  obtain ⟨d, hd, hc⟩ := List.mem_flatMap.mp h
  by_cases hk : kept d
  · rw [if_pos hk, List.mem_singleton] at hc
    exact .inl ⟨hc ▸ hk, hc ▸ hd⟩
  · rw [if_neg hk] at hc
    obtain ⟨b, -, hb⟩ := List.mem_flatMap.mp hc
    exact .inr (isTripleChar_of_mem_percentByte hb)

/-- A kept character that no percent triple contains is an image of itself alone. -/
theorem percentEncode_eq_append_cons {x : Char} (hx : ¬IsTripleChar x) {cs a b : List Char}
    (h : percentEncode kept cs = a ++ x :: b) :
    ∃ s t, cs = s ++ x :: t ∧ percentEncode kept s = a ∧ percentEncode kept t = b := by
  induction cs generalizing a with
  | nil => simp at h
  | cons c cs ih =>
    rw [percentEncode_cons] at h
    rcases List.append_eq_append_iff.mp h with ⟨a', rfl, hcs⟩ | ⟨a', hc, hb⟩
    · obtain ⟨s, t, rfl, rfl, rfl⟩ := ih hcs
      exact ⟨c :: s, t, rfl, percentEncode_cons c s, rfl⟩
    · cases a' with
      | nil =>
        obtain ⟨s, t, rfl, hs, rfl⟩ := ih (a := []) hb.symm
        refine ⟨c :: s, t, rfl, ?_, rfl⟩
        rw [percentEncode_cons, hs, hc]
        simp
      | cons y a' =>
        obtain ⟨rfl, rfl⟩ := List.cons.inj hb
        -- The encoding of `c` contains `x`, so `c` is `x` itself.
        have hmem : x ∈ percentEncode kept [c] := by simp [hc]
        rcases mem_percentEncode hmem with ⟨hk, hxc⟩ | ht
        · obtain rfl : x = c := by simpa using hxc
          rw [percentEncode_of_kept (by simpa using hk), List.cons_eq_append_iff] at hc
          rcases hc with ⟨rfl, hc⟩ | ⟨a'', rfl, hc⟩
          · obtain rfl : a' = [] := by simpa using hc.symm
            exact ⟨[], cs, rfl, rfl, rfl⟩
          · simp at hc
        · exact absurd ht hx

/-! ## Segments -/

theorem mem_of_mem_parent {passed : List (List Char)} {s : List Char} (h : s ∈ parent passed) :
    s ∈ passed := by
  cases passed with
  | nil => exact h
  | cons t above =>
    simp only [parent] at h
    split at h
    · exact h
    · exact List.mem_cons_of_mem _ h

/-- Resolving dots makes no segments but empty ones. -/
theorem mem_resolveFrom {passed segments : List (List Char)} {s : List Char}
    (h : s ∈ resolveFrom passed segments) : s ∈ passed ∨ s ∈ segments ∨ s = [] := by
  fun_induction resolveFrom passed segments <;> grind [mem_of_mem_parent]

/-- A last segment that is no dot segment stays the last one. -/
theorem resolveFrom_append_singleton {s : List Char} (hs : isSingleDot s = false)
    (hd : isDoubleDot s = false) (passed front : List (List Char)) :
    ∃ init, resolveFrom passed (front ++ [s]) = init ++ [s] := by
  induction front generalizing passed with
  | nil => exact ⟨passed.reverse, by simp [resolveFrom, hs, hd]⟩
  | cons t front ih =>
    rw [List.cons_append, resolveFrom]
    · split
      · exact ih _
      · split
        · exact ih _
        · exact ih _
    · simp

theorem splitOn_append {x : Char} {tail : List Char} (h : x ∉ tail) (cs : List Char) :
    ∃ front last, (cs ++ tail).splitOn x = front ++ [last ++ tail] := by
  by_cases hx : x ∈ cs
  · obtain ⟨ys, zs, rfl, hz⟩ := Text.exists_last_of_mem hx
    have hlast : (zs ++ tail).splitOn x = [zs ++ tail] :=
      List.splitOn_eq_singleton (by simp [hz, h])
    refine ⟨ys.splitOn x, zs, ?_⟩
    rw [List.append_assoc, List.cons_append, List.splitOn_append_cons_self, hlast]
  · exact ⟨[], cs, List.splitOn_eq_singleton (by simp [hx, h])⟩

theorem intercalate_append_singleton (x : Char) (init : List (List Char)) (s : List Char) :
    ∃ front, [x].intercalate (init ++ [s]) = front ++ s := by
  induction init with
  | nil => exact ⟨[], by simp⟩
  | cons t init ih =>
    obtain ⟨front, hf⟩ := ih
    refine ⟨t ++ x :: front, ?_⟩
    rw [List.cons_append, List.intercalate_cons_of_ne_nil (by simp), hf]
    simp

theorem mem_intercalate {x c : Char} {segments : List (List Char)}
    (h : c ∈ [x].intercalate segments) : c = x ∨ ∃ s ∈ segments, c ∈ s := by
  induction segments with
  | nil => simp at h
  | cons s segments ih =>
    cases segments with
    | nil => exact .inr ⟨s, by simp, by simpa using h⟩
    | cons t segments =>
      rw [List.intercalate_cons_cons] at h
      simp only [List.mem_append, List.mem_singleton] at h
      rcases h with (h | h) | h
      · exact .inr ⟨s, by simp, h⟩
      · exact .inl h
      · rcases ih h with h | ⟨u, hu, hc⟩
        · exact .inl h
        · exact .inr ⟨u, List.mem_cons_of_mem _ hu, hc⟩

theorem mem_of_mem_splitOn {x c : Char} {cs s : List Char} (hs : s ∈ cs.splitOn x) (hc : c ∈ s) :
    c ∈ cs := by
  have hmem {segments : List (List Char)} (hs : s ∈ segments) : c ∈ [x].intercalate segments := by
    induction segments with
    | nil => simp at hs
    | cons t segments ih =>
      cases segments with
      | nil => simpa [List.mem_singleton.mp hs] using hc
      | cons u segments =>
        rw [List.intercalate_cons_cons]
        rcases List.mem_cons.mp hs with rfl | hs
        · simp [hc]
        · simp [ih hs]
  simpa using hmem hs

/-! ## Paths -/

theorem mem_segmentPath {cs : List Char} {c : Char} (h : c ∈ segmentPath cs) :
    c = '/' ∨ c ∈ percentEncode keptInSegment cs := by
  rcases List.mem_cons.mp h with h | h
  · exact .inl h
  rcases mem_intercalate h with h | ⟨s, hs, hc⟩
  · exact .inl h
  rcases mem_resolveFrom hs with hs | hs | rfl
  · simp at hs
  · exact .inr (mem_of_mem_splitOn hs hc)
  · simp at hc

/-- A character of which the paths of URLs consist. -/
structure IsPathChar (c : Char) : Prop where
  kept : keptInOpaquePath c
  ne_question : c ≠ '?'
  ne_hash : c ≠ '#'

theorem isPathChar_of_isTripleChar {c : Char} (h : IsTripleChar c) : IsPathChar c := by
  rcases h with rfl | h
  · exact ⟨rfl, by decide, by decide⟩
  · refine ⟨?_, ?_, ?_⟩
    · simp only [keptInOpaquePath, Bool.and_eq_true, decide_eq_true_eq]
      omega
    · rintro rfl
      exact absurd h (by decide)
    · rintro rfl
      exact absurd h (by decide)

/-- A text in which neither a query nor a fragment begins. -/
def IsPathText (cs : List Char) : Prop := ∀ c ∈ cs, c ≠ '?' ∧ c ≠ '#'

theorem isPathChar_of_mem_percentEncode (hk : ∀ c, kept c → keptInOpaquePath c) {cs : List Char}
    (hcs : IsPathText cs) {c : Char} (h : c ∈ percentEncode kept cs) : IsPathChar c := by
  rcases mem_percentEncode h with ⟨hc, hmem⟩ | ht
  · exact ⟨hk c hc, (hcs c hmem).1, (hcs c hmem).2⟩
  · exact isPathChar_of_isTripleChar ht

theorem keptInOpaquePath_of_keptInSegment (c : Char) (h : keptInSegment c) :
    keptInOpaquePath c := by
  simp only [keptInSegment, Bool.and_eq_true] at h
  exact h.1

theorem isPathChar_of_mem_opaquePath {cs : List Char} (hcs : IsPathText cs) {c : Char}
    (h : c ∈ opaquePath cs) : IsPathChar c :=
  isPathChar_of_mem_percentEncode (fun _ => id) hcs h

theorem isPathChar_of_mem_segmentPath {cs : List Char} (hcs : IsPathText cs) {c : Char}
    (h : c ∈ segmentPath cs) : IsPathChar c := by
  rcases mem_segmentPath h with rfl | h
  · exact ⟨rfl, by decide, by decide⟩
  · exact isPathChar_of_mem_percentEncode keptInOpaquePath_of_keptInSegment hcs h

theorem authorityPath_eq {cs : List Char} (hne : cs ≠ []) :
    ∃ r, authorityPath cs = segmentPath r ∧ (cs = '/' :: r ∨ cs = r) := by
  unfold authorityPath
  split
  · exact absurd rfl hne
  · next r => exact ⟨r, rfl, .inl rfl⟩
  · exact ⟨cs, rfl, .inr rfl⟩

theorem isPathChar_of_mem_authorityPath {cs : List Char} (hcs : IsPathText cs) {c : Char}
    (h : c ∈ authorityPath cs) : IsPathChar c := by
  by_cases hne : cs = []
  · subst hne
    simp [authorityPath] at h
  · obtain ⟨r, hr, heq⟩ := authorityPath_eq hne
    have hpath : IsPathText r := fun d hd => hcs d (by rcases heq with rfl | rfl <;> simp [hd])
    exact isPathChar_of_mem_segmentPath hpath (hr ▸ h)

/-! ## Text at the end of a path -/

/-- A text that ends the path it is written at: it keeps its characters, ends neither a segment nor
the path, and makes no segment that could be a dot segment. -/
structure IsPathEnd (tail : List Char) : Prop where
  kept : ∀ c ∈ tail, keptInSegment c
  noEnd : ∀ c ∈ tail, c ∉ ['/', '\\', '?', '#']
  mem_colon : ':' ∈ tail

theorem IsPathEnd.notMem_slash {tail : List Char} (h : IsPathEnd tail) : '/' ∉ tail :=
  fun hc => h.noEnd '/' hc (by simp)

theorem IsPathEnd.isPathText {tail : List Char} (h : IsPathEnd tail) : IsPathText tail := by
  intro c hc
  have hend := h.noEnd c hc
  simp only [List.mem_cons, not_or] at hend
  exact ⟨hend.2.2.1, hend.2.2.2.1⟩

theorem mem_decodeDots {x : Char} (hx : x ≠ '%' ∧ x ≠ '2' ∧ x ≠ 'e' ∧ x ≠ 'E') {s : List Char}
    (h : x ∈ s) : x ∈ decodeDots s := by
  obtain ⟨h1, h2, h3, h4⟩ := hx
  fun_induction decodeDots s with
  | case1 r ih => simp_all
  | case2 r ih => simp_all
  | case3 c r _ _ ih =>
    rcases List.mem_cons.mp h with rfl | h
    · simp
    · simp [ih h]
  | case4 => exact h

theorem not_isDot_of_mem_colon {s : List Char} (h : ':' ∈ s) :
    isSingleDot s = false ∧ isDoubleDot s = false := by
  have hmem := mem_decodeDots (by decide) h
  constructor
  · simp only [isSingleDot, beq_eq_false_iff_ne]
    intro he
    simp [he] at hmem
  · simp only [isDoubleDot, beq_eq_false_iff_ne]
    intro he
    simp [he] at hmem

theorem segmentPath_append {tail : List Char} (ht : IsPathEnd tail) (cs : List Char) :
    ∃ init, segmentPath (cs ++ tail) = init ++ tail := by
  obtain ⟨front, last, hsplit⟩ :=
    splitOn_append ht.notMem_slash (percentEncode keptInSegment cs)
  obtain ⟨hs, hd⟩ := not_isDot_of_mem_colon (s := last ++ tail) (by simp [ht.mem_colon])
  obtain ⟨segments, hresolve⟩ := resolveFrom_append_singleton hs hd [] front
  obtain ⟨before, hjoin⟩ := intercalate_append_singleton '/' segments (last ++ tail)
  refine ⟨'/' :: before ++ last, ?_⟩
  rw [segmentPath, percentEncode_append, percentEncode_of_kept ht.kept, hsplit, hresolve, hjoin]
  simp

theorem opaquePath_append {tail : List Char} (ht : IsPathEnd tail) (cs : List Char) :
    opaquePath (cs ++ tail) = opaquePath cs ++ tail := by
  rw [opaquePath, percentEncode_append, percentEncode_of_kept fun c hc =>
    keptInOpaquePath_of_keptInSegment c (ht.kept c hc)]
  rfl

theorem authorityPath_append {tail : List Char} (ht : IsPathEnd tail) {cs : List Char}
    (hne : cs ≠ []) : ∃ init, authorityPath (cs ++ tail) = init ++ tail := by
  obtain ⟨c, r, rfl⟩ := List.exists_cons_of_ne_nil hne
  obtain ⟨r', hr', heq⟩ := authorityPath_eq (show c :: r ++ tail ≠ [] by simp)
  rw [hr']
  rcases heq with heq | rfl
  · obtain ⟨-, rfl⟩ := List.cons.inj heq
    exact segmentPath_append ht r
  · exact segmentPath_append ht (c :: r)

end RtcConfig.Url
