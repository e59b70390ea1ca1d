import RtcConfig.Proofs.Json.RoundTrip

/-! # Held values

Whether a value may be held is decided by its parts: it is representable when all of them are, and
nests as deep as the deepest of them. A value that its text denotes is representable.
-/

namespace RtcConfig.Json

theorem membersRepresentable_iff {ms : Members} :
    membersRepresentable ms ↔ ∀ m ∈ ms, m.2.isRepresentable := by
  induction ms with
  | nil => simp [membersRepresentable]
  | cons m ms ih => simp [membersRepresentable, ih]

theorem itemsRepresentable_iff {vs : List Json} :
    itemsRepresentable vs ↔ ∀ v ∈ vs, v.isRepresentable := by
  induction vs with
  | nil => simp [itemsRepresentable]
  | cons v vs ih => simp [itemsRepresentable, ih]

theorem itemsDepth_le_iff {vs : List Json} {n : Nat} :
    itemsDepth vs ≤ n ↔ ∀ v ∈ vs, v.depth ≤ n := by
  induction vs with
  | nil => simp [itemsDepth]
  | cons v vs ih => rw [itemsDepth, Nat.max_le, ih, List.forall_mem_cons]

theorem membersDepth_le_iff {ms : Members} {n : Nat} :
    membersDepth ms ≤ n ↔ ∀ m ∈ ms, m.2.depth ≤ n := by
  induction ms with
  | nil => simp [membersDepth]
  | cons m ms ih => rw [membersDepth, Nat.max_le, ih, List.forall_mem_cons]

theorem canHold_iff {limit : Nat} {v : Json} :
    canHold limit v ↔ v.isRepresentable ∧ v.depth ≤ limit := by
  simp [canHold]

theorem canHold_array_iff {limit : Nat} {vs : List Json} :
    canHold limit (.array vs) ↔ 0 < limit ∧ ∀ v ∈ vs, v.canHold (limit - 1) := by
  cases limit with
  | zero => simp [canHold, depth]
  | succ n =>
    simp only [canHold_iff, isRepresentable, depth, Nat.add_le_add_iff_right,
      itemsRepresentable_iff, itemsDepth_le_iff]
    simp [forall_and]

theorem canHold_object_iff {limit : Nat} {ms : Members} :
    canHold limit (.object ms) ↔ 0 < limit ∧ ∀ m ∈ ms, m.2.canHold (limit - 1) := by
  cases limit with
  | zero => simp [canHold, depth]
  | succ n =>
    simp only [canHold_iff, isRepresentable, depth, Nat.add_le_add_iff_right,
      membersRepresentable_iff, membersDepth_le_iff]
    simp [forall_and]

mutual

theorem isRepresentable_of_isDenotable : ∀ {v : Json}, v.isDenotable → v.isRepresentable
  | .null, _ => rfl
  | .bool _, _ => rfl
  | .number _, _ => rfl
  | .string _, _ => rfl
  | .array _, h => itemsRepresentable_of_itemsDenotable h
  | .object _, h => membersRepresentable_of_membersDenotable h

theorem itemsRepresentable_of_itemsDenotable :
    ∀ {vs : List Json}, itemsDenotable vs → itemsRepresentable vs
  | [], _ => rfl
  | v :: vs, h => by
    rw [itemsDenotable, Bool.and_eq_true] at h
    rw [itemsRepresentable, Bool.and_eq_true]
    exact ⟨isRepresentable_of_isDenotable h.1, itemsRepresentable_of_itemsDenotable h.2⟩

theorem membersRepresentable_of_membersDenotable :
    ∀ {ms : Members}, membersDenotable ms → membersRepresentable ms
  | [], _ => rfl
  | (_, v) :: ms, h => by
    rw [membersDenotable, Bool.and_eq_true] at h
    rw [membersRepresentable, Bool.and_eq_true]
    exact ⟨isRepresentable_of_isDenotable h.1, membersRepresentable_of_membersDenotable h.2⟩

end

end RtcConfig.Json
