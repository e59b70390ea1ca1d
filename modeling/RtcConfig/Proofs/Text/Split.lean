import Mathlib.Data.List.TakeDrop
import Mathlib.Data.List.TakeWhile

/-! # Splitting texts

Where a text is cut at the first or at the last character of a kind. The first cut keeps what
stands in front of it free of the kind, the last one what stands behind it.
-/

namespace RtcConfig.Text

variable {α : Type}

theorem span_of_forall {p : α → Bool} {xs : List α} (h : ∀ x ∈ xs, p x) :
    xs.span p = (xs, []) := by
  rw [List.span_eq_takeWhile_dropWhile, List.takeWhile_eq_self_iff.mpr h,
    List.dropWhile_eq_nil_iff.mpr h]

theorem span_append {p : α → Bool} {xs : List α} {y : α} {ys : List α} (h : ∀ x ∈ xs, p x)
    (hy : p y = false) : (xs ++ y :: ys).span p = (xs, y :: ys) := by
  rw [List.span_eq_takeWhile_dropWhile, List.takeWhile_append_of_pos h,
    List.dropWhile_append_of_pos h]
  simp [hy]

/-- A list is free of a kind of elements or has a first one of the kind. -/
theorem forall_or_exists_first (p : α → Bool) (xs : List α) :
    (∀ x ∈ xs, p x) ∨ ∃ ys y zs, xs = ys ++ y :: zs ∧ (∀ x ∈ ys, p x) ∧ p y = false := by
  induction xs with
  | nil => exact .inl (by simp)
  | cons x xs ih =>
    by_cases hx : p x
    · rcases ih with h | ⟨ys, y, zs, rfl, hys, hy⟩
      · exact .inl (List.forall_mem_cons.mpr ⟨hx, h⟩)
      · exact .inr ⟨x :: ys, y, zs, rfl, List.forall_mem_cons.mpr ⟨hx, hys⟩, hy⟩
    · exact .inr ⟨[], x, xs, rfl, by simp, by simpa using hx⟩

/-- A span goes no further than an element that ends it. -/
theorem span_append_cons {p : α → Bool} {y : α} (hy : p y = false) (xs ys : List α) :
    (xs ++ y :: ys).span p = ((xs.span p).1, (xs.span p).2 ++ y :: ys) := by
  rcases forall_or_exists_first p xs with hall | ⟨us, u, vs, rfl, hus, hu⟩
  · rw [span_append hall hy, span_of_forall hall]
    rfl
  · rw [List.append_assoc, List.cons_append, span_append hus hu, span_append hus hu]
    rfl

/-- What stands behind an element that ends the span does not matter to the span. -/
theorem span_append_of_mem {p : α → Bool} {x : α} {xs : List α} (hp : p x = false) (h : x ∈ xs)
    (after : List α) :
    (xs ++ after).span p = ((xs.span p).1, (xs.span p).2 ++ after) ∧ x ∈ (xs.span p).2 := by
  rcases forall_or_exists_first p xs with hall | ⟨ys, y, zs, rfl, hys, hy⟩
  · exact absurd (hall x h) (by simp [hp])
  · rw [List.append_assoc, List.cons_append, span_append hys hy, span_append hys hy]
    refine ⟨rfl, ?_⟩
    rcases List.mem_append.mp h with hx | hx
    · exact absurd (hys x hx) (by simp [hp])
    · exact hx

theorem exists_last_of_mem {x : α} {xs : List α} (h : x ∈ xs) :
    ∃ ys zs, xs = ys ++ x :: zs ∧ x ∉ zs := by
  obtain ⟨zs, ys, hxs, hzs⟩ := List.eq_append_cons_of_mem (List.mem_reverse.mpr h)
  refine ⟨ys.reverse, zs.reverse, ?_, by simpa using hzs⟩
  rw [← List.reverse_reverse xs, hxs]
  simp

variable [DecidableEq α]

/-- A list has at most one cut at the first of its elements of one kind. -/
theorem append_cons_unique {x : α} {xs xs' ys ys' : List α} (hxs : x ∉ xs) (hxs' : x ∉ xs')
    (h : xs ++ x :: ys = xs' ++ x :: ys') : xs = xs' ∧ ys = ys' := by
  have hspan {front : List α} (hfront : x ∉ front) (back : List α) :
      (front ++ x :: back).span (· != x) = (front, x :: back) :=
    span_append (fun y hy => by simpa using fun he : y = x => hfront (he ▸ hy)) (by simp)
  have hpair := hspan hxs ys
  rw [h, hspan hxs' ys', Prod.mk.injEq, List.cons.injEq] at hpair
  exact ⟨hpair.1.symm, hpair.2.2.symm⟩

theorem span_reverse_of_notMem {x : α} {xs : List α} (h : x ∉ xs) :
    xs.reverse.span (· != x) = (xs.reverse, []) := by
  apply span_of_forall
  intro y hy
  have hne : y ≠ x := fun he => h (he ▸ List.mem_reverse.mp hy)
  simpa using hne

theorem span_reverse_append {x : α} {xs ys : List α} (h : x ∉ ys) :
    (xs ++ x :: ys).reverse.span (· != x) = (ys.reverse, x :: xs.reverse) := by
  rw [List.reverse_append, List.reverse_cons, List.append_assoc]
  refine span_append ?_ (by simp)
  intro y hy
  have hne : y ≠ x := fun he => h (he ▸ List.mem_reverse.mp hy)
  simpa using hne

end RtcConfig.Text
