import Mathlib.Data.List.Forall2

/-! # What a computation reports

A computation that stops at its first error reports the first of a list of faults, or none if it
returns a value. The faults of one computation behind another, and of one computation for each
element of a list, are the faults of both in order.
-/

namespace RtcConfig

variable {ε α β : Type}

theorem ok_bind (a : α) (f : α → Except ε β) : (Except.ok a : Except ε α) >>= f = f a := rfl

theorem bind_eq_ok {r : Except ε α} {f : α → Except ε β} {b : β} (h : r >>= f = .ok b) :
    ∃ a, r = .ok a ∧ f a = .ok b := by
  cases r with
  | error e => cases h
  | ok a => exact ⟨a, rfl, h⟩

theorem map_eq_ok {r : Except ε α} {f : α → β} {b : β} (h : r.map f = .ok b) :
    ∃ a, r = .ok a ∧ f a = b := by
  cases r with
  | error e => cases h
  | ok a => exact ⟨a, rfl, Except.ok.inj h⟩

theorem map_eq_error {r : Except ε α} {f : α → β} {e : ε} (h : r.map f = .error e) :
    r = .error e := by
  cases r with
  | error e' => exact congrArg Except.error (Except.error.inj h)
  | ok a => cases h

theorem exists_ok_of_isSome {r : Except ε α} (h : r.toOption.isSome) : ∃ a, r = .ok a := by
  cases r with
  | error e => cases h
  | ok a => exact ⟨a, rfl⟩

theorem mapM_eq_ok {f : α → Except ε β} {xs : List α} {ys : List β} (h : xs.mapM f = .ok ys) :
    List.Forall₂ (fun x y => f x = .ok y) xs ys := by
  induction xs generalizing ys with
  | nil =>
    obtain rfl := Except.ok.inj h
    exact .nil
  | cons x xs ih =>
    rw [List.mapM_cons] at h
    obtain ⟨y, hy, h⟩ := bind_eq_ok h
    obtain ⟨ys', hys, h⟩ := bind_eq_ok h
    obtain rfl := Except.ok.inj h
    exact .cons hy (ih hys)

theorem mapM_of_forall₂ {f : α → Except ε β} {xs : List α} {ys : List β}
    (h : List.Forall₂ (fun x y => f x = .ok y) xs ys) : xs.mapM f = .ok ys := by
  induction h with
  | nil => rfl
  | cons hxy _ ih =>
    rw [List.mapM_cons, hxy, ih]
    rfl

theorem exists_mapM_eq_ok_iff {f : α → Except ε β} {xs : List α} :
    (∃ ys, xs.mapM f = .ok ys) ↔ ∀ x ∈ xs, ∃ y, f x = .ok y := by
  induction xs with
  | nil => exact iff_of_true ⟨[], rfl⟩ (List.forall_mem_nil _)
  | cons x xs ih =>
    rw [List.forall_mem_cons, ← ih]
    constructor
    · rintro ⟨_, h⟩
      cases mapM_eq_ok h with
      | cons hx hxs => exact ⟨⟨_, hx⟩, _, mapM_of_forall₂ hxs⟩
    · rintro ⟨⟨y, hx⟩, ys, hxs⟩
      exact ⟨y :: ys, mapM_of_forall₂ (.cons hx (mapM_eq_ok hxs))⟩

/-- An error is the one of the first element that has one. -/
theorem mapM_eq_error_iff {f : α → Except ε β} {xs : List α} {e : ε} :
    xs.mapM f = .error e ↔ ∃ before x after, xs = before ++ x :: after ∧
      (∃ ys, before.mapM f = .ok ys) ∧ f x = .error e := by
  constructor
  · intro h
    induction xs with
    | nil => cases h
    | cons x xs ih =>
      rw [List.mapM_cons] at h
      cases hx : f x with
      | error e' =>
        rw [hx] at h
        obtain rfl : e' = e := Except.error.inj h
        exact ⟨[], x, xs, rfl, ⟨[], rfl⟩, hx⟩
      | ok y =>
        rw [hx, ok_bind] at h
        obtain ⟨before, x', after, rfl, ⟨ys, hys⟩, hfails⟩ := ih (map_eq_error h)
        have hbefore := mapM_of_forall₂ (.cons hx (mapM_eq_ok hys))
        exact ⟨x :: before, x', after, rfl, ⟨_, hbefore⟩, hfails⟩
  · rintro ⟨before, x, after, rfl, ⟨ys, hys⟩, hx⟩
    rw [List.mapM_append, hys, ok_bind, List.mapM_cons, hx]
    rfl

theorem exists_of_mapM_eq_error {f : α → Except ε β} {xs : List α} {e : ε}
    (h : xs.mapM f = .error e) : ∃ x ∈ xs, f x = .error e := by
  obtain ⟨before, x, after, rfl, -, hx⟩ := mapM_eq_error_iff.mp h
  exact ⟨x, List.mem_append_cons_self, hx⟩

/-- Elements with the same results may stand for each other. -/
theorem mapM_congr_forall₂ {f g : α → Except ε β} {xs ys : List α}
    (h : List.Forall₂ (fun x y => g y = f x) xs ys) : ys.mapM g = xs.mapM f := by
  induction h with
  | nil => rfl
  | cons hxy _ ih => rw [List.mapM_cons, List.mapM_cons, hxy, ih]

/-- A value without faults, or the first fault. -/
inductive Reports : Except ε α → List ε → Prop
  | ok (a : α) : Reports (.ok a) []
  | error (e : ε) (more : List ε) : Reports (.error e) (e :: more)

namespace Reports

@[simp] theorem ok_iff {a : α} {faults : List ε} :
    Reports (.ok a : Except ε α) faults ↔ faults = [] := by
  constructor
  · rintro ⟨⟩
    rfl
  · rintro rfl
    exact .ok a

@[simp] theorem error_iff {e : ε} {faults : List ε} :
    Reports (.error e : Except ε α) faults ↔ faults.head? = some e := by
  constructor
  · rintro ⟨⟩
    rfl
  · intro h
    obtain ⟨more, rfl⟩ := List.head?_eq_some_iff.mp h
    exact .error e more

variable {r : Except ε α} {faults : List ε}

theorem exists_ok_iff (h : Reports r faults) : (∃ a, r = .ok a) ↔ faults = [] := by
  cases h with
  | ok a => simp
  | error e more => simp

theorem eq_error_iff (h : Reports r faults) (e : ε) :
    r = .error e ↔ faults.head? = some e := by
  cases h with
  | ok a => simp
  | error e' more => simp

theorem bind {f : α → Except ε β} {more : List ε} (h : Reports r faults)
    (hf : ∀ a, r = .ok a → Reports (f a) more) : Reports (r >>= f) (faults ++ more) := by
  cases h with
  | ok a => exact hf a rfl
  | error e rest => exact .error e (rest ++ more)

/-- A last step that cannot fail adds no faults. -/
theorem map (h : Reports r faults) (f : α → β) : Reports (r.map f) faults := by
  cases h with
  | ok a => exact .ok (f a)
  | error e more => exact .error e more

theorem mapM {f : α → Except ε β} {faultsOf : α → List ε} {xs : List α}
    (h : ∀ a ∈ xs, Reports (f a) (faultsOf a)) : Reports (xs.mapM f) (xs.flatMap faultsOf) := by
  induction xs with
  | nil => exact .ok []
  | cons x xs ih =>
    have hrest := ih fun a ha => h a (List.mem_cons_of_mem x ha)
    rw [List.mapM_cons, List.flatMap_cons]
    exact (h x List.mem_cons_self).bind fun y _ => hrest.map (List.cons y)

end Reports

end RtcConfig
