import Mathlib.Data.List.Forall2

/-! # Computations that run alike

Two computations run alike if both fail with the same error or both return values of which a given
relation holds. What is computed step by step, or for each element of a list, runs alike if each
step does.
-/

namespace RtcConfig

variable {ε α α' β β' : Type} {R : α → α' → Prop} {S : β → β' → Prop}

/-- The same error, or values in relation. -/
inductive Alike (R : α → α' → Prop) : Except ε α → Except ε α' → Prop
  | error (e : ε) : Alike R (.error e) (.error e)
  | ok {a : α} {a' : α'} (h : R a a') : Alike R (.ok a) (.ok a')

namespace Alike

variable {r : Except ε α} {r' : Except ε α'}

theorem refl (r : Except ε α) : Alike Eq r r := by
  cases r with
  | error e => exact .error e
  | ok a => exact .ok rfl

theorem eq_error {e : ε} (h : Alike R r r') (hr : r = .error e) : r' = .error e := by
  cases h with
  | error e' => exact congrArg Except.error (Except.error.inj hr)
  | ok ha => cases hr

theorem exists_ok {a : α} (h : Alike R r r') (hr : r = .ok a) : ∃ a', r' = .ok a' ∧ R a a' := by
  cases h with
  | error e => cases hr
  | ok ha =>
    obtain rfl := Except.ok.inj hr
    exact ⟨_, rfl, ha⟩

theorem bind {f : α → Except ε β} {f' : α' → Except ε β'} (h : Alike R r r')
    (hf : ∀ a a', R a a' → Alike S (f a) (f' a')) : Alike S (r >>= f) (r' >>= f') := by
  cases h with
  | error e => exact .error e
  | ok ha => exact hf _ _ ha

/-- Behind a common step only the rest has to run alike. -/
theorem bind_same {f : α → Except ε β} {f' : α → Except ε β'} (r : Except ε α)
    (hf : ∀ a, Alike S (f a) (f' a)) : Alike S (r >>= f) (r >>= f') := by
  refine (refl r).bind ?_
  rintro a a' rfl
  exact hf a

theorem map {f : α → β} {f' : α' → β'} (h : Alike R r r')
    (hf : ∀ a a', R a a' → S (f a) (f' a')) : Alike S (r.map f) (r'.map f') := by
  cases h with
  | error e => exact .error e
  | ok ha => exact .ok (hf _ _ ha)

theorem mapM {f : α → Except ε β} {f' : α' → Except ε β'} {xs : List α} {xs' : List α'}
    (h : List.Forall₂ R xs xs') (hf : ∀ a a', R a a' → Alike S (f a) (f' a')) :
    Alike (List.Forall₂ S) (xs.mapM f) (xs'.mapM f') := by
  induction h with
  | nil => exact .ok .nil
  | cons ha _ ih =>
    rw [List.mapM_cons, List.mapM_cons]
    refine (hf _ _ ha).bind fun b b' hb => ?_
    exact ih.map fun bs bs' hbs => .cons hb hbs

end Alike

end RtcConfig
