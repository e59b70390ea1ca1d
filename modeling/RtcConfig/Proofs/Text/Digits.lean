import Mathlib.Algebra.Group.Nat.Defs
import RtcConfig.Text.Digits

/-! # Values of numerals

A text is a numeral exactly when it is a non-empty run of digits. A decimal numeral is such a run,
with zeros in front of it or without. What is written as the numeral of a number has its value, to
every base.
-/

namespace RtcConfig.Text

theorem digit?_ten {c : Char} (h : c.isDigit) : digit? 10 c = some (c.toNat - 48) := by
  have hc := Char.isDigit_iff_toNat.mp h
  have hle : '0' ≤ c ∧ c ≤ '9' := hc
  have hlt : c.toNat - 48 < 10 := by
    have : c.toNat ≤ 57 := hc.2
    omega
  simp [digit?, hle, hlt]

theorem isDigit_ten (c : Char) : isDigit 10 c = c.isDigit := by
  by_cases h : c.isDigit
  · simp [isDigit, digit?_ten h, h]
  · have hc : ¬('0' ≤ c ∧ c ≤ '9') := fun hle => h (Char.isDigit_iff_toNat.mpr hle)
    have hlow (h1 : 'a' ≤ c) : 97 ≤ c.toNat := h1
    have hupp (h1 : 'A' ≤ c) : 65 ≤ c.toNat := h1
    rw [Bool.eq_false_iff.mpr h]
    simp only [isDigit, digit?, if_neg hc]
    split
    · next h1 =>
      have := hlow h1.1
      rw [if_neg (by omega)]
      rfl
    · split
      · next h1 =>
        have := hupp h1.1
        rw [if_neg (by omega)]
        rfl
      · simp

theorem valueFrom_isSome {base : Nat} (n : Nat) (cs : List Char) :
    (valueFrom base n cs).isSome ↔ ∀ c ∈ cs, isDigit base c := by
  induction cs generalizing n with
  | nil => simp [valueFrom]
  | cons c cs ih =>
    cases h : digit? base c with
    | none => simp [valueFrom, h, isDigit]
    | some d => simp [valueFrom, h, isDigit, ih]

theorem digit?_lt {base d : Nat} {c : Char} (h : digit? base c = some d) : d < base := by
  unfold digit? at h
  rw [Option.ite_none_right_eq_some] at h
  obtain ⟨hlt, heq⟩ := h
  exact Option.some.inj heq ▸ hlt

theorem valueFrom_lt {base n v : Nat} {cs : List Char} (h : valueFrom base n cs = some v) :
    v < (n + 1) * base ^ cs.length := by
  induction cs generalizing n with
  | nil =>
    obtain rfl := Option.some.inj h
    simp
  | cons c cs ih =>
    rw [valueFrom] at h
    split at h
    · next d hd =>
      have hdigit := digit?_lt hd
      calc v < (base * n + d + 1) * base ^ cs.length := ih h
        _ ≤ (base * (n + 1)) * base ^ cs.length :=
          Nat.mul_le_mul_right _ (by rw [Nat.mul_add]; omega)
        _ = (n + 1) * base ^ (c :: cs).length := by
          rw [List.length_cons, Nat.pow_succ, Nat.mul_comm base, Nat.mul_assoc,
            Nat.mul_comm base]
    · cases h

/-- A numeral is less than the power of the base with as many places. -/
theorem numeral?_lt {base v : Nat} {cs : List Char} (h : numeral? base cs = some v) :
    v < base ^ cs.length := by
  cases cs with
  | nil => cases h
  | cons c cs => simpa using valueFrom_lt h

/-- A text has a value exactly when it is a non-empty run of digits. -/
theorem numeral?_isSome {base : Nat} (cs : List Char) :
    (numeral? base cs).isSome ↔ cs ≠ [] ∧ ∀ c ∈ cs, isDigit base c := by
  cases cs with
  | nil => simp [numeral?]
  | cons c cs => simpa [numeral?] using valueFrom_isSome 0 (c :: cs)

theorem valueFrom_ten {cs : List Char} (h : ∀ c ∈ cs, c.isDigit) (n : Nat) :
    valueFrom 10 n cs = some (Nat.ofDigitChars 10 cs n) := by
  induction cs generalizing n with
  | nil => simp [valueFrom]
  | cons c cs ih =>
    have hc := digit?_ten (h c (by simp))
    rw [valueFrom, hc, Nat.ofDigitChars_cons]
    exact ih (fun d hd => h d (by simp [hd])) _

theorem isDigit_of_mem_decimal {n : Nat} {c : Char} (h : c ∈ decimal n) : c.isDigit :=
  Nat.isDigit_of_mem_toDigits (by decide) (by decide) h

theorem isDigit_of_mem_zeros_decimal {zeros n : Nat} {c : Char}
    (h : c ∈ List.replicate zeros '0' ++ decimal n) : c.isDigit := by
  rcases List.mem_append.mp h with h | h
  · rw [List.eq_of_mem_replicate h]
    rfl
  · exact isDigit_of_mem_decimal h

theorem decimal_ne_nil (n : Nat) : decimal n ≠ [] := Nat.toDigits_ne_nil

theorem exists_decimal_cons (n : Nat) : ∃ c cs, decimal n = c :: cs ∧ c.isDigit := by
  obtain ⟨c, cs, hcs⟩ := List.exists_cons_of_ne_nil (decimal_ne_nil n)
  exact ⟨c, cs, hcs, isDigit_of_mem_decimal (hcs ▸ List.mem_cons_self)⟩

/-! ## Written numerals -/

theorem valueFrom_append (base n : Nat) (cs ds : List Char) :
    valueFrom base n (cs ++ ds) = (valueFrom base n cs).bind fun m => valueFrom base m ds := by
  induction cs generalizing n with
  | nil => rfl
  | cons c cs ih =>
    rw [List.cons_append, valueFrom, valueFrom]
    cases digit? base c with
    | none => rfl
    | some d => exact ih _

theorem digit?_digitChar {base d : Nat} (hbase : base ≤ 16) (hd : d < base) :
    digit? base (Nat.digitChar d) = some d := by
  have hall : ∀ base ≤ 16, ∀ d < base, digit? base (Nat.digitChar d) = some d := by decide
  exact hall base hbase d hd

theorem valueFrom_toDigits {base : Nat} (hone : 1 < base) (hbase : base ≤ 16) (n : Nat) :
    valueFrom base 0 (Nat.toDigits base n) = some n := by
  induction n using Nat.strongRecOn with
  | ind n ih =>
    rcases Nat.lt_or_ge n base with hlt | hle
    · rw [Nat.toDigits_of_lt_base hlt, valueFrom, digit?_digitChar hbase hlt]
      simp [valueFrom]
    · have hfront := ih (n / base) (Nat.div_lt_self (by omega) hone)
      have hlast := digit?_digitChar hbase (Nat.mod_lt n (by omega))
      rw [Nat.toDigits_of_base_le hone hle, valueFrom_append, hfront, Option.bind_some, valueFrom,
        hlast]
      exact congrArg some (Nat.div_add_mod n base)

/-- What is written as a numeral has its value. -/
theorem numeral?_toDigits {base : Nat} (hone : 1 < base) (hbase : base ≤ 16) (n : Nat) :
    numeral? base (Nat.toDigits base n) = some n := by
  obtain ⟨c, cs, hcs⟩ := List.exists_cons_of_ne_nil (Nat.toDigits_ne_nil (n := n) (b := base))
  have hvalue := valueFrom_toDigits hone hbase n
  rw [hcs] at hvalue ⊢
  exact hvalue

theorem numeral?_decimal (n : Nat) : numeral? 10 (decimal n) = some n :=
  numeral?_toDigits (by decide) (by decide) n

theorem numeral?_hexadecimal (n : Nat) : numeral? 16 (hexadecimal n) = some n :=
  numeral?_toDigits (by decide) (by decide) n

/-- No zeros stand in front of a decimal numeral. -/
theorem head?_decimal {n : Nat} (h : 0 < n) : (decimal n).head? ≠ some '0' := by
  induction n using Nat.strongRecOn with
  | ind n ih =>
    by_cases hlt : n < 10
    · rw [decimal, Nat.toDigits_of_lt_base hlt, List.head?_cons, ne_eq, Option.some.injEq,
        Nat.digitChar_eq_zero]
      omega
    · have hfront := ih (n / 10) (by omega) (by omega)
      obtain ⟨c, cs, hcs, -⟩ := exists_decimal_cons (n / 10)
      have hsplit : decimal n = decimal (n / 10) ++ [Nat.digitChar (n % 10)] :=
        Nat.toDigits_of_base_le (by decide) (by omega)
      rw [hsplit, hcs]
      rwa [hcs] at hfront

theorem decimalDigit_digitChar (d : Fin 10) : decimalDigit (Nat.digitChar d.val) = d := by
  apply Fin.ext
  rw [decimalDigit, Nat.toNat_digitChar_sub_48_of_lt_ten d.isLt, Fin.ofNat_val_eq_self]

theorem isDigit_digitChar (d : Fin 10) : (Nat.digitChar d.val).isDigit := by
  revert d
  decide

end RtcConfig.Text
