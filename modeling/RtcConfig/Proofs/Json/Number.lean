import RtcConfig.Json.Reader
import RtcConfig.Json.Writer
import RtcConfig.Proofs.Text.Classes
import RtcConfig.Proofs.Text.Digits
import RtcConfig.Proofs.Text.Split

/-! # Writing and reading numbers

A number is read back as it is written, sign, digits and power of ten, provided that the text
behind it does not go on with the number. A whole number of 64 bits is read back as a value, since
it is not beyond the doubles.
-/

namespace RtcConfig

namespace Json

/-! ## Runs of digits -/

def EndsDigits (rest : List Char) : Prop := ∀ c ∈ rest.head?, c.isDigit = false

/-- What does not go on with a number. -/
def EndsNumber (rest : List Char) : Prop :=
  ∀ c ∈ rest.head?, c.isDigit = false ∧ c ≠ '.' ∧ c ≠ 'e' ∧ c ≠ 'E'

theorem EndsNumber.endsDigits {rest : List Char} (h : EndsNumber rest) : EndsDigits rest :=
  fun c hc => (h c hc).1

theorem endsDigits_cons {c : Char} (h : c.isDigit = false) (rest : List Char) :
    EndsDigits (c :: rest) := by
  intro d hd
  obtain rfl : c = d := by simpa using hd
  exact h

theorem readDigits_append {ds rest : List Char} (hne : ds ≠ []) (hds : ∀ d ∈ ds, d.isDigit)
    (hrest : EndsDigits rest) : readDigits (ds ++ rest) = some (ds, rest) := by
  have hp : ∀ d ∈ ds, Text.isDigit 10 d := by
    intro d hd
    rw [Text.isDigit_ten]
    exact hds d hd
  have hspan : (ds ++ rest).span (Text.isDigit 10) = (ds, rest) := by
    cases rest with
    | nil =>
      rw [List.append_nil]
      exact Text.span_of_forall hp
    | cons c cs =>
      have hc : Text.isDigit 10 c = false := by
        rw [Text.isDigit_ten]
        exact hrest c rfl
      exact Text.span_append hp hc
  obtain ⟨d, ds, rfl⟩ := List.exists_cons_of_ne_nil hne
  rw [readDigits, hspan]

theorem readDigits_decimal (n : Nat) {rest : List Char} (h : EndsDigits rest) :
    readDigits (Text.decimal n ++ rest) = some (Text.decimal n, rest) :=
  readDigits_append (Text.decimal_ne_nil n) (fun _ hd => Text.isDigit_of_mem_decimal hd) h

/-! ## Parts of a number -/

theorem readWhole_decimal (n : Nat) {rest : List Char} (h : EndsDigits rest) :
    readWhole (Text.decimal n ++ rest) = some (n, rest) := by
  rcases Nat.eq_zero_or_pos n with rfl | hn
  · rfl
  · obtain ⟨c, cs, hcs, -⟩ := Text.exists_decimal_cons n
    have hzero : c ≠ '0' := by
      have hhead := Text.head?_decimal hn
      rw [hcs] at hhead
      simpa using hhead
    have hread := readDigits_decimal n h
    rw [hcs, List.cons_append] at hread ⊢
    unfold readWhole
    split
    · next heq => exact absurd (List.cons.inj heq).1 hzero
    · rw [hread]
      simp [← hcs, Text.numeral?_decimal]

theorem readFraction_writeFraction (ds : List (Fin 10)) {rest : List Char} (h : EndsDigits rest)
    (hpoint : rest.head? ≠ some '.') :
    readFraction (writeFraction ds ++ rest) = some (ds, rest) := by
  cases ds with
  | nil =>
    unfold readFraction writeFraction
    split
    · next r heq =>
      rw [List.nil_append] at heq
      rw [heq] at hpoint
      exact absurd rfl hpoint
    · rfl
  | cons d ds =>
    have hdigits : ∀ c ∈ (d :: ds).map fun d => Nat.digitChar d.val, c.isDigit := by
      intro c hc
      obtain ⟨e, -, rfl⟩ := List.mem_map.mp hc
      exact Text.isDigit_digitChar e
    have hback : ((d :: ds).map fun d => Nat.digitChar d.val).map Text.decimalDigit = d :: ds := by
      rw [List.map_map]
      exact List.map_id'' Text.decimalDigit_digitChar _
    have htext : writeFraction (d :: ds) = '.' :: (d :: ds).map fun d => Nat.digitChar d.val :=
      rfl
    rw [htext, List.cons_append, readFraction, readDigits_append (by simp) hdigits h]
    simp only [Option.bind_eq_bind, Option.bind_some, hback]

theorem readPower_decimal (sign : Int) (n : Nat) {rest : List Char} (h : EndsDigits rest) :
    readPower sign (Text.decimal n ++ rest) = some (some (sign * n), rest) := by
  rw [readPower, readDigits_decimal n h]
  simp [Text.numeral?_decimal]

theorem readExponent_writeExponent (e : Option Int) {rest : List Char} (h : EndsNumber rest) :
    readExponent (writeExponent e ++ rest) = some (e, rest) := by
  cases e with
  | none =>
    cases rest with
    | nil => rfl
    | cons c cs =>
      have hc := h c rfl
      simp [writeExponent, readExponent, hc.2.2]
  | some e =>
    cases e with
    | ofNat n =>
      have hpower := readPower_decimal 1 n h.endsDigits
      obtain ⟨c, cs, hcs, hc⟩ := Text.exists_decimal_cons n
      rw [hcs, List.cons_append, Int.one_mul] at hpower
      rw [writeExponent, hcs, List.cons_append, List.cons_append, readExponent, if_pos (.inl rfl)]
      -- The sign is looked for in front of the digits, and no digit is a sign.
      · exact hpower
      · intro r heq
        rw [(List.cons.inj heq).1] at hc
        cases hc
      · intro r heq
        rw [(List.cons.inj heq).1] at hc
        cases hc
    | negSucc n =>
      have hpower := readPower_decimal (-1) (n + 1) h.endsDigits
      rw [writeExponent, List.cons_append, List.cons_append, readExponent, if_pos (.inl rfl)]
      show readPower (-1) _ = _
      rw [hpower, Int.neg_one_mul]
      rfl

/-! ## Numbers -/

theorem endsDigits_writeExponent (e : Option Int) {rest : List Char} (h : EndsNumber rest) :
    EndsDigits (writeExponent e ++ rest) ∧ (writeExponent e ++ rest).head? ≠ some '.' := by
  cases e with
  | none => exact ⟨h.endsDigits, fun hc => (h '.' hc).2.1 rfl⟩
  | some e => cases e <;> exact ⟨endsDigits_cons rfl _, by simp [writeExponent]⟩

theorem endsDigits_writeFraction (ds : List (Fin 10)) {rest : List Char} (h : EndsDigits rest) :
    EndsDigits (writeFraction ds ++ rest) := by
  cases ds with
  | nil => exact h
  | cons d ds => exact endsDigits_cons rfl _

theorem readUnsigned_append (x : Number) {rest : List Char} (h : EndsNumber rest) :
    readUnsigned x.negative (Text.decimal x.whole ++ (writeFraction x.fraction ++
      (writeExponent x.exponent ++ rest))) = some (x, rest) := by
  obtain ⟨hdigits, hpoint⟩ := endsDigits_writeExponent x.exponent h
  rw [readUnsigned, readWhole_decimal _ (endsDigits_writeFraction _ hdigits)]
  simp only [Option.bind_eq_bind, Option.bind_some, readFraction_writeFraction _ hdigits hpoint,
    readExponent_writeExponent _ h]

/-- The text of a number starts with a sign or a digit. -/
theorem writeNumber_cons (x : Number) :
    ∃ c cs, writeNumber x = c :: cs ∧ (c = '-' ∨ c.isDigit) := by
  obtain ⟨d, ds, hds, hd⟩ := Text.exists_decimal_cons x.whole
  unfold writeNumber
  split
  · exact ⟨'-', _, rfl, .inl rfl⟩
  · rw [hds]
    exact ⟨d, _, rfl, .inr hd⟩

theorem readNumber_writeNumber (x : Number) {rest : List Char} (h : EndsNumber rest) :
    readNumber (writeNumber x ++ rest) = some (x, rest) := by
  have hread := readUnsigned_append x h
  unfold writeNumber
  cases hsign : x.negative with
  | true =>
    rw [hsign] at hread
    simpa [readNumber] using hread
  | false =>
    rw [hsign] at hread
    obtain ⟨d, ds, hds, hd⟩ := Text.exists_decimal_cons x.whole
    have htext : (if false = true then ['-'] else []) ++ Text.decimal x.whole ++
        writeFraction x.fraction ++ writeExponent x.exponent ++ rest =
          Text.decimal x.whole ++ (writeFraction x.fraction ++
            (writeExponent x.exponent ++ rest)) := by
      simp
    rw [htext]
    rw [hds] at hread ⊢
    unfold readNumber
    split
    · next heq =>
      rw [(List.cons.inj heq).1] at hd
      cases hd
    · exact hread

end Json

/-! ## Whole numbers of 64 bits -/

namespace Double

theorem lastPlace_le (n : Nat) : lastPlace n ≤ n + 1 := by
  rcases Nat.eq_zero_or_pos n with rfl | hn
  · decide
  · calc lastPlace n
      _ ≤ 2 ^ n.log2 := Nat.pow_le_pow_right (by decide) (by rw [precision]; omega)
      _ ≤ n := Nat.log2_self_le (by omega)
      _ ≤ n + 1 := Nat.le_succ n

theorem divideToEven_le (n d : Nat) : divideToEven n d ≤ n / d + 1 := by
  simp only [divideToEven]
  split
  · exact Nat.le_refl _
  · exact Nat.le_succ _

/-- Rounding moves a number by no more than its last place. -/
theorem round_le (n : Nat) : round n ≤ 2 * n + 1 := by
  have hquotient : n / lastPlace n * lastPlace n ≤ n := Nat.div_mul_le_self n (lastPlace n)
  have hplace := lastPlace_le n
  calc round n
    _ ≤ (n / lastPlace n + 1) * lastPlace n := Nat.mul_le_mul_right _ (divideToEven_le _ _)
    _ = n / lastPlace n * lastPlace n + lastPlace n := Nat.succ_mul _ _
    _ ≤ 2 * n + 1 := by omega

theorem productIsFinite_one {n : Nat} (h : n < UInt64.size) : productIsFinite n 1 = true := by
  have hone : round 1 = 1 := by decide
  have hlimit : 2 ^ 67 ≤ limit := by decide +kernel
  have hsize : UInt64.size = 2 ^ 64 := rfl
  have hround := round_le n
  have htwice := round_le (round n)
  rw [productIsFinite, hone, Nat.mul_one, isFinite, decide_eq_true_iff]
  omega

end Double

namespace Json.Number

theorem takeDigits_of_lt (cs : List Char) (hcs : ∀ c ∈ cs, c.isDigit) (s : Nat)
    (h : Nat.ofDigitChars 10 cs s < UInt64.size) :
    takeDigits s (cs.map Text.decimalDigit) = (Nat.ofDigitChars 10 cs s, []) := by
  induction cs generalizing s with
  | nil => simp [takeDigits]
  | cons c cs ih =>
    have hc := Text.isDigit_iff_toNat.mp (hcs c List.mem_cons_self)
    have hdigit : (Text.decimalDigit c).val = c.toNat - 48 :=
      Nat.mod_eq_of_lt (by omega)
    rw [Nat.ofDigitChars_cons] at h ⊢
    have hnext : 10 * s + (c.toNat - 48) ≤ Nat.ofDigitChars 10 cs (10 * s + (c.toNat - 48)) := by
      rw [Nat.ofDigitChars_eq_ofDigitChars_zero]
      exact Nat.le_add_right_of_le (Nat.le_mul_of_pos_left _ (Nat.pow_pos (by decide)))
    rw [List.map_cons, takeDigits, hdigit, if_pos (Nat.lt_of_le_of_lt hnext h)]
    exact ih (fun d hd => hcs d (List.mem_cons_of_mem c hd)) _ h

theorem significand_ofNat {n : Nat} (h : n < UInt64.size) : (ofNat n).significand = (n, 0) := by
  have hvalue : Nat.ofDigitChars 10 (Text.decimal n) 0 = n := Nat.ofDigitChars_ten_toDigits
  have htake : takeDigits 0 (ofNat n).wholeDigits = (n, []) := by
    have hall := takeDigits_of_lt (Text.decimal n) (fun _ => Text.isDigit_of_mem_decimal) 0
      (by rwa [hvalue])
    rwa [hvalue] at hall
  rw [significand, htake]
  rfl

theorem isFinite_ofNat {n : Nat} (h : n < UInt64.size) : (ofNat n).isFinite = true := by
  rw [isFinite, significand_ofNat h]
  cases n with
  | zero => rfl
  | succ n =>
    show (decide (0 ≤ maxPower) && Double.productIsFinite (n + 1) 1) = true
    rw [Double.productIsFinite_one h]
    rfl

end Json.Number

end RtcConfig
