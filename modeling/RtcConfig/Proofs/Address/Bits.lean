import Mathlib.Algebra.Group.Nat.Defs
import RtcConfig.Address.Network

/-! # Bits of addresses

An address is a string of bits, those of its octets or groups from the highest bit of the first one
on. A network contains the addresses of its own family that agree with its address in the leading
bits that count, whatever stands behind them, and the network of a single address contains that
address alone.
-/

namespace RtcConfig

/-- The lowest bits of a number, as many as `width`, from the highest of them on. -/
def bitsOf : Nat → Nat → List Bool
  | 0, _ => []
  | width + 1, n => n.testBit width :: bitsOf width n

@[simp] theorem length_bitsOf (width n : Nat) : (bitsOf width n).length = width := by
  induction width with
  | zero => rfl
  | succ width ih => simp [bitsOf, ih]

theorem bitsOf_eq_iff {width n m : Nat} :
    bitsOf width n = bitsOf width m ↔ ∀ i < width, n.testBit i = m.testBit i := by
  induction width with
  | zero => simp [bitsOf]
  | succ width ih =>
    rw [bitsOf, bitsOf, List.cons.injEq, ih, Nat.forall_lt_succ_right]
    exact and_comm

theorem bitsOf_injective {width n m : Nat} (hn : n < 2 ^ width) (hm : m < 2 ^ width)
    (h : bitsOf width n = bitsOf width m) : n = m := by
  apply Nat.eq_of_testBit_eq
  intro i
  by_cases hi : i < width
  · exact bitsOf_eq_iff.mp h i hi
  · have hle : 2 ^ width ≤ 2 ^ i := Nat.pow_le_pow_right (by decide) (by omega)
    rw [Nat.testBit_lt_two_pow (by omega), Nat.testBit_lt_two_pow (by omega)]

theorem bitsOf_append {low : Nat} (width : Nat) (n : Nat) {m : Nat} (hm : m < 2 ^ low) :
    bitsOf (width + low) (2 ^ low * n + m) = bitsOf width n ++ bitsOf low m := by
  have hbit (i : Nat) := Nat.testBit_two_pow_mul_add n hm i
  induction width with
  | zero =>
    rw [Nat.zero_add]
    change _ = bitsOf low m
    apply bitsOf_eq_iff.mpr
    intro i hi
    rw [hbit, if_pos hi]
  | succ width ih =>
    have htop : (2 ^ low * n + m).testBit (width + low) = n.testBit width := by
      rw [hbit, if_neg (by omega), Nat.add_sub_cancel]
    rw [Nat.add_right_comm, bitsOf, htop, ih]
    rfl

theorem take_bitsOf (length low n : Nat) :
    (bitsOf (length + low) n).take length = bitsOf length (n / 2 ^ low) := by
  have hlow : n % 2 ^ low < 2 ^ low := Nat.mod_lt _ (Nat.two_pow_pos low)
  rw [← Nat.div_add_mod n (2 ^ low), bitsOf_append length _ hlow, Nat.div_add_mod]
  exact List.take_left' (length_bitsOf length _)

/-! ## Strings of digits -/

section Digits

variable {α : Type} {low : Nat} {value : α → Nat}

/-- The bits of a number are those of its digits to a base that is a power of two. -/
theorem bitsOf_foldl (hvalue : ∀ d, value d < 2 ^ low) (ds : List α) (width n : Nat) :
    bitsOf (width + ds.length * low) (ds.foldl (fun n d => n * 2 ^ low + value d) n) =
      bitsOf width n ++ ds.flatMap fun d => bitsOf low (value d) := by
  induction ds generalizing width n with
  | nil => simp
  | cons d ds ih =>
    have hwidth : width + (d :: ds).length * low = width + low + ds.length * low := by
      rw [List.length_cons, Nat.add_one_mul]
      omega
    have hfirst := bitsOf_append width n (hvalue d)
    rw [Nat.mul_comm] at hfirst
    rw [hwidth, List.foldl_cons, ih, hfirst, List.flatMap_cons, List.append_assoc]

theorem foldl_lt (hvalue : ∀ d, value d < 2 ^ low) (ds : List α) {width n : Nat}
    (hn : n < 2 ^ width) :
    ds.foldl (fun n d => n * 2 ^ low + value d) n < 2 ^ (width + ds.length * low) := by
  induction ds generalizing width n with
  | nil => simpa using hn
  | cons d ds ih =>
    have hwidth : width + (d :: ds).length * low = width + low + ds.length * low := by
      rw [List.length_cons, Nat.add_one_mul]
      omega
    have hnext : n * 2 ^ low + value d < 2 ^ (width + low) := by
      calc n * 2 ^ low + value d < n * 2 ^ low + 2 ^ low := Nat.add_lt_add_left (hvalue d) _
        _ = (n + 1) * 2 ^ low := (Nat.add_one_mul n _).symm
        _ ≤ 2 ^ width * 2 ^ low := Nat.mul_le_mul_right _ hn
        _ = 2 ^ (width + low) := (Nat.pow_add 2 width low).symm
    rw [hwidth]
    exact ih hnext

theorem flatMap_bitsOf_injective (hvalue : ∀ d, value d < 2 ^ low)
    (hinjective : Function.Injective value) {ds es : List α} (hlength : ds.length = es.length)
    (h : (ds.flatMap fun d => bitsOf low (value d)) = es.flatMap fun d => bitsOf low (value d)) :
    ds = es := by
  induction ds generalizing es with
  | nil => exact (List.length_eq_zero_iff.mp hlength.symm).symm
  | cons d ds ih =>
    cases es with
    | nil => cases hlength
    | cons e es =>
      rw [List.flatMap_cons, List.flatMap_cons] at h
      obtain ⟨hfirst, hrest⟩ := List.append_inj h (by simp)
      rw [hinjective (bitsOf_injective (hvalue d) (hvalue e) hfirst),
        ih (Nat.succ.inj hlength) hrest]

end Digits

/-! ## Addresses -/

def Ipv4.bits (x : Ipv4) : List Bool := x.octets.flatMap fun o => bitsOf 8 o.toNat

def Ipv6.bits (x : Ipv6) : List Bool := x.groups.flatMap fun g => bitsOf 16 g.toNat

theorem Ipv4.bits_eq (x : Ipv4) : x.bits = bitsOf 32 x.toNat :=
  (bitsOf_foldl UInt8.toNat_lt x.octets 0 0).symm

theorem Ipv4.toNat_lt (x : Ipv4) : x.toNat < 2 ^ 32 :=
  foldl_lt UInt8.toNat_lt x.octets (show 0 < 2 ^ 0 by decide)

theorem Ipv6.bits_eq (x : Ipv6) : x.bits = bitsOf 128 x.toNat := by
  have h := bitsOf_foldl UInt16.toNat_lt x.groups 0 0
  rw [x.length_groups] at h
  exact h.symm

theorem Ipv6.toNat_lt (x : Ipv6) : x.toNat < 2 ^ 128 := by
  have h := foldl_lt UInt16.toNat_lt x.groups (show 0 < 2 ^ 0 by decide)
  rw [x.length_groups] at h
  exact h

theorem Ipv4.bits_injective {x y : Ipv4} (h : x.bits = y.bits) : x = y := by
  have hoctets : x.octets = y.octets :=
    flatMap_bitsOf_injective UInt8.toNat_lt (fun _ _ => UInt8.toNat_inj.mp) rfl h
  cases x
  cases y
  simpa [octets] using hoctets

theorem Ipv6.bits_injective {x y : Ipv6} (h : x.bits = y.bits) : x = y := by
  have hlength : x.groups.length = y.groups.length := x.length_groups.trans y.length_groups.symm
  have hgroups : x.groups = y.groups :=
    flatMap_bitsOf_injective UInt16.toNat_lt (fun _ _ => UInt16.toNat_inj.mp) hlength h
  cases x
  cases y
  simpa using hgroups

namespace IpAddress

/-- How many bits an address of the family has. -/
def width : IpAddress → Nat
  | .v4 _ => 32
  | .v6 _ => 128

/-- Addresses of the same family whose first bits agree, as many as `length`. -/
def SharesLeading (length : Nat) : IpAddress → IpAddress → Prop
  | .v4 x, .v4 y => x.bits.take length = y.bits.take length
  | .v6 x, .v6 y => x.bits.take length = y.bits.take length
  | _, _ => False

variable {length : Nat} {x y z : IpAddress}

theorem SharesLeading.refl (length : Nat) (x : IpAddress) : x.SharesLeading length x := by
  cases x <;> rfl

theorem SharesLeading.symm (h : x.SharesLeading length y) : y.SharesLeading length x := by
  cases x <;> cases y <;> first | exact Eq.symm h | exact h

theorem SharesLeading.trans (hxy : x.SharesLeading length y) (hyz : y.SharesLeading length z) :
    x.SharesLeading length z := by
  cases x <;> cases y <;> cases z <;> first | exact Eq.trans hxy hyz | cases hxy | cases hyz

theorem SharesLeading.congr (h : x.SharesLeading length y) :
    x.SharesLeading length z ↔ y.SharesLeading length z :=
  ⟨fun hz => h.symm.trans hz, fun hz => h.trans hz⟩

theorem sharesLeading_width : x.SharesLeading x.width y ↔ y = x := by
  constructor
  · intro h
    cases x with
    | v4 x =>
      cases y with
      | v4 y =>
        have hbits : x.bits = y.bits := by
          simpa [SharesLeading, width, Ipv4.bits_eq, List.take_of_length_le] using h
        rw [Ipv4.bits_injective hbits]
      | v6 y => cases h
    | v6 x =>
      cases y with
      | v4 y => cases h
      | v6 y =>
        have hbits : x.bits = y.bits := by
          simpa [SharesLeading, width, Ipv6.bits_eq, List.take_of_length_le] using h
        rw [Ipv6.bits_injective hbits]
  · rintro rfl
    exact .refl _ _

end IpAddress

/-! ## Networks -/

namespace IpNetwork

def address : IpNetwork → IpAddress
  | .v4 x _ => .v4 x
  | .v6 x _ => .v6 x

/-- How many leading bits of the address count. -/
def length : IpNetwork → Nat
  | .v4 _ length => length
  | .v6 _ length => length

/-- The numbers that a network spans are those with the same quotient by its size. -/
theorem spans_iff_div {width length n m : Nat} :
    spans width length n m = true ↔ m / size width length = n / size width length := by
  have hsize : 0 < size width length := Nat.two_pow_pos _
  rw [spans, Bool.and_eq_true, decide_eq_true_iff, decide_eq_true_iff, highest, lowest,
    Nat.div_eq_iff hsize, Nat.add_sub_assoc hsize]

theorem spans_iff {width length n m : Nat} (hlength : length ≤ width) (hn : n < 2 ^ width)
    (hm : m < 2 ^ width) :
    spans width length n m = true ↔
      (bitsOf width n).take length = (bitsOf width m).take length := by
  obtain ⟨low, rfl⟩ := Nat.exists_eq_add_of_le hlength
  have hsize : size (length + low) length = 2 ^ low := by
    rw [size, Nat.add_sub_cancel_left]
    rfl
  have hquotient {k : Nat} (hk : k < 2 ^ (length + low)) : k / 2 ^ low < 2 ^ length := by
    rw [Nat.pow_add] at hk
    exact Nat.div_lt_of_lt_mul (Nat.mul_comm _ _ ▸ hk)
  rw [spans_iff_div, hsize, take_bitsOf, take_bitsOf]
  constructor
  · intro h
    rw [h]
  · intro h
    exact (bitsOf_injective (hquotient hn) (hquotient hm) h).symm

/-- A network contains the addresses that agree with its own in the bits that count. -/
theorem contains_iff {n : IpNetwork} {y : IpAddress} :
    n.contains y = true ↔ n.address.SharesLeading n.length y := by
  cases n with
  | v4 x length =>
    cases y with
    | v4 y =>
      rw [contains, spans_iff (by omega) x.toNat_lt y.toNat_lt, ← Ipv4.bits_eq, ← Ipv4.bits_eq]
      rfl
    | v6 y => exact iff_of_false Bool.false_ne_true id
  | v6 x length =>
    cases y with
    | v4 y => exact iff_of_false Bool.false_ne_true id
    | v6 y =>
      rw [contains, spans_iff (by omega) x.toNat_lt y.toNat_lt, ← Ipv6.bits_eq, ← Ipv6.bits_eq]
      rfl

/-- The network of an address contains no other address. -/
theorem host_contains_iff {x y : IpAddress} : (host x).contains y = true ↔ y = x := by
  rw [contains_iff, ← IpAddress.sharesLeading_width]
  cases x <;> exact Iff.rfl

end IpNetwork

end RtcConfig
