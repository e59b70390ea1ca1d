import Mathlib.Data.Nat.Digits.Defs
import RtcConfig.Address.Writer
import RtcConfig.Proofs.Address.Entry

/-! # Addresses written and read

The text of an address is read as that address. Groups in front of a text that is no part of them
are read one after another, whatever follows, so it does not matter where the two colons stand: they
give back as many zero groups as they were written for.
-/

namespace RtcConfig

namespace AddressNotation

variable (n : AddressNotation)

/-! ## Octets -/

theorem readOctet_decimal (o : UInt8) {rest : List Char} (hrest : EndsNumeral 10 rest) :
    n.readOctet (Text.decimal o.toNat ++ rest) = some (o, rest) := by
  have hlength : (Text.decimal o.toNat).length ≤ 3 :=
    Nat.toDigits_length 10 o.toNat 3 (by decide) (Nat.lt_trans o.toNat_lt (by decide))
  have hzeros : (Text.decimal o.toNat).head? ≠ some '0' ∨ (Text.decimal o.toNat).length = 1 := by
    rcases Nat.eq_zero_or_pos o.toNat with hzero | hpos
    · rw [hzero]
      exact .inr rfl
    · exact .inl (Text.head?_decimal hpos)
  rw [readOctet, readNumeral_of_ends hrest hlength (Text.numeral?_decimal _)]
  rcases hzeros with h | h <;> simp [h, o.toNat_lt]

theorem readIpv4_chars (x : Ipv4) {rest : List Char} (hrest : EndsNumeral 10 rest) :
    n.readIpv4 (x.chars ++ rest) = some (x, rest) := by
  have hdot (cs : List Char) : EndsNumeral 10 ('.' :: cs) := by
    simp [EndsNumeral, Text.isDigit_ten]
  have hchars : x.chars ++ rest = Text.decimal x.a.toNat ++ '.' :: (Text.decimal x.b.toNat ++
      '.' :: (Text.decimal x.c.toNat ++ '.' :: (Text.decimal x.d.toNat ++ rest))) := by
    simp [Ipv4.chars, Ipv4.octets]
  simp [hchars, readIpv4, readOctet_decimal, readDot, hdot, hrest]

/-! ## Groups -/

/-- A text that goes on neither with the digits of a group nor with a dot. -/
structure EndsGroup (rest : List Char) : Prop where
  numeral : EndsNumeral 16 rest
  noDot : rest.head? ≠ some '.'

theorem EndsGroup.nil : EndsGroup [] := ⟨nofun, nofun⟩

theorem EndsGroup.colon (cs : List Char) : EndsGroup (':' :: cs) where
  numeral := by
    rintro c ⟨⟩
    decide
  noDot := by simp

theorem readGroup_hexadecimal (g : UInt16) {rest : List Char} (hrest : EndsGroup rest) :
    readGroup (Text.hexadecimal g.toNat ++ rest) = some (g, rest) := by
  have hlength : (Text.hexadecimal g.toNat).length ≤ 4 :=
    Nat.toDigits_length 16 g.toNat 4 (by decide) g.toNat_lt
  rw [readGroup, readNumeral_of_ends hrest.numeral hlength (Text.numeral?_hexadecimal _)]
  simp [g.toNat_lt]

/-- One group is read, and the groups behind it as if it were not there. -/
theorem readGroups_group {first : Bool} {cs rest : List Char} (g : UInt16) (hrest : EndsGroup rest)
    (hcs : readSeparator first cs = some (Text.hexadecimal g.toNat ++ rest)) (limit : Nat) :
    n.readGroups first (limit + 1) cs =
      ⟨g :: (n.readGroups false limit rest).groups, (n.readGroups false limit rest).dotted,
        (n.readGroups false limit rest).rest⟩ := by
  have hgroup := readGroup_hexadecimal g hrest
  have hipv4 : n.readIpv4 (Text.hexadecimal g.toNat ++ rest) = none := by
    apply readIpv4_of_readGroup
    intro g' r h
    rw [hgroup, Option.some.injEq, Prod.mk.injEq] at h
    exact hrest.noDot (by rw [h.2]; rfl)
  rw [readGroups, hcs]
  simp only [hipv4, hgroup, ite_self]

/-- Groups with a colon in front of each. -/
def behindColons (gs : List UInt16) : List Char :=
  gs.flatMap fun g => ':' :: Text.hexadecimal g.toNat

theorem groupChars_cons (g : UInt16) (gs : List UInt16) :
    Ipv6.groupChars (g :: gs) = Text.hexadecimal g.toNat ++ behindColons gs := by
  induction gs generalizing g with
  | nil => simp [Ipv6.groupChars, behindColons]
  | cons h gs ih =>
    have hjoin : Ipv6.groupChars (g :: h :: gs) =
        Text.hexadecimal g.toNat ++ ':' :: Ipv6.groupChars (h :: gs) := by
      simp [Ipv6.groupChars]
    rw [hjoin, ih]
    rfl

theorem EndsGroup.behindColons {rest : List Char} (hrest : EndsGroup rest) (gs : List UInt16) :
    EndsGroup (behindColons gs ++ rest) := by
  cases gs with
  | nil => exact hrest
  | cons g gs => exact .colon _

theorem readGroups_behindColons (gs : List UInt16) {rest : List Char} (hrest : EndsGroup rest)
    (limit : Nat) :
    n.readGroups false (gs.length + limit) (behindColons gs ++ rest) =
      ⟨gs ++ (n.readGroups false limit rest).groups, (n.readGroups false limit rest).dotted,
        (n.readGroups false limit rest).rest⟩ := by
  induction gs with
  | nil =>
    rw [List.length_nil, Nat.zero_add]
    rfl
  | cons g gs ih =>
    have hcs : behindColons (g :: gs) ++ rest =
        ':' :: (Text.hexadecimal g.toNat ++ (behindColons gs ++ rest)) := by
      simp [behindColons]
    rw [hcs, List.length_cons, Nat.add_right_comm, n.readGroups_group g (hrest.behindColons gs) rfl,
      ih]
    rfl

/-- A text behind groups that holds no further one. -/
def EndsGroups (rest : List Char) : Prop := rest = [] ∨ ∃ r, rest = ':' :: ':' :: r

theorem EndsGroups.endsGroup {rest : List Char} (h : EndsGroups rest) : EndsGroup rest := by
  rcases h with rfl | ⟨r, rfl⟩
  · exact .nil
  · exact .colon _

theorem readGroup_of_ends {rest : List Char} (h : EndsGroup rest) : readGroup rest = none := by
  cases rest with
  | nil => rfl
  | cons c rest =>
    have hdigit : Text.isDigit 16 c = false := h.numeral c rfl
    simp [readGroup, readNumeral, List.span_eq_takeWhile_dropWhile, hdigit, Text.numeral?]

/-- Where no group is there, nothing is taken. -/
theorem readGroups_none {first : Bool} {cs rest : List Char} (hrest : EndsGroup rest)
    (hcs : readSeparator first cs = some rest) (limit : Nat) :
    n.readGroups first (limit + 1) cs = ⟨[], false, cs⟩ := by
  have hgroup := readGroup_of_ends hrest
  have hipv4 : n.readIpv4 rest = none := readIpv4_of_readGroup (by simp [hgroup])
  rw [readGroups, hcs]
  simp only [hipv4, hgroup, ite_self]

theorem readGroups_of_ends {rest : List Char} (h : EndsGroups rest) (first : Bool) (limit : Nat) :
    n.readGroups first limit rest = ⟨[], false, rest⟩ := by
  cases limit with
  | zero => rfl
  | succ limit =>
    cases first with
    | true => exact n.readGroups_none h.endsGroup rfl limit
    | false =>
      rcases h with rfl | ⟨r, rfl⟩
      · rfl
      · exact n.readGroups_none (.colon r) rfl limit

/-- Joined groups are read in front of a text that holds no further one. -/
theorem readGroups_groupChars {gs : List UInt16} {rest : List Char} {limit : Nat}
    (hlength : gs.length ≤ limit) (hrest : EndsGroups rest) :
    n.readGroups true limit (Ipv6.groupChars gs ++ rest) = ⟨gs, false, rest⟩ := by
  obtain ⟨more, rfl⟩ := Nat.exists_eq_add_of_le hlength
  cases gs with
  | nil => exact n.readGroups_of_ends hrest true _
  | cons g gs =>
    rw [groupChars_cons, List.append_assoc, List.length_cons, Nat.add_right_comm,
      n.readGroups_group g (hrest.endsGroup.behindColons gs) rfl,
      n.readGroups_behindColons gs hrest.endsGroup, n.readGroups_of_ends hrest false more,
      List.append_nil]

/-- Behind a group an IPv4 address is read as the two groups that it stands for. -/
theorem readGroups_ipv4 (g : UInt16) (x : Ipv4) {limit : Nat} (hlimit : 3 ≤ limit) :
    n.readGroups true limit (Text.hexadecimal g.toNat ++ ':' :: x.chars) =
      ⟨g :: x.toGroups, true, []⟩ := by
  obtain ⟨more, rfl⟩ := Nat.exists_eq_add_of_le' hlimit
  have hipv4 : n.readIpv4 x.chars = some (x, []) := by
    rw [← List.append_nil x.chars]
    exact n.readIpv4_chars x nofun
  have htail : n.readGroups false (more + 2) (':' :: x.chars) = ⟨x.toGroups, true, []⟩ := by
    simp [readGroups, readSeparator, hipv4]
  rw [n.readGroups_group g (.colon _) rfl, htail]

end AddressNotation

/-! ## Addresses -/

namespace Ipv4

theorem ofChars?_chars (x : Ipv4) : ofChars? x.chars = some x := by
  have hread : AddressNotation.strict.readIpv4 (x.chars ++ []) = some (x, []) :=
    AddressNotation.strict.readIpv4_chars x nofun
  rw [List.append_nil] at hread
  exact AddressNotation.whole_eq_some.mpr hread

theorem toGroups_ofGroups (high low : UInt16) : (ofGroups high low).toGroups = [high, low] := by
  have hjoin (g : UInt16) : (g / 256).toUInt8.toUInt16 * 256 + g.toUInt8.toUInt16 = g := by
    apply UInt16.toNat_inj.mp
    have hlt := g.toNat_lt
    simp only [UInt16.toNat_add, UInt16.toNat_mul, UInt8.toNat_toUInt16, UInt16.toNat_toUInt8,
      UInt16.toNat_div, UInt16.reduceToNat]
    omega
  simp only [toGroups, ofGroups, hjoin]

end Ipv4

namespace Ipv6

open AddressNotation

theorem ofGroups?_groups (x : Ipv6) : ofGroups? x.groups = some x := dif_pos x.length_groups

theorem take_leadingZeros (gs : List UInt16) :
    gs.take (gs.takeWhile (· == 0)).length =
      List.replicate (gs.takeWhile (· == 0)).length 0 := by
  have hprefix : gs.takeWhile (· == 0) <+: gs := List.takeWhile_prefix _
  rw [← List.prefix_iff_eq_take.mp hprefix]
  exact List.eq_replicate_of_mem fun g hg => by simpa using List.mem_takeWhile_imp hg

/-- The longest run of zeros is a run of zeros. -/
theorem longestZeroRun_spec (gs : List UInt16) :
    (longestZeroRun gs).1 + (longestZeroRun gs).2 ≤ gs.length ∧
      (gs.drop (longestZeroRun gs).1).take (longestZeroRun gs).2 =
        List.replicate (longestZeroRun gs).2 0 := by
  induction gs with
  | nil => exact ⟨Nat.le_refl 0, rfl⟩
  | cons g gs ih =>
    rw [longestZeroRun]
    dsimp only
    split
    · refine ⟨?_, take_leadingZeros (g :: gs)⟩
      rw [Nat.zero_add]
      exact (List.takeWhile_prefix _).length_le
    · refine ⟨?_, ih.2⟩
      rw [List.length_cons, Nat.add_right_comm]
      exact Nat.succ_le_succ ih.1

/-- Zeros in the place of the run give back the groups. -/
theorem replicate_longestZeroRun (gs : List UInt16) :
    gs.take (longestZeroRun gs).1 ++ List.replicate (longestZeroRun gs).2 0 ++
      gs.drop ((longestZeroRun gs).1 + (longestZeroRun gs).2) = gs := by
  rw [← (longestZeroRun_spec gs).2, ← List.drop_drop, List.append_assoc, List.take_append_drop,
    List.take_append_drop]

theorem readIpv6_groups (x : Ipv6) :
    strict.readIpv6 (groupChars x.groups) = some (x, []) := by
  have hhead : strict.readGroups true 8 (groupChars x.groups ++ []) = ⟨x.groups, false, []⟩ :=
    strict.readGroups_groupChars (Nat.le_of_eq x.length_groups) (.inl rfl)
  rw [List.append_nil] at hhead
  simp only [readIpv6, hhead, x.length_groups, ofGroups?_groups]
  rfl

theorem length_around_zeros {x : Ipv6} {front back : List UInt16} {length : Nat}
    (hgroups : front ++ List.replicate length 0 ++ back = x.groups) :
    front.length + length + back.length = 8 := by
  rw [← x.length_groups, ← hgroups, List.length_append, List.length_append, List.length_replicate]

/-- Two colons stand for the zeros that are missing between the groups on both sides. -/
theorem readIpv6_gap (x : Ipv6) {front back : List UInt16} {length : Nat} {dotted : Bool}
    {cs r : List Char} (hlength : 0 < length)
    (hgroups : front ++ List.replicate length 0 ++ back = x.groups)
    (hfront : strict.readGroups true 8 cs = ⟨front, false, ':' :: ':' :: r⟩)
    (hback : strict.readGroups true (8 - (front.length + 1)) r = ⟨back, dotted, []⟩) :
    strict.readIpv6 cs = some (x, []) := by
  have hcount := length_around_zeros hgroups
  have hzeros : 8 - (front.length + back.length) = length := by omega
  have htail : strict.readGroups true (8 - (front.length + strict.leastGap)) r =
      ⟨back, dotted, []⟩ := hback
  simp only [readIpv6, hfront, htail, hzeros, hgroups, ofGroups?_groups]
  rw [if_neg (by omega)]
  rfl

theorem readIpv6_groupChars_gap (x : Ipv6) {front back : List UInt16} {length : Nat}
    (hlength : 0 < length) (hgroups : front ++ List.replicate length 0 ++ back = x.groups) :
    strict.readIpv6 (groupChars front ++ [':', ':'] ++ groupChars back) = some (x, []) := by
  have hcount := length_around_zeros hgroups
  have hback : strict.readGroups true (8 - (front.length + 1)) (groupChars back ++ []) =
      ⟨back, false, []⟩ :=
    strict.readGroups_groupChars (by omega) (.inl rfl)
  rw [List.append_nil] at hback
  rw [List.append_assoc]
  exact x.readIpv6_gap hlength hgroups
    (strict.readGroups_groupChars (by omega) (.inr ⟨groupChars back, rfl⟩)) hback

theorem groups_of_mapped? {x : Ipv6} {y : Ipv4} (h : x.mapped? = some y) :
    List.replicate 5 0 ++ 0xffff :: y.toGroups = x.groups := by
  unfold mapped? at h
  split at h
  · next high low hgroups =>
    rw [hgroups, ← Option.some.inj h, Ipv4.toGroups_ofGroups]
    rfl
  · cases h

theorem readIpv6_mapped {x : Ipv6} {y : Ipv4} (h : x.mapped? = some y) :
    strict.readIpv6 ([':', ':', 'f', 'f', 'f', 'f', ':'] ++ y.chars) = some (x, []) := by
  have hgroup : ['f', 'f', 'f', 'f'] = Text.hexadecimal (0xffff : UInt16).toNat := by
    decide +kernel
  have hgroups : [] ++ List.replicate 5 0 ++ 0xffff :: y.toGroups = x.groups :=
    groups_of_mapped? h
  have hfront := strict.readGroups_of_ends
    (.inr ⟨['f', 'f', 'f', 'f'] ++ ':' :: y.chars, rfl⟩) true 8
  have hback : strict.readGroups true 7 (Text.hexadecimal (0xffff : UInt16).toNat ++
      ':' :: y.chars) = ⟨0xffff :: y.toGroups, true, []⟩ :=
    strict.readGroups_ipv4 0xffff y (by decide)
  rw [← hgroup] at hback
  exact x.readIpv6_gap (by decide) hgroups hfront hback

/-- The text of an address is read as the address. -/
theorem ofChars?_chars (x : Ipv6) : ofChars? x.chars = some x := by
  apply whole_eq_some.mpr
  unfold chars
  split
  · next y hy => exact readIpv6_mapped hy
  · dsimp only
    split
    · next hlength => exact x.readIpv6_groupChars_gap (by omega) (replicate_longestZeroRun x.groups)
    · exact x.readIpv6_groups

end Ipv6

namespace IpAddress

theorem ofText?_text (x : IpAddress) : ofText? x.text = some x := by
  cases x with
  | v4 x =>
    rw [ofText?_v4, text, Ipv4.text, String.toList_ofList]
    exact x.ofChars?_chars
  | v6 x =>
    rw [ofText?_v6, text, Ipv6.text, String.toList_ofList]
    exact x.ofChars?_chars

/-- Of two equally long runs of zeros the first one is left out, and a single zero never is. -/
example : (ofText? "2001:DB8:0:0:1:0:0:1").map text = some "2001:db8::1:0:0:1" ∧
    (ofText? "1::3:4:5:6:7:8").map text = some "1:0:3:4:5:6:7:8" := by
  decide +kernel

theorem text_injective : Function.Injective text := by
  intro x y h
  have hread := ofText?_text x
  rw [h, ofText?_text y] at hread
  exact (Option.some.inj hread).symm

end IpAddress

end RtcConfig
