import Mathlib.Data.List.TakeDrop
import Mathlib.Data.List.TakeWhile
import RtcConfig.Address.Reader
import RtcConfig.Proofs.Text.Classes
import RtcConfig.Proofs.Text.Digits

/-! # Texts of IPv6 addresses

Reading an address consumes nothing but hexadecimal digits, colons and dots, and an address of
eight groups cannot do without colons. So a host name, with a port behind one colon or without, is
no IPv6 address.
-/

namespace RtcConfig

namespace AddressNotation

/-- A character of which addresses are written. -/
def IsAddressChar (c : Char) : Prop := Text.isDigit 16 c ∨ c = ':' ∨ c = '.'

instance (c : Char) : Decidable (IsAddressChar c) := inferInstanceAs (Decidable (_ ∨ _))

theorem toLower_ne_of_isAddressChar {c : Char} (h : IsAddressChar c) : c.toLower ≠ 'u' := by
  have hall : ∀ n < 128, IsAddressChar (Char.ofNat n) → (Char.ofNat n).toLower ≠ 'u' := by
    unfold IsAddressChar
    decide
  have hlt : c.toNat < 128 := by
    rcases h with h | rfl | rfl
    · rw [Text.isDigit_sixteen_iff_toNat] at h
      omega
    all_goals decide
  have hself := hall c.toNat hlt
  rw [Char.ofNat_toNat] at hself
  exact hself h

/-- The rest of a text behind some characters of an address. -/
def Consumes (cs rest : List Char) : Prop :=
  ∃ used, cs = used ++ rest ∧ ∀ c ∈ used, IsAddressChar c

theorem Consumes.refl (cs : List Char) : Consumes cs cs := ⟨[], rfl, by simp⟩

theorem Consumes.trans {a b c : List Char} (hab : Consumes a b) (hbc : Consumes b c) :
    Consumes a c := by
  obtain ⟨u, rfl, hu⟩ := hab
  obtain ⟨v, rfl, hv⟩ := hbc
  refine ⟨u ++ v, by simp, fun x hx => ?_⟩
  rcases List.mem_append.mp hx with hx | hx
  · exact hu x hx
  · exact hv x hx

theorem Consumes.cons {c : Char} (hc : IsAddressChar c) (cs : List Char) : Consumes (c :: cs) cs :=
  ⟨[c], rfl, by simpa using hc⟩

theorem isDigit_sixteen_of_ten {c : Char} (h : Text.isDigit 10 c) : Text.isDigit 16 c := by
  rw [Text.isDigit_ten, Text.isDigit_iff_toNat] at h
  exact Text.isDigit_sixteen_iff_toNat.mpr (.inl h)

theorem readNumeral_consumes {base most : Nat} (hb : base = 10 ∨ base = 16) {cs ds rest : List Char}
    {v : Nat} (h : readNumeral base most cs = some (ds, v, rest)) : Consumes cs rest := by
  simp only [readNumeral, List.span_eq_takeWhile_dropWhile, Option.ite_none_right_eq_some,
    Option.map_eq_some_iff, Prod.mk.injEq] at h
  obtain ⟨-, n, -, rfl, -, rfl⟩ := h
  refine ⟨cs.takeWhile (Text.isDigit base), by simp, fun c hc => .inl ?_⟩
  have hd : Text.isDigit base c := List.mem_takeWhile_imp hc
  rcases hb with rfl | rfl
  · exact isDigit_sixteen_of_ten hd
  · exact hd

theorem readOctet_consumes {n : AddressNotation} {cs rest : List Char} {o : UInt8}
    (h : n.readOctet cs = some (o, rest)) : Consumes cs rest := by
  simp only [readOctet, Option.bind_eq_bind, Option.bind_eq_some_iff] at h
  obtain ⟨⟨ds, v, r⟩, hr, h⟩ := h
  have hrest : r = rest := by
    split at h
    · split at h
      · exact congrArg Prod.snd (Option.some.inj h)
      · cases h
    · cases h
  exact hrest ▸ readNumeral_consumes (.inl rfl) hr

theorem readDot_consumes {cs rest : List Char} (h : readDot cs = some rest) : Consumes cs rest := by
  unfold readDot at h
  split at h
  · next r =>
    obtain rfl := Option.some.inj h
    exact .cons (.inr (.inr rfl)) r
  · cases h

theorem readIpv4_consumes {n : AddressNotation} {cs rest : List Char} {x : Ipv4}
    (h : n.readIpv4 cs = some (x, rest)) : Consumes cs rest := by
  simp only [readIpv4, Option.bind_eq_bind, Option.bind_eq_some_iff, Option.some.injEq,
    Prod.mk.injEq] at h
  obtain ⟨⟨a, ra⟩, ha, ra', da, ⟨b, rb⟩, hb, rb', db, ⟨c, rc⟩, hc, rc', dc, ⟨d, rd⟩, hd, -, rfl⟩ :=
    h
  have h1 := (readOctet_consumes ha).trans (readDot_consumes da)
  have h2 := (readOctet_consumes hb).trans (readDot_consumes db)
  have h3 := (readOctet_consumes hc).trans (readDot_consumes dc)
  exact ((h1.trans h2).trans h3).trans (readOctet_consumes hd)

theorem readGroup_consumes {cs rest : List Char} {g : UInt16} (h : readGroup cs = some (g, rest)) :
    Consumes cs rest := by
  simp only [readGroup, Option.bind_eq_bind, Option.bind_eq_some_iff] at h
  obtain ⟨⟨ds, v, r⟩, hr, h⟩ := h
  have hrest : r = rest := by
    split at h
    · exact congrArg Prod.snd (Option.some.inj h)
    · cases h
  exact hrest ▸ readNumeral_consumes (.inr rfl) hr

theorem readSeparator_consumes {first : Bool} {cs rest : List Char}
    (h : readSeparator first cs = some rest) : Consumes cs rest := by
  unfold readSeparator at h
  split at h
  · obtain rfl := Option.some.inj h
    exact .refl _
  · split at h
    · next r =>
      obtain rfl := Option.some.inj h
      exact .cons (.inr (.inl rfl)) _
    · cases h

theorem readGroups_consumes (n : AddressNotation) (first : Bool) (limit : Nat) (cs : List Char) :
    Consumes cs (n.readGroups first limit cs).rest := by
  fun_induction readGroups n first limit cs with
  | case1 => exact .refl _
  | case2 => exact .refl _
  | case3 first limit cs r hs x r' h4 =>
    split at h4
    · cases h4
    · exact (readSeparator_consumes hs).trans (readIpv4_consumes h4)
  | case4 => exact .refl _
  | case5 first limit cs r hs h4 g r' hg more ih =>
    exact ((readSeparator_consumes hs).trans (readGroup_consumes hg)).trans ih

/-- An address is eight groups, or groups on both sides of two colons. -/
theorem readIpv6_eq_some {n : AddressNotation} {cs rest : List Char} {x : Ipv6}
    (h : n.readIpv6 cs = some (x, rest)) :
    ((n.readGroups true 8 cs).groups.length = 8 ∧ rest = (n.readGroups true 8 cs).rest) ∨
      ∃ limit r, (n.readGroups true 8 cs).rest = ':' :: ':' :: r ∧
        rest = (n.readGroups true limit r).rest := by
  simp only [readIpv6] at h
  split at h
  · next hlen =>
    obtain ⟨y, -, hy⟩ := Option.map_eq_some_iff.mp h
    exact .inl ⟨hlen, (congrArg Prod.snd hy).symm⟩
  · split at h
    · cases h
    · split at h
      · next r hr =>
        obtain ⟨y, -, hy⟩ := Option.map_eq_some_iff.mp h
        exact .inr ⟨_, r, hr, (congrArg Prod.snd hy).symm⟩
      · cases h

theorem readIpv6_consumes {n : AddressNotation} {cs rest : List Char} {x : Ipv6}
    (h : n.readIpv6 cs = some (x, rest)) : Consumes cs rest := by
  have hhead := n.readGroups_consumes true 8 cs
  rcases readIpv6_eq_some h with ⟨-, rfl⟩ | ⟨limit, r, hr, rfl⟩
  · exact hhead
  · have hgap : Consumes (':' :: ':' :: r) r :=
      (Consumes.cons (.inr (.inl rfl)) _).trans (.cons (.inr (.inl rfl)) _)
    rw [hr] at hhead
    exact (hhead.trans hgap).trans (n.readGroups_consumes true limit r)

/-! ## Colons -/

theorem Consumes.count_le {cs rest : List Char} (h : Consumes cs rest) (c : Char) :
    rest.count c ≤ cs.count c := by
  obtain ⟨used, rfl, -⟩ := h
  rw [List.count_append]
  omega

theorem readSeparator_count {first : Bool} {cs rest : List Char}
    (h : readSeparator first cs = some rest) :
    rest.count ':' + (if first then 0 else 1) ≤ cs.count ':' := by
  unfold readSeparator at h
  split at h
  · next hfirst =>
    obtain rfl := Option.some.inj h
    simp [hfirst]
  · next hfirst =>
    split at h
    · obtain rfl := Option.some.inj h
      simp [hfirst]
    · cases h

/-- Behind the first group each group needs a colon in front of it, but the two of an IPv4 address
share one. -/
theorem length_groups_le (n : AddressNotation) (first : Bool) (limit : Nat) (cs : List Char) :
    (n.readGroups first limit cs).groups.length ≤ cs.count ':' + if first then 2 else 1 := by
  fun_induction readGroups n first limit cs with
  | case1 => exact Nat.zero_le _
  | case2 => exact Nat.zero_le _
  | case3 first limit cs r hs x r' h4 =>
    have hseparator := readSeparator_count hs
    show 2 ≤ _
    cases first
    · exact Nat.succ_le_succ (Nat.le_trans (Nat.le_add_left 1 _) hseparator)
    · exact Nat.le_add_left 2 _
  | case4 => exact Nat.zero_le _
  | case5 first limit cs r hs h4 g r' hg more ih =>
    have hseparator := readSeparator_count hs
    have hgroup := (readGroup_consumes hg).count_le ':'
    have hmore : more.groups.length ≤ r'.count ':' + 1 := ih
    rw [List.length_cons]
    cases first
    · have hfalse : r.count ':' + 1 ≤ cs.count ':' := hseparator
      show more.groups.length + 1 ≤ cs.count ':' + 1
      omega
    · have htrue : r.count ':' ≤ cs.count ':' := hseparator
      show more.groups.length + 1 ≤ cs.count ':' + 2
      omega

theorem two_le_count_of_readIpv6 {n : AddressNotation} {cs rest : List Char} {x : Ipv6}
    (h : n.readIpv6 cs = some (x, rest)) : 2 ≤ cs.count ':' := by
  rcases readIpv6_eq_some h with ⟨hlen, -⟩ | ⟨limit, r, hr, -⟩
  · have hle := n.length_groups_le true 8 cs
    rw [hlen, if_pos rfl] at hle
    omega
  · have hle := (n.readGroups_consumes true 8 cs).count_le ':'
    rw [hr, List.count_cons_self, List.count_cons_self] at hle
    omega

theorem mem_colon_of_readIpv6 {n : AddressNotation} {cs rest : List Char} {x : Ipv6}
    (h : n.readIpv6 cs = some (x, rest)) : ':' ∈ cs :=
  List.count_pos_iff.mp (Nat.lt_of_lt_of_le (by decide) (two_le_count_of_readIpv6 h))

theorem whole_eq_some {α : Type} {r : Option (α × List Char)} {a : α} :
    whole r = some a ↔ r = some (a, []) := by
  unfold whole
  split
  · simp
  · next hno =>
    constructor
    · nofun
    · intro h
      exact (hno a h).elim

end AddressNotation

namespace Ipv6

open AddressNotation

theorem isAddressChar_of_ofChars? {cs : List Char} {x : Ipv6} (h : ofChars? cs = some x) :
    ∀ c ∈ cs, IsAddressChar c := by
  obtain ⟨used, hcs, hused⟩ := readIpv6_consumes (whole_eq_some.mp h)
  rw [List.append_nil] at hcs
  exact hcs ▸ hused

/-- A text with any other character is no address. -/
theorem not_isSome_ofChars?_of_mem {cs : List Char} {c : Char} (hc : ¬IsAddressChar c)
    (h : c ∈ cs) : ¬(ofChars? cs).isSome := by
  intro haddress
  obtain ⟨x, hx⟩ := Option.isSome_iff_exists.mp haddress
  exact hc (isAddressChar_of_ofChars? hx c h)

theorem two_le_count_of_ofChars? {cs : List Char} {x : Ipv6} (h : ofChars? cs = some x) :
    2 ≤ cs.count ':' :=
  two_le_count_of_readIpv6 (whole_eq_some.mp h)

theorem mem_colon_of_ofChars? {cs : List Char} {x : Ipv6} (h : ofChars? cs = some x) : ':' ∈ cs :=
  mem_colon_of_readIpv6 (whole_eq_some.mp h)

end Ipv6

end RtcConfig
