import RtcConfig.Proofs.Address.Bits
import RtcConfig.Proofs.Address.Notation

/-! # Entries of IP filters

The text of a network is an address in the lax notation, a slash and the number of leading bits that
count. An entry of a filter is such a text, or an address by itself, of which all bits count. Which
addresses an entry matches is said of its text here: those of the same family that agree in these
bits. The network that is read from an entry contains exactly them.
-/

namespace RtcConfig

open AddressNotation

namespace AddressNotation

theorem not_isAddressChar_slash : ¬IsAddressChar '/' := by
  unfold IsAddressChar
  decide

/-- An IPv4 address that takes the whole text has no colon. -/
theorem notMem_colon_of_readIpv4 {n : AddressNotation} {cs : List Char} {x : Ipv4}
    (h : n.readIpv4 cs = some (x, [])) : ':' ∉ cs := by
  intro hmem
  obtain ⟨front, back, rfl⟩ := List.append_of_mem hmem
  rw [readIpv4_append (by decide) (by decide)] at h
  obtain ⟨p, -, hp⟩ := Option.map_eq_some_iff.mp h
  have hrest : p.2 ++ ':' :: back = [] := congrArg Prod.snd hp
  simp at hrest

theorem readNumeral_of_numeral {base most v : Nat} {ds : List Char} (hlength : ds.length ≤ most)
    (hv : Text.numeral? base ds = some v) : readNumeral base most ds = some (ds, v, []) := by
  have hends : EndsNumeral base [] := nofun
  have hread := readNumeral_of_ends hends hlength hv
  rwa [List.append_nil] at hread

end AddressNotation

/-! ## Addresses by family -/

/-- The address that a text names in the lax notation. -/
def NamesLax (cs : List Char) : IpAddress → Prop
  | .v4 x => whole (lax.readIpv4 cs) = some x
  | .v6 x => whole (lax.readIpv6 cs) = some x

namespace IpAddress

/-- How many digits the length of a network may have. -/
def lengthDigits : IpAddress → Nat
  | .v4 _ => 2
  | .v6 _ => 3

theorem ofText?_v4 {s : String} {x : Ipv4} :
    ofText? s = some (.v4 x) ↔ Ipv4.ofChars? s.toList = some x := by
  unfold ofText?
  cases Ipv4.ofChars? s.toList with
  | some y => simp
  | none => simp

theorem ofText?_v6 {s : String} {x : Ipv6} :
    ofText? s = some (.v6 x) ↔ Ipv6.ofChars? s.toList = some x := by
  unfold ofText?
  cases hv4 : Ipv4.ofChars? s.toList with
  | some y =>
    have hcolon : ':' ∉ s.toList := notMem_colon_of_readIpv4 (whole_eq_some.mp hv4)
    refine iff_of_false (by simp) fun hv6 => hcolon (Ipv6.mem_colon_of_ofChars? hv6)
  | none => simp

theorem namesLax_of_ofText? {s : String} {x : IpAddress} (h : ofText? s = some x) :
    NamesLax s.toList x := by
  cases x with
  | v4 x => exact whole_eq_some.mpr (readIpv4_lax (whole_eq_some.mp (ofText?_v4.mp h)))
  | v6 x => exact whole_eq_some.mpr (readIpv6_lax (whole_eq_some.mp (ofText?_v6.mp h)))

/-- An address by itself has no slash. -/
theorem notMem_slash_of_ofText? {s : String} {x : IpAddress} (h : ofText? s = some x) :
    '/' ∉ s.toList := by
  have hchars : ∀ c ∈ s.toList, IsAddressChar c := by
    cases x with
    | v4 x =>
      obtain ⟨used, hs, hused⟩ := readIpv4_consumes (whole_eq_some.mp (ofText?_v4.mp h))
      rw [List.append_nil] at hs
      exact hs ▸ hused
    | v6 x => exact Ipv6.isAddressChar_of_ofChars? (ofText?_v6.mp h)
  exact fun hmem => not_isAddressChar_slash (hchars '/' hmem)

end IpAddress

/-! ## Networks -/

namespace IpNetwork

/-- A length that takes the whole text is a slash and a numeral. -/
theorem readLength_eq_some {most bound : Nat} {cs : List Char} {length : Fin bound} :
    readLength most bound cs = some (length, []) ↔
      ∃ digits, cs = '/' :: digits ∧ digits.length ≤ most ∧
        Text.numeral? 10 digits = some length.val := by
  constructor
  · intro h
    unfold readLength at h
    split at h
    · next r =>
      simp only [Option.bind_eq_bind, Option.bind_eq_some_iff] at h
      obtain ⟨⟨ds, v, rest⟩, hnum, h⟩ := h
      split at h
      · obtain ⟨rfl, rfl⟩ := Prod.mk.inj (Option.some.inj h)
        obtain ⟨hr, hmost, hv⟩ := readNumeral_eq_some hnum
        rw [List.append_nil] at hr
        exact ⟨r, rfl, hr ▸ hmost, hr ▸ hv⟩
      · cases h
    · cases h
  · rintro ⟨digits, rfl, hmost, hv⟩
    simp [readLength, readNumeral_of_numeral hmost hv]

/-- The text that a reader of addresses takes in front of a length ends at the slash. -/
theorem whole_route {α : Type} {read : List Char → Option (α × List Char)} {most bound : Nat}
    {make : α → Fin bound → IpNetwork}
    (happend : ∀ cs after, read (cs ++ '/' :: after) =
      (read cs).map fun p => (p.1, p.2 ++ '/' :: after))
    (hconsumes : ∀ {cs rest a}, read cs = some (a, rest) → Consumes cs rest)
    {cs : List Char} {n : IpNetwork} :
    whole ((read cs).bind fun p => (readLength most bound p.2).bind fun q =>
        some (make p.1 q.1, q.2)) = some n ↔
      ∃ address digits x length, cs = address ++ '/' :: digits ∧ whole (read address) = some x ∧
        digits.length ≤ most ∧ Text.numeral? 10 digits = some length.val ∧ n = make x length := by
  simp only [whole_eq_some, Option.bind_eq_some_iff, Option.some.injEq, Prod.mk.injEq]
  constructor
  · rintro ⟨⟨x, r⟩, hread, ⟨length, rest⟩, hlength, rfl, rfl⟩
    obtain ⟨digits, rfl, hmost, hv⟩ := readLength_eq_some.mp hlength
    obtain ⟨address, rfl, -⟩ := hconsumes hread
    refine ⟨address, digits, x, length, rfl, ?_, hmost, hv, rfl⟩
    rw [happend] at hread
    obtain ⟨⟨y, after⟩, hy, hpair⟩ := Option.map_eq_some_iff.mp hread
    obtain ⟨rfl, hrest⟩ := Prod.mk.inj hpair
    obtain rfl : after = [] := List.append_left_eq_self.mp hrest
    exact hy
  · rintro ⟨address, digits, x, length, rfl, haddress, hmost, hv, rfl⟩
    have hlength := readLength_eq_some.mpr ⟨digits, rfl, hmost, hv⟩
    refine ⟨(x, '/' :: digits), ?_, (length, []), hlength, rfl, rfl⟩
    rw [happend, haddress]
    rfl

theorem whole_readV4 {cs : List Char} {n : IpNetwork} :
    whole (readV4 cs) = some n ↔
      ∃ address digits x length, cs = address ++ '/' :: digits ∧
        whole (lax.readIpv4 address) = some x ∧ digits.length ≤ 2 ∧
          Text.numeral? 10 digits = some length.val ∧ n = .v4 x length :=
  whole_route (readIpv4_append (by decide) (by decide)) readIpv4_consumes

theorem whole_readV6 {cs : List Char} {n : IpNetwork} :
    whole (readV6 cs) = some n ↔
      ∃ address digits x length, cs = address ++ '/' :: digits ∧
        whole (lax.readIpv6 address) = some x ∧ digits.length ≤ 3 ∧
          Text.numeral? 10 digits = some length.val ∧ n = .v6 x length :=
  whole_route (readIpv6_append not_isAddressChar_slash) readIpv6_consumes

/-- No text is a network of both families. -/
theorem whole_readV4_of_readV6 {cs : List Char} {n : IpNetwork}
    (h : whole (readV6 cs) = some n) : whole (readV4 cs) = none := by
  obtain ⟨address, digits, x, -, hcs, haddress, -⟩ := whole_readV6.mp h
  have hcolon : ':' ∈ cs := by
    rw [hcs]
    exact List.mem_append_left _ (mem_colon_of_readIpv6 (whole_eq_some.mp haddress))
  cases hv4 : whole (readV4 cs) with
  | none => rfl
  | some m =>
    obtain ⟨address, digits, x, length, rfl, haddress, -, hv, -⟩ := whole_readV4.mp hv4
    have hdigits := ((Text.numeral?_isSome digits).mp (Option.isSome_of_eq_some hv)).2
    rcases List.mem_append.mp hcolon with hmem | hmem
    · exact absurd hmem (notMem_colon_of_readIpv4 (whole_eq_some.mp haddress))
    · rcases List.mem_cons.mp hmem with hslash | hdigit
      · exact absurd hslash (by decide)
      · exact absurd (hdigits ':' hdigit) (by decide)

theorem ofText?_eq_some {s : String} {n : IpNetwork} :
    ofText? s = some n ↔
      ∃ address digits, s.toList = address ++ '/' :: digits ∧ NamesLax address n.address ∧
        digits.length ≤ n.address.lengthDigits ∧ Text.numeral? 10 digits = some n.length := by
  have hfamily : ofText? s = some n ↔
      whole (readV4 s.toList) = some n ∨ whole (readV6 s.toList) = some n := by
    unfold ofText?
    cases hv4 : whole (readV4 s.toList) with
    | none => simp
    | some m =>
      have hv6 : ¬whole (readV6 s.toList) = some n := by
        intro h
        rw [whole_readV4_of_readV6 h] at hv4
        cases hv4
      simp [hv6]
  rw [hfamily, whole_readV4, whole_readV6]
  constructor
  · rintro (⟨address, digits, x, length, hs, hx, hmost, hv, rfl⟩ |
      ⟨address, digits, x, length, hs, hx, hmost, hv, rfl⟩)
    · exact ⟨address, digits, hs, hx, hmost, hv⟩
    · exact ⟨address, digits, hs, hx, hmost, hv⟩
  · rintro ⟨address, digits, hs, hx, hmost, hv⟩
    cases n with
    | v4 x length => exact .inl ⟨address, digits, x, length, hs, hx, hmost, hv, rfl⟩
    | v6 x length => exact .inr ⟨address, digits, x, length, hs, hx, hmost, hv, rfl⟩

end IpNetwork

/-! ## Entries -/

/-- An entry names an address and the number of its leading bits that count. -/
inductive EntryNames (entry : String) : IpAddress → Nat → Prop
  | route {address digits : List Char} {x : IpAddress} {length : Nat}
      (text : entry.toList = address ++ '/' :: digits) (names : NamesLax address x)
      (digits_le : digits.length ≤ x.lengthDigits)
      (value : Text.numeral? 10 digits = some length) (length_le : length ≤ x.width) :
      EntryNames entry x length
  | address {x : IpAddress} (text : IpAddress.ofText? entry = some x) : EntryNames entry x x.width

/-- An entry matches the addresses that agree in the leading bits with the one it names. -/
def EntryMatches (entry : String) (a : IpAddress) : Prop :=
  ∃ x length, EntryNames entry x length ∧ x.SharesLeading length a

namespace IpNetwork

variable {entry : String}

theorem length_le (n : IpNetwork) : n.length ≤ n.address.width := by
  cases n with
  | v4 x length => exact Nat.le_of_lt_succ length.isLt
  | v6 x length => exact Nat.le_of_lt_succ length.isLt

theorem exists_of_length_le {x : IpAddress} {length : Nat} (h : length ≤ x.width) :
    ∃ n : IpNetwork, n.address = x ∧ n.length = length := by
  cases x with
  | v4 x => exact ⟨.v4 x ⟨length, Nat.lt_succ_of_le h⟩, rfl, rfl⟩
  | v6 x => exact ⟨.v6 x ⟨length, Nat.lt_succ_of_le h⟩, rfl, rfl⟩

@[simp] theorem address_host (x : IpAddress) : (host x).address = x := by
  cases x <;> rfl

@[simp] theorem length_host (x : IpAddress) : (host x).length = x.width := by
  cases x <;> rfl

/-- What is read from an address by itself is the network of that address. -/
theorem ofEntry?_address {x : IpAddress} (h : IpAddress.ofText? entry = some x) :
    ofEntry? entry = some (host x) := by
  have hnone : ofText? entry = none := by
    cases hn : ofText? entry with
    | none => rfl
    | some n =>
      obtain ⟨address, digits, hs, -⟩ := ofText?_eq_some.mp hn
      exact absurd (by simp [hs]) (IpAddress.notMem_slash_of_ofText? h)
  unfold ofEntry?
  rw [hnone, h]
  rfl

theorem entryNames_of_ofEntry? {n : IpNetwork} (h : ofEntry? entry = some n) :
    EntryNames entry n.address n.length := by
  unfold ofEntry? at h
  split at h
  · next m hm =>
    obtain rfl := Option.some.inj h
    obtain ⟨address, digits, hs, hx, hmost, hv⟩ := ofText?_eq_some.mp hm
    exact .route hs hx hmost hv m.length_le
  · obtain ⟨x, hx, rfl⟩ := Option.map_eq_some_iff.mp h
    rw [address_host, length_host]
    exact .address hx

theorem exists_of_entryNames {x : IpAddress} {length : Nat} (h : EntryNames entry x length) :
    ∃ n, ofEntry? entry = some n ∧ n.address = x ∧ n.length = length := by
  cases h with
  | route hs hx hmost hv hle =>
    obtain ⟨n, rfl, rfl⟩ := exists_of_length_le hle
    have htext : ofText? entry = some n := ofText?_eq_some.mpr ⟨_, _, hs, hx, hmost, hv⟩
    refine ⟨n, ?_, rfl, rfl⟩
    unfold ofEntry?
    rw [htext]
  | address hx => exact ⟨host x, ofEntry?_address hx, address_host x, length_host x⟩

/-- The network that is read from an entry contains the addresses that the entry matches. -/
theorem contains_iff_matches {n : IpNetwork} (h : ofEntry? entry = some n) (a : IpAddress) :
    n.contains a = true ↔ EntryMatches entry a := by
  rw [contains_iff]
  constructor
  · intro ha
    exact ⟨_, _, entryNames_of_ofEntry? h, ha⟩
  · rintro ⟨x, length, hnames, ha⟩
    obtain ⟨m, hm, rfl, rfl⟩ := exists_of_entryNames hnames
    obtain rfl : m = n := Option.some.inj (hm.symm.trans h)
    exact ha

end IpNetwork

end RtcConfig
