import RtcConfig.Proofs.Address.Reader
import RtcConfig.Proofs.Text.Split

/-! # Strict and lax addresses

Reading an address goes no further than a character that is part of no address, so what stands
behind such a character does not matter. An address that is the whole of a text in the strict
notation is the same address in the lax one: without leading zeros no octet reads differently, and
where the strict notation leaves one group to two colons the lax one finds no further group.
-/

namespace RtcConfig

namespace AddressNotation

/-! ## Texts behind an address -/

section Stop

variable {n : AddressNotation} {stop : Char}

theorem readNumeral_append {base : Nat} (hstop : Text.isDigit base stop = false) (most : Nat)
    (cs after : List Char) :
    readNumeral base most (cs ++ stop :: after) =
      (readNumeral base most cs).map fun p => (p.1, p.2.1, p.2.2 ++ stop :: after) := by
  unfold readNumeral
  rw [Text.span_append_cons hstop]
  dsimp only
  split
  · rw [Option.map_map]
    rfl
  · rfl

theorem readOctet_append (hstop : Text.isDigit 10 stop = false) (cs after : List Char) :
    n.readOctet (cs ++ stop :: after) =
      (n.readOctet cs).map fun p => (p.1, p.2 ++ stop :: after) := by
  unfold readOctet
  rw [readNumeral_append hstop]
  cases readNumeral 10 3 cs with
  | none => rfl
  | some p =>
    obtain ⟨ds, v, rest⟩ := p
    simp only [Option.map_some, Option.bind_eq_bind, Option.bind_some]
    split
    · split <;> rfl
    · rfl

theorem readDot_append (hstop : stop ≠ '.') (cs after : List Char) :
    readDot (cs ++ stop :: after) = (readDot cs).map (· ++ stop :: after) := by
  cases cs with
  | nil => simp [readDot, hstop]
  | cons c cs =>
    by_cases hc : c = '.'
    · subst hc
      rfl
    · simp [readDot, hc]

theorem readIpv4_append (hdigit : Text.isDigit 10 stop = false) (hdot : stop ≠ '.')
    (cs after : List Char) :
    n.readIpv4 (cs ++ stop :: after) =
      (n.readIpv4 cs).map fun p => (p.1, p.2 ++ stop :: after) := by
  simp only [readIpv4, Option.bind_eq_bind, readOctet_append hdigit, readDot_append hdot,
    Option.bind_map, Option.map_bind, Function.comp_def, Option.map_some]

theorem readGroup_append (hstop : Text.isDigit 16 stop = false) (cs after : List Char) :
    readGroup (cs ++ stop :: after) = (readGroup cs).map fun p => (p.1, p.2 ++ stop :: after) := by
  unfold readGroup
  rw [readNumeral_append hstop]
  cases readNumeral 16 4 cs with
  | none => rfl
  | some p =>
    obtain ⟨ds, v, rest⟩ := p
    simp only [Option.map_some, Option.bind_eq_bind, Option.bind_some]
    split <;> rfl

theorem readSeparator_append (hstop : stop ≠ ':') (first : Bool) (cs after : List Char) :
    readSeparator first (cs ++ stop :: after) =
      (readSeparator first cs).map (· ++ stop :: after) := by
  unfold readSeparator
  cases first with
  | true => rfl
  | false =>
    cases cs with
    | nil => simp [hstop]
    | cons c cs =>
      by_cases hc : c = ':'
      · subst hc
        rfl
      · simp [hc]

variable (hstop : ¬IsAddressChar stop)
include hstop

theorem isDigit_ten_of_stop : Text.isDigit 10 stop = false := by
  rw [Bool.eq_false_iff]
  exact fun h => hstop (.inl (isDigit_sixteen_of_ten h))

theorem isDigit_sixteen_of_stop : Text.isDigit 16 stop = false := by
  rw [Bool.eq_false_iff]
  exact fun h => hstop (.inl h)

theorem readGroups_append (first : Bool) (limit : Nat) (cs after : List Char) :
    n.readGroups first limit (cs ++ stop :: after) =
      ⟨(n.readGroups first limit cs).groups, (n.readGroups first limit cs).dotted,
        (n.readGroups first limit cs).rest ++ stop :: after⟩ := by
  have hcolon : stop ≠ ':' := fun h => hstop (.inr (.inl h))
  have hdot : stop ≠ '.' := fun h => hstop (.inr (.inr h))
  have hdigit := isDigit_ten_of_stop hstop
  have hhex := isDigit_sixteen_of_stop hstop
  -- An IPv4 address is looked for only where two groups are left.
  have htail (limit : Nat) (r : List Char) :
      (if limit = 0 then none else n.readIpv4 (r ++ stop :: after)) =
        (if limit = 0 then none else n.readIpv4 r).map fun p => (p.1, p.2 ++ stop :: after) := by
    split
    · rfl
    · exact readIpv4_append hdigit hdot r after
  fun_induction readGroups n first limit cs with
  | case1 => rfl
  | case2 first limit cs hs =>
    rw [readGroups, readSeparator_append hcolon, hs]
    rfl
  | case3 first limit cs r hs x r' h4 =>
    rw [readGroups, readSeparator_append hcolon, hs]
    simp only [Option.map_some, htail, h4]
  | case4 first limit cs r hs h4 hg =>
    rw [readGroups, readSeparator_append hcolon, hs]
    simp only [Option.map_some, htail, h4, Option.map_none, readGroup_append hhex, hg]
  | case5 first limit cs r hs h4 g r' hg more ih =>
    rw [readGroups, readSeparator_append hcolon, hs]
    simp only [Option.map_some, htail, h4, Option.map_none, readGroup_append hhex, hg, ih]
    rfl

theorem readIpv6_append (cs after : List Char) :
    n.readIpv6 (cs ++ stop :: after) =
      (n.readIpv6 cs).map fun p => (p.1, p.2 ++ stop :: after) := by
  have hcolon : stop ≠ ':' := fun h => hstop (.inr (.inl h))
  unfold readIpv6
  rw [readGroups_append hstop]
  generalize n.readGroups true 8 cs = head
  obtain ⟨groups, dotted, rest⟩ := head
  -- Two colons in front of the stop are two colons of the address.
  have hgap {r' : List Char} (h : rest ++ stop :: after = ':' :: ':' :: r') :
      ∃ r, rest = ':' :: ':' :: r := by
    match rest with
    | [] => exact absurd (List.cons.inj h).1 hcolon
    | [c] =>
      simp only [List.cons_append, List.nil_append, List.cons.injEq] at h
      exact absurd h.2.1 hcolon
    | c :: d :: r =>
      simp only [List.cons_append, List.cons.injEq] at h
      exact ⟨r, by rw [h.1, h.2.1]⟩
  dsimp only
  split
  · rw [Option.map_map]
    rfl
  · split
    · rfl
    · split
      · next h =>
        obtain ⟨r, rfl⟩ := hgap h
        obtain rfl : r ++ stop :: after = _ := by simpa using h
        simp only [readGroups_append hstop, Option.map_map]
        rfl
      · next hno =>
        split
        · next r => exact absurd rfl (hno (r ++ stop :: after))
        · rfl

end Stop

/-! ## Groups in front of a dot -/

theorem readDot_eq_some {cs r : List Char} : readDot cs = some r ↔ cs = '.' :: r := by
  unfold readDot
  split
  · next r' => simp
  · next hno =>
    constructor
    · nofun
    · intro h
      exact (hno r h).elim

theorem readNumeral_eq_some {base most v : Nat} {cs ds rest : List Char}
    (h : readNumeral base most cs = some (ds, v, rest)) :
    cs = ds ++ rest ∧ ds.length ≤ most ∧ Text.numeral? base ds = some v := by
  simp only [readNumeral, List.span_eq_takeWhile_dropWhile, Option.ite_none_right_eq_some,
    Option.map_eq_some_iff, Prod.mk.injEq] at h
  obtain ⟨hlength, n, hn, rfl, rfl, rfl⟩ := h
  exact ⟨by simp, hlength, hn⟩

/-- A text with which no numeral goes on. -/
def EndsNumeral (base : Nat) (rest : List Char) : Prop :=
  ∀ c ∈ rest.head?, Text.isDigit base c = false

theorem readNumeral_of_ends {base most v : Nat} {ds rest : List Char}
    (hrest : EndsNumeral base rest) (hlength : ds.length ≤ most)
    (hv : Text.numeral? base ds = some v) :
    readNumeral base most (ds ++ rest) = some (ds, v, rest) := by
  have hdigits := ((Text.numeral?_isSome ds).mp (Option.isSome_of_eq_some hv)).2
  have hspan : (ds ++ rest).span (Text.isDigit base) = (ds, rest) := by
    cases rest with
    | nil => rw [List.append_nil, Text.span_of_forall hdigits]
    | cons c rest => exact Text.span_append hdigits (hrest c rfl)
  rw [readNumeral, hspan]
  simp [hlength, hv]

/-- What starts like an IPv4 address starts with a group that a dot follows. -/
theorem readGroup_of_readIpv4 {n : AddressNotation} {cs rest : List Char} {x : Ipv4}
    (h : n.readIpv4 cs = some (x, rest)) : ∃ g r, readGroup cs = some (g, '.' :: r) := by
  simp only [readIpv4, Option.bind_eq_bind, Option.bind_eq_some_iff] at h
  obtain ⟨⟨o, r⟩, ho, r', hdot, -⟩ := h
  obtain rfl := readDot_eq_some.mp hdot
  simp only [readOctet, Option.bind_eq_bind, Option.bind_eq_some_iff] at ho
  obtain ⟨⟨ds, v, after⟩, hnum, ho⟩ := ho
  obtain rfl : after = '.' :: r' := by
    split at ho
    · split at ho
      · exact congrArg Prod.snd (Option.some.inj ho)
      · cases ho
    · cases ho
  obtain ⟨rfl, hlength, hv⟩ := readNumeral_eq_some hnum
  obtain ⟨hne, hdigits⟩ := (Text.numeral?_isSome ds).mp (Option.isSome_of_eq_some hv)
  have hhex : (Text.numeral? 16 ds).isSome :=
    (Text.numeral?_isSome ds).mpr ⟨hne, fun c hc => isDigit_sixteen_of_ten (hdigits c hc)⟩
  obtain ⟨g, hg⟩ := Option.isSome_iff_exists.mp hhex
  have hsize : g < UInt16.size := by
    calc g < 16 ^ ds.length := Text.numeral?_lt hg
      _ ≤ 16 ^ 3 := Nat.pow_le_pow_right (by decide) hlength
      _ < UInt16.size := by decide
  have hdot : EndsNumeral 16 ('.' :: r') := by
    rintro c ⟨⟩
    decide
  refine ⟨UInt16.ofNatLT g hsize, r', ?_⟩
  rw [readGroup, readNumeral_of_ends hdot (by omega) hg]
  simp [hsize]

theorem readIpv4_of_readGroup {n : AddressNotation} {cs : List Char}
    (h : ∀ g r, readGroup cs ≠ some (g, '.' :: r)) : n.readIpv4 cs = none := by
  cases hread : n.readIpv4 cs with
  | none => rfl
  | some p =>
    obtain ⟨g, r, hgroup⟩ := readGroup_of_readIpv4 hread
    exact absurd hgroup (h g r)

/-- No further group is read in front of a dot. -/
theorem readGroups_dot {n : AddressNotation} (limit : Nat) (r : List Char) :
    (n.readGroups false limit ('.' :: r)).rest = '.' :: r := by
  cases limit <;> rfl

/-! ## From strict to lax -/

theorem readOctet_lax {cs : List Char} {p : UInt8 × List Char}
    (h : strict.readOctet cs = some p) : lax.readOctet cs = some p := by
  simp only [readOctet, Option.bind_eq_bind, Option.bind_eq_some_iff] at h ⊢
  obtain ⟨q, hnum, h⟩ := h
  refine ⟨q, hnum, ?_⟩
  rw [Option.ite_none_right_eq_some] at h
  exact (if_pos rfl).trans h.2

theorem readIpv4_lax {cs : List Char} {p : Ipv4 × List Char} (h : strict.readIpv4 cs = some p) :
    lax.readIpv4 cs = some p := by
  simp only [readIpv4, Option.bind_eq_bind, Option.bind_eq_some_iff] at h ⊢
  obtain ⟨a, ha, ra, da, b, hb, rb, db, c, hc, rc, dc, d, hd, h⟩ := h
  exact ⟨a, readOctet_lax ha, ra, da, b, readOctet_lax hb, rb, db, c, readOctet_lax hc, rc, dc, d,
    readOctet_lax hd, h⟩

/-- Unless a dot is left behind the groups, no octet of theirs needs leading zeros. -/
theorem readGroups_lax (first : Bool) (limit : Nat) (cs : List Char)
    (hrest : (strict.readGroups first limit cs).rest.head? ≠ some '.') :
    lax.readGroups first limit cs = strict.readGroups first limit cs := by
  fun_induction readGroups strict first limit cs with
  | case1 => rfl
  | case2 first limit cs hs => rw [readGroups, hs]
  | case3 first limit cs r hs x r' h4 =>
    have hlax : (if limit = 0 then none else lax.readIpv4 r) = some (x, r') := by
      split at h4
      · cases h4
      · next hl => rw [if_neg hl, readIpv4_lax h4]
    rw [readGroups, hs]
    simp only [hlax]
  | case4 first limit cs r hs h4 hg =>
    have hlax : lax.readIpv4 r = none := readIpv4_of_readGroup fun g r' h => by simp [hg] at h
    rw [readGroups, hs]
    simp only [hlax, hg, ite_self]
  | case5 first limit cs r hs h4 g r' hg more ih =>
    have hlax : lax.readIpv4 r = none := by
      apply readIpv4_of_readGroup
      intro g' r'' h
      obtain ⟨-, rfl⟩ : g = g' ∧ r' = '.' :: r'' := by simpa [hg] using h
      exact hrest (by rw [readGroups_dot]; rfl)
    rw [readGroups, hs]
    simp only [hlax, hg, ite_self]
    rw [ih hrest]

/-- Groups that take the whole text are not more of them if more are allowed. -/
theorem readGroups_succ {n : AddressNotation} (first : Bool) (limit : Nat) (cs : List Char)
    (hrest : (n.readGroups first limit cs).rest = []) :
    n.readGroups first (limit + 1) cs = n.readGroups first limit cs := by
  fun_induction readGroups n first limit cs with
  | case1 first cs =>
    obtain rfl : cs = [] := hrest
    cases first <;> rfl
  | case2 first limit cs hs => rw [readGroups, hs]
  | case3 first limit cs r hs x r' h4 =>
    have h4' : (if limit + 1 = 0 then none else n.readIpv4 r) = some (x, r') := by
      split at h4
      · cases h4
      · rw [if_neg (by omega), h4]
    rw [readGroups, hs]
    simp only [h4']
  | case4 first limit cs r hs h4 hg =>
    obtain rfl : cs = [] := hrest
    cases first <;> rfl
  | case5 first limit cs r hs h4 g r' hg more ih =>
    have h4' : n.readIpv4 r = none := by
      apply readIpv4_of_readGroup
      intro g' r'' h
      obtain ⟨-, rfl⟩ : g = g' ∧ r' = '.' :: r'' := by simpa [hg] using h
      rw [readGroups_dot] at hrest
      cases hrest
    rw [readGroups, hs]
    simp only [h4', hg, ite_self]
    rw [ih hrest]

/-- Behind two colons the lax notation allows one group more, which is not there. -/
theorem readTail_lax (length : Nat) (cs : List Char)
    (hrest : (strict.readGroups true (8 - (length + strict.leastGap)) cs).rest = []) :
    lax.readGroups true (8 - (length + lax.leastGap)) cs =
      strict.readGroups true (8 - (length + strict.leastGap)) cs := by
  have hlax := readGroups_lax true (8 - (length + strict.leastGap)) cs (by simp [hrest])
  rw [← hlax] at hrest ⊢
  have hlimit : 8 - (length + lax.leastGap) = 8 - (length + strict.leastGap) ∨
      8 - (length + lax.leastGap) = 8 - (length + strict.leastGap) + 1 := by
    have hstrict : strict.leastGap = 1 := rfl
    have hgap : lax.leastGap = 0 := rfl
    omega
  rcases hlimit with heq | hsucc
  · rw [heq]
  · rw [hsucc, readGroups_succ true _ cs hrest]

/-- An address that takes the whole text reads the same where the notation is lax. -/
theorem readIpv6_lax {cs : List Char} {x : Ipv6} (h : strict.readIpv6 cs = some (x, [])) :
    lax.readIpv6 cs = some (x, []) := by
  simp only [readIpv6] at h ⊢
  split at h
  · next hlength =>
    obtain ⟨y, -, hy⟩ := Option.map_eq_some_iff.mp h
    have hrest : (strict.readGroups true 8 cs).rest = [] := congrArg Prod.snd hy
    rw [readGroups_lax true 8 cs (by simp [hrest]), if_pos hlength]
    exact h
  · next hlength =>
    split at h
    · cases h
    · next hdotted =>
      split at h
      · next r hr =>
        obtain ⟨y, -, hy⟩ := Option.map_eq_some_iff.mp h
        have htail := readTail_lax _ r (congrArg Prod.snd hy)
        rw [readGroups_lax true 8 cs (by rw [hr]; simp), if_neg hlength, if_neg hdotted, hr]
        simp only [htail]
        exact h
      · cases h

end AddressNotation

end RtcConfig
