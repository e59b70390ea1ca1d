import RtcConfig.Ice.Endpoint
import RtcConfig.Proofs.Address.Reader
import RtcConfig.Proofs.Text.Digits
import RtcConfig.Proofs.Url.Reader

/-! # Parts of an endpoint

Each step from a URL to an endpoint, with the exact texts it accepts: the port behind the last
colon of the path, the host inside its brackets, the transport of the query, and the endpoint made
of them.
-/

namespace RtcConfig

theorem IceScheme.ofText?_eq_some {s : String} {scheme : IceScheme} :
    ofText? s = some scheme ↔ s = scheme.text := by
  constructor
  · intro h
    unfold ofText? at h
    split at h <;> cases h <;> rfl
  · rintro rfl
    cases scheme <;> rfl

theorem IceScheme.text_injective {a b : IceScheme} (h : a.text = b.text) : a = b := by
  have hb : ofText? a.text = some b := ofText?_eq_some.mpr h
  rw [ofText?_eq_some.mpr rfl] at hb
  exact Option.some.inj hb

theorem isPlainChar_of_isAddressChar {c : Char} (h : AddressNotation.IsAddressChar c) :
    Url.IsPlainChar c := by
  rcases h with h | rfl | rfl
  · rw [Text.isDigit_sixteen_iff_toNat] at h
    apply Url.isPlainChar_of_toNat <;> grind
  all_goals apply Url.isPlainChar_of_toNat <;> decide

/-- An address in brackets is written with plain characters. -/
theorem Ipv6.isPlainChar_of_mem_brackets {address : List Char} (h : (ofChars? address).isSome)
    {c : Char} (hc : c ∈ '[' :: (address ++ [']'])) : Url.IsPlainChar c := by
  obtain ⟨x, hx⟩ := Option.isSome_iff_exists.mp h
  simp only [List.mem_cons, List.mem_append, List.not_mem_nil, or_false] at hc
  rcases hc with rfl | hc | rfl
  · apply Url.isPlainChar_of_toNat <;> decide
  · exact isPlainChar_of_isAddressChar (isAddressChar_of_ofChars? hx c hc)
  · apply Url.isPlainChar_of_toNat <;> decide

/-! ## Schemes -/

theorem isAlpha_of_toLower {c : Char} (h : c.toLower.isAlpha) : c.isAlpha := by
  by_cases hu : 'A'.val ≤ c.val ∧ c.val ≤ 'Z'.val
  · exact Text.isAlpha_iff_toNat.mpr (.inl hu)
  · have hc : c.toLower = c := dif_neg hu
    rwa [hc] at h

/-- The name of a scheme may be written in letters of either case. -/
theorem IceScheme.isSchemeName {scheme : IceScheme} {name : List Char}
    (h : name.map Char.toLower = scheme.text.toList) : Url.IsSchemeName name := by
  have hall : scheme.text.toList.all Char.isAlpha := by
    cases scheme <;> decide
  have hletters : ∀ c ∈ scheme.text.toList, c.isAlpha := List.all_eq_true.mp hall
  have hname : ∀ c ∈ name, c.isAlpha := fun c hc =>
    isAlpha_of_toLower (hletters c.toLower (h ▸ List.mem_map_of_mem hc))
  refine ⟨?_, fun c hc => ?_⟩
  · cases name with
    | nil => cases scheme <;> exact absurd h (by decide)
    | cons c name => simpa using hname c (by simp)
  · simp [Url.isSchemeChar, Char.isAlphanum, hname c hc]

theorem IceScheme.map_toLower_text (scheme : IceScheme) :
    scheme.text.toList.map Char.toLower = scheme.text.toList := by
  cases scheme <;> decide

theorem IceScheme.ofText_url {scheme : IceScheme} {name : List Char}
    (h : name.map Char.toLower = scheme.text.toList) (rest : List Char) :
    Url.ofText (String.ofList (name ++ ':' :: rest)) =
      Url.readGeneric scheme.text (Url.unbroken (Url.trimEnd rest)) := by
  have hkind : Url.schemeKind scheme.text = .generic := by
    cases scheme <;> decide
  have htext : String.ofList (name.map Char.toLower) = scheme.text := by
    rw [h, String.ofList_toList]
  rw [Url.ofText_append (isSchemeName h) (by rw [htext, hkind]), htext]

namespace IceEndpoint

/-! ## Ports -/

/-- A numeral in the range of ports is a port. -/
theorem readPort_of_digits {digits : List Char} {port : UInt16} (hne : digits ≠ [])
    (hd : ∀ c ∈ digits, c.isDigit) (hv : Nat.ofDigitChars 10 digits 0 = port.toNat) :
    readPort digits = some port := by
  obtain ⟨c, cs, rfl⟩ := List.exists_cons_of_ne_nil hne
  have hplus : c ≠ '+' := by
    rintro rfl
    exact absurd (hd '+' (by simp)) (by decide)
  have hnum : Text.numeral? 10 (c :: cs) = some port.toNat := by
    rw [Text.numeral?, Text.valueFrom_ten hd, hv]
  unfold readPort
  split
  · next r heq => exact absurd (List.cons.inj heq).1 hplus
  · simp [hnum, port.toNat_lt]

/-- The text of a port is a run of digits behind at most one plus sign. -/
theorem readPort_eq_some {cs : List Char} {port : UInt16} (h : readPort cs = some port) :
    ∃ digits, (cs = digits ∨ cs = '+' :: digits) ∧ digits ≠ [] ∧ (∀ c ∈ digits, c.isDigit) ∧
      Nat.ofDigitChars 10 digits 0 = port.toNat := by
  have hdigits {digits : List Char}
      (h : ∃ n, Text.numeral? 10 digits = some n ∧
        (if h : n < UInt16.size then some (UInt16.ofNatLT n h) else none) = some port) :
      digits ≠ [] ∧ (∀ c ∈ digits, c.isDigit) ∧ Nat.ofDigitChars 10 digits 0 = port.toNat := by
    obtain ⟨n, hn, hp⟩ := h
    obtain ⟨hne, hd⟩ := (Text.numeral?_isSome digits).mp (Option.isSome_of_eq_some hn)
    simp only [Text.isDigit_ten] at hd
    refine ⟨hne, hd, ?_⟩
    obtain ⟨c, cs, rfl⟩ := List.exists_cons_of_ne_nil hne
    rw [Text.numeral?, Text.valueFrom_ten hd, Option.some.injEq] at hn
    split at hp
    · obtain rfl := Option.some.inj hp
      simpa using hn
    · cases hp
  simp only [readPort, Option.bind_eq_bind, Option.bind_eq_some_iff] at h
  split at h
  · next r => exact ⟨r, .inr rfl, hdigits h⟩
  · exact ⟨cs, .inl rfl, hdigits h⟩

theorem splitLastColon_append {port : List Char} (h : ':' ∉ port) (host : List Char) :
    splitLastColon (host ++ ':' :: port) = some (host, port) := by
  rw [splitLastColon, Text.span_reverse_append h]
  simp

theorem splitLastColon_of_notMem {cs : List Char} (h : ':' ∉ cs) : splitLastColon cs = none := by
  rw [splitLastColon, Text.span_reverse_of_notMem h]

/-- Host and port of a path that names a port. -/
def cutPort? (path : List Char) : Option (List Char × List Char) :=
  if path.getLast? = some ']' then none else splitLastColon path

theorem cutPort?_eq_none {path : List Char} :
    cutPort? path = none ↔ path.getLast? = some ']' ∨ ':' ∉ path := by
  rw [cutPort?]
  split
  · next h => simp [h]
  · next h =>
    by_cases hmem : ':' ∈ path
    · obtain ⟨host, port, rfl, hport⟩ := Text.exists_last_of_mem hmem
      rw [splitLastColon_append hport]
      exact iff_of_false (by simp) (not_or.mpr ⟨h, not_not.mpr hmem⟩)
    · simp [splitLastColon_of_notMem hmem, hmem]

theorem cutPort?_eq_some {path host port : List Char} :
    cutPort? path = some (host, port) ↔
      path = host ++ ':' :: port ∧ ':' ∉ port ∧ path.getLast? ≠ some ']' := by
  constructor
  · intro h
    have hsome : cutPort? path ≠ none := by simp [h]
    rw [Ne, cutPort?_eq_none, not_or, not_not] at hsome
    obtain ⟨hlast, hmem⟩ := hsome
    obtain ⟨host', port', rfl, hport⟩ := Text.exists_last_of_mem hmem
    rw [cutPort?, if_neg hlast, splitLastColon_append hport] at h
    obtain ⟨rfl, rfl⟩ := Prod.mk.inj (Option.some.inj h)
    exact ⟨rfl, hport, hlast⟩
  · rintro ⟨rfl, hport, hlast⟩
    rw [cutPort?, if_neg hlast, splitLastColon_append hport]

/-- Digits behind a colon at the end of a path are its port, whatever stands in front of it. -/
theorem cutPort?_append_digits {digits : List Char} (hne : digits ≠ [])
    (hd : ∀ c ∈ digits, c.isDigit) (host : List Char) :
    cutPort? (host ++ ':' :: digits) = some (host, digits) := by
  refine cutPort?_eq_some.mpr ⟨rfl, fun hc => absurd (hd ':' hc) (by decide), fun hlast => ?_⟩
  obtain ⟨init, c, rfl⟩ : ∃ init c, digits = init ++ [c] :=
    ⟨_, _, (List.dropLast_concat_getLast hne).symm⟩
  obtain ⟨ys, hys⟩ := List.getLast?_eq_some_iff.mp hlast
  have hends : (host ++ ':' :: init) ++ [c] = ys ++ [']'] := by simpa using hys
  obtain ⟨-, hc⟩ := List.append_inj' hends rfl
  obtain rfl : c = ']' := by simpa using hc
  exact absurd (hd ']' (by simp)) (by decide)

theorem splitPort_eq_some {defaultPort : UInt16} {path host : List Char} {port : UInt16} :
    splitPort defaultPort path = some (host, port) ↔
      (cutPort? path = none ∧ host = path ∧ port = defaultPort) ∨
        ∃ text, cutPort? path = some (host, text) ∧ readPort text = some port := by
  have hsplit : splitPort defaultPort path = (cutPort? path).elim (some (path, defaultPort))
      fun cut => (readPort cut.2).map fun p => (cut.1, p) := by
    unfold splitPort cutPort?
    split
    · rfl
    · cases splitLastColon path <;> rfl
  rw [hsplit]
  cases cutPort? path with
  | none => simp [eq_comm]
  | some cut =>
    obtain ⟨host', text⟩ := cut
    simp only [Option.elim_some, Option.map_eq_some_iff, Prod.mk.injEq, Option.some.injEq]
    constructor
    · rintro ⟨p, hp, rfl, rfl⟩
      exact .inr ⟨text, ⟨rfl, rfl⟩, hp⟩
    · rintro (⟨h, -⟩ | ⟨t, ⟨rfl, rfl⟩, hp⟩)
      · cases h
      · exact ⟨port, hp, rfl, rfl⟩

theorem mem_of_splitPort {defaultPort port : UInt16} {path host : List Char}
    (h : splitPort defaultPort path = some (host, port)) {c : Char} (hc : c ∈ host) : c ∈ path := by
  rcases splitPort_eq_some.mp h with ⟨-, rfl, -⟩ | ⟨text, hcut, -⟩
  · exact hc
  · rw [(cutPort?_eq_some.mp hcut).1]
    exact List.mem_append_left _ hc

/-! ## Hosts -/

/-- A text without the characters that set an IPv6 address apart. -/
def IsBareHost (cs : List Char) : Prop := ∀ c ∈ cs, c ≠ ':' ∧ c ≠ '[' ∧ c ≠ ']'

theorem any_isBareHost {cs : List Char} :
    (cs.any fun c => c == ':' || c == '[' || c == ']') = false ↔ IsBareHost cs := by
  simp [IsBareHost, and_assoc]

/-- A host is an IPv6 address in brackets or a text without brackets and colons. -/
theorem unbracket?_eq_some {cs host : List Char} :
    unbracket? cs = some host ↔
      (cs = '[' :: (host ++ [']']) ∧ (Ipv6.ofChars? host).isSome) ∨
        (cs = host ∧ IsBareHost cs) := by
  have hbare {r : List Char} : ¬IsBareHost ('[' :: r) := fun h => (h '[' (by simp)).2.1 rfl
  unfold unbracket?
  split
  · next r =>
    rw [Option.ite_none_right_eq_some]
    constructor
    · rintro ⟨⟨hlast, hip⟩, h⟩
      obtain rfl := Option.some.inj h
      obtain ⟨ys, rfl⟩ := List.getLast?_eq_some_iff.mp hlast
      exact .inl ⟨by simp, hip⟩
    · rintro (⟨h, hip⟩ | ⟨-, h⟩)
      · obtain rfl := (List.cons.inj h).2
        simp [hip]
      · exact absurd h hbare
  · next hno =>
    rw [Option.ite_none_left_eq_some, Bool.not_eq_true, any_isBareHost, Option.some.injEq]
    constructor
    · rintro ⟨h, rfl⟩
      exact .inr ⟨rfl, h⟩
    · rintro (⟨h, -⟩ | ⟨rfl, h⟩)
      · exact (hno _ h).elim
      · exact ⟨h, rfl⟩

/-! ## Transports -/

/-- The first transport that a query names, if it names any. -/
def QueryNames (query : List Char) (transport : Option IceTransport) : Prop :=
  Url.queryValue? "transport" query = transport.map fun t => Url.utf8 t.text.toList

theorem ofBytes?_eq_some {value : List UInt8} {t : IceTransport}
    (h : IceTransport.ofBytes? value = some t) : value = Url.utf8 t.text.toList := by
  unfold IceTransport.ofBytes? at h
  split at h
  · next hudp =>
    obtain rfl := Option.some.inj h
    exact hudp
  · split at h
    · next htcp =>
      obtain rfl := Option.some.inj h
      exact htcp
    · cases h

theorem readTransport_eq_some {scheme : IceScheme} {query : List Char}
    {transport : Option IceTransport} (h : readTransport scheme query = some transport) :
    QueryNames query transport ∧ (scheme.isTurn = false → transport = none) := by
  unfold readTransport at h
  split at h
  · next hnone =>
    obtain rfl := Option.some.inj h
    exact ⟨hnone, fun _ => rfl⟩
  · next value hvalue =>
    split at h
    · next hturn =>
      obtain ⟨t, ht, rfl⟩ := Option.map_eq_some_iff.mp h
      refine ⟨?_, fun hno => absurd hturn (by simp [hno])⟩
      rw [QueryNames, hvalue, ofBytes?_eq_some ht]
      rfl
    · cases h

/-! ## Endpoints -/

theorem ofUrl?_eq_some {url : Url} {e : IceEndpoint} :
    ofUrl? url = some e ↔ ∃ path query host, url = .generic e.scheme.text path query ∧
      splitPort e.scheme.defaultPort path = some (host, e.port) ∧
      unbracket? host = some e.host.toList ∧ e.host ≠ "" ∧ e.port ≠ 0 ∧
      readTransport e.scheme query = some e.transport := by
  cases url with
  | web scheme => simp [ofUrl?]
  | generic name path query =>
    simp only [ofUrl?, Option.bind_eq_bind, Option.bind_eq_some_iff, IceScheme.ofText?_eq_some,
      Option.ite_none_left_eq_some, Option.map_eq_some_iff, Url.generic.injEq, Prod.exists,
      Bool.not_eq_true, Bool.or_eq_false_iff, beq_eq_false_iff_ne, List.isEmpty_eq_false_iff]
    constructor
    · rintro ⟨scheme, rfl, host, port, hport, name, hname, ⟨hne, hp⟩, t, ht, rfl⟩
      exact ⟨path, query, host, ⟨rfl, rfl, rfl⟩, hport, by simpa using hname, by simpa using hne,
        hp, ht⟩
    · rintro ⟨path, query, host, ⟨rfl, rfl, rfl⟩, hport, hname, hne, hp, ht⟩
      refine ⟨e.scheme, rfl, host, e.port, hport, e.host.toList, hname, ⟨?_, hp⟩, e.transport, ht,
        ?_⟩
      · simpa using hne
      · simp

theorem ofText_eq_ok {raw : String} {e : IceEndpoint} :
    ofText raw = .ok e ↔ ∃ url, Url.ofText raw = .ok url ∧ ofUrl? url = some e := by
  unfold ofText
  cases Url.ofText raw with
  | error err => simp
  | ok url => cases h : ofUrl? url <;> simp [h]

/-- The scheme of an endpoint is the one that its text starts with. -/
theorem scheme_of_ofText {scheme : IceScheme} {name rest : List Char} {e : IceEndpoint}
    (hname : name.map Char.toLower = scheme.text.toList)
    (h : ofText (String.ofList (name ++ ':' :: rest)) = .ok e) : e.scheme = scheme := by
  obtain ⟨url, hurl, he⟩ := ofText_eq_ok.mp h
  rw [IceScheme.ofText_url hname] at hurl
  obtain ⟨p, q, rfl, -⟩ := Url.readGeneric_eq_ok hurl
  obtain ⟨path, q', host, heq, -⟩ := ofUrl?_eq_some.mp he
  exact (IceScheme.text_injective (Url.generic.inj heq).1).symm

end IceEndpoint

end RtcConfig
