import RtcConfig.Proofs.Ice.Endpoint
import RtcConfig.Transport.IceServers

/-! # Writing and reading endpoints

An endpoint is written as its scheme, its host, a port and a transport, where port and transport
may be left out. Reading what is written gives the endpoint back: no host is taken for a port,
zeros in front of a port do not count, and the case of the letters of a host is kept.
-/

namespace RtcConfig

/-- A character of which the names of hosts are made. -/
def IsNameChar (c : Char) : Prop := c.isAlphanum ∨ c = '-' ∨ c = '.' ∨ c = '_'

/-- A host by name or by IPv6 address. -/
def NamesHost (host : String) : Prop :=
  (host ≠ "" ∧ ∀ c ∈ host.toList, IsNameChar c) ∨ (Ipv6.ofChars? host.toList).isSome

/-- An endpoint as it is written: the scheme in letters of either case, the port with the number of
zeros in front of it. -/
structure EndpointText where
  schemeName : String
  host : String
  port : Option (Nat × UInt16)
  transport : Option IceTransport

namespace EndpointText

def portText : Option (Nat × UInt16) → String
  | none => ""
  | some (zeros, port) =>
    ":" ++ String.ofList (List.replicate zeros '0' ++ Text.decimal port.toNat)

def transportText : Option IceTransport → String
  | none => ""
  | some t => "?transport=" ++ t.text

/-- An IPv6 address is written in brackets. -/
def text (w : EndpointText) : String :=
  w.schemeName ++ ":" ++ IceServer.bracketIpv6 w.host ++ portText w.port ++
    transportText w.transport

/-- What is written names an endpoint of the scheme: port zero names none, and only TURN has
transports. -/
structure Names (w : EndpointText) (scheme : IceScheme) : Prop where
  schemeName : w.schemeName.toLower = scheme.text
  host : NamesHost w.host
  port : ∀ zeros p, w.port = some (zeros, p) → p ≠ 0
  transport : w.transport.isSome → scheme.isTurn

end EndpointText

/-! ## Hosts -/

theorem isNameChar_iff_toNat {c : Char} :
    IsNameChar c ↔ c.isAlphanum ∨ c.toNat = 45 ∨ c.toNat = 46 ∨ c.toNat = 95 := by
  have hc (d : Char) : c = d ↔ c.toNat = d.toNat := Char.toNat_inj.symm
  rw [IsNameChar, hc '-', hc '.', hc '_']
  exact Iff.rfl

theorem forall_isNameChar_iff_all {cs : List Char} : (∀ c ∈ cs, IsNameChar c) ↔
    (cs.all fun c => c.isAlphanum || c == '-' || c == '.' || c == '_') = true := by
  simp [IsNameChar, or_assoc]

theorem IsNameChar.isPlainChar {c : Char} (h : IsNameChar c) : Url.IsPlainChar c := by
  rw [isNameChar_iff_toNat, Text.isAlphanum_iff_toNat] at h
  apply Url.isPlainChar_of_toNat <;> grind

theorem IsNameChar.ne {c : Char} (h : IsNameChar c) : c ≠ ':' ∧ c ≠ '[' ∧ c ≠ ']' := by
  refine ⟨?_, ?_, ?_⟩ <;>
  · rintro rfl
    exact absurd (isNameChar_iff_toNat.mp h) (by decide)

/-- The text of a host is a name, or an address in brackets. -/
theorem NamesHost.text_cases {host : String} (h : NamesHost host) :
    ((IceServer.bracketIpv6 host).toList = host.toList ∧ host ≠ "" ∧
      ∀ c ∈ host.toList, IsNameChar c) ∨
    ((IceServer.bracketIpv6 host).toList = '[' :: (host.toList ++ [']']) ∧ host ≠ "" ∧
      (Ipv6.ofChars? host.toList).isSome) := by
  unfold IceServer.bracketIpv6
  by_cases hip : (Ipv6.ofChars? host.toList).isSome
  · rw [if_pos hip]
    refine .inr ⟨by simp, ?_, hip⟩
    rintro rfl
    exact absurd hip (by decide)
  · rw [if_neg hip]
    rcases h with h | h
    · exact .inl ⟨rfl, h⟩
    · exact absurd h hip

theorem NamesHost.unbracket? {host : String} (h : NamesHost host) :
    IceEndpoint.unbracket? (IceServer.bracketIpv6 host).toList = some host.toList := by
  rw [IceEndpoint.unbracket?_eq_some]
  rcases h.text_cases with ⟨htext, -, hname⟩ | ⟨htext, -, hip⟩
  · exact .inr ⟨htext, fun c hc => (hname c (htext ▸ hc)).ne⟩
  · exact .inl ⟨htext, hip⟩

theorem NamesHost.isPlainChar {host : String} (h : NamesHost host) :
    ∀ c ∈ (IceServer.bracketIpv6 host).toList, Url.IsPlainChar c := by
  intro c hc
  rcases h.text_cases with ⟨htext, -, hname⟩ | ⟨htext, -, hip⟩
  · exact (hname c (htext ▸ hc)).isPlainChar
  · exact Ipv6.isPlainChar_of_mem_brackets hip (htext ▸ hc)

/-- A host without a port is not taken for a host and a port. -/
theorem NamesHost.cutPort?_eq_none {host : String} (h : NamesHost host) :
    IceEndpoint.cutPort? (IceServer.bracketIpv6 host).toList = none := by
  rw [IceEndpoint.cutPort?_eq_none]
  rcases h.text_cases with ⟨htext, -, hname⟩ | ⟨htext, -⟩
  · exact .inr fun hc => (hname ':' (htext ▸ hc)).ne.1 rfl
  · exact .inl (List.getLast?_eq_some_iff.mpr ⟨'[' :: host.toList, by simp [htext]⟩)

theorem NamesHost.text_ne_nil {host : String} (h : NamesHost host) :
    (IceServer.bracketIpv6 host).toList ≠ [] := by
  rcases h.text_cases with ⟨htext, hne, -⟩ | ⟨htext, -⟩
  · simpa [htext] using hne
  · simp [htext]

theorem NamesHost.ne_empty {host : String} (h : NamesHost host) : host ≠ "" := by
  rcases h.text_cases with ⟨-, hne, -⟩ | ⟨-, hne, -⟩
  · exact hne
  · exact hne

/-- How a host is written by itself: a name as it is, an address with brackets or without. -/
inductive HostText (host : String) : String → Prop
  | bare (h : NamesHost host) : HostText host host
  | bracketed (h : (Ipv6.ofChars? host.toList).isSome) : HostText host ("[" ++ host ++ "]")

namespace HostText

variable {host text : String}

theorem namesHost (h : HostText host text) : NamesHost host := by
  cases h with
  | bare h => exact h
  | bracketed h => exact .inr h

theorem ne_empty (h : HostText host text) : text ≠ "" := by
  cases h with
  | bare h => exact h.ne_empty
  | bracketed h =>
    intro htext
    have hmem : '[' ∈ ("[" ++ host ++ "]").toList := by simp
    rw [htext] at hmem
    cases hmem

/-- Brackets are put around an address that has none. -/
theorem bracketIpv6_eq (h : HostText host text) :
    IceServer.bracketIpv6 text = IceServer.bracketIpv6 host := by
  cases h with
  | bare h => rfl
  | bracketed h =>
    have hbracket : ¬(Ipv6.ofChars? ("[" ++ host ++ "]").toList).isSome :=
      Ipv6.not_isSome_ofChars?_of_mem (by decide : ¬AddressNotation.IsAddressChar '[') (by simp)
    unfold IceServer.bracketIpv6
    rw [if_neg hbracket, if_pos h]

end HostText

/-! ## Ports and transports -/

namespace EndpointText

theorem isPlainChar_of_mem_portText {port : Option (Nat × UInt16)} {c : Char}
    (h : c ∈ (portText port).toList) : Url.IsPlainChar c := by
  cases port with
  | none => simp [portText] at h
  | some p =>
    simp only [portText, String.toList_append, String.toList_ofList, List.mem_append] at h
    rcases h with h | h
    · obtain rfl : c = ':' := by simpa using h
      apply Url.isPlainChar_of_toNat <;> decide
    · exact Url.isPlainChar_of_isDigit (Text.isDigit_of_mem_zeros_decimal (List.mem_append.mpr h))

/-- Behind a host the port is what is written, or else the one of the scheme. -/
theorem splitPort_host {host : String} (h : NamesHost host) {port : Option (Nat × UInt16)}
    (defaultPort : UInt16) :
    IceEndpoint.splitPort defaultPort ((IceServer.bracketIpv6 host).toList ++
      (portText port).toList) =
        some ((IceServer.bracketIpv6 host).toList, (port.map Prod.snd).getD defaultPort) := by
  rw [IceEndpoint.splitPort_eq_some]
  cases port with
  | none => exact .inl ⟨by simpa [portText] using h.cutPort?_eq_none, by simp [portText], rfl⟩
  | some p =>
    obtain ⟨zeros, p⟩ := p
    have hdigit (c : Char) (hc : c ∈ List.replicate zeros '0' ++ Text.decimal p.toNat) :
        c.isDigit := Text.isDigit_of_mem_zeros_decimal hc
    have hne : List.replicate zeros '0' ++ Text.decimal p.toNat ≠ [] := by
      simp [Text.decimal_ne_nil]
    have hvalue : Nat.ofDigitChars 10 (List.replicate zeros '0' ++ Text.decimal p.toNat) 0 =
        p.toNat := by
      simp [Nat.ofDigitChars_append, Text.decimal]
    refine .inr ⟨_, ?_, IceEndpoint.readPort_of_digits hne hdigit hvalue⟩
    simpa [portText] using IceEndpoint.cutPort?_append_digits hne hdigit _

theorem readTransport_text {scheme : IceScheme} {transport : Option IceTransport}
    (h : transport.isSome → scheme.isTurn) :
    IceEndpoint.readTransport scheme ((transportText transport).toList.drop 1) =
      some transport := by
  cases transport with
  | none => rfl
  | some t => cases scheme <;> cases t <;> first | rfl | exact absurd (h rfl) (by decide)

theorem isVisible_transportText (transport : Option IceTransport) :
    Url.IsVisible (transportText transport).toList := by
  cases transport with
  | none => simp [transportText, Url.IsVisible]
  | some t =>
    rw [Url.isVisible_iff_all]
    cases t <;> decide

theorem splitQuery_text {path : List Char} (h : Url.IsPathText path)
    (transport : Option IceTransport) :
    Url.splitQuery (path ++ (transportText transport).toList) =
      (path, (transportText transport).toList.drop 1) := by
  cases transport with
  | none => simpa [transportText] using Url.splitQuery_of_isPathText h
  | some t => cases t <;> exact Url.splitQuery_append h (.inl rfl) _

/-! ## Endpoints -/

/-- The host and the port as they are written. -/
def placeText (w : EndpointText) : List Char :=
  (IceServer.bracketIpv6 w.host).toList ++ (portText w.port).toList

theorem text_eq (w : EndpointText) :
    w.text = String.ofList (w.schemeName.toList ++
      ':' :: (w.placeText ++ (transportText w.transport).toList)) := by
  apply String.toList_injective
  simp [text, placeText]

variable {w : EndpointText} {scheme : IceScheme}

theorem Names.isPlainChar (h : w.Names scheme) {c : Char} (hc : c ∈ w.placeText) :
    Url.IsPlainChar c := by
  rcases List.mem_append.mp hc with hc | hc
  · exact h.host.isPlainChar c hc
  · exact isPlainChar_of_mem_portText hc

/-- What is written is a URL whose path is host and port as they stand. -/
theorem Names.url (h : w.Names scheme) :
    Url.ofText w.text =
      .ok (.generic scheme.text w.placeText ((transportText w.transport).toList.drop 1)) := by
  have hname : w.schemeName.toList.map Char.toLower = scheme.text.toList := by
    rw [← h.schemeName]
    exact String.toList_map.symm
  have hvisible : Url.IsVisible (w.placeText ++ (transportText w.transport).toList) := by
    intro c hc
    rcases List.mem_append.mp hc with hc | hc
    · exact (h.isPlainChar hc).visible
    · exact isVisible_transportText _ c hc
  have hpath : Url.IsPathText w.placeText := fun c hc =>
    ⟨(h.isPlainChar hc).isPathChar.ne_question, (h.isPlainChar hc).isPathChar.ne_hash⟩
  have hhead : (w.placeText ++ (transportText w.transport).toList).head? ≠ some '/' := by
    obtain ⟨c, cs, hcs⟩ := List.exists_cons_of_ne_nil h.host.text_ne_nil
    have hne : c ≠ '/' := (h.isPlainChar (by simp [placeText, hcs])).ne_slash
    simpa [placeText, hcs] using hne
  have hkept : Url.opaquePath w.placeText = w.placeText :=
    Url.percentEncode_of_kept fun c hc => (h.isPlainChar hc).isPathChar.kept
  rw [text_eq, IceScheme.ofText_url hname, Url.trimEnd_of_visible hvisible,
    Url.unbroken_of_visible hvisible, Url.readGeneric_unslashed hhead, splitQuery_text hpath, hkept]

/-- What is written names the endpoint, with the port of its scheme if none is written. -/
theorem Names.ofText (h : w.Names scheme) :
    IceEndpoint.ofText w.text =
      .ok ⟨scheme, w.host, (w.port.map Prod.snd).getD scheme.defaultPort, w.transport⟩ := by
  refine IceEndpoint.ofText_eq_ok.mpr ⟨_, h.url, IceEndpoint.ofUrl?_eq_some.mpr
    ⟨w.placeText, _, _, rfl, splitPort_host h.host scheme.defaultPort, h.host.unbracket?,
      h.host.ne_empty, ?_, readTransport_text h.transport⟩⟩
  cases hport : w.port with
  | none =>
    show scheme.defaultPort ≠ 0
    cases scheme <;> decide
  | some p => exact h.port p.1 p.2 hport

/-- Reading an endpoint that is written gives it back, with the port of its scheme if none is
written. -/
theorem ofText_text (h : w.Names scheme) :
    IceEndpoint.ofText w.text = .ok {
      scheme := scheme
      host := w.host
      port := (w.port.map Prod.snd).getD (if scheme = .stun ∨ scheme = .turn then 3478 else 5349)
      transport := w.transport } := by
  have hdefault : scheme.defaultPort =
      if scheme = .stun ∨ scheme = .turn then 3478 else 5349 := by
    cases scheme <;> rfl
  rw [h.ofText, hdefault]

/-- An IPv6 endpoint of TURN over TLS, with a port behind zeros. -/
def tlsAddress : EndpointText := ⟨"TURNS", "2001:DB8::1", some (2, 443), some .tcp⟩

theorem ofText_text_tlsAddress :
    tlsAddress.Names .turns ∧ tlsAddress.text = "TURNS:[2001:DB8::1]:00443?transport=tcp" ∧
      IceEndpoint.ofText tlsAddress.text = .ok ⟨.turns, "2001:DB8::1", 443, some .tcp⟩ := by
  have h : tlsAddress.Names .turns := {
    schemeName := String.toList_inj.mp (String.toList_map.trans (by decide))
    host := .inr (by decide)
    port := by
      intro zeros p hp
      obtain ⟨-, rfl⟩ := Prod.mk.inj (Option.some.inj hp)
      decide
    transport := fun _ => rfl }
  exact ⟨h, by decide, ofText_text h⟩

end EndpointText

end RtcConfig
