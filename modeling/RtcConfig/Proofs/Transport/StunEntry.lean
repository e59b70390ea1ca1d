import RtcConfig.Proofs.Ice.RoundTrip
import RtcConfig.Proofs.Transport.Servers

/-! # STUN entries that are hosts

A STUN entry that is a host, with a port behind it or without, stands for the endpoint of that host:
it is not taken for a URL, its port is not taken for a part of an address, and an address is put in
brackets. The URLs that entries are turned into are entries again, and these are left as they are.
-/

namespace RtcConfig

/-- A STUN entry that is a host, and the endpoint that it names. With a port behind them two names
are not hosts but schemes. -/
inductive StunHost : String → IceEndpoint → Prop
  | host {host text : String} (htext : HostText host text) :
    StunHost text ⟨.stun, host, 3478, none⟩
  | namePort {name : String} {zeros : Nat} {port : UInt16} (hne : name ≠ "")
    (hname : ∀ c ∈ name.toList, IsNameChar c) (hscheme : name ∉ ["stun", "stuns"])
    (hport : port ≠ 0) :
    StunHost (name ++ EndpointText.portText (some (zeros, port))) ⟨.stun, name, port, none⟩
  | addressPort {address : String} {zeros : Nat} {port : UInt16}
    (haddress : (Ipv6.ofChars? address.toList).isSome) (hport : port ≠ 0) :
    StunHost ("[" ++ address ++ "]" ++ EndpointText.portText (some (zeros, port)))
      ⟨.stun, address, port, none⟩

namespace IceServer

/-! ## Hosts are no URLs -/

theorem startsAsStunUrl_iff {cs : List Char} : startsAsStunUrl cs ↔
    ∃ name rest, name ∈ ["stun", "stuns"] ∧ cs = name.toList ++ ':' :: rest := by
  rw [startsAsStunUrl, Bool.or_eq_true, List.isPrefixOf_iff_prefix, List.isPrefixOf_iff_prefix]
  constructor
  · rintro (⟨rest, rfl⟩ | ⟨rest, rfl⟩)
    · exact ⟨"stun", rest, by simp, rfl⟩
    · exact ⟨"stuns", rest, by simp, rfl⟩
  · rintro ⟨name, rest, hname, rfl⟩
    rcases List.mem_pair.mp hname with rfl | rfl
    · exact .inl ⟨rest, rfl⟩
    · exact .inr ⟨rest, rfl⟩

theorem head?_of_startsAsStunUrl {cs : List Char} (h : startsAsStunUrl cs) :
    cs.head? = some 's' := by
  obtain ⟨name, rest, hname, rfl⟩ := startsAsStunUrl_iff.mp h
  rcases List.mem_pair.mp hname with rfl | rfl <;> rfl

/-- A host without a port is no URL: a name has no colon, and an address does not start with the
letter of the schemes. -/
theorem not_startsAsStunUrl_host {host text : String} (h : HostText host text) :
    ¬startsAsStunUrl text.toList := by
  intro hstart
  have hhead := head?_of_startsAsStunUrl hstart
  cases h with
  | bracketed h =>
    rw [String.append_assoc, String.toList_append] at hhead
    cases hhead
  | bare h =>
    rcases h with ⟨-, hname⟩ | haddress
    · obtain ⟨name, rest, -, htext⟩ := startsAsStunUrl_iff.mp hstart
      exact (hname ':' (by simp [htext])).ne.1 rfl
    · have hletter : ¬AddressNotation.IsAddressChar 's' := by decide
      exact Ipv6.not_isSome_ofChars?_of_mem hletter (List.mem_of_head? hhead) haddress

/-- A name in front of a colon is a URL only if it is a scheme. -/
theorem not_startsAsStunUrl_name {name : String} (hname : ∀ c ∈ name.toList, IsNameChar c)
    (hscheme : name ∉ ["stun", "stuns"]) (rest : List Char) :
    ¬startsAsStunUrl (name.toList ++ ':' :: rest) := by
  intro hstart
  obtain ⟨scheme, rest', hmem, htext⟩ := startsAsStunUrl_iff.mp hstart
  have hcolon : ':' ∉ name.toList := fun hc => (hname ':' hc).ne.1 rfl
  have hcolon' : ':' ∉ scheme.toList := by
    rcases List.mem_pair.mp hmem with rfl | rfl <;> decide
  have hsame := (Text.append_cons_unique hcolon hcolon' htext).1
  exact hscheme (String.toList_inj.mp hsame ▸ hmem)

/-- A text with one colon is no address. -/
theorem bracketIpv6_of_count {text : String} (h : text.toList.count ':' ≤ 1) :
    bracketIpv6 text = text := by
  refine if_neg fun haddress => ?_
  obtain ⟨x, hx⟩ := Option.isSome_iff_exists.mp haddress
  have htwo := Ipv6.two_le_count_of_ofChars? hx
  omega

/-! ## Hosts behind the scheme -/

theorem stunUrl_of_not_startsAsStunUrl {entry : String} (h : ¬startsAsStunUrl entry.toList) :
    stunUrl entry = "stun:" ++ bracketIpv6 entry := if_neg h

variable {host name address : String} {zeros : Nat} {port : UInt16}

theorem toList_portText (zeros : Nat) (port : UInt16) :
    (EndpointText.portText (some (zeros, port))).toList =
      ':' :: (List.replicate zeros '0' ++ Text.decimal port.toNat) := by
  simp [EndpointText.portText]

theorem stunUrl_host {text : String} (h : HostText host text) :
    stunUrl text = EndpointText.text ⟨"stun", host, none, none⟩ := by
  rw [stunUrl_of_not_startsAsStunUrl (not_startsAsStunUrl_host h), h.bracketIpv6_eq]
  apply String.toList_injective
  simp [EndpointText.text, EndpointText.portText, EndpointText.transportText]

theorem notMem_colon_port (zeros : Nat) (port : UInt16) :
    ':' ∉ List.replicate zeros '0' ++ Text.decimal port.toNat := fun hc =>
  absurd (Text.isDigit_of_mem_zeros_decimal hc) (by decide)

theorem stunUrl_namePort (hname : ∀ c ∈ name.toList, IsNameChar c)
    (hscheme : name ∉ ["stun", "stuns"]) :
    stunUrl (name ++ EndpointText.portText (some (zeros, port))) =
      EndpointText.text ⟨"stun", name, some (zeros, port), none⟩ := by
  have hcolon : name.toList.count ':' = 0 :=
    List.count_eq_zero.mpr fun hc => (hname ':' hc).ne.1 rfl
  have hport := List.count_eq_zero.mpr (notMem_colon_port zeros port)
  have hentry : (name ++ EndpointText.portText (some (zeros, port))).toList =
      name.toList ++ ':' :: (List.replicate zeros '0' ++ Text.decimal port.toNat) := by
    rw [String.toList_append, toList_portText]
  have hone : (name ++ EndpointText.portText (some (zeros, port))).toList.count ':' ≤ 1 := by
    rw [hentry, List.count_append, List.count_cons_self, hcolon, hport]
  have hstart : ¬startsAsStunUrl (name ++ EndpointText.portText (some (zeros, port))).toList := by
    rw [hentry]
    exact not_startsAsStunUrl_name hname hscheme _
  have hbare : bracketIpv6 name = name := bracketIpv6_of_count (by omega)
  rw [stunUrl_of_not_startsAsStunUrl hstart, bracketIpv6_of_count hone]
  simp [EndpointText.text, hbare, EndpointText.transportText, String.append_assoc]

theorem stunUrl_addressPort (haddress : (Ipv6.ofChars? address.toList).isSome) :
    stunUrl ("[" ++ address ++ "]" ++ EndpointText.portText (some (zeros, port))) =
      EndpointText.text ⟨"stun", address, some (zeros, port), none⟩ := by
  have hhead : ("[" ++ address ++ "]" ++ EndpointText.portText (some (zeros, port))).toList.head? =
      some '[' := by
    simp
  have hstart : ¬startsAsStunUrl
      ("[" ++ address ++ "]" ++ EndpointText.portText (some (zeros, port))).toList := by
    intro hstart
    rw [head?_of_startsAsStunUrl hstart] at hhead
    cases hhead
  have hbracket := Ipv6.not_isSome_ofChars?_of_mem
    (by decide : ¬AddressNotation.IsAddressChar '[') (List.mem_of_head? hhead)
  rw [stunUrl_of_not_startsAsStunUrl hstart]
  unfold bracketIpv6 EndpointText.text bracketIpv6
  rw [if_neg hbracket, if_pos haddress]
  simp [EndpointText.transportText, String.append_assoc]

theorem names_stun {port : Option (Nat × UInt16)} (hhost : NamesHost host)
    (hport : ∀ zeros p, port = some (zeros, p) → p ≠ 0) :
    EndpointText.Names ⟨"stun", host, port, none⟩ .stun := by
  have hscheme : "stun".toLower = IceScheme.stun.text :=
    String.toList_inj.mp (String.toList_map.trans (by decide))
  exact ⟨hscheme, hhost, hport, nofun⟩

theorem ofText_withPort (hhost : NamesHost host) (hport : port ≠ 0) :
    IceEndpoint.ofText (EndpointText.text ⟨"stun", host, some (zeros, port), none⟩) =
      .ok ⟨.stun, host, port, none⟩ := by
  refine EndpointText.Names.ofText (names_stun hhost ?_)
  intro zeros p hp
  obtain ⟨-, rfl⟩ := Prod.mk.inj (Option.some.inj hp)
  exact hport

/-- A host with or without a port is read as the endpoint that it names. -/
theorem ofText_stunUrl {entry : String} {e : IceEndpoint} (h : StunHost entry e) :
    IceEndpoint.ofText (stunUrl entry) = .ok e := by
  cases h with
  | host htext =>
    rw [stunUrl_host htext]
    exact EndpointText.Names.ofText (names_stun htext.namesHost nofun)
  | namePort hne hname hscheme hport =>
    rw [stunUrl_namePort hname hscheme]
    exact ofText_withPort (.inl ⟨hne, hname⟩) hport
  | addressPort haddress hport =>
    rw [stunUrl_addressPort haddress]
    exact ofText_withPort (.inr haddress) hport

/-! ## URLs of entries as entries -/

/-- What an entry is turned into starts as a URL. -/
theorem startsAsStunUrl_stunUrl (entry : String) : startsAsStunUrl (stunUrl entry).toList := by
  obtain ⟨scheme, rest, hturn, hurl⟩ := stunUrl_eq entry
  rw [hurl, String.toList_ofList, startsAsStunUrl_iff]
  refine ⟨scheme.text, rest, ?_, rfl⟩
  cases scheme with
  | stun | stuns => decide
  | turn | turns => cases hturn

theorem stunUrl_stunUrl (entry : String) : stunUrl (stunUrl entry) = stunUrl entry :=
  if_pos (startsAsStunUrl_stunUrl entry)

theorem Share.flatMap_urls {entries : List String} {stun : List IceServer}
    (h : Share entries stun) : stun.flatMap (·.urls) = entries.map stunUrl := by
  cases h with
  | none => rfl
  | one hne hshared => simp [hshared.urls]

end IceServer

namespace TransportSettings

/-- Settings and those with the URLs in place of the entries are accepted or rejected alike. -/
theorem build_stunUrls (s : TransportSettings) (development : Bool) :
    TransportConfig.build { s with stunServers := s.stunServers.map IceServer.stunUrl }
      development = TransportConfig.build s development := by
  have hshared : IceServer.ofStunEntries (s.stunServers.map IceServer.stunUrl) =
      IceServer.ofStunEntries s.stunServers := by
    simp [IceServer.ofStunEntries, IceServer.stunUrl_stunUrl]
  have hstun : stunIceServers { s with stunServers := s.stunServers.map IceServer.stunUrl } =
      s.stunIceServers := by
    simp only [stunIceServers, hshared, List.isEmpty_map]
  have hservers : iceServers { s with stunServers := s.stunServers.map IceServer.stunUrl } =
      s.iceServers := by
    rw [iceServers, hstun]
    rfl
  rw [TransportConfig.build, config, hservers]
  rfl

/-- Entries that are hosts are accepted, and the one server has the endpoints that they name. In any
accepted settings the URLs of the server of the entries may stand for the entries. -/
theorem stunServersGive_hosts (development : Bool) :
    (∀ entries es, entries ≠ [] → List.Forall₂ StunHost entries es →
      StunServersGive entries development es) ∧
    ∀ s c, TransportConfig.build s development = .ok c →
      ∃ stun turn, c.value.iceServers = stun ++ turn ∧ IceServer.Share s.stunServers stun ∧
        turn.length = s.turnServers.length ∧
        TransportConfig.build { s with stunServers := stun.flatMap (·.urls) } development =
          .ok c := by
  constructor
  · intro entries es hne hhosts
    rw [stunServersGive_iff hne]
    exact mapM_of_forall₂ (hhosts.imp fun _ _ => IceServer.ofText_stunUrl)
  · intro s c hc
    obtain ⟨config, hconfig, rfl⟩ := map_eq_ok hc
    obtain ⟨stun, hstun, hservers⟩ := bind_eq_ok (iceServers_of_config hconfig)
    obtain ⟨turn, hturn, hservers⟩ := bind_eq_ok hservers
    have hshare := share_of_stunIceServers hstun
    have hlength := (mapM_eq_ok hturn).length_eq.symm
    refine ⟨stun, turn, (Except.ok.inj hservers).symm, hshare, hlength, ?_⟩
    rw [hshare.flatMap_urls, build_stunUrls]
    exact hc

/-- One entry of each form: a name that is a scheme, a name with a port behind a zero, an address
that ends like a port, and addresses in brackets without and with a port. -/
def hostEntries : TransportSettings where
  stunServers := ["stun", "STUN:080", "2001:db8::1:3478", "[::1]", "[fe80::A]:443"]

theorem stunServersGive_hosts_hostEntries :
    ∃ c server, TransportConfig.build hostEntries true = .ok c ∧ c.value.iceServers = [server] ∧
      server.endpoints = .ok [⟨.stun, "stun", 3478, none⟩, ⟨.stun, "STUN", 80, none⟩,
        ⟨.stun, "2001:db8::1:3478", 3478, none⟩, ⟨.stun, "::1", 3478, none⟩,
        ⟨.stun, "fe80::A", 443, none⟩] ∧
      ∃ stun turn, c.value.iceServers = stun ++ turn ∧
        IceServer.Share hostEntries.stunServers stun ∧ turn.length = 0 ∧
        TransportConfig.build { hostEntries with stunServers := stun.flatMap (·.urls) } true =
          .ok c := by
  have hname : StunHost "stun" ⟨.stun, "stun", 3478, none⟩ :=
    .host (.bare (.inl ⟨by decide, forall_isNameChar_iff_all.mpr (by decide)⟩))
  have hnamePort : StunHost "STUN:080" ⟨.stun, "STUN", 80, none⟩ := by
    have htext : "STUN:080" = "STUN" ++ EndpointText.portText (some (1, 80)) := by decide
    rw [htext]
    exact .namePort (by decide) (forall_isNameChar_iff_all.mpr (by decide)) (by decide) (by decide)
  have haddress : StunHost "2001:db8::1:3478" ⟨.stun, "2001:db8::1:3478", 3478, none⟩ :=
    .host (.bare (.inr (by decide)))
  have hbracketed : StunHost "[::1]" ⟨.stun, "::1", 3478, none⟩ := by
    have htext : "[::1]" = "[" ++ "::1" ++ "]" := by decide
    exact htext ▸ .host (.bracketed (by decide))
  have haddressPort : StunHost "[fe80::A]:443" ⟨.stun, "fe80::A", 443, none⟩ := by
    have htext : "[fe80::A]:443" =
        "[" ++ "fe80::A" ++ "]" ++ EndpointText.portText (some (0, 443)) := by decide
    exact htext ▸ .addressPort (by decide) (by decide)
  have hhosts : List.Forall₂ StunHost hostEntries.stunServers [_, _, _, _, _] :=
    .cons hname (.cons hnamePort (.cons haddress (.cons hbracketed (.cons haddressPort .nil))))
  obtain ⟨c, server, hc, hserver, hes⟩ :=
    (stunServersGive_hosts true).1 _ _ (List.cons_ne_nil _ _) hhosts
  exact ⟨c, server, hc, hserver, hes, (stunServersGive_hosts true).2 hostEntries c hc⟩

end TransportSettings

end RtcConfig
