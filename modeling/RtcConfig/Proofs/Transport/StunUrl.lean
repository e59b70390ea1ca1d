import RtcConfig.Proofs.Transport.Servers

/-! # STUN entries that are URLs

A STUN entry is taken as a URL if its first characters are a scheme of STUN in lower case. Reading
a URL is more liberal: the scheme may be written in letters of either case, and blanks in front of
it, tabs and line ends do not count. So an entry that names an endpoint as a URL is used as this URL
exactly if it starts with the scheme as it is recognised. Any other is taken as a host, and the URL
of that host never names the same endpoint.
-/

namespace RtcConfig

/-! ## Texts behind a scheme -/

namespace Url

theorem splitQuery_fst_append {front : List Char} (hfront : IsPathText front) (tail : List Char) :
    (splitQuery (front ++ tail)).1 = front ++ (splitQuery tail).1 := by
  simp only [splitQuery, List.span_eq_takeWhile_dropWhile]
  rw [List.takeWhile_append_of_pos (isPathText_iff.mp hfront)]

theorem opaquePath_append_colon (front tail : List Char) :
    opaquePath (front ++ ':' :: tail) = opaquePath front ++ ':' :: opaquePath tail := by
  rw [opaquePath, percentEncode_append, percentEncode_cons_of_kept rfl]
  rfl

theorem mem_opaquePath {c : Char} {cs : List Char} (hc : keptInOpaquePath c) (h : c ∈ cs) :
    c ∈ opaquePath cs :=
  List.mem_flatMap.mpr ⟨c, h, by simp [hc]⟩

/-- A character of the name of a scheme, or one in front of it that does not count. -/
def IsLeadChar (c : Char) : Prop := isControlOrBlank c ∨ isSchemeChar c

theorem IsLeadChar.ne {c : Char} (h : IsLeadChar c) :
    c ≠ ':' ∧ c ≠ '[' ∧ c ≠ '/' ∧ c ≠ '?' ∧ c ≠ '#' := by
  unfold IsLeadChar at h
  refine ⟨?_, ?_, ?_, ?_, ?_⟩ <;>
  · rintro rfl
    exact absurd h (by decide)

/-- The text in front of the colon of a scheme. -/
structure IsLead (lead : List Char) : Prop where
  isLeadChar : ∀ c ∈ lead, IsLeadChar c
  exists_isAlpha : ∃ c ∈ lead, c.isAlpha

namespace IsLead

variable {lead : List Char} (h : IsLead lead)
include h

theorem notMem_opaquePath : ':' ∉ opaquePath lead ∧ '[' ∉ opaquePath lead := by
  have hnot {c : Char} (hc : ¬IsTripleChar c) (hlead : ¬IsLeadChar c) : c ∉ opaquePath lead := by
    intro hmem
    rcases mem_percentEncode hmem with ⟨-, hmem⟩ | htriple
    · exact hlead (h.isLeadChar c hmem)
    · exact hc htriple
  constructor
  · exact hnot (by unfold IsTripleChar; decide) fun hlead => hlead.ne.1 rfl
  · exact hnot (by unfold IsTripleChar; decide) fun hlead => hlead.ne.2.1 rfl

theorem exists_isAlpha_opaquePath : ∃ c ∈ opaquePath lead, c.isAlpha := by
  obtain ⟨c, hc, halpha⟩ := h.exists_isAlpha
  have hletter := Text.isAlpha_iff_toNat.mp halpha
  refine ⟨c, mem_opaquePath ?_ hc, halpha⟩
  simp only [keptInOpaquePath, Bool.and_eq_true, decide_eq_true_eq]
  omega

/-- Such a text behind a scheme starts an opaque path, which goes on to the query. -/
theorem readGeneric_append (scheme : String) (rest : List Char) :
    ∃ query, readGeneric scheme (lead ++ ':' :: rest) =
      .ok (.generic scheme (opaquePath lead ++ ':' :: opaquePath (splitQuery rest).1) query) := by
  have hhead : (lead ++ ':' :: rest).head? ≠ some '/' := by
    obtain ⟨c, hc, -⟩ := h.exists_isAlpha
    obtain ⟨d, ds, rfl⟩ := List.exists_cons_of_ne_nil (List.ne_nil_of_mem hc)
    simpa using (h.isLeadChar d List.mem_cons_self).ne.2.2.1
  have hpath : IsPathText lead := fun c hc => (h.isLeadChar c hc).ne.2.2.2
  have hcolon : (splitQuery (':' :: rest)).1 = ':' :: (splitQuery rest).1 :=
    splitQuery_cons (by decide) (by decide) rest
  rw [readGeneric_unslashed hhead, splitQuery_fst_append hpath, hcolon, opaquePath_append_colon]
  exact ⟨_, rfl⟩

end IsLead

/-- A URL behind a scheme is a path that starts with the name of its own scheme. -/
theorem exists_ofText_behind {raw name rest : List Char} (hname : IsSchemeName name)
    (hclean : clean raw = name ++ ':' :: rest) :
    ∃ lead query, IsLead lead ∧ ofText (String.ofList ("stun".toList ++ ':' :: raw)) =
      .ok (.generic "stun" (opaquePath lead ++ ':' :: opaquePath (splitQuery rest).1) query) := by
  have hne : clean raw ≠ [] := by simp [hclean]
  obtain ⟨blanks, hblanks, hbody⟩ := exists_unbroken_trimEnd hne
  have hlead : IsLead (blanks ++ name) := by
    refine ⟨fun c hc => ?_, ?_⟩
    · rcases List.mem_append.mp hc with hc | hc
      · exact .inl (hblanks c hc)
      · exact .inr (hname.isSchemeChar c hc)
    · obtain ⟨c, cs, rfl⟩ := List.exists_cons_of_ne_nil hname.ne_nil
      exact ⟨c, by simp, by simpa using hname.head_isAlpha⟩
  obtain ⟨query, hread⟩ := hlead.readGeneric_append "stun" rest
  refine ⟨blanks ++ name, query, hlead, ?_⟩
  have hscheme : "stun".toList.map Char.toLower = IceScheme.stun.text.toList := rfl
  rw [IceScheme.ofText_url hscheme, hbody, hclean, ← List.append_assoc]
  exact hread

end Url

/-! ## Endpoints behind a scheme -/

namespace IceEndpoint

variable {e : IceEndpoint} {scheme : String} {path query : List Char} {port : UInt16}

/-- A path whose first colon stands behind a text without brackets names that text as the host. -/
theorem host_of_front {front tail : List Char} (hne : front ≠ [])
    (hfront : ':' ∉ front ∧ '[' ∉ front)
    (h : ofUrl? (.generic scheme (front ++ ':' :: tail) query) = some e) :
    e.host.toList = front ∧ readPort tail = some e.port := by
  obtain ⟨path, query', place, hurl, hport, hhost, -⟩ := ofUrl?_eq_some.mp h
  obtain ⟨-, rfl, -⟩ := Url.generic.inj hurl
  have hhead : (front ++ ':' :: tail).head? ≠ some '[' := by
    rw [List.head?_append_of_ne_nil _ hne]
    exact fun hbracket => hfront.2 (List.mem_of_head? hbracket)
  rcases splitPort_eq_some.mp hport with ⟨-, rfl, -⟩ | ⟨text, hcut, hread⟩
  · rcases unbracket?_eq_some.mp hhost with ⟨hbracket, -⟩ | ⟨-, hbare⟩
    · rw [hbracket] at hhead
      exact absurd rfl hhead
    · exact absurd rfl (hbare ':' (by simp)).1
  · obtain ⟨hpath, -, -⟩ := cutPort?_eq_some.mp hcut
    rcases unbracket?_eq_some.mp hhost with ⟨hbracket, -⟩ | ⟨hplace, hbare⟩
    · rw [hpath, hbracket] at hhead
      exact absurd rfl hhead
    · have hcolon : ':' ∉ place := fun hc => (hbare ':' hc).1 rfl
      obtain ⟨rfl, rfl⟩ := Text.append_cons_unique hfront.1 hcolon hpath
      exact ⟨hplace.symm, hread⟩

theorem notMem_of_readPort {cs : List Char} (h : readPort cs = some port) {c : Char}
    (hc : c.isDigit = false ∧ c ≠ '+') : c ∉ cs := by
  obtain ⟨digits, hcs, -, hd, -⟩ := readPort_eq_some h
  have hdigits : c ∉ digits := by
    intro hmem
    rw [hd c hmem] at hc
    cases hc.1
  rcases hcs with rfl | rfl
  · exact hdigits
  · exact List.not_mem_cons_of_ne_of_not_mem hc.2 hdigits

/-- A path that reads as a port is itself the host that it names. -/
theorem host_of_readPort (hport : readPort path = some port)
    (h : ofUrl? (.generic scheme path query) = some e) : e.host.toList = path := by
  obtain ⟨path', query', place, hurl, hsplit, hhost, -⟩ := ofUrl?_eq_some.mp h
  obtain ⟨-, rfl, -⟩ := Url.generic.inj hurl
  have hplace : place = path := by
    rcases splitPort_eq_some.mp hsplit with ⟨-, hplace, -⟩ | ⟨text, hcut, -⟩
    · exact hplace
    · have hcolon : ':' ∈ path := by simp [(cutPort?_eq_some.mp hcut).1]
      exact absurd hcolon (notMem_of_readPort hport (by decide))
  rcases unbracket?_eq_some.mp hhost with ⟨hbracket, -⟩ | ⟨hbare, -⟩
  · have hmem : '[' ∈ path := by simp [← hplace, hbracket]
    exact absurd hmem (notMem_of_readPort hport (by decide))
  · rw [← hbare, hplace]

/-- A URL taken as the host of another URL never names the endpoint that it names by itself. -/
theorem not_ofText_behind {raw : String} (h : ofText raw = .ok e) :
    ofText ("stun:" ++ raw) ≠ .ok e := by
  intro hbehind
  obtain ⟨url, hurl, he⟩ := ofText_eq_ok.mp h
  obtain ⟨path, query, -, rfl, -⟩ := ofUrl?_eq_some.mp he
  obtain ⟨name, rest, hname, hclean, -, hrest⟩ := Url.exists_schemeName hurl
  obtain ⟨lead, query', hlead, hread⟩ := Url.exists_ofText_behind hname hclean
  have htext : "stun:" ++ raw = String.ofList ("stun".toList ++ ':' :: raw.toList) := by
    apply String.toList_injective
    simp
  obtain ⟨url', hok, he'⟩ := ofText_eq_ok.mp hbehind
  rw [htext, hread] at hok
  obtain rfl := Except.ok.inj hok
  obtain ⟨c, hc, halpha⟩ := hlead.exists_isAlpha_opaquePath
  obtain ⟨hhost, hport⟩ := host_of_front (List.ne_nil_of_mem hc) hlead.notMem_opaquePath he'
  -- What stands behind the colon reads as a port, so by itself the URL names it as its host.
  have hhead : rest.head? ≠ some '/' := by
    intro hslash
    obtain ⟨r, rfl⟩ := List.head?_eq_some_iff.mp hslash
    have hmem : '/' ∈ Url.opaquePath (Url.splitQuery ('/' :: r)).1 := by
      rw [Url.splitQuery_cons (by decide) (by decide)]
      exact Url.mem_opaquePath rfl List.mem_cons_self
    exact notMem_of_readPort hport (by decide) hmem
  rw [Url.readGeneric_unslashed hhead, Except.ok.injEq, Url.generic.injEq] at hrest
  obtain ⟨-, rfl, -⟩ := hrest
  have hsame := hhost.symm.trans (host_of_readPort hport he)
  refine notMem_of_readPort hport ⟨?_, ?_⟩ (hsame ▸ hc)
  · have hletter := Text.isAlpha_iff_toNat.mp halpha
    rw [Bool.eq_false_iff, Ne, Text.isDigit_iff_toNat]
    omega
  · rintro rfl
    exact absurd halpha (by decide)

/-- The name of a scheme has a letter that no address has. -/
theorem not_isAddress_of_ofText {raw : String} (h : ofText raw = .ok e) :
    ¬(Ipv6.ofChars? raw.toList).isSome := by
  obtain ⟨url, hurl, he⟩ := ofText_eq_ok.mp h
  obtain ⟨path, query, -, rfl, -⟩ := ofUrl?_eq_some.mp he
  obtain ⟨name, rest, -, hclean, hscheme, -⟩ := Url.exists_schemeName hurl
  have hname : name.map Char.toLower = e.scheme.text.toList := by
    rw [hscheme, String.toList_ofList]
  have hu : 'u' ∈ e.scheme.text.toList := by
    cases e.scheme <;> decide
  obtain ⟨c, hc, hlower⟩ := List.mem_map.mp (hname ▸ hu)
  have hmem : c ∈ raw.toList := Url.mem_of_mem_clean (by simp [hclean, hc])
  have hletter : ¬AddressNotation.IsAddressChar c := fun hchar =>
    AddressNotation.toLower_ne_of_isAddressChar hchar hlower
  exact Ipv6.not_isSome_ofChars?_of_mem hletter hmem

end IceEndpoint

/-! ## Entries -/

namespace IceServer

variable {entry : String} {e : IceEndpoint}

/-- An entry that names an endpoint as a URL stands for it exactly if it is recognised. -/
theorem ofText_stunUrl_iff (h : IceEndpoint.ofText entry = .ok e) :
    IceEndpoint.ofText (stunUrl entry) = .ok e ↔ startsAsStunUrl entry.toList := by
  unfold stunUrl
  split
  · next hstart => exact iff_of_true h hstart
  · next hstart =>
    have hhost : bracketIpv6 entry = entry := if_neg (IceEndpoint.not_isAddress_of_ofText h)
    rw [hhost]
    exact iff_of_false (IceEndpoint.not_ofText_behind h) hstart

end IceServer

namespace TransportSettings

variable {entry : String} {e : IceEndpoint}

/-- A STUN entry that names an endpoint as a URL is accepted and used as this URL exactly if it
starts with `stun:` or `stuns:`, in lower case and with nothing in front. -/
theorem stunServersGive_url (h : IceEndpoint.ofText entry = .ok e) (development : Bool) :
    StunServersGive [entry] development [e] ↔
      "stun:".toList <+: entry.toList ∨ "stuns:".toList <+: entry.toList := by
  rw [stunServersGive_iff (List.cons_ne_nil _ _), ← List.isPrefixOf_iff_prefix,
    ← List.isPrefixOf_iff_prefix, ← Bool.or_eq_true]
  refine Iff.trans ?_ (IceServer.ofText_stunUrl_iff h)
  rw [List.mapM_cons]
  cases IceEndpoint.ofText (IceServer.stunUrl entry) with
  | error err => exact iff_of_false nofun nofun
  | ok e' => simp [pure, Except.pure, bind, Except.bind]

theorem stunServersGive_url_secure :
    IceEndpoint.ofText "stuns:[2001:db8::1]:0443" = .ok ⟨.stuns, "2001:db8::1", 443, none⟩ ∧
      StunServersGive ["stuns:[2001:db8::1]:0443"] true [⟨.stuns, "2001:db8::1", 443, none⟩] := by
  have h : IceEndpoint.ofText "stuns:[2001:db8::1]:0443" =
      .ok ⟨.stuns, "2001:db8::1", 443, none⟩ := by
    decide +kernel
  exact ⟨h, (stunServersGive_url h true).mpr (.inr (by decide))⟩

/-- A URL whose scheme is written in capitals is rejected, although it names an endpoint. -/
theorem not_stunServersGive_capitals :
    IceEndpoint.ofText "STUN:stun.example.org" = .ok ⟨.stun, "stun.example.org", 3478, none⟩ ∧
      (∃ e, TransportConfig.build { stunServers := ["STUN:stun.example.org"] } false = .error e) ∧
      ¬StunServersGive ["STUN:stun.example.org"] false
        [⟨.stun, "stun.example.org", 3478, none⟩] := by
  have hread : IceEndpoint.ofText "STUN:stun.example.org" =
      .ok ⟨.stun, "stun.example.org", 3478, none⟩ := by
    decide +kernel
  have hbuild : (config { stunServers := ["STUN:stun.example.org"] } false) =
      .error (.invalidIceServerUrl "stun:STUN:stun.example.org") := by
    decide +kernel
  have herror : TransportConfig.build { stunServers := ["STUN:stun.example.org"] } false =
      .error (.invalidIceServerUrl "stun:STUN:stun.example.org") := by
    rw [TransportConfig.build, hbuild]
    rfl
  refine ⟨hread, ⟨_, herror⟩, ?_⟩
  rintro ⟨c, server, hc, -⟩
  rw [herror] at hc
  cases hc

end TransportSettings

end RtcConfig
