import RtcConfig.Proofs.Ice.Endpoint
import RtcConfig.Proofs.Url.RegName

/-! # Grammar of endpoints

A URL of the STUN and TURN grammars has no authority, its host is an IPv6 address in brackets or a
non-empty registered name, and its port is a run of digits. Reading accepts more than that: a text
that is read conforms exactly when it is written by the grammar, up to characters that the path
encodes.
-/

namespace RtcConfig

/-- A host that the grammar allows, without its brackets. -/
def IsUriHost (host : List Char) : Prop :=
  (Ipv6.ofChars? host).isSome ∨ (host ≠ [] ∧ Url.IsRegName host)

/-- A host and an optional port of digits. -/
def IsPlace (isHost : List Char → Prop) (cs : List Char) : Prop :=
  ∃ host port, cs = host ++ port ∧ isHost host ∧
    (port = [] ∨ ∃ digits, port = ':' :: digits ∧ digits ≠ [] ∧ ∀ c ∈ digits, c.isDigit)

/-- An IPv6 address in brackets, or a non-empty name. -/
def IsPlaceHost (isName : List Char → Prop) (host : List Char) : Prop :=
  (∃ address, host = '[' :: (address ++ [']']) ∧ (Ipv6.ofChars? address).isSome) ∨
    (host ≠ [] ∧ isName host)

/-- The text behind the scheme starts an authority. -/
def HasAuthority (raw : String) : Prop :=
  ∃ scheme rest, Url.readScheme (Url.clean raw.toList) = some (scheme, '/' :: '/' :: rest)

/-- A text that is a host and an optional port behind its scheme and in front of its query. -/
def IsEndpointText (raw : String) : Prop :=
  ∃ scheme body, Url.readScheme (Url.clean raw.toList) = some (scheme, body) ∧
    IsPlace (IsPlaceHost Url.IsWrittenName) (Url.splitQuery body).1

/-- The text of the port that the path of a URL carries. -/
def portText? (raw : String) : Option (List Char) :=
  match Url.ofText raw with
  | .ok (.generic _ path _) => (IceEndpoint.cutPort? path).map Prod.snd
  | _ => none

/-- The endpoint that is read from a text is one of the grammar. -/
structure Conforms (raw : String) (e : IceEndpoint) : Prop where
  host : IsUriHost e.host.toList
  port : ∀ text, portText? raw = some text → ∀ c ∈ text, c.isDigit
  noAuthority : ¬HasAuthority raw

/-- What every endpoint that is read has of the grammar: the host is an address or a printable text
that cannot be taken for one, and its port has digits behind at most one sign. -/
structure NearlyConforms (raw : String) (e : IceEndpoint) : Prop where
  host : (Ipv6.ofChars? e.host.toList).isSome ∨
    (e.host ≠ "" ∧ ∀ c ∈ e.host.toList, Url.IsPathChar c ∧ c ≠ ':' ∧ c ≠ '[' ∧ c ≠ ']')
  port : ∀ text, portText? raw = some text →
    ∃ digits, (text = digits ∨ text = '+' :: digits) ∧ digits ≠ [] ∧ ∀ c ∈ digits, c.isDigit

/-! ## Hosts -/

/-- Only a host in brackets is an address, and any other host is a name. -/
theorem isUriHost_iff {cs host : List Char} (h : IceEndpoint.unbracket? cs = some host)
    (hne : host ≠ []) : IsUriHost host ↔ IsPlaceHost Url.IsRegName cs := by
  rcases IceEndpoint.unbracket?_eq_some.mp h with ⟨rfl, hip⟩ | ⟨rfl, hbare⟩
  · exact iff_of_true (.inl hip) (.inl ⟨host, rfl, hip⟩)
  · constructor
    · rintro (hip | hname)
      · obtain ⟨x, hx⟩ := Option.isSome_iff_exists.mp hip
        exact absurd rfl (hbare ':' (Ipv6.mem_colon_of_ofChars? hx)).1
      · exact .inr hname
    · rintro (⟨address, rfl, -⟩ | hname)
      · exact absurd rfl (hbare '[' (by simp)).2.1
      · exact .inr hname

/-- A host of a path is the encoding of a host that is written. -/
theorem isPlaceHost_opaquePath {cs : List Char} :
    IsPlaceHost Url.IsRegName (Url.opaquePath cs) ↔ IsPlaceHost Url.IsWrittenName cs := by
  constructor
  · rintro (⟨address, hcs, hip⟩ | ⟨hne, hname⟩)
    · have hself : Url.opaquePath cs = cs := by
        apply Url.percentEncode_eq_self
        intro hmem
        rw [← Url.opaquePath, hcs] at hmem
        exact (Ipv6.isPlainChar_of_mem_brackets hip hmem).ne_percent rfl
      exact .inl ⟨address, hself ▸ hcs, hip⟩
    · exact .inr ⟨fun hnil => hne (Url.percentEncode_eq_nil.mpr hnil),
        Url.isWrittenName_of_percentEncode hname⟩
  · rintro (⟨address, rfl, hip⟩ | ⟨hne, hname⟩)
    · exact .inl ⟨address, Url.percentEncode_of_kept fun c hc =>
        (Ipv6.isPlainChar_of_mem_brackets hip hc).isPathChar.kept, hip⟩
    · exact .inr ⟨fun hnil => hne (Url.percentEncode_eq_nil.mp hnil),
        Url.isRegName_percentEncode hname⟩

theorem IsPlaceHost.cutPort?_eq_none {host : List Char} (h : IsPlaceHost Url.IsRegName host) :
    IceEndpoint.cutPort? host = none := by
  rw [IceEndpoint.cutPort?_eq_none]
  rcases h with ⟨address, rfl, -⟩ | ⟨-, hname⟩
  · exact .inl (List.getLast?_eq_some_iff.mpr ⟨'[' :: address, rfl⟩)
  · exact .inr fun hc => (hname.ne ':' hc).1 rfl

/-! ## Hosts with ports -/

theorem isPlace_opaquePath {cs : List Char} :
    IsPlace (IsPlaceHost Url.IsRegName) (Url.opaquePath cs) ↔
      IsPlace (IsPlaceHost Url.IsWrittenName) cs := by
  have hdigits {digits : List Char} (hd : ∀ c ∈ digits, c.isDigit) :
      ∀ c ∈ ':' :: digits, Url.keptInOpaquePath c :=
    List.forall_mem_cons.mpr ⟨rfl, fun c hc =>
      (Url.isPlainChar_of_isDigit (hd c hc)).isPathChar.kept⟩
  constructor
  · rintro ⟨host, port, hcs, hhost, rfl | ⟨digits, rfl, hne, hd⟩⟩
    · rw [List.append_nil] at hcs
      exact ⟨cs, [], by simp, isPlaceHost_opaquePath.mp (hcs ▸ hhost), .inl rfl⟩
    · obtain ⟨s, t, rfl, rfl, ht⟩ := Url.percentEncode_eq_append_cons
        (by unfold Url.IsTripleChar; decide) hcs
      have hself : Url.percentEncode Url.keptInOpaquePath t = t := by
        apply Url.percentEncode_eq_self
        intro hmem
        exact (Url.isPlainChar_of_isDigit (hd '%' (ht ▸ hmem))).ne_percent rfl
      obtain rfl : t = digits := hself ▸ ht
      exact ⟨s, ':' :: t, rfl, isPlaceHost_opaquePath.mp hhost, .inr ⟨t, rfl, hne, hd⟩⟩
  · rintro ⟨host, port, rfl, hhost, hport⟩
    refine ⟨Url.opaquePath host, port, ?_, isPlaceHost_opaquePath.mpr hhost, hport⟩
    rw [Url.opaquePath, Url.percentEncode_append]
    rcases hport with rfl | ⟨digits, rfl, -, hd⟩
    · rfl
    · rw [Url.percentEncode_of_kept (hdigits hd)]
      rfl

theorem not_isPlace_slash {cs : List Char} : ¬IsPlace (IsPlaceHost Url.IsRegName) ('/' :: cs) := by
  rintro ⟨host, port, hcs, ⟨address, rfl, -⟩ | ⟨hne, hname⟩, -⟩
  · simp at hcs
  · obtain ⟨c, r, rfl⟩ := List.exists_cons_of_ne_nil hne
    obtain ⟨rfl, -⟩ := List.cons.inj hcs
    exact (hname.ne '/' (by simp)).2.2.2 rfl

/-- What a path is split into has the form of the grammar if the path has. -/
theorem isPlace_iff {defaultPort port : UInt16} {path host : List Char}
    (h : IceEndpoint.splitPort defaultPort path = some (host, port)) :
    IsPlace (IsPlaceHost Url.IsRegName) path ↔ IsPlaceHost Url.IsRegName host ∧
      ∀ text, (IceEndpoint.cutPort? path).map Prod.snd = some text → ∀ c ∈ text, c.isDigit := by
  have hsplit := IceEndpoint.splitPort_eq_some.mp h
  constructor
  · rintro ⟨front, tail, rfl, hfront, rfl | ⟨digits, rfl, hne, hd⟩⟩
    · have hcut := hfront.cutPort?_eq_none
      rw [List.append_nil] at hsplit ⊢
      rw [hcut] at hsplit ⊢
      rcases hsplit with ⟨-, rfl, -⟩ | ⟨text, hsome, -⟩
      · exact ⟨hfront, nofun⟩
      · cases hsome
    · have hcut := IceEndpoint.cutPort?_append_digits hne hd front
      rw [hcut] at hsplit ⊢
      rcases hsplit with ⟨hnone, -⟩ | ⟨text, hsome, -⟩
      · cases hnone
      · obtain ⟨rfl, rfl⟩ := Prod.mk.inj (Option.some.inj hsome)
        refine ⟨hfront, fun text htext => ?_⟩
        obtain rfl : digits = text := Option.some.inj htext
        exact hd
  · rintro ⟨hhost, hdigits⟩
    rcases hsplit with ⟨-, rfl, -⟩ | ⟨text, hcut, hport⟩
    · exact ⟨_, [], by simp, hhost, .inl rfl⟩
    · obtain ⟨rfl, -, -⟩ := IceEndpoint.cutPort?_eq_some.mp hcut
      refine ⟨host, ':' :: text, rfl, hhost, .inr ⟨text, rfl, ?_, hdigits text (by rw [hcut]; rfl)⟩⟩
      obtain ⟨digits, htext, hne, -⟩ := IceEndpoint.readPort_eq_some hport
      rcases htext with rfl | rfl
      · exact hne
      · simp

/-! ## Endpoints -/

namespace IceEndpoint

variable {raw : String} {e : IceEndpoint}

theorem portText?_eq {scheme : String} {path query : List Char}
    (h : Url.ofText raw = .ok (.generic scheme path query)) :
    portText? raw = (cutPort? path).map Prod.snd := by
  rw [portText?, h]

theorem nearlyConforms (h : ofText raw = .ok e) : NearlyConforms raw e := by
  obtain ⟨url, hurl, he⟩ := ofText_eq_ok.mp h
  obtain ⟨path, query, place, rfl, hport, hhost, hne, -⟩ := ofUrl?_eq_some.mp he
  obtain ⟨name, body, -, -, hbody⟩ := Url.ofText_eq_generic hurl
  obtain ⟨path', query', hpath, hchars⟩ := Url.readGeneric_eq_ok hbody
  obtain ⟨-, rfl, rfl⟩ := Url.generic.inj hpath
  constructor
  · rcases unbracket?_eq_some.mp hhost with ⟨-, hip⟩ | ⟨rfl, hbare⟩
    · exact .inl hip
    · refine .inr ⟨hne, fun c hc => ⟨hchars c ?_, hbare c hc⟩⟩
      exact mem_of_splitPort hport hc
  · intro text htext
    rw [portText?_eq hurl] at htext
    rcases splitPort_eq_some.mp hport with ⟨hnone, -⟩ | ⟨text', hcut, hread⟩
    · rw [hnone] at htext
      cases htext
    · rw [hcut] at htext
      obtain rfl : text' = text := Option.some.inj htext
      obtain ⟨digits, htext, hne, hd, -⟩ := readPort_eq_some hread
      exact ⟨digits, htext, hne, hd⟩

/-- Host and port conform together exactly when the path has the form of the grammar. -/
theorem conforms_iff_isPlace {path query : List Char}
    (hurl : Url.ofText raw = .ok (.generic e.scheme.text path query))
    (he : ofUrl? (.generic e.scheme.text path query) = some e) :
    Conforms raw e ↔ IsPlace (IsPlaceHost Url.IsRegName) path ∧ ¬HasAuthority raw := by
  obtain ⟨path, query, place, hgeneric, hport, hhost, hne, -⟩ := ofUrl?_eq_some.mp he
  obtain ⟨-, rfl, rfl⟩ := Url.generic.inj hgeneric
  rw [isPlace_iff hport, ← isUriHost_iff hhost (by simpa using hne), ← portText?_eq hurl]
  constructor
  · intro hc
    exact ⟨⟨hc.host, hc.port⟩, hc.noAuthority⟩
  · rintro ⟨⟨hname, hdigits⟩, hno⟩
    exact ⟨hname, hdigits, hno⟩

theorem conforms_iff (h : ofText raw = .ok e) : Conforms raw e ↔ IsEndpointText raw := by
  obtain ⟨url, hurl, he⟩ := ofText_eq_ok.mp h
  obtain ⟨path, query, -, rfl, -⟩ := ofUrl?_eq_some.mp he
  obtain ⟨name, body, hname, -, hbody⟩ := Url.ofText_eq_generic hurl
  rw [conforms_iff_isPlace hurl he]
  have htext : IsEndpointText raw ↔
      IsPlace (IsPlaceHost Url.IsWrittenName) (Url.splitQuery body).1 := by
    simp [IsEndpointText, hname]
  have hauthority : HasAuthority raw ↔ ∃ rest, body = '/' :: '/' :: rest := by
    simp [HasAuthority, hname]
  rw [htext, hauthority, ← isPlace_opaquePath]
  -- Behind a slash neither side holds, since no host starts with one.
  have hslash (r : List Char) :
      ¬IsPlace (IsPlaceHost Url.IsRegName) (Url.opaquePath (Url.splitQuery ('/' :: r)).1) := by
    rw [Url.splitQuery_cons (by decide) (by decide), Url.opaquePath,
      Url.percentEncode_cons_of_kept rfl]
    exact not_isPlace_slash
  rcases Url.body_cases body with hcs | ⟨r, rfl, hr⟩ | ⟨r, rfl⟩
  · rw [Url.readGeneric_unslashed hcs, Except.ok.injEq, Url.generic.injEq] at hbody
    obtain ⟨-, rfl, -⟩ := hbody
    refine and_iff_left ?_
    rintro ⟨rest, rfl⟩
    exact hcs rfl
  · rw [Url.readGeneric_slash hr, Except.ok.injEq, Url.generic.injEq] at hbody
    obtain ⟨-, rfl, -⟩ := hbody
    exact iff_of_false (fun hplace => not_isPlace_slash hplace.1) (hslash r)
  · exact iff_of_false (fun hplace => hplace.2 ⟨r, rfl⟩) (hslash _)

/-- Reading accepts no more than nearly the grammar, and the grammar exactly where the text behind
the scheme is written by it. -/
theorem ofText_conforms (h : ofText raw = .ok e) :
    NearlyConforms raw e ∧ (Conforms raw e ↔ IsEndpointText raw) :=
  ⟨nearlyConforms h, conforms_iff h⟩

theorem ofText_conforms_turn :
    ofText "turn:turn.example.org:0443" = .ok ⟨.turn, "turn.example.org", 443, none⟩ ∧
      NearlyConforms "turn:turn.example.org:0443" ⟨.turn, "turn.example.org", 443, none⟩ ∧
      IsEndpointText "turn:turn.example.org:0443" ∧
      Conforms "turn:turn.example.org:0443" ⟨.turn, "turn.example.org", 443, none⟩ := by
  have h : ofText "turn:turn.example.org:0443" = .ok ⟨.turn, "turn.example.org", 443, none⟩ := by
    decide +kernel
  have hname : Url.IsWrittenName "turn.example.org".toList :=
    .of_all (by decide)
  have hplace : IsPlace (IsPlaceHost Url.IsWrittenName) "turn.example.org:0443".toList :=
    ⟨"turn.example.org".toList, ":0443".toList, rfl, .inr ⟨by decide, hname⟩,
      .inr ⟨"0443".toList, rfl, by decide, List.all_eq_true.mp (by decide)⟩⟩
  have hwritten : IsEndpointText "turn:turn.example.org:0443" :=
    ⟨"turn".toList, "turn.example.org:0443".toList, by decide +kernel, hplace⟩
  obtain ⟨hnearly, hconforms⟩ := ofText_conforms h
  exact ⟨h, hnearly, hwritten, hconforms.mpr hwritten⟩

/-- An authority, a host with a slash and a port with a sign, which the grammar all excludes. -/
theorem not_conforms_authority :
    ofText "stun://x/h:+1" = .ok ⟨.stun, "/h", 1, none⟩ ∧
      ¬Conforms "stun://x/h:+1" ⟨.stun, "/h", 1, none⟩ := by
  refine ⟨by decide +kernel, fun h => h.noAuthority ⟨"stun".toList, "x/h:+1".toList, ?_⟩⟩
  decide +kernel

end IceEndpoint

end RtcConfig
