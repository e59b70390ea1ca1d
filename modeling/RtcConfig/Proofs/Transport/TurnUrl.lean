import RtcConfig.Proofs.Ice.Endpoint
import RtcConfig.Proofs.Text.Lowercase
import RtcConfig.Proofs.Transport.Config
import RtcConfig.Proofs.Url.Authority

/-! # URLs of TURN servers

The URL of a TURN server is written from its settings and read again when it is validated. What is
read agrees with the settings if the host holds no question mark and no number sign. Otherwise port
and transport of the settings fall behind the path, and they are only read if the host repeats them
in front of its question mark and behind it.
-/

namespace RtcConfig

namespace IceServer

variable {s : IceServer}

theorem ofText_of_endpoint {url : String} {e : IceEndpoint} (h : s.endpoint url = .ok e) :
    IceEndpoint.ofText url = .ok e := by
  unfold endpoint at h
  split at h
  · cases h
  · next heq =>
    split at h
    · cases h
    · rw [heq, Except.ok.inj h]

theorem validated_eq_map (s : IceServer) : s.validated = s.endpoints.map fun _ => s := by
  unfold validated
  cases s.endpoints <;> rfl

theorem endpoints_of_validated {valid : IceServer} (h : s.validated = .ok valid) :
    valid = s ∧ ∃ es, s.endpoints = .ok es := by
  rw [validated_eq_map] at h
  obtain ⟨es, hes, rfl⟩ := map_eq_ok h
  exact ⟨rfl, es, hes⟩

end IceServer

namespace TurnServer

/-! ## What the settings name -/

def scheme (t : TurnServer) : IceScheme := if t.protocol.toLower = "tls" then .turns else .turn

def endpointPort (t : TurnServer) : UInt16 :=
  if t.port ≠ 0 then t.port else if t.protocol.toLower = "tls" then 5349 else 3478

def transport (t : TurnServer) : IceTransport :=
  if t.protocol.toLower = "" ∨ t.protocol.toLower = "udp" then .udp else .tcp

theorem isTurn_scheme (t : TurnServer) : t.scheme.isTurn = true := by
  unfold scheme
  split <;> rfl

/-- An endpoint that is the one of the settings in all but its host. -/
structure Agrees (t : TurnServer) (e : IceEndpoint) : Prop where
  scheme : e.scheme = t.scheme
  port : e.port = t.endpointPort
  transport : e.transport = some t.transport

/-- The end of the path that a TURN server is written with. -/
def pathEnd (t : TurnServer) : List Char := ':' :: Text.decimal t.endpointPort.toNat

/-- The query that a TURN server is written with. -/
def query (t : TurnServer) : List Char := "transport=".toList ++ t.transport.text.toList

/-- A host that has a query of its own, in front of which the port of the settings is read and in
which their transport comes first. -/
structure Repeats (t : TurnServer) (front back : List Char) : Prop where
  host : t.host.toList = front ++ '?' :: back
  isPathText : Url.IsPathText front
  port : ∃ e, IceEndpoint.ofText
    (String.ofList (t.scheme.text.toList ++ ':' :: (front ++ ['?']))) = .ok e ∧
      e.port = t.endpointPort
  transport : IceEndpoint.readTransport t.scheme
    ((Url.unbroken back ++ t.pathEnd ++ '?' :: t.query).takeWhile (· != '#')) =
      some (some t.transport)

/-- The names of the protocols are recognised in ASCII letters of either case only. -/
theorem lowercase_protocol_iff {name : String} (h : name ∈ ["", "udp", "tcp", "tls"])
    (protocol : String) : Text.lowercase protocol = name ↔ protocol.toLower = name := by
  have hletters : ∀ n ∈ ["", "udp", "tcp", "tls"],
      n.toList.all (fun c => c.isAlpha && c != 'i' && c != 'k') = true := by
    decide
  refine Text.lowercase_eq_iff (fun c hc => ?_) protocol
  have hletter := List.all_eq_true.mp (hletters name h) c hc
  simp only [Bool.and_eq_true, bne_iff_ne] at hletter
  exact ⟨hletter.1.1, hletter.1.2, hletter.2⟩

theorem service?_eq (t : TurnServer) :
    t.service? =
      if t.protocol.toLower ∈ ["", "udp", "tcp", "tls"] then some (t.scheme, t.transport)
      else none := by
  have hname := @lowercase_protocol_iff
  simp only [List.mem_cons, List.not_mem_nil, or_false, forall_eq_or_imp, forall_eq] at hname
  unfold service? scheme transport
  split <;> simp_all

/-! ## What is written -/

variable (t : TurnServer)

theorem port_eq : (if t.port = 0 then t.scheme.defaultPort else t.port) = t.endpointPort := by
  by_cases hp : t.port = 0
  · by_cases htls : t.protocol.toLower = "tls" <;>
      simp [scheme, endpointPort, hp, htls, IceScheme.defaultPort]
  · simp [endpointPort, hp]

theorem toList_url : (t.url t.scheme t.transport).toList = t.scheme.text.toList ++
    ':' :: ((IceServer.bracketIpv6 t.host).toList ++ (t.pathEnd ++ '?' :: t.query)) := by
  have hdecimal : (toString t.endpointPort.toNat).toList = Text.decimal t.endpointPort.toNat := by
    rw [Nat.toString_eq_repr, Nat.toList_repr, Text.decimal]
  have hquery : '?' :: t.query = "?transport=".toList ++ t.transport.text.toList := rfl
  have hcolon : ":".toList = [':'] := rfl
  rw [hquery, url, port_eq]
  simp only [String.toList_append, hdecimal, hcolon, pathEnd, List.append_assoc,
    List.cons_append, List.nil_append]

theorem isPlainChar_of_mem_pathEnd {c : Char} (h : c ∈ t.pathEnd) : Url.IsPlainChar c := by
  rcases List.mem_cons.mp h with rfl | h
  · apply Url.isPlainChar_of_toNat <;> decide
  · exact Url.isPlainChar_of_isDigit (Text.isDigit_of_mem_decimal h)

theorem isPathEnd_pathEnd : Url.IsPathEnd t.pathEnd where
  kept := by
    intro c hc
    have hplain : Url.keptInOpaquePath c := (t.isPlainChar_of_mem_pathEnd hc).isPathChar.kept
    have hsign : c ∉ [' ', '"', '<', '>', '\x60', '\x7b', '\x7d'] := by
      rcases List.mem_cons.mp hc with rfl | hc
      · decide
      · exact Text.notMem_of_isDigit (Text.isDigit_of_mem_decimal hc) (by decide)
    simpa [Url.keptInSegment, hplain] using hsign
  noEnd := by
    intro c hc
    rcases List.mem_cons.mp hc with rfl | hc
    · decide
    · exact Text.notMem_of_isDigit (Text.isDigit_of_mem_decimal hc) (by decide)
  mem_colon := List.mem_cons_self

theorem isVisible_end : Url.IsVisible (t.pathEnd ++ '?' :: t.query) := by
  have hquery : Url.IsVisible ('?' :: t.query) := by
    apply Url.isVisible_iff_all.mpr
    unfold query
    cases t.transport <;> decide
  intro c hc
  rcases List.mem_append.mp hc with hc | hc
  · exact (t.isPlainChar_of_mem_pathEnd hc).visible
  · exact hquery c hc

/-- Reading what is written starts behind the scheme and keeps the end as it is. -/
theorem ofText_url : Url.ofText (t.url t.scheme t.transport) =
    Url.readGeneric t.scheme.text (Url.unbroken (IceServer.bracketIpv6 t.host).toList ++
      (t.pathEnd ++ '?' :: t.query)) := by
  rw [← String.ofList_toList (s := t.url t.scheme t.transport), toList_url,
    IceScheme.ofText_url t.scheme.map_toLower_text,
    Url.trimEnd_append (by simp [pathEnd]) t.isVisible_end, Url.unbroken_append,
    Url.unbroken_of_visible t.isVisible_end]

/-! ## Hosts without a query -/

variable {t} {e : IceEndpoint}

/-- An endpoint is never read from an empty path. -/
theorem path_ne_nil {scheme : String} {q : List Char}
    (h : IceEndpoint.ofUrl? (.generic scheme [] q) = some e) : False := by
  obtain ⟨path, query, host, hurl, hport, hhost, hne, -⟩ := IceEndpoint.ofUrl?_eq_some.mp h
  obtain ⟨-, rfl, -⟩ := Url.generic.inj hurl
  obtain rfl : host = [] := List.eq_nil_iff_forall_not_mem.mpr fun c hc => by
    simpa using IceEndpoint.mem_of_splitPort hport hc
  obtain ⟨h, -⟩ | ⟨h, -⟩ := IceEndpoint.unbracket?_eq_some.mp hhost
  · cases h
  · exact hne (by simpa using h.symm)

theorem port_of_pathEnd {scheme : String} {init q : List Char}
    (h : IceEndpoint.ofUrl? (.generic scheme (init ++ t.pathEnd) q) = some e) :
    e.port = t.endpointPort := by
  obtain ⟨path, query, host, hurl, hport, -⟩ := IceEndpoint.ofUrl?_eq_some.mp h
  obtain ⟨-, rfl, -⟩ := Url.generic.inj hurl
  have hcut := IceEndpoint.cutPort?_append_digits (Text.decimal_ne_nil t.endpointPort.toNat)
    (fun c hc => Text.isDigit_of_mem_decimal hc) init
  have hread : IceEndpoint.readPort (Text.decimal t.endpointPort.toNat) = some t.endpointPort :=
    IceEndpoint.readPort_of_digits (Text.decimal_ne_nil _)
      (fun c hc => Text.isDigit_of_mem_decimal hc) (by simp [Text.decimal])
  rcases IceEndpoint.splitPort_eq_some.mp hport with ⟨hnone, -⟩ | ⟨text, hcut', hport'⟩
  · exact absurd (hcut.symm.trans hnone) (by simp)
  · obtain ⟨rfl, rfl⟩ := Prod.mk.inj (Option.some.inj (hcut.symm.trans hcut'))
    exact Option.some.inj (hport'.symm.trans hread)

theorem readTransport_query :
    IceEndpoint.readTransport t.scheme t.query = some (some t.transport) := by
  unfold query scheme
  cases t.transport <;> split <;> rfl

theorem scheme_of_ofText (h : IceEndpoint.ofText (t.url t.scheme t.transport) = .ok e) :
    e.scheme = t.scheme := by
  rw [← String.ofList_toList (s := t.url t.scheme t.transport), toList_url] at h
  exact IceEndpoint.scheme_of_ofText t.scheme.map_toLower_text h

theorem transport_of_ofUrl? {p q : List Char} (hs : e.scheme = t.scheme)
    (h : IceEndpoint.ofUrl? (.generic t.scheme.text p q) = some e) :
    IceEndpoint.readTransport t.scheme q = some e.transport := by
  obtain ⟨path, q', host, heq, -, -, -, -, ht⟩ := IceEndpoint.ofUrl?_eq_some.mp h
  obtain ⟨-, -, rfl⟩ := Url.generic.inj heq
  rw [← hs]
  exact ht

theorem splitQuery_query : (Url.splitQuery ('?' :: t.query)).2 = t.query := by
  unfold query
  cases t.transport <;> rfl

/-- A host without a query leaves port and transport where they are read. -/
theorem agrees_of_isPathText (hhost : Url.IsPathText t.host.toList)
    (h : IceEndpoint.ofText (t.url t.scheme t.transport) = .ok e) : t.Agrees e := by
  have hs := scheme_of_ofText h
  obtain ⟨url, hurl, he⟩ := IceEndpoint.ofText_eq_ok.mp h
  have htext : Url.IsPathText (IceServer.bracketIpv6 t.host).toList := by
    unfold IceServer.bracketIpv6
    split
    · intro c hc
      simp only [String.toList_append, List.mem_append] at hc
      rcases hc with (hc | hc) | hc
      · obtain rfl : c = '[' := by simpa using hc
        decide
      · exact hhost c hc
      · obtain rfl : c = ']' := by simpa using hc
        decide
    · exact hhost
  have hpath : Url.IsPathText (Url.unbroken (IceServer.bracketIpv6 t.host).toList) :=
    fun c hc => htext c (Url.mem_unbroken hc)
  have hend : Url.IsPathText (Url.unbroken (IceServer.bracketIpv6 t.host).toList ++ t.pathEnd) :=
    fun c hc => (List.mem_append.mp hc).elim (hpath c) (t.isPathEnd_pathEnd.isPathText c)
  rw [ofText_url, ← List.append_assoc] at hurl
  obtain ⟨p, rfl, hp⟩ := Url.readGeneric_append hend (.inl rfl) hurl
  rcases Url.readGeneric_append_tail hpath t.isPathEnd_pathEnd hp with rfl | ⟨init, rfl⟩
  · exact (path_ne_nil he).elim
  · have ht := transport_of_ofUrl? hs he
    rw [splitQuery_query, readTransport_query, Option.some.injEq] at ht
    exact ⟨hs, port_of_pathEnd he, ht.symm⟩

/-! ## Hosts with a query -/

variable {front back : List Char} {x : Char}

/-- A stop in the host ends the path, and what the settings name falls behind it. -/
theorem exists_path_of_stop (hx : Url.IsStop x) (hhost : t.host.toList = front ++ x :: back)
    (hfront : Url.IsPathText front)
    (h : IceEndpoint.ofText (t.url t.scheme t.transport) = .ok e) :
    ∃ p, IceEndpoint.ofUrl? (.generic t.scheme.text p
        (Url.splitQuery (x :: (Url.unbroken back ++ (t.pathEnd ++ '?' :: t.query)))).2) = some e ∧
      Url.readGeneric t.scheme.text (Url.unbroken front ++ [x]) =
        .ok (.generic t.scheme.text p []) := by
  obtain ⟨url, hurl, he⟩ := IceEndpoint.ofText_eq_ok.mp h
  have hbracket : IceServer.bracketIpv6 t.host = t.host := by
    unfold IceServer.bracketIpv6
    split
    · next hip =>
      obtain ⟨a, ha⟩ := Option.isSome_iff_exists.mp hip
      have hplain := (isPlainChar_of_isAddressChar
        (Ipv6.isAddressChar_of_ofChars? ha x (by simp [hhost]))).isPathChar
      exact absurd hx (not_or.mpr ⟨hplain.ne_question, hplain.ne_hash⟩)
    · rfl
  have hvisible : Url.unbroken (x :: back) = x :: Url.unbroken back := by
    rcases hx with rfl | rfl <;> rfl
  have hpath : Url.IsPathText (Url.unbroken front) := fun c hc => hfront c (Url.mem_unbroken hc)
  rw [ofText_url, hbracket, hhost, Url.unbroken_append, hvisible, List.append_assoc,
    List.cons_append] at hurl
  obtain ⟨p, rfl, hp⟩ := Url.readGeneric_append hpath hx hurl
  exact ⟨p, he, hp⟩

theorem not_agrees_of_hash (hhost : t.host.toList = front ++ '#' :: back)
    (hfront : Url.IsPathText front)
    (h : IceEndpoint.ofText (t.url t.scheme t.transport) = .ok e) : ¬t.Agrees e := by
  obtain ⟨p, he, -⟩ := exists_path_of_stop (.inr rfl) hhost hfront h
  intro ha
  have ht := transport_of_ofUrl? ha.scheme he
  rw [ha.transport] at ht
  cases ht

/-- The endpoint in front of a question mark is the one that is read, but for its transport. -/
theorem ofText_front {p q : List Char} (hs : e.scheme = t.scheme)
    (he : IceEndpoint.ofUrl? (.generic t.scheme.text p q) = some e)
    (hp : Url.readGeneric t.scheme.text (Url.unbroken front ++ ['?']) =
      .ok (.generic t.scheme.text p [])) :
    IceEndpoint.ofText (String.ofList (t.scheme.text.toList ++ ':' :: (front ++ ['?']))) =
      .ok { e with transport := none } := by
  have hmark : Url.IsVisible ['?'] := Url.isVisible_iff_all.mpr (by decide)
  obtain ⟨path, q', host, heq, hport, hhost, hne, hzero, -⟩ := IceEndpoint.ofUrl?_eq_some.mp he
  obtain ⟨-, rfl, -⟩ := Url.generic.inj heq
  refine IceEndpoint.ofText_eq_ok.mpr ⟨.generic t.scheme.text p [], ?_, ?_⟩
  · rw [IceScheme.ofText_url t.scheme.map_toLower_text, Url.trimEnd_append (by simp) hmark,
      Url.unbroken_append, Url.unbroken_of_visible hmark, hp]
  · exact IceEndpoint.ofUrl?_eq_some.mpr
      ⟨p, [], host, by rw [hs], hport, hhost, hne, hzero, rfl⟩

theorem agrees_iff_repeats (hhost : t.host.toList = front ++ '?' :: back)
    (hfront : Url.IsPathText front)
    (h : IceEndpoint.ofText (t.url t.scheme t.transport) = .ok e) :
    t.Agrees e ↔ t.Repeats front back := by
  have hs := scheme_of_ofText h
  obtain ⟨p, he, hp⟩ := exists_path_of_stop (.inl rfl) hhost hfront h
  have hread := ofText_front hs he hp
  have ht := transport_of_ofUrl? hs he
  have hquery : (Url.splitQuery ('?' :: (Url.unbroken back ++ (t.pathEnd ++ '?' :: t.query)))).2 =
      (Url.unbroken back ++ t.pathEnd ++ '?' :: t.query).takeWhile (· != '#') := by
    rw [List.append_assoc]
    rfl
  rw [hquery] at ht
  constructor
  · intro ha
    exact ⟨hhost, hfront, ⟨_, hread, ha.port⟩, ha.transport ▸ ht⟩
  · intro hr
    obtain ⟨e', he', hport⟩ := hr.port
    obtain rfl := Except.ok.inj (hread.symm.trans he')
    exact ⟨hs, hport, Option.some.inj (ht.symm.trans hr.transport)⟩

/-- What is read agrees with the settings exactly if the host has no query, or repeats them. -/
theorem agrees_iff (h : IceEndpoint.ofText (t.url t.scheme t.transport) = .ok e) :
    t.Agrees e ↔ Url.IsPathText t.host.toList ∨ ∃ front back, t.Repeats front back := by
  rcases Url.isPathText_or_exists_stop t.host.toList with
    hpath | ⟨front, x, back, hhost, hfront, hstop⟩
  · exact iff_of_true (agrees_of_isPathText hpath h) (.inl hpath)
  · have hnot : ¬Url.IsPathText t.host.toList := by
      intro hpath
      have hne := hpath x (by simp [hhost])
      exact hstop.elim hne.1 hne.2
    have hunique {front' back' : List Char} (hr : t.Repeats front' back') :
        x = '?' ∧ front = front' ∧ back = back' := by
      obtain ⟨hf, hx, hb⟩ := Url.stop_unique hfront hr.isPathText hstop (.inl rfl)
        (hhost.symm.trans hr.host)
      exact ⟨hx, hf, hb⟩
    rcases hstop with rfl | rfl
    · rw [agrees_iff_repeats hhost hfront h]
      constructor
      · intro hr
        exact .inr ⟨front, back, hr⟩
      · rintro (hpath | ⟨front', back', hr⟩)
        · exact absurd hpath hnot
        · obtain ⟨-, rfl, rfl⟩ := hunique hr
          exact hr
    · refine iff_of_false (not_agrees_of_hash hhost hfront h) ?_
      rintro (hpath | ⟨front', back', hr⟩)
      · exact hnot hpath
      · exact absurd (hunique hr).1 (by decide)

/-! ## Servers -/

/-- A server that stands for the settings and whose endpoint is the one of the settings unless the
host moves it. -/
def Serves (t : TurnServer) (server : IceServer) : Prop :=
  ∃ url e, server = ⟨[url], t.username, t.credential⟩ ∧ IceEndpoint.ofText url = .ok e ∧
    e.scheme = t.scheme ∧
      (t.Agrees e ↔ Url.IsPathText t.host.toList ∨ ∃ front back, t.Repeats front back)

theorem eq_of_iceServer {server : IceServer} (h : t.iceServer = .ok server) :
    server = ⟨[t.url t.scheme t.transport], t.username, t.credential⟩ := by
  unfold iceServer at h
  rw [service?_eq] at h
  split at h
  · cases h
  · split at h
    · cases h
    · next hservice =>
      split at hservice
      · cases hservice
        exact (Except.ok.inj h).symm
      · cases hservice

theorem serves_of_eq_ok {server : IceServer}
    (h : t.iceServer >>= IceServer.validated = .ok server) : t.Serves server := by
  obtain ⟨written, hwritten, hvalid⟩ := bind_eq_ok h
  obtain ⟨rfl, es, hes⟩ := IceServer.endpoints_of_validated hvalid
  obtain rfl := eq_of_iceServer hwritten
  obtain ⟨e, he⟩ : ∃ e, IceEndpoint.ofText (t.url t.scheme t.transport) = .ok e := by
    cases mapM_eq_ok hes with
    | cons he _ => exact ⟨_, IceServer.ofText_of_endpoint he⟩
  exact ⟨_, e, rfl, he, scheme_of_ofText he, agrees_iff he⟩

end TurnServer

namespace TransportSettings

variable {s : TransportSettings} {development : Bool}

theorem length_of_stunIceServers {servers : List IceServer} (h : s.stunIceServers = .ok servers) :
    servers.length = if s.stunServers = [] then 0 else 1 := by
  unfold stunIceServers at h
  by_cases hempty : s.stunServers = []
  · rw [if_pos (by simp [hempty])] at h
    rw [if_pos hempty, ← Except.ok.inj h]
    rfl
  · rw [if_neg (by simpa using hempty)] at h
    rw [if_neg hempty]
    split at h
    · rw [← Except.ok.inj h]
      rfl
    · cases h

/-- The servers of a configuration are the one of the STUN entries, if there are any, and then one
for each TURN entry in order, which serves that entry. -/
theorem build_serves {c : Logged TransportConfig}
    (h : TransportConfig.build s development = .ok c) :
    ∃ stun turn, c.value.iceServers = stun ++ turn ∧
      stun.length = (if s.stunServers = [] then 0 else 1) ∧
      List.Forall₂ TurnServer.Serves s.turnServers turn := by
  obtain ⟨config, hconfig, rfl⟩ := map_eq_ok h
  obtain ⟨stun, hstun, hservers⟩ := bind_eq_ok (iceServers_of_config hconfig)
  obtain ⟨turn, hturn, hservers⟩ := bind_eq_ok hservers
  exact ⟨stun, turn, (Except.ok.inj hservers).symm, length_of_stunIceServers hstun,
    (mapM_eq_ok hturn).imp fun _ _ => TurnServer.serves_of_eq_ok⟩

/-- The settings of a TURN server whose host has a query of its own. -/
def queryHost : TransportSettings where
  turnServers := [⟨"turn.example.org?transport=tcp&", 5000, "", "user", "secret"⟩]

theorem build_serves_queryHost :
    ∃ c, TransportConfig.build queryHost false = .ok c ∧
      ∃ stun turn, c.value.iceServers = stun ++ turn ∧ stun.length = 0 ∧
        List.Forall₂ TurnServer.Serves queryHost.turnServers turn := by
  obtain ⟨c, hc⟩ : ∃ c, TransportConfig.build queryHost false = .ok c := by
    have hsome : (TransportConfig.build queryHost false).toOption.isSome := by decide +kernel
    cases hc : TransportConfig.build queryHost false with
    | ok c => exact ⟨c, rfl⟩
    | error e => simp [hc, Except.toOption] at hsome
  exact ⟨c, hc, build_serves hc⟩

/-- The query of the host takes the place of port and transport. -/
theorem not_agrees_queryHost :
    ∃ t ∈ queryHost.turnServers, ∃ e,
      IceEndpoint.ofText (t.url t.scheme t.transport) = .ok e ∧ ¬t.Agrees e := by
  refine ⟨_, List.mem_singleton_self _, ⟨.turn, "turn.example.org", 3478, some .tcp⟩, ?_, ?_⟩
  · decide +kernel
  · intro h
    exact absurd h.port (by decide +kernel)

end TransportSettings

end RtcConfig
