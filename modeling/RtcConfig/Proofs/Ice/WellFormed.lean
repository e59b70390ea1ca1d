import RtcConfig.Proofs.Ice.Endpoint

/-! # Well-formed endpoints

An endpoint that is read from a text has a scheme of its own, a port and a host that is never empty
and never in brackets, and whether its host is an address shows in the colons of it. Only TURN has a
transport, and it is the one that the query of the URL names.
-/

namespace RtcConfig

namespace IceEndpoint

/-- What any endpoint that is read can be relied on for. -/
structure WellFormed (e : IceEndpoint) : Prop where
  scheme : e.scheme.text ∈ ["stun", "stuns", "turn", "turns"]
  port : 1 ≤ e.port.toNat ∧ e.port.toNat ≤ 65535
  host_ne : e.host ≠ ""
  notMem_bracket : '[' ∉ e.host.toList ∧ ']' ∉ e.host.toList
  mem_colon_iff : ':' ∈ e.host.toList ↔ (Ipv6.ofChars? e.host.toList).isSome
  stun_transport : e.scheme.text = "stun" ∨ e.scheme.text = "stuns" → e.transport = none
  turn_transport : e.scheme.text = "turn" ∨ e.scheme.text = "turns" →
    e.transport.map IceTransport.text ∈ [none, some "udp", some "tcp"]
  isTurn_iff : e.isTurn = true ↔ e.scheme.text = "turn" ∨ e.scheme.text = "turns"

variable {raw : String} {e : IceEndpoint}

/-- A host that is read has no brackets, and colons exactly if it is an address. -/
theorem host_of_unbracket? {place host : List Char} (h : unbracket? place = some host) :
    ('[' ∉ host ∧ ']' ∉ host) ∧ (':' ∈ host ↔ (Ipv6.ofChars? host).isSome) := by
  rcases unbracket?_eq_some.mp h with ⟨-, haddress⟩ | ⟨rfl, hbare⟩
  · obtain ⟨x, hx⟩ := Option.isSome_iff_exists.mp haddress
    have hchars := Ipv6.isAddressChar_of_ofChars? hx
    have hbracket : ¬AddressNotation.IsAddressChar '[' ∧ ¬AddressNotation.IsAddressChar ']' := by
      unfold AddressNotation.IsAddressChar
      decide
    refine ⟨⟨fun hmem => hbracket.1 (hchars _ hmem), fun hmem => hbracket.2 (hchars _ hmem)⟩, ?_⟩
    exact iff_of_true (Ipv6.mem_colon_of_ofChars? hx) haddress
  · have hcolon : ':' ∉ place := fun hmem => (hbare _ hmem).1 rfl
    refine ⟨⟨fun hmem => (hbare _ hmem).2.1 rfl, fun hmem => (hbare _ hmem).2.2 rfl⟩, ?_⟩
    refine iff_of_false hcolon fun haddress => ?_
    obtain ⟨x, hx⟩ := Option.isSome_iff_exists.mp haddress
    exact hcolon (Ipv6.mem_colon_of_ofChars? hx)

/-- An endpoint that is read is well formed, with the scheme of the URL and the transport that its
query names. -/
theorem ofText_wellFormed (h : ofText raw = .ok e) :
    e.WellFormed ∧ ∃ path query,
      Url.ofText raw = .ok (.generic e.scheme.text path query) ∧ QueryNames query e.transport := by
  obtain ⟨url, hurl, he⟩ := ofText_eq_ok.mp h
  obtain ⟨path, query, place, rfl, -, hhost, hne, hport, htransport⟩ := ofUrl?_eq_some.mp he
  obtain ⟨hbracket, hcolon⟩ := host_of_unbracket? hhost
  obtain ⟨hquery, hstun⟩ := readTransport_eq_some htransport
  refine ⟨?_, path, query, hurl, hquery⟩
  exact {
    scheme := by cases e.scheme <;> decide
    port := by
      have hpositive : e.port.toNat ≠ 0 := fun hzero => hport (UInt16.toNat_inj.mp hzero)
      have hlt := e.port.toNat_lt
      omega
    host_ne := hne
    notMem_bracket := hbracket
    mem_colon_iff := hcolon
    stun_transport := by
      intro hscheme
      apply hstun
      revert hscheme
      cases e.scheme <;> decide
    turn_transport := by
      intro _
      cases e.transport with
      | none => decide
      | some t => cases t <;> decide
    isTurn_iff := by
      rw [isTurn]
      cases e.scheme <;> decide }

/-- A text with an authority, whose host is what stands behind it. -/
theorem ofText_wellFormed_authority :
    ofText "TURN://relay/h:+0443?x&transport=tcp" = .ok ⟨.turn, "/h", 443, some .tcp⟩ ∧
      WellFormed ⟨.turn, "/h", 443, some .tcp⟩ ∧ ∃ path query,
        Url.ofText "TURN://relay/h:+0443?x&transport=tcp" = .ok (.generic "turn" path query) ∧
          QueryNames query (some .tcp) := by
  have h : ofText "TURN://relay/h:+0443?x&transport=tcp" = .ok ⟨.turn, "/h", 443, some .tcp⟩ := by
    decide +kernel
  exact ⟨h, ofText_wellFormed h⟩

end IceEndpoint

end RtcConfig
