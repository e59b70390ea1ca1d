import RtcConfig.Proofs.Address.Entry
import RtcConfig.Proofs.Transport.Faults

/-! # IP filters of a configuration

The IP filter that is built from accepted settings decides by what their entries match: an address
is allowed if an include matches it, or there are none, and no exclude does. So the decisions depend
on neither order nor repetition of entries nor on the bits behind a length, excludes win over
includes, and more excludes allow less. An address as an entry and the network of that address alone
are the same to the whole configuration.
-/

namespace RtcConfig

/-- The addresses that a filter admits by the texts of its entries. -/
def Filter.Admits (f : Filter String) (a : IpAddress) : Prop :=
  (f.includes = [] ∨ ∃ entry ∈ f.includes, EntryMatches entry a) ∧
    ¬∃ entry ∈ f.excludes, EntryMatches entry a

/-- The same entry, or one that names an address with the same leading bits. -/
def SameRange (entry entry' : String) : Prop :=
  entry' = entry ∨ ∃ x y length, EntryNames entry x length ∧ EntryNames entry' y length ∧
    x.SharesLeading length y

/-- Each entry of one list has the same range as one of the other, in any order and number. -/
def SameEntries (entries entries' : List String) : Prop :=
  (∀ entry ∈ entries, ∃ entry' ∈ entries', SameRange entry entry') ∧
    ∀ entry' ∈ entries', ∃ entry ∈ entries, SameRange entry entry'

/-- An entry, or the network of the address that it is. -/
inductive HostRoute : String → String → Prop
  | same (entry : String) : HostRoute entry entry
  | v4 {entry : String} {x : Ipv4} (h : Ipv4.ofChars? entry.toList = some x) :
      HostRoute entry (entry ++ "/32")
  | v6 {entry : String} {x : Ipv6} (h : Ipv6.ofChars? entry.toList = some x) :
      HostRoute entry (entry ++ "/128")

/-! ## Entries -/

theorem SameRange.matches_iff {entry entry' : String} (h : SameRange entry entry')
    (a : IpAddress) : EntryMatches entry a ↔ EntryMatches entry' a := by
  rcases h with rfl | ⟨x, y, length, hx, hy, hshares⟩
  · exact Iff.rfl
  · obtain ⟨n, hn, rfl, rfl⟩ := IpNetwork.exists_of_entryNames hx
    obtain ⟨m, hm, rfl, hlength⟩ := IpNetwork.exists_of_entryNames hy
    rw [← IpNetwork.contains_iff_matches hn, ← IpNetwork.contains_iff_matches hm,
      IpNetwork.contains_iff, IpNetwork.contains_iff, hlength]
    exact hshares.congr

theorem SameEntries.matches_iff {entries entries' : List String} (h : SameEntries entries entries')
    (a : IpAddress) :
    (∃ entry ∈ entries, EntryMatches entry a) ↔ ∃ entry' ∈ entries', EntryMatches entry' a := by
  constructor
  · rintro ⟨entry, hmem, ha⟩
    obtain ⟨entry', hmem', hsame⟩ := h.1 entry hmem
    exact ⟨entry', hmem', (hsame.matches_iff a).mp ha⟩
  · rintro ⟨entry', hmem', ha⟩
    obtain ⟨entry, hmem, hsame⟩ := h.2 entry' hmem'
    exact ⟨entry, hmem, (hsame.matches_iff a).mpr ha⟩

theorem SameEntries.eq_nil_iff {entries entries' : List String}
    (h : SameEntries entries entries') : entries = [] ↔ entries' = [] := by
  constructor
  · rintro rfl
    apply List.eq_nil_iff_forall_not_mem.mpr
    intro entry' hmem
    obtain ⟨entry, hnone, -⟩ := h.2 entry' hmem
    cases hnone
  · rintro rfl
    apply List.eq_nil_iff_forall_not_mem.mpr
    intro entry hmem
    obtain ⟨entry', hnone, -⟩ := h.1 entry hmem
    cases hnone

theorem Filter.isEmpty_eq_false_iff {α : Type} {f : Filter α} :
    f.isEmpty = false ↔ (f.includes = [] → f.excludes ≠ []) := by
  rw [isEmpty, Bool.and_eq_false_imp]
  simp

/-- The filter itself admits what its networks say. -/
theorem Filter.allows_iff {α : Type} {hits : α → Bool} {f : Filter α} :
    f.allows hits = true ↔
      (f.includes = [] ∨ ∃ n ∈ f.includes, hits n) ∧ ¬∃ n ∈ f.excludes, hits n := by
  simp [allows]

theorem Filter.admits_congr {f f' : Filter String} (hincludes : SameEntries f.includes f'.includes)
    (hexcludes : SameEntries f.excludes f'.excludes) (a : IpAddress) :
    f.Admits a ↔ f'.Admits a := by
  rw [Admits, Admits, hincludes.eq_nil_iff, hincludes.matches_iff, hexcludes.matches_iff]

theorem isEmpty_of_forall₂ {α β : Type} {R : α → β → Prop} {xs : List α} {ys : List β}
    (h : List.Forall₂ R xs ys) : ys.isEmpty = xs.isEmpty := by
  cases h with
  | nil => rfl
  | cons _ _ => rfl

namespace TransportSettings

variable {s : TransportSettings} {development : Bool}

theorem network_eq_ok {entry : String} {n : IpNetwork} :
    network entry = .ok n ↔ IpNetwork.ofEntry? entry = some n := by
  unfold network
  cases IpNetwork.ofEntry? entry <;> simp

/-- The networks that are read from entries contain what the entries match. -/
theorem networks_contain {entries : List String} {networks : List IpNetwork}
    (h : entries.mapM network = .ok networks) (a : IpAddress) :
    (∃ n ∈ networks, n.contains a) ↔ ∃ entry ∈ entries, EntryMatches entry a := by
  have hread := mapM_eq_ok h
  clear h
  induction hread with
  | nil => simp
  | @cons entry n entries networks hn _ ih =>
    simp only [List.mem_cons, exists_eq_or_imp]
    exact or_congr (IpNetwork.contains_iff_matches (network_eq_ok.mp hn) a) ih

/-- A filter with entries decides by what they admit. -/
theorem allowsIp_of_build {c : Logged TransportConfig}
    (h : TransportConfig.build s development = .ok c) (hips : s.ips.isEmpty = false)
    (a : IpAddress) :
    ∃ allowed, c.value.engine.allowsIp a = some allowed ∧ (allowed = true ↔ s.ips.Admits a) := by
  obtain ⟨config, hconfig, rfl⟩ := map_eq_ok h
  obtain ⟨-, -, hfilter, -⟩ := parts_of_config hconfig
  rw [ipFilter, if_neg (by simp [hips])] at hfilter
  obtain ⟨includes, hincludes, hfilter⟩ := bind_eq_ok hfilter
  obtain ⟨excludes, hexcludes, hfilter⟩ := bind_eq_ok hfilter
  have hstored := (Except.ok.inj hfilter).symm
  refine ⟨Filter.allows (fun n => n.contains a) ⟨includes, excludes⟩, ?_, ?_⟩
  · rw [Engine.allowsIp, hstored]
    rfl
  · have hnil : includes = [] ↔ s.ips.includes = [] := by
      rw [← List.length_eq_zero_iff, ← List.length_eq_zero_iff,
        (mapM_eq_ok hincludes).length_eq]
    rw [Filter.allows_iff, Filter.Admits, networks_contain hincludes, networks_contain hexcludes,
      hnil]

theorem entryFaults_eq_nil {entry : String} :
    entryFaults entry = [] ↔ ∃ x length, EntryNames entry x length := by
  have hread : entryFaults entry = [] ↔ ∃ n, network entry = .ok n :=
    (network_reports entry).exists_ok_iff.symm
  rw [hread]
  constructor
  · rintro ⟨n, hn⟩
    exact ⟨_, _, IpNetwork.entryNames_of_ofEntry? (network_eq_ok.mp hn)⟩
  · rintro ⟨x, length, hnames⟩
    obtain ⟨n, hn, -⟩ := IpNetwork.exists_of_entryNames hnames
    exact ⟨n, network_eq_ok.mpr hn⟩

/-- Entries with the ranges of accepted ones are accepted. -/
theorem entriesFaults_eq_nil {entries entries' : List String}
    (h : entries.flatMap entryFaults = []) (hsame : SameEntries entries entries') :
    entries'.flatMap entryFaults = [] := by
  rw [List.flatMap_eq_nil_iff] at h ⊢
  intro entry' hmem'
  obtain ⟨entry, hmem, hrange⟩ := hsame.2 entry' hmem'
  rcases hrange with rfl | ⟨x, y, length, -, hy, -⟩
  · exact h entry' hmem
  · exact entryFaults_eq_nil.mpr ⟨y, length, hy⟩

/-- Settings stay accepted with a filter whose entries have the same ranges. -/
theorem exists_build_sameEntries {c : Logged TransportConfig}
    (h : TransportConfig.build s development = .ok c) {ips : Filter String}
    (hincludes : SameEntries s.ips.includes ips.includes)
    (hexcludes : SameEntries s.ips.excludes ips.excludes) :
    ∃ c', TransportConfig.build { s with ips := ips } development = .ok c' := by
  have hnone := s.exists_build_iff.mp ⟨c, h⟩
  apply (exists_build_iff _).mpr
  simp only [faults, filterFaults, List.append_eq_nil_iff] at hnone ⊢
  obtain ⟨hnode, hports, ⟨hin, hex⟩, hservers⟩ := hnone
  exact ⟨hnode, hports, ⟨entriesFaults_eq_nil hin hincludes, entriesFaults_eq_nil hex hexcludes⟩,
    hservers⟩

/-- What the IP filter of a configuration decides: by what the entries match, by nothing else of
them, for excludes and against includes, and the less the more excludes there are. -/
structure FiltersIps (s : TransportSettings) (development : Bool) (c : TransportConfig) : Prop where
  admits : ∀ a, ∃ allowed, c.engine.allowsIp a = some allowed ∧
    (allowed = true ↔ s.ips.Admits a)
  same : ∀ ips : Filter String, SameEntries s.ips.includes ips.includes →
    SameEntries s.ips.excludes ips.excludes →
      ∃ c', TransportConfig.build { s with ips := ips } development = .ok c' ∧
        ∀ a, c'.value.engine.allowsIp a = c.engine.allowsIp a
  excluded : ∀ a, (∃ entry ∈ s.ips.excludes, EntryMatches entry a) →
    c.engine.allowsIp a = some false
  fewer : ∀ (excludes : List String) (c' : Logged TransportConfig), s.ips.excludes ⊆ excludes →
    TransportConfig.build { s with ips := ⟨s.ips.includes, excludes⟩ } development = .ok c' →
      ∀ a, c'.value.engine.allowsIp a = some true → c.engine.allowsIp a = some true

theorem build_filtersIps {c : Logged TransportConfig}
    (h : TransportConfig.build s development = .ok c) (hips : s.ips.isEmpty = false) :
    FiltersIps s development c.value where
  admits a := allowsIp_of_build h hips a
  same ips hincludes hexcludes := by
    obtain ⟨c', hc'⟩ := exists_build_sameEntries h hincludes hexcludes
    have hips' : ips.isEmpty = false := by
      rw [Filter.isEmpty_eq_false_iff] at hips ⊢
      rwa [Ne, ← hincludes.eq_nil_iff, ← hexcludes.eq_nil_iff]
    refine ⟨c', hc', fun a => ?_⟩
    obtain ⟨allowed, hallowed, hadmits⟩ := allowsIp_of_build h hips a
    obtain ⟨allowed', hallowed', hadmits'⟩ := allowsIp_of_build hc' hips' a
    have heq : allowed' = allowed := by
      apply Bool.eq_iff_iff.mpr
      rw [hadmits, hadmits']
      exact (Filter.admits_congr hincludes hexcludes a).symm
    rw [hallowed, hallowed', heq]
  excluded a hexcluded := by
    obtain ⟨allowed, hallowed, hadmits⟩ := allowsIp_of_build h hips a
    have hno : allowed ≠ true := fun htrue => (hadmits.mp htrue).2 hexcluded
    rw [hallowed, Bool.eq_false_iff.mpr hno]
  fewer excludes c' hsubset hc' a ha := by
    have hips' : (⟨s.ips.includes, excludes⟩ : Filter String).isEmpty = false := by
      rw [Filter.isEmpty_eq_false_iff] at hips ⊢
      rintro hnone rfl
      exact hips hnone (List.subset_nil.mp hsubset)
    obtain ⟨allowed, hallowed, hadmits⟩ := allowsIp_of_build h hips a
    obtain ⟨allowed', hallowed', hadmits'⟩ := allowsIp_of_build hc' hips' a
    rw [hallowed', Option.some.injEq] at ha
    obtain ⟨hin, hout⟩ := hadmits'.mp ha
    have hfewer : ¬∃ entry ∈ s.ips.excludes, EntryMatches entry a := by
      rintro ⟨entry, hmem, hmatch⟩
      exact hout ⟨entry, hsubset hmem, hmatch⟩
    rw [hallowed, hadmits.mpr ⟨hin, hfewer⟩]

/-- Networks of both families, a bare address and an exclude inside an include. -/
def bothFamilies : TransportSettings where
  ips := ⟨["10.1.2.3/8", "2001:db8::/032", "192.0.2.1"], ["10.1.0.0/16", "::/0"]⟩

theorem build_filtersIps_bothFamilies :
    ∃ c, TransportConfig.build bothFamilies false = .ok c ∧ bothFamilies.ips.isEmpty = false ∧
      FiltersIps bothFamilies false c.value := by
  obtain ⟨c, hc⟩ := exists_ok_of_isSome
    (show (TransportConfig.build bothFamilies false).toOption.isSome by decide +kernel)
  exact ⟨c, hc, rfl, build_filtersIps hc rfl⟩

/-! ## Host routes -/

theorem network_of_address {entry : String} {x : IpAddress} (h : IpAddress.ofText? entry = some x) :
    network entry = .ok (.host x) :=
  network_eq_ok.mpr (IpNetwork.ofEntry?_address h)

/-- Behind a slash and the length of all its bits an address names the network of itself. -/
theorem network_of_route {entry : String} {x : IpAddress} (h : IpAddress.ofText? entry = some x)
    (digits : List Char) (hdigits : digits.length ≤ x.lengthDigits)
    (hlength : Text.numeral? 10 digits = some x.width) :
    network (entry ++ String.ofList ('/' :: digits)) = .ok (.host x) := by
  have hread : IpNetwork.ofText? (entry ++ String.ofList ('/' :: digits)) =
      some (IpNetwork.host x) := by
    apply IpNetwork.ofText?_eq_some.mpr
    rw [IpNetwork.address_host, IpNetwork.length_host]
    exact ⟨entry.toList, digits, by simp, IpAddress.namesLax_of_ofText? h, hdigits, hlength⟩
  rw [network_eq_ok, IpNetwork.ofEntry?, hread]

theorem network_v4_route {entry : String} {x : Ipv4} (h : Ipv4.ofChars? entry.toList = some x) :
    network (entry ++ "/32") = .ok (.host (.v4 x)) :=
  network_of_route (IpAddress.ofText?_v4.mpr h) ['3', '2'] (Nat.le_refl 2) rfl

theorem network_v6_route {entry : String} {x : Ipv6} (h : Ipv6.ofChars? entry.toList = some x) :
    network (entry ++ "/128") = .ok (.host (.v6 x)) :=
  network_of_route (IpAddress.ofText?_v6.mpr h) ['1', '2', '8'] (Nat.le_refl 3) rfl

theorem network_hostRoute {entry entry' : String} (h : HostRoute entry entry') :
    network entry' = network entry := by
  cases h with
  | same => rfl
  | v4 h => rw [network_v4_route h, network_of_address (IpAddress.ofText?_v4.mpr h)]
  | v6 h => rw [network_v6_route h, network_of_address (IpAddress.ofText?_v6.mpr h)]

theorem ipFilter_hostRoutes {ips : Filter String}
    (hincludes : List.Forall₂ HostRoute s.ips.includes ips.includes)
    (hexcludes : List.Forall₂ HostRoute s.ips.excludes ips.excludes) :
    ipFilter { s with ips := ips } = s.ipFilter := by
  have hempty : ips.isEmpty = s.ips.isEmpty := by
    rw [Filter.isEmpty, Filter.isEmpty, isEmpty_of_forall₂ hincludes,
      isEmpty_of_forall₂ hexcludes]
  rw [ipFilter, ipFilter, hempty,
    mapM_congr_forall₂ (hincludes.imp fun _ _ => network_hostRoute),
    mapM_congr_forall₂ (hexcludes.imp fun _ _ => network_hostRoute)]

theorem build_hostRoutes {ips : Filter String}
    (hincludes : List.Forall₂ HostRoute s.ips.includes ips.includes)
    (hexcludes : List.Forall₂ HostRoute s.ips.excludes ips.excludes) :
    TransportConfig.build { s with ips := ips } development =
      TransportConfig.build s development := by
  have hfilter := ipFilter_hostRoutes hincludes hexcludes
  rw [TransportConfig.build, TransportConfig.build, config, config, hfilter]
  rfl

/-- An address as an entry is its host route: both name the network that contains this address and
no other, and either may stand for the other in the settings. -/
theorem hostRoutes_agree :
    (∀ (entry : String) (x : Ipv4), Ipv4.ofChars? entry.toList = some x →
      ∃ n, network entry = .ok n ∧ network (entry ++ "/32") = .ok n ∧
        ∀ a, n.contains a = true ↔ a = .v4 x) ∧
    (∀ (entry : String) (x : Ipv6), Ipv6.ofChars? entry.toList = some x →
      ∃ n, network entry = .ok n ∧ network (entry ++ "/128") = .ok n ∧
        ∀ a, n.contains a = true ↔ a = .v6 x) ∧
    ∀ (s : TransportSettings) (ips : Filter String) (development : Bool),
      List.Forall₂ HostRoute s.ips.includes ips.includes →
      List.Forall₂ HostRoute s.ips.excludes ips.excludes →
        TransportConfig.build { s with ips := ips } development =
          TransportConfig.build s development := by
  refine ⟨fun entry x h => ?_, fun entry x h => ?_, fun s ips development => build_hostRoutes⟩
  · exact ⟨.host (.v4 x), network_of_address (IpAddress.ofText?_v4.mpr h), network_v4_route h,
      fun _ => IpNetwork.host_contains_iff⟩
  · exact ⟨.host (.v6 x), network_of_address (IpAddress.ofText?_v6.mpr h), network_v6_route h,
      fun _ => IpNetwork.host_contains_iff⟩

/-- A bare IPv6 address with a dotted end beside a network. -/
def dottedEnd : TransportSettings where
  ips := ⟨["2001:DB8::00ff:192.0.2.1", "10.0.0.0/8"], []⟩

theorem hostRoutes_agree_dottedEnd :
    TransportConfig.build
        { dottedEnd with ips := ⟨["2001:DB8::00ff:192.0.2.1/128", "10.0.0.0/8"], []⟩ } false =
      TransportConfig.build dottedEnd false := by
  obtain ⟨x, hx⟩ := Option.isSome_iff_exists.mp
    (show (Ipv6.ofChars? "2001:DB8::00ff:192.0.2.1".toList).isSome by decide +kernel)
  exact hostRoutes_agree.2.2 dottedEnd ⟨["2001:DB8::00ff:192.0.2.1/128", "10.0.0.0/8"], []⟩ false
    (.cons (.v6 hx) (.cons (.same _) .nil)) .nil

end TransportSettings

end RtcConfig
