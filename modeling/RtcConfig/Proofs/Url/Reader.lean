import RtcConfig.Proofs.Report
import RtcConfig.Proofs.Url.Path
import RtcConfig.Url.Reader

/-! # URLs behind a known scheme

A URL that is written as a scheme, a colon and a rest reads as its lower-case scheme and the rest
without blanks at its end and without tabs and line ends. What reads as the path ends in front of
the first question mark or number sign.
-/

namespace RtcConfig.Url

/-! ## Cleaning -/

/-- A text without the tabs and line ends in it. -/
def unbroken (cs : List Char) : List Char :=
  cs.filter fun c => !(c == '\t' || c == '\n' || c == '\r')

/-- A text without the blanks and control characters at its end. -/
def trimEnd (cs : List Char) : List Char := (cs.reverse.dropWhile isControlOrBlank).reverse

/-- A text with neither blanks nor control characters. -/
def IsVisible (cs : List Char) : Prop := ∀ c ∈ cs, isControlOrBlank c = false

theorem isVisible_iff_all {cs : List Char} :
    IsVisible cs ↔ (cs.all fun c => !isControlOrBlank c) = true := by
  simp [IsVisible]

@[simp] theorem unbroken_append (a b : List Char) :
    unbroken (a ++ b) = unbroken a ++ unbroken b := List.filter_append ..

theorem mem_unbroken {c : Char} {cs : List Char} (h : c ∈ unbroken cs) : c ∈ cs :=
  (List.mem_filter.mp h).1

theorem mem_unbroken_of_visible {c : Char} (hc : isControlOrBlank c = false) (cs : List Char) :
    c ∈ unbroken cs ↔ c ∈ cs := by
  have hne (d : Char) (hd : isControlOrBlank d = true) : c ≠ d := by
    rintro rfl
    rw [hc] at hd
    cases hd
  simp [unbroken, List.mem_filter, hne '\t' rfl, hne '\n' rfl, hne '\r' rfl]

theorem unbroken_of_visible {cs : List Char} (h : IsVisible cs) : unbroken cs = cs :=
  List.filter_eq_self.mpr fun c hc => by
    have hmem := (mem_unbroken_of_visible (h c hc) [c]).mpr (by simp)
    simpa [unbroken] using hmem

theorem trimEnd_append {a b : List Char} (hne : b ≠ []) (hb : IsVisible b) :
    trimEnd (a ++ b) = a ++ b := by
  obtain ⟨c, cs, hcs⟩ := List.exists_cons_of_ne_nil (List.reverse_ne_nil_iff.mpr hne)
  have hc : isControlOrBlank c = false := hb c (List.mem_reverse.mp (by simp [hcs]))
  rw [trimEnd, List.reverse_append, hcs, List.cons_append,
    List.dropWhile_cons_of_neg (by simp [hc]), ← List.cons_append, ← hcs]
  simp

theorem trimEnd_of_visible {cs : List Char} (h : IsVisible cs) : trimEnd cs = cs := by
  by_cases hne : cs = []
  · rw [hne]
    rfl
  · exact trimEnd_append (a := []) hne h

theorem trim_append {a b : List Char} (hne : a ≠ []) (ha : IsVisible a) :
    trim (a ++ b) = a ++ trimEnd b := by
  obtain ⟨c, cs, rfl⟩ := List.exists_cons_of_ne_nil hne
  have hstart : ((c :: cs) ++ b).dropWhile isControlOrBlank = (c :: cs) ++ b :=
    List.dropWhile_cons_of_neg (by simp [ha c (by simp)])
  have hend : (c :: cs).reverse.dropWhile isControlOrBlank = (c :: cs).reverse := by
    simpa [trimEnd] using trimEnd_of_visible ha
  rw [trim, hstart, trimEnd, List.reverse_append, List.dropWhile_append]
  split
  · next hempty =>
    rw [List.isEmpty_iff.mp hempty, hend]
    simp
  · simp

theorem clean_append {a b : List Char} (hne : a ≠ []) (ha : IsVisible a) :
    clean (a ++ b) = a ++ unbroken (trimEnd b) := by
  have h : clean (a ++ b) = unbroken (trim (a ++ b)) := rfl
  rw [h, trim_append hne ha, unbroken_append, unbroken_of_visible ha]

theorem mem_of_mem_clean {c : Char} {cs : List Char} (h : c ∈ clean cs) : c ∈ cs := by
  have htrim := List.mem_reverse.mp (mem_unbroken h)
  have hstart := List.mem_reverse.mp ((List.dropWhile_suffix _).mem htrim)
  exact (List.dropWhile_suffix _).mem hstart

/-- Only blanks and control characters are dropped in front of a text. -/
theorem exists_unbroken_trimEnd {cs : List Char} (h : clean cs ≠ []) :
    ∃ lead, (∀ c ∈ lead, isControlOrBlank c) ∧ unbroken (trimEnd cs) = lead ++ clean cs := by
  have hclean : clean cs = unbroken (trimEnd (cs.dropWhile isControlOrBlank)) := rfl
  refine ⟨unbroken (cs.takeWhile isControlOrBlank),
    fun c hc => List.mem_takeWhile_imp (mem_unbroken hc), ?_⟩
  have hne : (cs.dropWhile isControlOrBlank).reverse.dropWhile isControlOrBlank ≠ [] := by
    intro hnil
    rw [hclean, trimEnd, hnil] at h
    exact h rfl
  have hsplit : trimEnd cs = cs.takeWhile isControlOrBlank ++
      trimEnd (cs.dropWhile isControlOrBlank) := by
    conv_lhs => rw [← List.takeWhile_append_dropWhile (p := isControlOrBlank) (l := cs)]
    rw [trimEnd, List.reverse_append, List.dropWhile_append, if_neg (by simpa using hne), trimEnd]
    simp
  rw [hsplit, unbroken_append, hclean]

/-! ## Schemes -/

/-- A scheme as it may be written. -/
structure IsSchemeName (name : List Char) : Prop where
  head_isAlpha : name.head?.any Char.isAlpha
  isSchemeChar : ∀ c ∈ name, isSchemeChar c

theorem isControlOrBlank_of_isSchemeChar {c : Char} (h : isSchemeChar c) :
    isControlOrBlank c = false := by
  simp only [isSchemeChar, Bool.or_eq_true, beq_iff_eq, Text.isAlphanum_iff_toNat] at h
  rcases h with ((h | rfl) | rfl) | rfl
  · simp [isControlOrBlank]
    omega
  all_goals rfl

theorem IsSchemeName.ne_nil {name : List Char} (h : IsSchemeName name) : name ≠ [] := by
  rintro rfl
  exact absurd h.head_isAlpha (by simp)

theorem IsSchemeName.isVisible {name : List Char} (h : IsSchemeName name) :
    IsVisible (name ++ [':']) := by
  intro c hc
  rcases List.mem_append.mp hc with hc | hc
  · exact isControlOrBlank_of_isSchemeChar (h.isSchemeChar c hc)
  · rw [List.mem_singleton.mp hc]
    rfl

theorem readSchemeRest_append {name : List Char} (h : ∀ c ∈ name, isSchemeChar c)
    (rest : List Char) :
    readSchemeRest (name ++ ':' :: rest) = some (name.map Char.toLower, rest) := by
  induction name with
  | nil => rfl
  | cons c name ih =>
    have hc : isSchemeChar c := h c (by simp)
    have hne : c ≠ ':' := by
      rintro rfl
      exact absurd hc (by decide)
    rw [List.cons_append, readSchemeRest]
    · simp [hc, ih fun d hd => h d (by simp [hd])]
    · simpa using hne

theorem readScheme_append {name : List Char} (h : IsSchemeName name) (rest : List Char) :
    readScheme (name ++ ':' :: rest) = some (name.map Char.toLower, rest) := by
  have hhead : (name ++ ':' :: rest).head? = name.head? := by
    obtain ⟨c, cs, rfl⟩ := List.exists_cons_of_ne_nil h.ne_nil
    rfl
  rw [readScheme, hhead, if_pos h.head_isAlpha]
  exact readSchemeRest_append h.isSchemeChar rest

theorem readSchemeRest_eq_some {cs low rest : List Char}
    (h : readSchemeRest cs = some (low, rest)) :
    ∃ name, cs = name ++ ':' :: rest ∧ low = name.map Char.toLower ∧
      ∀ c ∈ name, isSchemeChar c := by
  fun_induction readSchemeRest cs generalizing low with
  | case1 => cases h
  | case2 r =>
    obtain ⟨rfl, rfl⟩ := Prod.mk.inj (Option.some.inj h)
    exact ⟨[], rfl, rfl, by simp⟩
  | case3 c r hne hc ih =>
    obtain ⟨p, hp, heq⟩ := Option.map_eq_some_iff.mp h
    obtain ⟨rfl, rfl⟩ := Prod.mk.inj heq
    obtain ⟨name, rfl, hlow, hname⟩ := ih hp
    exact ⟨c :: name, rfl, by rw [hlow, List.map_cons], List.forall_mem_cons.mpr ⟨hc, hname⟩⟩
  | case4 => cases h

/-- What is read as a scheme is its name in lower case, in front of the first colon. -/
theorem readScheme_eq_some {cs low rest : List Char} (h : readScheme cs = some (low, rest)) :
    ∃ name, IsSchemeName name ∧ cs = name ++ ':' :: rest ∧ low = name.map Char.toLower := by
  unfold readScheme at h
  split at h
  · next halpha =>
    obtain ⟨name, rfl, hlow, hname⟩ := readSchemeRest_eq_some h
    refine ⟨name, ⟨?_, hname⟩, rfl, hlow⟩
    cases name with
    | nil => exact absurd (show Char.isAlpha ':' from halpha) (by decide)
    | cons c name => exact halpha
  · cases h

theorem clean_scheme {name : List Char} (h : IsSchemeName name) (rest : List Char) :
    clean (name ++ ':' :: rest) = name ++ ':' :: unbroken (trimEnd rest) := by
  have happ (r : List Char) : name ++ ':' :: r = (name ++ [':']) ++ r := by simp
  rw [happ rest, happ (unbroken _), clean_append (by simp) h.isVisible]

/-- A URL of a generic scheme is read behind its colon, without the blanks that do not count. -/
theorem ofText_append {name : List Char} (h : IsSchemeName name)
    (hk : schemeKind (String.ofList (name.map Char.toLower)) = .generic) (rest : List Char) :
    ofText (String.ofList (name ++ ':' :: rest)) =
      readGeneric (String.ofList (name.map Char.toLower)) (unbroken (trimEnd rest)) := by
  rw [ofText, String.toList_ofList, clean_scheme h, readScheme_append h]
  simp only [hk]

/-! ## Path and query -/

/-- A character that a query or a fragment starts with. -/
def IsStop (x : Char) : Prop := x = '?' ∨ x = '#'

theorem isPathText_iff {cs : List Char} :
    IsPathText cs ↔ ∀ c ∈ cs, (c != '?' && c != '#') = true := by
  simp [IsPathText]

theorem isStop_iff {x : Char} : IsStop x ↔ (x != '?' && x != '#') = false := by
  by_cases hq : x = '?'
  · simp [IsStop, hq]
  · simp [IsStop, hq]

theorem isPathText_or_exists_stop (cs : List Char) :
    IsPathText cs ∨ ∃ front x back, cs = front ++ x :: back ∧ IsPathText front ∧ IsStop x := by
  rcases Text.forall_or_exists_first (fun c => c != '?' && c != '#') cs with
    h | ⟨front, x, back, hcs, hfront, hx⟩
  · exact .inl (isPathText_iff.mpr h)
  · exact .inr ⟨front, x, back, hcs, isPathText_iff.mpr hfront, isStop_iff.mpr hx⟩

theorem span_stop {front : List Char} {x : Char} (hfront : IsPathText front) (hx : IsStop x)
    (back : List Char) :
    (front ++ x :: back).span (fun c => c != '?' && c != '#') = (front, x :: back) :=
  Text.span_append (isPathText_iff.mp hfront) (isStop_iff.mp hx)

theorem splitQuery_of_isPathText {cs : List Char} (h : IsPathText cs) :
    splitQuery cs = (cs, []) := by
  rw [splitQuery, Text.span_of_forall (isPathText_iff.mp h)]

/-- The first stop ends the path, and only what stands behind it decides the query. -/
theorem splitQuery_append {path : List Char} {x : Char} (hpath : IsPathText path) (hx : IsStop x)
    (after : List Char) :
    splitQuery (path ++ x :: after) = (path, (splitQuery (x :: after)).2) := by
  have hempty : IsPathText [] := by simp [IsPathText]
  have hstop := span_stop hempty hx after
  rw [List.nil_append] at hstop
  rw [splitQuery, splitQuery, span_stop hpath hx, hstop]

theorem isPathText_splitQuery (cs : List Char) : IsPathText (splitQuery cs).1 := by
  rcases isPathText_or_exists_stop cs with h | ⟨front, x, back, rfl, hfront, hx⟩
  · rw [splitQuery_of_isPathText h]
    exact h
  · rw [splitQuery_append hfront hx]
    exact hfront

theorem splitQuery_cons {c : Char} (hq : c ≠ '?') (hh : c ≠ '#') (cs : List Char) :
    (splitQuery (c :: cs)).1 = c :: (splitQuery cs).1 := by
  simp [splitQuery, List.span_eq_takeWhile_dropWhile, hq, hh]

theorem readGeneric_unslashed {cs : List Char} (h : cs.head? ≠ some '/') (scheme : String) :
    readGeneric scheme cs =
      .ok (.generic scheme (opaquePath (splitQuery cs).1) (splitQuery cs).2) := by
  unfold readGeneric
  split
  · exact absurd rfl h
  · exact absurd rfl h
  · rfl

theorem readGeneric_slash {cs : List Char} (h : cs.head? ≠ some '/') (scheme : String) :
    readGeneric scheme ('/' :: cs) =
      .ok (.generic scheme (segmentPath (splitQuery cs).1) (splitQuery cs).2) := by
  unfold readGeneric
  split
  · next r heq =>
    obtain rfl := (List.cons.inj heq).2
    exact absurd rfl h
  · next r _ heq =>
    obtain rfl := (List.cons.inj heq).2
    rfl
  · next _ hno => exact (hno cs rfl).elim

theorem readGeneric_slashes (scheme : String) (cs : List Char) :
    readGeneric scheme ('/' :: '/' :: cs) = (skipAuthority false cs).map fun rest =>
      .generic scheme (authorityPath (splitQuery rest).1) (splitQuery rest).2 := by
  rw [readGeneric]
  cases skipAuthority false cs with
  | error e => rfl
  | ok rest => rfl

/-- The three forms in which the text behind a generic scheme may be written. -/
theorem body_cases (cs : List Char) :
    cs.head? ≠ some '/' ∨ (∃ r, cs = '/' :: r ∧ r.head? ≠ some '/') ∨
      ∃ r, cs = '/' :: '/' :: r := by
  by_cases h : cs.head? = some '/'
  · obtain ⟨r, rfl⟩ : ∃ r, cs = '/' :: r := List.head?_eq_some_iff.mp h
    by_cases hr : r.head? = some '/'
    · obtain ⟨r', rfl⟩ : ∃ r', r = '/' :: r' := List.head?_eq_some_iff.mp hr
      exact .inr (.inr ⟨r', rfl⟩)
    · exact .inr (.inl ⟨r, rfl, hr⟩)
  · exact .inl h

/-- Behind a generic scheme comes a URL of that scheme, with a path of printable characters. -/
theorem readGeneric_eq_ok {scheme : String} {cs : List Char} {url : Url}
    (h : readGeneric scheme cs = .ok url) :
    ∃ path query, url = .generic scheme path query ∧ ∀ c ∈ path, IsPathChar c := by
  rcases body_cases cs with hcs | ⟨r, rfl, hr⟩ | ⟨r, rfl⟩
  · rw [readGeneric_unslashed hcs, Except.ok.injEq] at h
    exact ⟨_, _, h.symm, fun c => isPathChar_of_mem_opaquePath (isPathText_splitQuery cs)⟩
  · rw [readGeneric_slash hr, Except.ok.injEq] at h
    exact ⟨_, _, h.symm, fun c => isPathChar_of_mem_segmentPath (isPathText_splitQuery r)⟩
  · rw [readGeneric_slashes] at h
    cases hskip : skipAuthority false r with
    | error e => simp [hskip, Except.map] at h
    | ok rest =>
      rw [hskip, Except.map, Except.ok.injEq] at h
      exact ⟨_, _, h.symm, fun c => isPathChar_of_mem_authorityPath (isPathText_splitQuery rest)⟩

/-- A URL with a path comes from the text behind a generic scheme. -/
theorem ofText_eq_generic {s scheme : String} {path query : List Char}
    (h : ofText s = .ok (.generic scheme path query)) :
    ∃ name body, readScheme (clean s.toList) = some (name, body) ∧ scheme = String.ofList name ∧
      readGeneric scheme body = .ok (.generic scheme path query) := by
  unfold ofText at h
  split at h
  · cases h
  · next name body hscheme =>
    refine ⟨name, body, hscheme, ?_⟩
    dsimp only at h
    split at h
    · obtain ⟨path', query', hurl, -⟩ := readGeneric_eq_ok h
      obtain ⟨rfl, -, -⟩ := Url.generic.inj hurl
      exact ⟨rfl, h⟩
    · obtain ⟨rest, -, hrest⟩ := bind_eq_ok h
      cases hrest
    · unfold readFile at h
      split at h
      · split at h
        · obtain ⟨rest, -, hrest⟩ := bind_eq_ok h
          cases hrest
        · cases h
      · cases h

/-- A URL with a path starts with the name of its scheme in front of the first colon. -/
theorem exists_schemeName {s scheme : String} {path query : List Char}
    (h : ofText s = .ok (.generic scheme path query)) :
    ∃ name rest, IsSchemeName name ∧ clean s.toList = name ++ ':' :: rest ∧
      scheme = String.ofList (name.map Char.toLower) ∧
        readGeneric scheme rest = .ok (.generic scheme path query) := by
  obtain ⟨low, rest, hread, hscheme, hgeneric⟩ := ofText_eq_generic h
  obtain ⟨name, hname, hclean, rfl⟩ := readScheme_eq_some hread
  exact ⟨name, rest, hname, hclean, hscheme, hgeneric⟩

/-! ## Plain characters -/

/-- A character that stands for itself in an opaque path and is no blank. -/
structure IsPlainChar (c : Char) : Prop where
  isPathChar : IsPathChar c
  visible : isControlOrBlank c = false
  ne_slash : c ≠ '/'
  ne_percent : c ≠ '%'

theorem isPlainChar_of_toNat {c : Char} (hlow : 32 < c.toNat) (hhigh : c.toNat < 127)
    (hne : c.toNat ∉ [35, 37, 47, 63]) : IsPlainChar c := by
  have hc (d : Char) (hd : d.toNat ∈ [35, 37, 47, 63]) : c ≠ d := by
    rintro rfl
    exact hne hd
  refine ⟨⟨?_, hc '?' (by decide), hc '#' (by decide)⟩, ?_, hc '/' (by decide), hc '%' (by decide)⟩
  · simp only [keptInOpaquePath, Bool.and_eq_true, decide_eq_true_eq]
    omega
  · simpa [isControlOrBlank] using hlow

theorem isPlainChar_of_isDigit {c : Char} (h : c.isDigit) : IsPlainChar c := by
  rw [Text.isDigit_iff_toNat] at h
  apply isPlainChar_of_toNat <;> grind

end RtcConfig.Url
