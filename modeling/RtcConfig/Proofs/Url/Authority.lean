import RtcConfig.Proofs.Url.Reader

/-! # Text behind an authority

Skipping an authority leaves an end of the text, which is empty or starts where an authority may
end. A question mark or a number sign ends it for certain, so nothing behind such a character has a
part in what is skipped or in whether it is valid.
-/

namespace RtcConfig.Url

/-! ## Ends of a text -/

theorem IsStop.endsAuthority {x : Char} (h : IsStop x) : endsAuthority false x := by
  rcases h with rfl | rfl <;> rfl

theorem splitLastAt_eq_some {cs info host : List Char} (h : splitLastAt cs = some (info, host)) :
    cs = info ++ '@' :: host := by
  by_cases hmem : '@' ∈ cs
  · obtain ⟨ys, zs, rfl, hz⟩ := Text.exists_last_of_mem hmem
    rw [splitLastAt, Text.span_reverse_append hz] at h
    simp only [List.reverse_reverse, Option.some.injEq, Prod.mk.injEq] at h
    rw [h.1, h.2]
  · rw [splitLastAt, Text.span_reverse_of_notMem hmem] at h
    cases h

theorem spanHost_suffix (web inside : Bool) (cs : List Char) :
    (spanHost web inside cs).2 <:+ cs := by
  induction cs generalizing inside with
  | nil => exact List.suffix_rfl
  | cons c cs ih =>
    rw [spanHost]
    split
    · exact List.suffix_rfl
    · exact (ih _).trans (List.suffix_cons c cs)

/-- The host ends at a colon or where the authority ends. -/
theorem spanHost_head {inside : Bool} {cs : List Char} {c : Char}
    (h : (spanHost false inside cs).2.head? = some c) : endsAuthority false c ∨ c = ':' := by
  induction cs generalizing inside with
  | nil => simp [spanHost] at h
  | cons d cs ih =>
    rw [spanHost] at h
    split at h
    · next hd =>
      obtain rfl : d = c := by simpa using h
      simp only [Bool.or_eq_true, Bool.and_eq_true, beq_iff_eq] at hd
      exact hd.imp id And.left
    · exact ih h

theorem skipPort_eq_ok {n : Nat} {cs rest : List Char} (h : skipPort n cs = .ok rest) :
    rest <:+ cs ∧ ∀ c, rest.head? = some c → c ∈ ['/', '\\', '?', '#'] := by
  induction cs generalizing n with
  | nil =>
    obtain rfl := Except.ok.inj h
    simp
  | cons c cs ih =>
    rw [skipPort] at h
    split at h
    · split at h
      · obtain ⟨hsuffix, hhead⟩ := ih h
        exact ⟨hsuffix.trans (List.suffix_cons c cs), hhead⟩
      · cases h
    · split at h
      · next hc =>
        obtain rfl := Except.ok.inj h
        simp only [Bool.or_eq_true, beq_iff_eq] at hc
        refine ⟨List.suffix_rfl, fun d hd => ?_⟩
        obtain rfl : c = d := by simpa using hd
        simpa [or_assoc] using hc
      · cases h

theorem skipUserInfo_suffix {web named : Bool} {cs rest : List Char}
    (h : skipUserInfo web cs = .ok (named, rest)) : rest <:+ cs := by
  have hspan : cs = (cs.span fun c => !endsAuthority web c).1 ++
      (cs.span fun c => !endsAuthority web c).2 := by
    simp [List.span_eq_takeWhile_dropWhile]
  have hsuffix {info host : List Char}
      (hlast : splitLastAt (cs.span fun c => !endsAuthority web c).1 = some (info, host)) :
      host ++ (cs.span fun c => !endsAuthority web c).2 <:+ cs := by
    refine ⟨info ++ ['@'], ?_⟩
    conv_rhs => rw [hspan, splitLastAt_eq_some hlast]
    simp
  simp only [skipUserInfo] at h
  split at h
  · cases h
    exact List.suffix_rfl
  · next hlast =>
    split at h
    · cases h
    · cases h
      exact hsuffix hlast
  · next hlast =>
    cases h
    exact hsuffix hlast

/-! ## Text behind a stop -/

variable {x : Char} {cs : List Char}

theorem skipUserInfo_append (hx : IsStop x) (h : x ∈ cs) (after : List Char) :
    skipUserInfo false (cs ++ after) =
        (skipUserInfo false cs).map (fun p => (p.1, p.2 ++ after)) ∧
      ∀ named rest, skipUserInfo false cs = .ok (named, rest) → x ∈ rest := by
  obtain ⟨hspan, hmem⟩ := Text.span_append_of_mem (p := fun c => !endsAuthority false c)
    (by simp [hx.endsAuthority]) h after
  simp only [skipUserInfo, hspan]
  generalize (cs.span fun c => !endsAuthority false c).1 = authority
  generalize (cs.span fun c => !endsAuthority false c).2 = rest at hmem ⊢
  have hhead (host : List Char) : (host ++ (rest ++ after)).head? = (host ++ rest).head? := by
    obtain ⟨c, r, rfl⟩ := List.exists_cons_of_ne_nil (List.ne_nil_of_mem hmem)
    cases host <;> rfl
  rcases hlast : splitLastAt authority with - | ⟨_ | ⟨c, info⟩, host⟩
  · simpa [Except.map] using h
  · by_cases hend : (host ++ rest).head?.any (endsAuthority false)
    · simp [hhead, hend, Except.map, -List.head?_append]
    · simp [hhead, hend, Except.map, hmem, -List.head?_append]
  · simp [Except.map, hmem]

theorem spanHost_append (hx : IsStop x) (inside : Bool) (h : x ∈ cs) (after : List Char) :
    spanHost false inside (cs ++ after) =
        ((spanHost false inside cs).1, (spanHost false inside cs).2 ++ after) ∧
      x ∈ (spanHost false inside cs).2 := by
  induction cs generalizing inside with
  | nil => simp at h
  | cons c cs ih =>
    rw [List.cons_append, spanHost, spanHost]
    by_cases hc : endsAuthority false c || (c == ':' && !inside)
    · rw [if_pos hc, if_pos hc]
      exact ⟨rfl, h⟩
    · have hmem : x ∈ cs := by
        rcases List.mem_cons.mp h with rfl | h
        · simp [hx.endsAuthority] at hc
        · exact h
      obtain ⟨heq, hrest⟩ := ih (c == '[' || (inside && c != ']')) hmem
      rw [if_neg hc, if_neg hc, heq]
      exact ⟨rfl, hrest⟩

theorem skipPort_append (hx : IsStop x) (n : Nat) (h : x ∈ cs) (after : List Char) :
    skipPort n (cs ++ after) = (skipPort n cs).map (· ++ after) ∧
      ∀ rest, skipPort n cs = .ok rest → x ∈ rest := by
  induction cs generalizing n with
  | nil => simp at h
  | cons c cs ih =>
    rw [List.cons_append, skipPort, skipPort]
    cases hd : Text.digit? 10 c with
    | some d =>
      have hmem : x ∈ cs := by
        rcases List.mem_cons.mp h with rfl | h
        · rcases hx with rfl | rfl <;> cases hd
        · exact h
      by_cases hlt : 10 * n + d < 65536
      · simpa [hlt] using ih (10 * n + d) hmem
      · simp [hlt, Except.map]
    | none =>
      by_cases hc : c == '/' || c == '\\' || c == '?' || c == '#'
      · simp only [hc, if_true, Except.map]
        exact ⟨rfl, fun rest hrest => Except.ok.inj hrest ▸ h⟩
      · simp [hc, Except.map]

/-- The text behind a host and its port, of which the port is not read yet. -/
def behindHost (host : List Char) : List Char → Except UrlError (List Char)
  | ':' :: r => if host.isEmpty then .error .emptyHost else skipPort 0 r
  | r => .ok r

theorem behindHost_append (hx : IsStop x) (host : List Char) (h : x ∈ cs) (after : List Char) :
    behindHost host (cs ++ after) = (behindHost host cs).map (· ++ after) ∧
      ∀ rest, behindHost host cs = .ok rest → x ∈ rest := by
  obtain ⟨c, cs, rfl⟩ := List.exists_cons_of_ne_nil (List.ne_nil_of_mem h)
  by_cases hc : c = ':'
  · subst hc
    have hmem : x ∈ cs := by
      rcases List.mem_cons.mp h with rfl | h
      · rcases hx with hx | hx <;> cases hx
      · exact h
    by_cases hempty : host.isEmpty
    · simp [behindHost, hempty, Except.map]
    · simpa [behindHost, hempty] using skipPort_append hx 0 hmem after
  · simpa [behindHost, hc, Except.map] using h

theorem behindHost_eq_ok {host rest : List Char}
    (hhead : ∀ c, cs.head? = some c → endsAuthority false c ∨ c = ':')
    (h : behindHost host cs = .ok rest) :
    rest <:+ cs ∧ ∀ c, rest.head? = some c → c ∈ ['/', '\\', '?', '#'] := by
  unfold behindHost at h
  split at h
  · split at h
    · cases h
    · obtain ⟨hsuffix, hend⟩ := skipPort_eq_ok h
      exact ⟨hsuffix.trans (List.suffix_cons _ _), hend⟩
  · next hno =>
    obtain rfl := Except.ok.inj h
    refine ⟨List.suffix_rfl, fun c hc => ?_⟩
    rcases hhead c hc with hend | rfl
    · simp only [endsAuthority, Bool.or_eq_true, beq_iff_eq] at hend
      grind
    · obtain ⟨r, rfl⟩ := List.head?_eq_some_iff.mp hc
      exact absurd rfl (hno r)

/-- The text behind a host and its port. -/
def skipPlace (named : Bool) (cs : List Char) : Except UrlError (List Char) := do
  let (host, rest) := spanHost false false cs
  checkHost false host
  let rest ← behindHost host rest
  if host.isEmpty && named then .error .emptyHost else .ok rest

theorem skipAuthority_eq (cs : List Char) :
    skipAuthority false cs = skipUserInfo false cs >>= fun p => skipPlace p.1 p.2 := by
  unfold skipAuthority skipPlace
  congr 1
  funext ⟨named, place⟩
  dsimp only
  rcases spanHost false false place with ⟨host, rest⟩
  dsimp only
  congr 1
  funext _
  split
  · rw [behindHost]
    split <;> rfl
  · next hno =>
    rw [behindHost]
    exact hno

theorem skipPlace_append (hx : IsStop x) (named : Bool) (h : x ∈ cs) (after : List Char) :
    skipPlace named (cs ++ after) = (skipPlace named cs).map (· ++ after) ∧
      ∀ rest, skipPlace named cs = .ok rest → x ∈ rest := by
  obtain ⟨heq, hmem⟩ := spanHost_append hx false h after
  simp only [skipPlace, heq]
  generalize (spanHost false false cs).1 = host
  generalize (spanHost false false cs).2 = rest at hmem ⊢
  cases checkHost false host with
  | error e => simp [bind, Except.bind, Except.map]
  | ok =>
    obtain ⟨hrest, hstop⟩ := behindHost_append hx host hmem after
    rw [hrest]
    cases hb : behindHost host rest with
    | error e => simp [bind, Except.bind, Except.map]
    | ok r =>
      by_cases hempty : host.isEmpty && named
      · simp [bind, Except.bind, Except.map, hempty]
      · simpa [bind, Except.bind, Except.map, hempty] using hstop r hb

/-- Nothing behind a question mark or a number sign has a part in an authority. -/
theorem skipAuthority_append (hx : IsStop x) (h : x ∈ cs) (after : List Char) :
    skipAuthority false (cs ++ after) = (skipAuthority false cs).map (· ++ after) ∧
      ∀ rest, skipAuthority false cs = .ok rest → x ∈ rest := by
  obtain ⟨heq, hmem⟩ := skipUserInfo_append hx h after
  rw [skipAuthority_eq, skipAuthority_eq, heq]
  cases hinfo : skipUserInfo false cs with
  | error e => simp [bind, Except.bind, Except.map]
  | ok p => exact skipPlace_append hx p.1 (hmem p.1 p.2 hinfo) after

theorem skipPlace_eq_ok {named : Bool} {rest : List Char} (h : skipPlace named cs = .ok rest) :
    rest <:+ cs ∧ ∀ c, rest.head? = some c → c ∈ ['/', '\\', '?', '#'] := by
  obtain ⟨-, -, h⟩ := bind_eq_ok h
  obtain ⟨rest', hrest, h⟩ := bind_eq_ok h
  split at h
  · cases h
  · obtain rfl := Except.ok.inj h
    obtain ⟨hsuffix, hhead⟩ := behindHost_eq_ok (fun c => spanHost_head) hrest
    exact ⟨hsuffix.trans (spanHost_suffix false false cs), hhead⟩

/-- Behind an authority comes an end of the text, which starts where the authority may end. -/
theorem skipAuthority_eq_ok {rest : List Char} (h : skipAuthority false cs = .ok rest) :
    rest <:+ cs ∧ ∀ c, rest.head? = some c → c ∈ ['/', '\\', '?', '#'] := by
  rw [skipAuthority_eq] at h
  obtain ⟨⟨named, place⟩, hinfo, h⟩ := bind_eq_ok h
  obtain ⟨hsuffix, hhead⟩ := skipPlace_eq_ok h
  exact ⟨hsuffix.trans (skipUserInfo_suffix hinfo), hhead⟩

/-! ## Paths and queries -/

/-- A text has at most one first stop. -/
theorem stop_unique {y : Char} {front back front' back' : List Char} (hfront : IsPathText front)
    (hfront' : IsPathText front') (hx : IsStop x) (hy : IsStop y)
    (h : front ++ x :: back = front' ++ y :: back') : front = front' ∧ x = y ∧ back = back' := by
  have hspan := span_stop hfront hx back
  rw [h, span_stop hfront' hy, Prod.mk.injEq, List.cons.injEq] at hspan
  exact ⟨hspan.1.symm, hspan.2.1.symm, hspan.2.2.symm⟩

theorem head_append_stop (hx : IsStop x) (h : cs.head? ≠ some '/') (after : List Char) :
    (cs ++ x :: after).head? ≠ some '/' := by
  cases cs with
  | nil =>
    rcases hx with rfl | rfl <;> simp
  | cons c cs => simpa using h

theorem IsPathText.of_suffix {path front : List Char} (h : IsPathText path) (hs : front <:+ path) :
    IsPathText front := fun c hc => h c (hs.subset hc)

/-- What starts with a stop decides the query alone, and the text in front of it the path. -/
theorem readGeneric_append {path : List Char} (hpath : IsPathText path) (hx : IsStop x)
    {after : List Char} {scheme : String} {url : Url}
    (h : readGeneric scheme (path ++ x :: after) = .ok url) :
    ∃ p, url = .generic scheme p (splitQuery (x :: after)).2 ∧
      readGeneric scheme (path ++ [x]) = .ok (.generic scheme p []) := by
  have hend : (splitQuery [x]).2 = [] := by
    rcases hx with rfl | rfl <;> rfl
  rcases body_cases path with hhead | ⟨r, rfl, hhead⟩ | ⟨r, rfl⟩
  · rw [readGeneric_unslashed (head_append_stop hx hhead after), splitQuery_append hpath hx] at h
    refine ⟨opaquePath path, (Except.ok.inj h).symm, ?_⟩
    rw [readGeneric_unslashed (head_append_stop hx hhead []), splitQuery_append hpath hx, hend]
  · have hr : IsPathText r := hpath.of_suffix (List.suffix_cons _ _)
    rw [List.cons_append, readGeneric_slash (head_append_stop hx hhead after),
      splitQuery_append hr hx] at h
    refine ⟨segmentPath r, (Except.ok.inj h).symm, ?_⟩
    rw [List.cons_append, readGeneric_slash (head_append_stop hx hhead []),
      splitQuery_append hr hx, hend]
  · have hr : IsPathText r :=
      hpath.of_suffix ((List.suffix_cons _ _).trans (List.suffix_cons _ _))
    have happ : r ++ x :: after = (r ++ [x]) ++ after := by simp
    obtain ⟨heq, hmem⟩ := skipAuthority_append hx (show x ∈ r ++ [x] by simp) after
    rw [List.cons_append, List.cons_append, readGeneric_slashes, happ, heq] at h
    rw [List.cons_append, List.cons_append, readGeneric_slashes]
    cases hskip : skipAuthority false (r ++ [x]) with
    | error e => simp [hskip, Except.map] at h
    | ok rest =>
      -- The rest ends in the stop, which is the only one in front of `after`.
      obtain ⟨path', hrest, hpath'⟩ : ∃ path', rest = path' ++ [x] ∧ IsPathText path' := by
        rcases List.suffix_concat_iff.mp (skipAuthority_eq_ok hskip).1 with hnil | ⟨p, hp, hsuffix⟩
        · exact absurd (hmem rest hskip) (by simp [hnil])
        · exact ⟨p, hp, hr.of_suffix hsuffix⟩
      subst hrest
      rw [hskip] at h
      simp only [Except.map, List.append_assoc, List.cons_append, List.nil_append,
        splitQuery_append hpath' hx] at h ⊢
      exact ⟨authorityPath path', (Except.ok.inj h).symm, by rw [hend]⟩

theorem suffix_append_of_head {front tail : List Char} {c : Char} (hsuffix : front <:+ cs ++ tail)
    (hhead : front.head? = some c) (hc : c ∉ tail) :
    ∃ p, front = p ++ tail ∧ p ≠ [] ∧ p <:+ cs := by
  have hmem : c ∈ front := List.mem_of_mem_head? hhead
  obtain ⟨before, happ⟩ := hsuffix
  rcases List.append_eq_append_iff.mp happ with ⟨p, rfl, rfl⟩ | ⟨p, -, rfl⟩
  · refine ⟨p, rfl, ?_, List.suffix_append before p⟩
    rintro rfl
    exact hc hmem
  · exact absurd (List.mem_append_right p hmem) hc

/-- The path of a text that ends in front of a question mark ends like the text, unless an authority
leaves no path. -/
theorem readGeneric_append_tail {path tail : List Char} (hpath : IsPathText path)
    (ht : IsPathEnd tail) {scheme : String} {p : List Char}
    (h : readGeneric scheme (path ++ tail ++ ['?']) = .ok (.generic scheme p [])) :
    p = [] ∨ ∃ init, p = init ++ tail := by
  have hq : IsStop '?' := .inl rfl
  have happ {r : List Char} (hr : IsPathText r) : IsPathText (r ++ tail) := fun c hc =>
    (List.mem_append.mp hc).elim (hr c) (ht.isPathText c)
  have hhead {r : List Char} (hr : r.head? ≠ some '/') : (r ++ tail).head? ≠ some '/' := by
    cases r with
    | nil => exact fun h => ht.notMem_slash (List.mem_of_mem_head? h)
    | cons c r => simpa using hr
  rcases body_cases path with hslash | ⟨r, rfl, hslash⟩ | ⟨r, rfl⟩
  · rw [readGeneric_unslashed (head_append_stop hq (hhead hslash) []),
      splitQuery_append (happ hpath) hq, Except.ok.injEq, Url.generic.injEq] at h
    exact .inr ⟨opaquePath path, h.2.1.symm.trans (opaquePath_append ht path)⟩
  · have hr : IsPathText r := hpath.of_suffix (List.suffix_cons _ _)
    rw [List.cons_append, List.cons_append,
      readGeneric_slash (head_append_stop hq (hhead hslash) []), splitQuery_append (happ hr) hq,
      Except.ok.injEq, Url.generic.injEq] at h
    obtain ⟨init, hinit⟩ := segmentPath_append ht r
    exact .inr ⟨init, h.2.1.symm.trans hinit⟩
  · have hr : IsPathText r :=
      hpath.of_suffix ((List.suffix_cons _ _).trans (List.suffix_cons _ _))
    rw [List.cons_append, List.cons_append, List.cons_append, List.cons_append,
      readGeneric_slashes] at h
    cases hskip : skipAuthority false (r ++ tail ++ ['?']) with
    | error e =>
      rw [hskip] at h
      cases h
    | ok rest =>
      rw [hskip, Except.map, Except.ok.injEq, Url.generic.injEq] at h
      obtain ⟨-, rfl, -⟩ := h
      obtain ⟨hsuffix, hend⟩ := skipAuthority_eq_ok hskip
      rcases List.suffix_concat_iff.mp hsuffix with rfl | ⟨front, rfl, hfront⟩
      · exact .inl rfl
      · rw [splitQuery_append ((happ hr).of_suffix hfront) hq]
        cases hc : front.head? with
        | none =>
          rw [List.head?_eq_none_iff.mp hc]
          exact .inl rfl
        | some c =>
          have hmem := hend c (by simp [hc])
          obtain ⟨init, rfl, hne, -⟩ :=
            suffix_append_of_head hfront hc fun htail => ht.noEnd c htail hmem
          exact .inr (authorityPath_append ht hne)

end RtcConfig.Url
