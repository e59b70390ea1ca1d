import RtcConfig.Proofs.Json.Number
import RtcConfig.Proofs.Json.String

/-! # Writing and reading JSON values

A value in which nothing is garbled and no number is beyond the doubles is read back as it is
written. What is written holds no blanks, and every value ends where it is seen to end: in front of
a comma, a bracket, a brace or the end of the text.
-/

namespace RtcConfig.Json

mutual

/-- Whether the text of a value denotes the value. -/
def isDenotable : Json → Bool
  | .garbled => false
  | .number x => x.isFinite
  | .array items => itemsDenotable items
  | .object members => membersDenotable members
  | _ => true

def itemsDenotable : List Json → Bool
  | [] => true
  | v :: vs => v.isDenotable && itemsDenotable vs

def membersDenotable : Members → Bool
  | [] => true
  | (_, v) :: ms => v.isDenotable && membersDenotable ms

end

/-! ## Where values start and end -/

theorem skipBlank_cons {c : Char} (h : isBlank c = false) (cs : List Char) :
    skipBlank (c :: cs) = c :: cs := by
  rw [skipBlank, List.dropWhile_cons, h]
  rfl

theorem isBlank_of_isDigit {c : Char} (h : c.isDigit) : isBlank c = false := by
  have hnot : c ∉ [' ', '\t', '\n', '\r'] := Text.notMem_of_isDigit h (by decide)
  simpa [isBlank, and_assoc] using hnot

theorem endsNumber_cons {c : Char} (h : c ∈ [',', ']', '\x7d']) (rest : List Char) :
    EndsNumber (c :: rest) := by
  intro d hd
  obtain rfl : c = d := by simpa using hd
  simp only [List.mem_cons, List.not_mem_nil, or_false] at h
  obtain rfl | rfl | rfl := h <;> decide

theorem endsNumber_writeItems (vs : List Json) (rest : List Char) :
    EndsNumber (writeItems vs ++ rest) := by
  cases vs with
  | nil => exact endsNumber_cons (by decide) _
  | cons v vs => exact endsNumber_cons (by decide) _

theorem endsNumber_writeMembers (ms : Members) (rest : List Char) :
    EndsNumber (writeMembers ms ++ rest) := by
  cases ms with
  | nil => exact endsNumber_cons (by decide) _
  | cons m ms => exact endsNumber_cons (by decide) _

/-- No value starts like the end of an array or with a blank. -/
theorem writeValue_cons (v : Json) :
    ∃ c cs, v.writeValue = c :: cs ∧ isBlank c = false ∧ c ≠ ']' := by
  cases v with
  | null => exact ⟨_, _, rfl, by decide⟩
  | bool b => cases b <;> exact ⟨_, _, rfl, by decide⟩
  | number x =>
    obtain ⟨c, cs, hcs, rfl | hc⟩ := writeNumber_cons x
    · exact ⟨_, cs, hcs, by decide⟩
    · refine ⟨c, cs, hcs, isBlank_of_isDigit hc, ?_⟩
      rintro rfl
      cases hc
  | string s => exact ⟨_, _, rfl, by decide⟩
  | array items => cases items <;> exact ⟨_, _, rfl, by decide⟩
  | object members => cases members <;> exact ⟨_, _, rfl, by decide⟩
  | garbled => exact ⟨_, _, rfl, by decide⟩

theorem readValue_number {fuel : Nat} {cs : List Char} {c : Char} (h : c = '-' ∨ c.isDigit) :
    readValue (fuel + 1) (c :: cs) = (readNumber (c :: cs)).map fun p => (ofNumber p.1, p.2) := by
  have hblank : isBlank c = false := by
    rcases h with rfl | h
    · rfl
    · exact isBlank_of_isDigit h
  have hnot (d : Char) (hd : d ≠ '-') (hdigit : d.isDigit = false) : c ≠ d := by
    rintro rfl
    rcases h with h | h
    · exact hd h
    · rw [hdigit] at h
      cases h
  rw [readValue, skipBlank_cons hblank]
  split
  case h_7 => rfl
  all_goals
    next heq => exact absurd (List.cons.inj heq).1 (hnot _ (by decide) rfl)

/-! ## Values -/

theorem ofMembers_some (ms : Members) :
    ofMembers (ms.map fun m => (some m.1, m.2)) = .object ms := by
  have hnames : (ms.map fun m => (some m.1, m.2)).mapM
      (fun m : Option String × Json => m.1.map fun name => (name, m.2)) = some ms := by
    induction ms with
    | nil => rfl
    | cons m ms ih => rw [List.map_cons, List.mapM_cons, ih]; rfl
  rw [ofMembers, hnames]

mutual

theorem readValue_writeValue (v : Json) (hv : v.isDenotable) (fuel : Nat)
    (hfuel : 2 * v.writeValue.length ≤ fuel) (rest : List Char) (hrest : EndsNumber rest) :
    readValue fuel (v.writeValue ++ rest) = some (v, rest) := by
  obtain ⟨c, cs, hcs, -⟩ := writeValue_cons v
  have hpos : 0 < v.writeValue.length := by simp [hcs]
  obtain ⟨fuel, rfl⟩ : ∃ n, fuel = n + 1 := ⟨fuel - 1, by omega⟩
  match v with
  | .null => rfl
  | .bool true => rfl
  | .bool false => rfl
  | .number x =>
    have hfinite : x.isFinite = true := by simpa [isDenotable] using hv
    obtain ⟨c, cs, hcs, hc⟩ := writeNumber_cons x
    have hread := readNumber_writeNumber x hrest
    rw [hcs, List.cons_append] at hread
    rw [writeValue, hcs, List.cons_append, readValue_number hc, hread, Option.map_some, ofNumber,
      if_pos hfinite]
  | .string s =>
    obtain ⟨cs, hcs, hread⟩ := readString_writeString s rest
    rw [writeValue, hcs]
    show (readString cs).map _ = _
    rw [hread]
    rfl
  | .garbled => simp [isDenotable] at hv
  | .array [] => rfl
  | .array (w :: ws) =>
    have hitems : itemsDenotable (w :: ws) := by simpa [isDenotable] using hv
    have hread := readItems_writeItems w ws hitems fuel (by
      simp only [writeValue, List.length_cons] at hfuel
      omega) rest
    obtain ⟨c, cs, hcs, hblank, hbracket⟩ := writeValue_cons w
    rw [writeValue, List.cons_append, readValue, skipBlank_cons (by decide)]
    rw [hcs, List.cons_append, List.cons_append] at hread ⊢
    simp only [skipBlank_cons hblank]
    split
    · next heq => exact absurd (List.cons.inj heq).1 hbracket
    · rw [hread]
      rfl
  | .object [] => rfl
  | .object ((name, w) :: ms) =>
    have hmembers : membersDenotable ((name, w) :: ms) := by simpa [isDenotable] using hv
    have hread := readMembers_writeMembers name w ms hmembers fuel (by
      simp only [writeValue, List.length_cons] at hfuel
      omega) rest
    rw [writeValue, List.cons_append, readValue, skipBlank_cons (by decide)]
    have htext : writeString name ++ ':' :: (w.writeValue ++ writeMembers ms) ++ rest =
        '"' :: (name.toList.flatMap escapeChar ++ ['"'] ++
          ':' :: (w.writeValue ++ writeMembers ms) ++ rest) := rfl
    rw [htext] at hread ⊢
    show (readMembers fuel _).map _ = _
    rw [hread, Option.map_some, ofMembers_some]
termination_by fuel

theorem readItems_writeItems (v : Json) (vs : List Json) (hvs : itemsDenotable (v :: vs))
    (fuel : Nat) (hfuel : 2 * (v.writeValue ++ writeItems vs).length + 1 ≤ fuel)
    (rest : List Char) :
    readItems fuel (v.writeValue ++ writeItems vs ++ rest) = some (v :: vs, rest) := by
  obtain ⟨fuel, rfl⟩ : ∃ n, fuel = n + 1 := ⟨fuel - 1, by omega⟩
  rw [List.length_append] at hfuel
  obtain ⟨hv, hvs⟩ : v.isDenotable ∧ itemsDenotable vs := by
    simpa [itemsDenotable] using hvs
  have hread := readValue_writeValue v hv fuel (by omega) _ (endsNumber_writeItems vs rest)
  rw [readItems, List.append_assoc, hread]
  match vs with
  | [] => rfl
  | w :: ws =>
    have hmore := readItems_writeItems w ws hvs fuel (by
      rw [writeItems, List.length_cons] at hfuel
      omega) rest
    rw [writeItems, List.cons_append]
    show (readItems fuel _).map _ = _
    rw [hmore]
    rfl
termination_by fuel

theorem readMembers_writeMembers (name : String) (v : Json) (ms : Members)
    (hms : membersDenotable ((name, v) :: ms)) (fuel : Nat)
    (hfuel : 2 * (writeString name ++ ':' :: (v.writeValue ++ writeMembers ms)).length + 1 ≤ fuel)
    (rest : List Char) :
    readMembers fuel (writeString name ++ ':' :: (v.writeValue ++ writeMembers ms) ++ rest) =
      some (((name, v) :: ms).map fun m => (some m.1, m.2), rest) := by
  obtain ⟨fuel, rfl⟩ : ∃ n, fuel = n + 1 := ⟨fuel - 1, by omega⟩
  rw [List.length_append, List.length_cons, List.length_append] at hfuel
  obtain ⟨hv, hms⟩ : v.isDenotable ∧ membersDenotable ms := by
    simpa [membersDenotable] using hms
  have hread := readValue_writeValue v hv fuel (by omega) _ (endsNumber_writeMembers ms rest)
  obtain ⟨cs, hcs, hname⟩ := readString_writeString name
    (':' :: (v.writeValue ++ (writeMembers ms ++ rest)))
  have htext : writeString name ++ ':' :: (v.writeValue ++ writeMembers ms) ++ rest =
      writeString name ++ ':' :: (v.writeValue ++ (writeMembers ms ++ rest)) := by
    simp
  have hcolon : skipBlank (':' :: (v.writeValue ++ (writeMembers ms ++ rest))) =
      ':' :: (v.writeValue ++ (writeMembers ms ++ rest)) := rfl
  rw [readMembers, htext, hcs, skipBlank_cons (by decide)]
  simp only [hname, Option.bind_eq_bind, Option.bind_some, hcolon, hread]
  match ms with
  | [] => rfl
  | (name', w) :: ms =>
    have hmore := readMembers_writeMembers name' w ms hms fuel (by
      rw [writeMembers, List.length_cons] at hfuel
      omega) rest
    rw [writeMembers, List.cons_append, skipBlank_cons (by decide)]
    simp only [hmore]
    rfl
termination_by fuel

end

/-- The text of a value denotes the value. -/
theorem read_write {v : Json} (h : v.isDenotable) : read v.write = some v := by
  have hread := readValue_writeValue v h (2 * v.writeValue.length + 2) (by omega) []
    (by simp [EndsNumber])
  rw [List.append_nil] at hread
  rw [write, read, String.toList_ofList]
  simp only [hread]
  rfl

end RtcConfig.Json
