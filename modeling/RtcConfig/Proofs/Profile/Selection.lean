import RtcConfig.Profile.Basic
import Mathlib.Data.List.Nodup

/-! # Selecting strategies

What is left of a profile after strategies are selected one after another. A selection exchanges one
entry for another in both lists of the profile, and only the last one shows in the end: either all
selections agree and the first of them does everything, or the entries of both strategies are gone
from where they stood and those of the last one stand at the end.
-/

namespace RtcConfig

/-! ## Exchanging an element -/

section Exchange

variable {α : Type} [DecidableEq α] {old new x : α} {l : List α}

/-- Removes one element and adds another at the end, unless it is there. -/
def exchange (old new : α) (l : List α) : List α :=
  let kept := l.filter (· != old)
  if kept.contains new then kept else kept ++ [new]

theorem exchange_of_mem (h : new ∈ l.filter (· != old)) :
    exchange old new l = l.filter (· != old) := by
  rw [exchange, if_pos (List.contains_iff_mem.mpr h)]

theorem exchange_of_notMem (h : new ∉ l.filter (· != old)) :
    exchange old new l = l.filter (· != old) ++ [new] := by
  rw [exchange, if_neg (mt List.contains_iff_mem.mp h)]

theorem mem_exchange : x ∈ exchange old new l ↔ x = new ∨ x ∈ l ∧ x ≠ old := by
  have hkept : x ∈ l.filter (· != old) ↔ x ∈ l ∧ x ≠ old := by
    simp
  by_cases h : new ∈ l.filter (· != old)
  · rw [exchange_of_mem h, ← hkept]
    constructor
    · exact .inr
    · rintro (rfl | hx)
      · exact h
      · exact hx
  · rw [exchange_of_notMem h, List.mem_append, List.mem_singleton, hkept, or_comm]

theorem nodup_exchange (h : l.Nodup) : (exchange old new l).Nodup := by
  have hkept : (l.filter (· != old)).Nodup := h.filter _
  by_cases hnew : new ∈ l.filter (· != old)
  · rwa [exchange_of_mem hnew]
  · rw [exchange_of_notMem hnew]
    exact List.nodup_append_comm.mp (List.nodup_cons.mpr ⟨hnew, hkept⟩)

/-- A part of a list without the new element comes from the elements that are kept. -/
theorem filter_exchange {q : α → Bool} (h : q new = false) :
    (exchange old new l).filter q = (l.filter (· != old)).filter q := by
  by_cases hnew : new ∈ l.filter (· != old)
  · rw [exchange_of_mem hnew]
  · rw [exchange_of_notMem hnew, List.filter_append, List.filter_singleton, h]
    exact List.append_nil _

/-- Nothing is left to exchange a second time. -/
theorem exchange_exchange (h : old ≠ new) :
    exchange old new (exchange old new l) = exchange old new l := by
  have hkept : (exchange old new l).filter (· != old) = exchange old new l := by
    refine List.filter_eq_self.mpr fun x hx => bne_iff_ne.mpr ?_
    rcases mem_exchange.mp hx with rfl | hx
    · exact h.symm
    · exact hx.2
  rw [exchange_of_mem, hkept]
  rw [hkept]
  exact mem_exchange.mpr (.inl rfl)

/-- An element that was exchanged away comes back at the end. -/
theorem exchange_exchange_back (h : old ≠ new) :
    exchange old new (exchange new old l) = l.filter (fun x => x != new && x != old) ++ [new] := by
  have hgone : new ∉ (exchange new old l).filter (· != old) := by
    intro hmem
    rcases mem_exchange.mp (List.mem_filter.mp hmem).1 with heq | hmem
    · exact h heq.symm
    · exact hmem.2 rfl
  have hkept : (exchange new old l).filter (· != old) =
      (l.filter (· != new)).filter (· != old) := filter_exchange (bne_self_eq_false old)
  rw [exchange_of_notMem hgone, hkept, List.filter_filter]
  simp only [Bool.and_comm]

end Exchange

/-! ## One selection -/

namespace CongestionStrategy

theorem other_other (s : CongestionStrategy) : s.other.other = s := by
  cases s <;> rfl

theorem eq_or_eq_other (s t : CongestionStrategy) : t = s ∨ t = s.other := by
  cases s <;> cases t <;> decide

theorem other_ne (s : CongestionStrategy) : s.other ≠ s := by
  cases s <;> decide

theorem extension_other_ne (s : CongestionStrategy) : s.other.extension ≠ s.extension := by
  cases s <;> decide

theorem feedback_other_ne (s : CongestionStrategy) : s.other.feedback ≠ s.feedback := by
  cases s <;> decide

end CongestionStrategy

namespace MediaProfile

variable (p : MediaProfile) (s : CongestionStrategy)

theorem select_eq : p.select s =
    ⟨exchange s.other.extension s.extension p.extensions,
      exchange s.other.feedback s.feedback p.feedback⟩ := rfl

/-- The entries of a profile that belong to no strategy. -/
def neutral : MediaProfile :=
  ⟨p.extensions.filter fun x => x != .transportCc && x != .absSendTime,
    p.feedback.filter fun f => f != ⟨"transport-cc", ""⟩ && f != ⟨"goog-remb", ""⟩⟩

/-- The entries that belong to no strategy, and behind them those of one. -/
def neutralThen : MediaProfile :=
  ⟨p.neutral.extensions ++ [s.extension], p.neutral.feedback ++ [s.feedback]⟩

/-- The entries that a selection does not exchange are the same for either strategy. -/
theorem neutral_eq : p.neutral =
    ⟨p.extensions.filter fun x => x != s.extension && x != s.other.extension,
      p.feedback.filter fun f => f != s.feedback && f != s.other.feedback⟩ := by
  cases s with
  | sendSide => rfl
  | receiverSide =>
    simp only [neutral, Bool.and_comm]
    rfl

theorem neutral_select : (p.select s).neutral = p.neutral := by
  rw [neutral_eq _ s, neutral_eq p s, select_eq]
  rw [filter_exchange (by simp), filter_exchange (by simp), List.filter_filter, List.filter_filter]
  simp

theorem select_select : (p.select s).select s = p.select s :=
  congrArg₂ MediaProfile.mk (exchange_exchange s.extension_other_ne)
    (exchange_exchange s.feedback_other_ne)

/-- After both strategies were selected the entries of the last one stand at the end. -/
theorem select_other_select : (p.select s.other).select s = p.neutralThen s := by
  rw [neutralThen, neutral_eq p s, select_eq, select_eq, s.other_other]
  exact congrArg₂ MediaProfile.mk (exchange_exchange_back s.extension_other_ne)
    (exchange_exchange_back s.feedback_other_ne)

/-! ## Selections in a row -/

/-- The profile after strategies are selected one after another. -/
def selectAll (p : MediaProfile) (ss : List CongestionStrategy) : MediaProfile := ss.foldl select p

variable {p s}

theorem neutral_selectAll (ss : List CongestionStrategy) :
    (p.selectAll ss).neutral = p.neutral := by
  induction ss generalizing p with
  | nil => rfl
  | cons t ss ih =>
    calc ((p.select t).selectAll ss).neutral
      _ = (p.select t).neutral := ih
      _ = p.neutral := p.neutral_select t

theorem selectAll_concat (ss : List CongestionStrategy) :
    p.selectAll (ss ++ [s]) = (p.selectAll ss).select s :=
  List.foldl_append

/-- The last selection is the only one that shows: the profile is the one that it gives alone, or,
if the other strategy was selected before, the neutral entries and behind them those of the last
one. -/
theorem selectAll_concat_eq (p : MediaProfile) (ss : List CongestionStrategy)
    (s : CongestionStrategy) :
    p.selectAll (ss ++ [s]) = if s.other ∈ ss then p.neutralThen s else p.select s := by
  induction ss generalizing p with
  | nil => rfl
  | cons t ss ih =>
    have hstep : p.selectAll (t :: ss ++ [s]) = (p.select t).selectAll (ss ++ [s]) := rfl
    have hneutral : (p.select t).neutralThen s = p.neutralThen s := by
      rw [neutralThen, neutral_select, neutralThen]
    rw [hstep, ih, hneutral]
    -- The last selection repeats the first one, or it exchanges back what the first one removed.
    rcases s.eq_or_eq_other t with rfl | rfl
    · have hmem : t.other ∈ t :: ss ↔ t.other ∈ ss := by
        rw [List.mem_cons, or_iff_right t.other_ne]
      simp only [hmem, select_select]
    · rw [select_other_select, if_pos List.mem_cons_self, ite_self]

/-- If all selections agree they do what one does, and otherwise the entries of both strategies are
gone from where they stood and those of the last one stand at the end. All other entries keep their
order and number. -/
theorem selectAll_of_last (p : MediaProfile) {ss : List CongestionStrategy}
    (h : ss.getLast? = some s) :
    ((∀ t ∈ ss, t = s) → p.selectAll ss = p.select s) ∧
      (s.other ∈ ss → p.selectAll ss = p.neutralThen s) ∧
      (p.selectAll ss).neutral = p.neutral ∧
      (p.select s).select s = p.select s := by
  obtain ⟨init, rfl⟩ := List.getLast?_eq_some_iff.mp h
  have hlast := selectAll_concat_eq p init s
  refine ⟨fun hall => ?_, fun hother => ?_, neutral_selectAll _, p.select_select s⟩
  · have hnone : s.other ∉ init := fun hmem =>
      s.other_ne (hall s.other (List.mem_append_left _ hmem))
    rw [hlast, if_neg hnone]
  · have hsome : s.other ∈ init := by
      rcases List.mem_append.mp hother with hmem | hmem
      · exact hmem
      · exact absurd (List.mem_singleton.mp hmem) s.other_ne
    rw [hlast, if_pos hsome]

/-- A profile that holds entries of both strategies, and some of them twice. -/
def mixed : MediaProfile :=
  ⟨[.transportCc, .sdesMid, .absSendTime, .transportCc],
    [⟨"goog-remb", ""⟩, ⟨"nack", ""⟩, ⟨"transport-cc", ""⟩, ⟨"nack", ""⟩]⟩

theorem selectAll_of_last_mixed :
    [CongestionStrategy.sendSide, .sendSide].getLast? = some .sendSide ∧
      mixed.selectAll [.sendSide, .sendSide] = mixed.select .sendSide ∧
      mixed.select .sendSide = ⟨[.transportCc, .sdesMid, .transportCc],
        [⟨"nack", ""⟩, ⟨"transport-cc", ""⟩, ⟨"nack", ""⟩]⟩ ∧
    [CongestionStrategy.sendSide, .receiverSide, .sendSide].getLast? = some .sendSide ∧
      mixed.selectAll [.sendSide, .receiverSide, .sendSide] =
        ⟨[.sdesMid, .transportCc], [⟨"nack", ""⟩, ⟨"nack", ""⟩, ⟨"transport-cc", ""⟩]⟩ := by
  have hsame : [CongestionStrategy.sendSide, .sendSide].getLast? = some .sendSide := rfl
  have hback : [CongestionStrategy.sendSide, .receiverSide, .sendSide].getLast? =
      some .sendSide := rfl
  obtain ⟨hselect, -⟩ := selectAll_of_last mixed hsame
  obtain ⟨-, hneutral, -⟩ := selectAll_of_last mixed hback
  exact ⟨hsame, hselect (by decide), by decide, hback, (hneutral (by decide)).trans (by decide)⟩

end MediaProfile

end RtcConfig
