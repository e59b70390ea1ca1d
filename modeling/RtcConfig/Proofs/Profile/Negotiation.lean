import RtcConfig.Profile.Negotiation
import RtcConfig.Proofs.Media.Vocabulary
import RtcConfig.Proofs.Profile.WellFormed

/-! # What is negotiated

A negotiation keeps of a list what the remote side holds as well. Extensions are compared after
their URIs were read and feedback entries after the unknown ones were dropped; for the profiles that
occur neither makes a difference, so that what is found is a matter of the texts alone.
-/

namespace RtcConfig

/-! ## Common elements -/

section Common

variable {α β : Type} [BEq β] [LawfulBEq β] {key : α → β} {own own' : List α}
  {remote remote' : List β}

/-- The elements of a list whose keys the remote side holds. -/
def common (key : α → β) (own : List α) (remote : List β) : List α :=
  own.filter fun x => remote.contains (key x)

theorem mem_common {x : α} : x ∈ common key own remote ↔ x ∈ own ∧ key x ∈ remote := by
  rw [common, List.mem_filter, List.contains_iff_mem]

theorem common_congr (h : ∀ x ∈ own, key x ∈ remote ↔ key x ∈ remote') :
    common key own remote = common key own remote' := by
  refine List.filter_congr fun x hx => ?_
  rw [Bool.eq_iff_iff, List.contains_iff_mem, List.contains_iff_mem]
  exact h x hx

/-- What is common with less is a part of what is common with more. -/
theorem common_sublist (h : ∀ x ∈ own, key x ∈ remote → key x ∈ remote') :
    (common key own remote).Sublist (common key own remote') := by
  have hless : common key own remote = common key (common key own remote') remote := by
    rw [common, common, common, List.filter_filter]
    refine List.filter_congr fun x hx => ?_
    simpa using h x hx
  rw [hless]
  exact List.filter_sublist

end Common

namespace MediaProfile

/-- The profiles of both directions and the empty one, and what selections make of them. -/
inductive Reachable : MediaProfile → Prop
  | base {p : MediaProfile} (h : IsBase p) : Reachable p
  | select {p : MediaProfile} (h : Reachable p) (s : CongestionStrategy) : Reachable (p.select s)

variable {p : MediaProfile}

theorem Reachable.wellFormed (h : Reachable p) : p.WellFormed := by
  induction h with
  | base h => exact h.wellFormed
  | select _ s ih => exact ih.select s

/-! ## Extensions -/

/-- Negotiating extensions finds those of the profile whose URIs are offered. Neither the order of
an offer matters nor what is in it twice or is the URI of no extension, and more is found in
more. -/
structure FindsExtensions (p : MediaProfile) (uris : List String) : Prop where
  found : p.negotiateExtensions uris = p.extensions.filter fun x => uris.contains x.uri
  sublist : (p.negotiateExtensions uris).Sublist p.extensions
  nodup : (p.negotiateExtensions uris).Nodup
  noUnspecified : .unspecified ∉ p.negotiateExtensions uris
  sameUris : ∀ uris', (∀ u, u ∈ uris' ↔ u ∈ uris) →
    p.negotiateExtensions uris' = p.negotiateExtensions uris
  moreUnknown : ∀ unknown uris', (∀ u ∈ unknown, HeaderExtension.IsUnknownUri u) →
    uris'.Perm (uris ++ unknown) →
    p.negotiateExtensions uris' = p.negotiateExtensions uris
  grows : ∀ uris', (∀ u ∈ uris, u ∈ uris') →
    (p.negotiateExtensions uris).Sublist (p.negotiateExtensions uris')

theorem negotiateExtensions_eq (h : .unspecified ∉ p.extensions) (uris : List String) :
    p.negotiateExtensions uris = common HeaderExtension.uri p.extensions uris := by
  refine List.filter_congr fun x hx => ?_
  have hne : x ≠ .unspecified := fun heq => h (heq ▸ hx)
  rw [Bool.eq_iff_iff, List.contains_iff_mem, List.contains_iff_mem]
  simp [HeaderExtension.ofUri_eq_iff hne, hne]

/-- What is found of a profile is what the texts of the offer say, and the text of the unspecified
extension says nothing. -/
theorem Reachable.findsExtensions (h : Reachable p) (uris : List String) :
    p.FindsExtensions uris ∧ HeaderExtension.IsUnknownUri "Unspecified" := by
  have hp := h.wellFormed
  have hcommon := negotiateExtensions_eq hp.noUnspecified
  have hsublist : (p.negotiateExtensions uris).Sublist p.extensions := List.filter_sublist
  refine ⟨?_, HeaderExtension.isUnknownUri_unspecified⟩
  exact {
    found := hcommon uris
    sublist := hsublist
    nodup := hsublist.nodup hp.extensions_nodup
    noUnspecified := fun hmem => hp.noUnspecified (hsublist.subset hmem)
    sameUris := by
      intro uris' hsame
      rw [hcommon, hcommon]
      exact common_congr fun x _ => hsame x.uri
    moreUnknown := by
      intro unknown uris' hunknown hperm
      rw [hcommon, hcommon]
      refine common_congr fun x hx => ?_
      have hne : x ≠ .unspecified := fun heq => hp.noUnspecified (heq ▸ hx)
      have hnot : x.uri ∉ unknown := fun hmem => hunknown x.uri hmem x hne rfl
      rw [hperm.mem_iff, List.mem_append, or_iff_left hnot]
    grows := by
      intro uris' hmore
      rw [hcommon, hcommon]
      exact common_sublist fun x _ => hmore x.uri }

/-- The video profile of publishers after the other strategy was selected. -/
def receiverSideVideo : MediaProfile := DirectionProfile.publisher.video.select .receiverSide

theorem reachable_receiverSideVideo : Reachable receiverSideVideo :=
  .select (.base .publisherVideo) _

/-- An offer with one URI twice and two texts that are the URI of no extension. -/
def repeatingUris : List String :=
  ["http://www.webrtc.org/experiments/rtp-hdrext/abs-send-time", "Unspecified",
    "urn:ietf:params:rtp-hdrext:sdes:mid", "urn:3gpp:video-orientation",
    "urn:ietf:params:rtp-hdrext:sdes:mid"]

theorem findsExtensions_repeatingUris :
    Reachable receiverSideVideo ∧ receiverSideVideo.FindsExtensions repeatingUris ∧
      receiverSideVideo.negotiateExtensions repeatingUris = [.sdesMid, .absSendTime] :=
  ⟨reachable_receiverSideVideo, (reachable_receiverSideVideo.findsExtensions _).1,
    by decide +kernel⟩

/-! ## Feedback -/

/-- Negotiating feedback finds the entries of the profile that are offered, each once, and dropping
unknown mechanisms from the offer makes no difference. -/
structure FindsFeedback (p : MediaProfile) (remote : List Feedback) : Prop where
  found : p.negotiateFeedback remote = p.feedback.filter fun f => remote.contains f
  nodup : (p.negotiateFeedback remote).Nodup
  unfiltered : p.negotiateFeedback remote = Feedback.intersection p.feedback remote

theorem negotiateFeedback_eq_common (p : MediaProfile) (remote : List Feedback) :
    p.negotiateFeedback remote = common id p.feedback (remote.filter Feedback.isKnown) :=
  Feedback.intersection_eq _ _

theorem negotiateFeedback_eq (h : ∀ f ∈ p.feedback, f.isKnown) (remote : List Feedback) :
    p.negotiateFeedback remote = common id p.feedback remote := by
  rw [negotiateFeedback_eq_common]
  refine common_congr fun f hf => ?_
  rw [id, List.mem_filter, and_iff_left (h f hf)]

theorem negotiateFeedback_eq_filter (p : MediaProfile) (remote : List Feedback) :
    p.negotiateFeedback remote = p.feedback.filter fun f => f.isKnown && remote.contains f := by
  rw [negotiateFeedback_eq_common]
  refine List.filter_congr fun f _ => ?_
  rw [Bool.eq_iff_iff, Bool.and_eq_true, List.contains_iff_mem, List.contains_iff_mem,
    List.mem_filter, id, and_comm]

theorem count_negotiateFeedback (p : MediaProfile) (remote : List Feedback) (f : Feedback) :
    (p.negotiateFeedback remote).count f =
      if f.isKnown ∧ f ∈ remote then p.feedback.count f else 0 := by
  rw [negotiateFeedback_eq_filter]
  split
  · next h => exact List.count_filter (by simpa using h)
  · next h =>
    refine List.count_eq_zero.mpr fun hmem => h ?_
    simpa using (List.mem_filter.mp hmem).2

/-- Of a profile that occurs all entries are found that are offered. Of any other profile those of
unknown mechanisms are missing, and the others are found as often as the profile holds them. The
order of the offer does not matter, nor how often an entry is in it. -/
theorem negotiateFeedback_finds :
    (∀ p remote, Reachable p → p.FindsFeedback remote) ∧
    (∀ (p : MediaProfile) (remote : List Feedback),
      p.negotiateFeedback remote = (p.feedback.filter fun f => f.isKnown && remote.contains f) ∧
      ∀ f, (p.negotiateFeedback remote).count f =
        if f.isKnown ∧ f ∈ remote then p.feedback.count f else 0) ∧
    ∀ (p : MediaProfile) (remote remote' : List Feedback), (∀ f, f ∈ remote' ↔ f ∈ remote) →
      p.negotiateFeedback remote' = p.negotiateFeedback remote := by
  refine ⟨?_, ?_, ?_⟩
  · intro p remote h
    have hcommon := negotiateFeedback_eq h.wellFormed.known remote
    have hfound : p.negotiateFeedback remote = p.feedback.filter fun f => remote.contains f :=
      hcommon
    exact {
      found := hfound
      nodup := hfound ▸ h.wellFormed.feedback_nodup.filter _
      unfiltered := hfound.trans (Feedback.intersection_eq p.feedback remote).symm }
  · intro p remote
    exact ⟨p.negotiateFeedback_eq_filter remote, p.count_negotiateFeedback remote⟩
  · intro p remote remote' hsame
    rw [negotiateFeedback_eq_common, negotiateFeedback_eq_common]
    refine common_congr fun f _ => ?_
    rw [id, List.mem_filter, List.mem_filter, hsame f]

/-- A profile that does not occur: it holds an entry of an unknown mechanism and another one
twice. -/
def doubledFeedback : MediaProfile := ⟨[], [⟨"trr-int", "100"⟩, ⟨"nack", ""⟩, ⟨"nack", ""⟩]⟩

/-- Both profiles find what they hold in an offer that repeats an entry and has an unknown one. -/
theorem negotiateFeedback_finds_repeated :
    Reachable receiverSideVideo ∧
      receiverSideVideo.FindsFeedback
        [⟨"nack", "pli"⟩, ⟨"trr-int", "100"⟩, ⟨"goog-remb", ""⟩, ⟨"nack", "pli"⟩] ∧
      receiverSideVideo.negotiateFeedback
        [⟨"nack", "pli"⟩, ⟨"trr-int", "100"⟩, ⟨"goog-remb", ""⟩, ⟨"nack", "pli"⟩] =
          [⟨"nack", "pli"⟩, ⟨"goog-remb", ""⟩] ∧
      doubledFeedback.negotiateFeedback [⟨"nack", ""⟩, ⟨"trr-int", "100"⟩] =
        [⟨"nack", ""⟩, ⟨"nack", ""⟩] ∧
      doubledFeedback.negotiateFeedback [⟨"trr-int", "100"⟩, ⟨"nack", ""⟩, ⟨"nack", ""⟩] =
        doubledFeedback.negotiateFeedback [⟨"nack", ""⟩, ⟨"trr-int", "100"⟩] := by
  obtain ⟨hfinds, hexact, hsame⟩ := negotiateFeedback_finds
  have hmembers : ∀ f : Feedback, f ∈ [⟨"trr-int", "100"⟩, ⟨"nack", ""⟩, ⟨"nack", ""⟩] ↔
      f ∈ [⟨"nack", ""⟩, ⟨"trr-int", "100"⟩] := by
    intro f
    simp [or_comm]
  exact ⟨reachable_receiverSideVideo, hfinds _ _ reachable_receiverSideVideo, by decide +kernel,
    (hexact doubledFeedback _).1.trans (by decide +kernel), hsame _ _ _ hmembers⟩

end MediaProfile

end RtcConfig
