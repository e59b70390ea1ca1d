import RtcConfig.Proofs.Profile.Negotiation

/-! # Agreement of both ends

Each end negotiates on its own, with the offer of the other one. What they find is the same up to
the order, which each takes from its own profile. Negotiating once more, with what was found,
changes nothing, and a profile that meets its own offer is found as a whole.
-/

namespace RtcConfig

section Common

variable {α β : Type} [BEq β] [LawfulBEq β] {key : α → β} {own own' : List α}

/-- Two lists without repeats have the same elements in common from either side. -/
theorem common_perm (hkey : Function.Injective key) (hown : own.Nodup) (hown' : own'.Nodup) :
    (common key own (own'.map key)).Perm (common key own' (own.map key)) := by
  have hnodup : (common key own (own'.map key)).Nodup := hown.filter _
  have hnodup' : (common key own' (own.map key)).Nodup := hown'.filter _
  refine (List.perm_ext_iff_of_nodup hnodup hnodup').mpr fun x => ?_
  rw [mem_common, mem_common, List.mem_map_of_injective hkey, List.mem_map_of_injective hkey,
    and_comm]

/-- What was found is found again in itself. -/
theorem common_common (key : α → β) (own : List α) (remote : List β) :
    common key own ((common key own remote).map key) = common key own remote := by
  refine common_congr fun x hx => ?_
  constructor
  · intro hmem
    obtain ⟨y, hy, heq⟩ := List.mem_map.mp hmem
    exact heq ▸ (mem_common.mp hy).2
  · intro hmem
    exact List.mem_map_of_mem (mem_common.mpr ⟨hx, hmem⟩)

theorem common_self (key : α → β) (own : List α) : common key own (own.map key) = own :=
  List.filter_eq_self.mpr fun _ hx => List.contains_iff_mem.mpr (List.mem_map_of_mem hx)

end Common

namespace MediaProfile

/-- The URIs of the extensions of a profile, which it offers to the other end. -/
def uris (p : MediaProfile) : List String := p.extensions.map HeaderExtension.uri

/-- Both ends find the same, each in the order of its own profile. -/
structure Agree (p q : MediaProfile) : Prop where
  extensions : (p.negotiateExtensions q.uris).Perm (q.negotiateExtensions p.uris)
  extensionsOrder : (p.negotiateExtensions q.uris).Sublist p.extensions ∧
    (q.negotiateExtensions p.uris).Sublist q.extensions
  feedback : (p.negotiateFeedback q.feedback).Perm (q.negotiateFeedback p.feedback)
  feedbackOrder : (p.negotiateFeedback q.feedback).Sublist p.feedback ∧
    (q.negotiateFeedback p.feedback).Sublist q.feedback

/-- What the profile found in an offer it finds again in what it found, and all of it in its own
offer. -/
structure Settles (p : MediaProfile) : Prop where
  extensions : ∀ uris, p.negotiateExtensions
    ((p.negotiateExtensions uris).map HeaderExtension.uri) = p.negotiateExtensions uris
  feedback : ∀ remote, p.negotiateFeedback (p.negotiateFeedback remote) = p.negotiateFeedback remote
  ownExtensions : p.negotiateExtensions p.uris = p.extensions
  ownFeedback : p.negotiateFeedback p.feedback = p.feedback

variable {p q : MediaProfile}

theorem WellFormed.agree (hp : p.WellFormed) (hq : q.WellFormed) : p.Agree q where
  extensions := by
    rw [negotiateExtensions_eq hp.noUnspecified, negotiateExtensions_eq hq.noUnspecified]
    exact common_perm HeaderExtension.uri_injective hp.extensions_nodup hq.extensions_nodup
  extensionsOrder := ⟨List.filter_sublist, List.filter_sublist⟩
  feedback := by
    have hperm := common_perm Function.injective_id hp.feedback_nodup hq.feedback_nodup
    rw [List.map_id, List.map_id] at hperm
    rwa [negotiateFeedback_eq hp.known, negotiateFeedback_eq hq.known]
  feedbackOrder := by
    rw [negotiateFeedback_eq hp.known, negotiateFeedback_eq hq.known]
    exact ⟨List.filter_sublist, List.filter_sublist⟩

theorem WellFormed.settles (hp : p.WellFormed) : p.Settles where
  extensions := by
    intro uris
    rw [negotiateExtensions_eq hp.noUnspecified, negotiateExtensions_eq hp.noUnspecified]
    exact common_common _ _ _
  feedback := by
    intro remote
    have hagain := common_common id p.feedback remote
    rw [List.map_id] at hagain
    rwa [negotiateFeedback_eq hp.known, negotiateFeedback_eq hp.known]
  ownExtensions := by
    rw [negotiateExtensions_eq hp.noUnspecified]
    exact common_self _ _
  ownFeedback := by
    have hself := common_self id p.feedback
    rw [List.map_id] at hself
    rwa [negotiateFeedback_eq hp.known]

/-- Profiles that occur agree with each other, and a negotiation that is over stays as it is. -/
theorem Reachable.negotiations_agree (hp : Reachable p) (hq : Reachable q) :
    p.Agree q ∧ p.Settles :=
  ⟨hp.wellFormed.agree hq.wellFormed, hp.wellFormed.settles⟩

/-- A publisher and a subscriber, which hold the entries of one strategy in another order. -/
theorem negotiations_agree_publisher_subscriber :
    Reachable DirectionProfile.publisher.video ∧
      Reachable (DirectionProfile.subscriber false .sendSide).video ∧
      DirectionProfile.publisher.video.Agree (DirectionProfile.subscriber false .sendSide).video ∧
      DirectionProfile.publisher.video.Settles ∧
      DirectionProfile.publisher.video.negotiateExtensions
        (DirectionProfile.subscriber false .sendSide).video.uris =
          [.transportCc, .dependencyDescriptor] ∧
      (DirectionProfile.subscriber false .sendSide).video.negotiateExtensions
        DirectionProfile.publisher.video.uris = [.dependencyDescriptor, .transportCc] := by
  have hpublisher : Reachable DirectionProfile.publisher.video := .base .publisherVideo
  have hsubscriber : Reachable (DirectionProfile.subscriber false .sendSide).video :=
    .base (.subscriberVideo _ _)
  obtain ⟨hagree, hsettles⟩ := hpublisher.negotiations_agree hsubscriber
  exact ⟨hpublisher, hsubscriber, hagree, hsettles, by decide +kernel, by decide +kernel⟩

end MediaProfile

end RtcConfig
