import RtcConfig.Proofs.Profile.Selection

/-! # Well-formed profiles

The profiles of both directions, and the empty one, list nothing twice and nothing that is unknown
or switched off, and they hold the extension of a strategy exactly if they hold its feedback.
Selecting a strategy keeps all of this, and a profile in which one was selected serves that strategy
and no other.
-/

namespace RtcConfig.MediaProfile

/-- What selections keep of a profile. -/
structure WellFormed (p : MediaProfile) : Prop where
  extensions_nodup : p.extensions.Nodup
  feedback_nodup : p.feedback.Nodup
  noUnspecified : .unspecified ∉ p.extensions
  noAbsCaptureTime : .absCaptureTime ∉ p.extensions
  known : ∀ f ∈ p.feedback, f.isKnown
  paired : ∀ s : CongestionStrategy, p.hasExtension s.extension ↔ p.hasFeedback s.feedback

/-- The profile holds both entries of one strategy and neither entry of the other one. -/
structure Serves (p : MediaProfile) (s : CongestionStrategy) : Prop where
  extension : p.hasExtension s.extension
  feedback : p.hasFeedback s.feedback
  noOtherExtension : ¬p.hasExtension s.other.extension
  noOtherFeedback : ¬p.hasFeedback s.other.feedback

/-- The profiles in which strategies are selected. -/
inductive IsBase : MediaProfile → Prop
  | empty : IsBase .empty
  | publisherAudio : IsBase DirectionProfile.publisher.audio
  | publisherVideo : IsBase DirectionProfile.publisher.video
  | subscriberAudio (strictAcks : Bool) (s : CongestionStrategy) :
    IsBase (DirectionProfile.subscriber strictAcks s).audio
  | subscriberVideo (strictAcks : Bool) (s : CongestionStrategy) :
    IsBase (DirectionProfile.subscriber strictAcks s).video

variable {p : MediaProfile} {s : CongestionStrategy}

@[simp] theorem hasExtension_iff {x : HeaderExtension} : p.hasExtension x ↔ x ∈ p.extensions :=
  List.contains_iff_mem

@[simp] theorem hasFeedback_iff {f : Feedback} : p.hasFeedback f ↔ f ∈ p.feedback :=
  List.contains_iff_mem

theorem mem_extensions_select {x : HeaderExtension} :
    x ∈ (p.select s).extensions ↔ x = s.extension ∨ x ∈ p.extensions ∧ x ≠ s.other.extension :=
  mem_exchange

theorem mem_feedback_select {f : Feedback} :
    f ∈ (p.select s).feedback ↔ f = s.feedback ∨ f ∈ p.feedback ∧ f ≠ s.other.feedback :=
  mem_exchange

/-! ## One selection -/

theorem select_serves (p : MediaProfile) (s : CongestionStrategy) : (p.select s).Serves s where
  extension := hasExtension_iff.mpr (mem_extensions_select.mpr (.inl rfl))
  feedback := hasFeedback_iff.mpr (mem_feedback_select.mpr (.inl rfl))
  noOtherExtension := by
    rw [hasExtension_iff, mem_extensions_select]
    rintro (heq | ⟨-, hne⟩)
    · exact s.extension_other_ne heq
    · exact hne rfl
  noOtherFeedback := by
    rw [hasFeedback_iff, mem_feedback_select]
    rintro (heq | ⟨-, hne⟩)
    · exact s.feedback_other_ne heq
    · exact hne rfl

/-- A profile that serves one strategy holds both entries of each strategy or neither. -/
theorem Serves.paired (h : p.Serves s) (t : CongestionStrategy) :
    p.hasExtension t.extension ↔ p.hasFeedback t.feedback := by
  rcases s.eq_or_eq_other t with rfl | rfl
  · exact iff_of_true h.extension h.feedback
  · exact iff_of_false h.noOtherExtension h.noOtherFeedback

theorem WellFormed.select (h : p.WellFormed) (s : CongestionStrategy) :
    (p.select s).WellFormed where
  extensions_nodup := nodup_exchange h.extensions_nodup
  feedback_nodup := nodup_exchange h.feedback_nodup
  noUnspecified := by
    rw [mem_extensions_select]
    rintro (heq | ⟨hmem, -⟩)
    · cases s <;> cases heq
    · exact h.noUnspecified hmem
  noAbsCaptureTime := by
    rw [mem_extensions_select]
    rintro (heq | ⟨hmem, -⟩)
    · cases s <;> cases heq
    · exact h.noAbsCaptureTime hmem
  known := by
    intro f hf
    rcases mem_feedback_select.mp hf with rfl | ⟨hmem, -⟩
    · cases s <;> decide
    · exact h.known f hmem
  paired := (p.select_serves s).paired

/-! ## Selections in a row -/

theorem WellFormed.selectAll (h : p.WellFormed) (ss : List CongestionStrategy) :
    (p.selectAll ss).WellFormed := by
  induction ss generalizing p with
  | nil => exact h
  | cons t ss ih => exact ih (h.select t)

theorem wellFormed_iff : p.WellFormed ↔
    (p.extensions.Nodup ∧ .unspecified ∉ p.extensions ∧ .absCaptureTime ∉ p.extensions) ∧
      (p.feedback.Nodup ∧ ∀ f ∈ p.feedback, f.isKnown) ∧
      p.hasExtension .transportCc = p.hasFeedback ⟨"transport-cc", ""⟩ ∧
      p.hasExtension .absSendTime = p.hasFeedback ⟨"goog-remb", ""⟩ := by
  constructor
  · intro h
    exact ⟨⟨h.extensions_nodup, h.noUnspecified, h.noAbsCaptureTime⟩, ⟨h.feedback_nodup, h.known⟩,
      Bool.eq_iff_iff.mpr (h.paired .sendSide), Bool.eq_iff_iff.mpr (h.paired .receiverSide)⟩
  · rintro ⟨⟨hextensions, hunspecified, hcapture⟩, ⟨hfeedback, hknown⟩, hsend, hreceive⟩
    refine ⟨hextensions, hfeedback, hunspecified, hcapture, hknown, fun s => ?_⟩
    cases s with
    | sendSide => exact Bool.eq_iff_iff.mp hsend
    | receiverSide => exact Bool.eq_iff_iff.mp hreceive

instance : Decidable p.WellFormed := decidable_of_iff _ wellFormed_iff.symm

theorem IsBase.wellFormed (h : IsBase p) : p.WellFormed := by
  cases h with
  | empty => decide
  | publisherAudio => decide
  | publisherVideo => decide
  | subscriberAudio strictAcks s => cases strictAcks <;> cases s <;> decide
  | subscriberVideo strictAcks s =>
    -- The table of the subscriber serves no strategy yet.
    have htable : WellFormed
        ⟨[.dependencyDescriptor], [⟨"ccm", "fir"⟩, ⟨"nack", ""⟩, ⟨"nack", "pli"⟩]⟩ := by decide
    exact htable.select s

/-- Whatever is selected in a profile of a direction, it stays well-formed, and it serves the
strategy of the last selection. -/
theorem IsBase.selectAll_wellFormed (h : IsBase p) (ss : List CongestionStrategy) :
    (p.selectAll ss).WellFormed ∧
      ∀ s, ss.getLast? = some s → (p.selectAll ss).Serves s := by
  refine ⟨h.wellFormed.selectAll ss, fun s hlast => ?_⟩
  obtain ⟨init, rfl⟩ := List.getLast?_eq_some_iff.mp hlast
  rw [selectAll_concat]
  exact (p.selectAll init).select_serves s

/-- The video profile of publishers holds the entries of one strategy from the start. -/
theorem selectAll_wellFormed_publisher :
    IsBase DirectionProfile.publisher.video ∧
      (DirectionProfile.publisher.video.selectAll [.receiverSide, .sendSide]).WellFormed ∧
      (DirectionProfile.publisher.video.selectAll [.receiverSide, .sendSide]).Serves .sendSide ∧
      DirectionProfile.publisher.video.selectAll [.receiverSide, .sendSide] = ⟨
        [.sdesMid, .sdesRtpStreamId, .frameMarking, .dependencyDescriptor,
          .sdesRepairedRtpStreamId, .transportCc],
        [⟨"ccm", "fir"⟩, ⟨"nack", ""⟩, ⟨"nack", "pli"⟩, ⟨"transport-cc", ""⟩]⟩ := by
  obtain ⟨hwellFormed, hserves⟩ :=
    IsBase.publisherVideo.selectAll_wellFormed [.receiverSide, .sendSide]
  exact ⟨.publisherVideo, hwellFormed, hserves .sendSide rfl, by decide⟩

end RtcConfig.MediaProfile
