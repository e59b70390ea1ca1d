import RtcConfig.Profile.Basic

/-! # Negotiation

What a profile and a remote offer have in common, in the order of the profile. A remote URI of
no known extension and a remote entry of no known mechanism are passed over.
-/

namespace RtcConfig.MediaProfile

def negotiateExtensions (p : MediaProfile) (uris : List String) : List HeaderExtension :=
  let offered := (uris.map HeaderExtension.ofUri).filter (· != .unspecified)
  p.extensions.filter fun x => offered.contains x

def negotiateFeedback (p : MediaProfile) (remote : List Feedback) : List Feedback :=
  Feedback.intersection p.feedback (remote.filter Feedback.isKnown)

end RtcConfig.MediaProfile
