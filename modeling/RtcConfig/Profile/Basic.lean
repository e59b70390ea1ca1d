import RtcConfig.Media.Kind
import RtcConfig.Profile.Direction
import RtcConfig.Profile.Strategy

/-! # Profiles

A media profile lists the header extensions and feedback entries offered for one kind of media,
in order of preference. Selecting a congestion strategy removes what the other strategy needs
and appends what this one needs, unless it is there already. A direction profile holds the media
profiles of one direction and whether the peer acknowledges strictly.
-/

namespace RtcConfig

structure MediaProfile where
  extensions : List HeaderExtension
  feedback : List Feedback
  deriving DecidableEq, Repr

namespace MediaProfile

def empty : MediaProfile := ⟨[], []⟩

def hasExtension (p : MediaProfile) (x : HeaderExtension) : Bool := p.extensions.contains x

def hasFeedback (p : MediaProfile) (f : Feedback) : Bool := p.feedback.contains f

def without (p : MediaProfile) (x : HeaderExtension) (f : Feedback) : MediaProfile :=
  ⟨p.extensions.filter (· != x), p.feedback.filter (· != f)⟩

/-- Adds both at the end of their lists, each only if it is missing. -/
def append (p : MediaProfile) (x : HeaderExtension) (f : Feedback) : MediaProfile :=
  ⟨if p.hasExtension x then p.extensions else p.extensions ++ [x],
    if p.hasFeedback f then p.feedback else p.feedback ++ [f]⟩

def select (p : MediaProfile) (s : CongestionStrategy) : MediaProfile :=
  (p.without s.other.extension s.other.feedback).append s.extension s.feedback

def outline (p : MediaProfile) : String :=
  Text.outlineRecord "MediaKindProfile" [
    ("header_extensions", Text.outlineList (p.extensions.map HeaderExtension.name)),
    ("rtcp_feedback", Text.outlineList (p.feedback.map Feedback.outline))]

end MediaProfile

structure DirectionProfile where
  direction : Direction
  audio : MediaProfile
  video : MediaProfile
  strictAcks : Bool
  deriving DecidableEq, Repr

namespace DirectionProfile

/-- What a publisher is offered; strict acknowledgement is always on. -/
def publisher : DirectionProfile where
  direction := .publisher
  audio := ⟨[.sdesMid, .sdesRtpStreamId, .audioLevel], [⟨"nack", ""⟩]⟩
  video := ⟨
    [.sdesMid, .sdesRtpStreamId, .transportCc, .frameMarking, .dependencyDescriptor,
      .sdesRepairedRtpStreamId],
    [⟨"transport-cc", ""⟩, ⟨"ccm", "fir"⟩, ⟨"nack", ""⟩, ⟨"nack", "pli"⟩]⟩
  strictAcks := true

/-- What a subscriber is offered; the strategy completes the video profile. -/
def subscriber (strictAcks : Bool) (s : CongestionStrategy) : DirectionProfile where
  direction := .subscriber
  audio := ⟨[], [⟨"nack", ""⟩]⟩
  video :=
    MediaProfile.select
      ⟨[.dependencyDescriptor], [⟨"ccm", "fir"⟩, ⟨"nack", ""⟩, ⟨"nack", "pli"⟩]⟩ s
  strictAcks := strictAcks

def media? (p : DirectionProfile) : MediaKind → Option MediaProfile
  | .unspecified => none
  | .audio => some p.audio
  | .video => some p.video

def outline (p : DirectionProfile) : String :=
  Text.outlineRecord "DirectionProfile" [
    ("direction", p.direction.name),
    ("audio", p.audio.outline),
    ("video", p.video.outline),
    ("strict_acks", Text.outlineBool p.strictAcks)]

end DirectionProfile

end RtcConfig
