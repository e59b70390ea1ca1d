import RtcConfig.Json.Decode

/-! # RTP header extensions

The header extensions that profiles advertise. An extension is offered by its URI; a URI that
belongs to none of them is read as the unspecified extension, whose own text is no URI. In
settings an extension is named instead.
-/

namespace RtcConfig

inductive HeaderExtension where
  | unspecified
  | sdesMid
  | sdesRtpStreamId
  | sdesRepairedRtpStreamId
  | audioLevel
  | transportCc
  | frameMarking
  | dependencyDescriptor
  | absSendTime
  | absCaptureTime
  deriving DecidableEq, Repr

namespace HeaderExtension

def uri : HeaderExtension → String
  | .unspecified => "Unspecified"
  | .sdesMid => "urn:ietf:params:rtp-hdrext:sdes:mid"
  | .sdesRtpStreamId => "urn:ietf:params:rtp-hdrext:sdes:rtp-stream-id"
  | .sdesRepairedRtpStreamId => "urn:ietf:params:rtp-hdrext:sdes:repaired-rtp-stream-id"
  | .audioLevel => "urn:ietf:params:rtp-hdrext:ssrc-audio-level"
  | .transportCc =>
    "http://www.ietf.org/id/draft-holmer-rmcat-transport-wide-cc-extensions-01"
  | .frameMarking => "urn:ietf:params:rtp-hdrext:framemarking"
  | .dependencyDescriptor =>
    "https://aomediacodec.github.io/av1-rtp-spec/#dependency-descriptor-rtp-header-extension"
  | .absSendTime => "http://www.webrtc.org/experiments/rtp-hdrext/abs-send-time"
  | .absCaptureTime => "http://www.webrtc.org/experiments/rtp-hdrext/abs-capture-time"

def ofUri : String → HeaderExtension
  | "urn:ietf:params:rtp-hdrext:sdes:mid" => .sdesMid
  | "urn:ietf:params:rtp-hdrext:sdes:rtp-stream-id" => .sdesRtpStreamId
  | "urn:ietf:params:rtp-hdrext:sdes:repaired-rtp-stream-id" => .sdesRepairedRtpStreamId
  | "urn:ietf:params:rtp-hdrext:ssrc-audio-level" => .audioLevel
  | "http://www.ietf.org/id/draft-holmer-rmcat-transport-wide-cc-extensions-01" => .transportCc
  | "urn:ietf:params:rtp-hdrext:framemarking" => .frameMarking
  | "https://aomediacodec.github.io/av1-rtp-spec/#dependency-descriptor-rtp-header-extension" =>
    .dependencyDescriptor
  | "http://www.webrtc.org/experiments/rtp-hdrext/abs-send-time" => .absSendTime
  | "http://www.webrtc.org/experiments/rtp-hdrext/abs-capture-time" => .absCaptureTime
  | _ => .unspecified

def name : HeaderExtension → String
  | .unspecified => "Unspecified"
  | .sdesMid => "SdesMid"
  | .sdesRtpStreamId => "SdesRtpStreamId"
  | .sdesRepairedRtpStreamId => "SdesRepairedRtpStreamId"
  | .audioLevel => "AudioLevel"
  | .transportCc => "TransportCc"
  | .frameMarking => "FrameMarking"
  | .dependencyDescriptor => "DependencyDescriptor"
  | .absSendTime => "AbsSendTime"
  | .absCaptureTime => "AbsCaptureTime"

def ofName? : String → Option HeaderExtension
  | "Unspecified" => some .unspecified
  | "SdesMid" => some .sdesMid
  | "SdesRtpStreamId" => some .sdesRtpStreamId
  | "SdesRepairedRtpStreamId" => some .sdesRepairedRtpStreamId
  | "AudioLevel" => some .audioLevel
  | "TransportCc" => some .transportCc
  | "FrameMarking" => some .frameMarking
  | "DependencyDescriptor" => some .dependencyDescriptor
  | "AbsSendTime" => some .absSendTime
  | "AbsCaptureTime" => some .absCaptureTime
  | _ => none

def ofJson? (v : Json) : Option HeaderExtension := (Json.name? v).bind ofName?

def toJson (x : HeaderExtension) : Json := .string x.name

end HeaderExtension

end RtcConfig
