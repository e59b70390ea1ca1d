import RtcConfig.Json.Decode

/-! # Media kinds

Audio and video. Any other text is read as the unspecified kind.
-/

namespace RtcConfig

inductive MediaKind where
  | unspecified
  | audio
  | video
  deriving DecidableEq, Repr

namespace MediaKind

def name : MediaKind → String
  | .unspecified => "Unspecified"
  | .audio => "Audio"
  | .video => "Video"

def text : MediaKind → String
  | .unspecified => "Unspecified"
  | .audio => "audio"
  | .video => "video"

def ofText : String → MediaKind
  | "audio" => .audio
  | "video" => .video
  | _ => .unspecified

def ofJson? (v : Json) : Option MediaKind :=
  match Json.name? v with
  | some "Unspecified" => some .unspecified
  | some "audio" => some .audio
  | some "video" => some .video
  | _ => none

def toJson : MediaKind → Json
  | .unspecified => .string "Unspecified"
  | .audio => .string "audio"
  | .video => .string "video"

end MediaKind

end RtcConfig
