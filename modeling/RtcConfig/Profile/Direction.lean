import RtcConfig.Json.Decode

/-! # Directions

The direction of a connection as the server sees it: a publisher sends media to the server, a
subscriber receives media from it. Any other text is read as the unspecified direction.
-/

namespace RtcConfig

inductive Direction where
  | unspecified
  | publisher
  | subscriber
  deriving DecidableEq, Repr

namespace Direction

def name : Direction → String
  | .unspecified => "Unspecified"
  | .publisher => "Publisher"
  | .subscriber => "Subscriber"

def text : Direction → String
  | .unspecified => "Unspecified"
  | .publisher => "publisher"
  | .subscriber => "subscriber"

def ofText : String → Direction
  | "publisher" => .publisher
  | "subscriber" => .subscriber
  | _ => .unspecified

def ofJson? (v : Json) : Option Direction :=
  match Json.name? v with
  | some "Unspecified" => some .unspecified
  | some "publisher" => some .publisher
  | some "subscriber" => some .subscriber
  | _ => none

def toJson : Direction → Json
  | .unspecified => .string "Unspecified"
  | .publisher => .string "publisher"
  | .subscriber => .string "subscriber"

end Direction

end RtcConfig
