import RtcConfig.Json.Decode

/-! # Network types

The transports over which candidates are gathered. Any other text is read as the unspecified
type.
-/

namespace RtcConfig

inductive NetworkType where
  | unspecified
  | udp4
  | udp6
  | tcp4
  | tcp6
  deriving DecidableEq, Repr

namespace NetworkType

/-- All types that are supported, in order of preference. -/
def supported : List NetworkType := [.udp4, .udp6, .tcp4, .tcp6]

def name : NetworkType → String
  | .unspecified => "Unspecified"
  | .udp4 => "Udp4"
  | .udp6 => "Udp6"
  | .tcp4 => "Tcp4"
  | .tcp6 => "Tcp6"

def text : NetworkType → String
  | .unspecified => "Unspecified"
  | .udp4 => "udp4"
  | .udp6 => "udp6"
  | .tcp4 => "tcp4"
  | .tcp6 => "tcp6"

def ofText : String → NetworkType
  | "udp4" => .udp4
  | "udp6" => .udp6
  | "tcp4" => .tcp4
  | "tcp6" => .tcp6
  | _ => .unspecified

def ofJson? (v : Json) : Option NetworkType :=
  match Json.name? v with
  | some "Unspecified" => some .unspecified
  | some "udp4" => some .udp4
  | some "udp6" => some .udp6
  | some "tcp4" => some .tcp4
  | some "tcp6" => some .tcp6
  | _ => none

def toJson : NetworkType → Json
  | .unspecified => .string "Unspecified"
  | .udp4 => .string "udp4"
  | .udp6 => .string "udp6"
  | .tcp4 => .string "tcp4"
  | .tcp6 => .string "tcp6"

end NetworkType

end RtcConfig
