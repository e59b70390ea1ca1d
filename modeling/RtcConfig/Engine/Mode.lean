import RtcConfig.Json.Decode

/-! # Candidate modes

How mDNS candidates are treated, and as which type of candidate a mapped NAT address is
advertised.
-/

namespace RtcConfig

inductive MdnsMode where
  | disabled
  | queryOnly
  deriving DecidableEq, Repr

namespace MdnsMode

def ofBool : Bool → MdnsMode
  | true => .queryOnly
  | false => .disabled

def name : MdnsMode → String
  | .disabled => "Disabled"
  | .queryOnly => "QueryOnly"

def ofName? : String → Option MdnsMode
  | "Disabled" => some .disabled
  | "QueryOnly" => some .queryOnly
  | _ => none

def ofJson? (v : Json) : Option MdnsMode := (Json.name? v).bind ofName?

def toJson (m : MdnsMode) : Json := .string m.name

end MdnsMode

inductive NatCandidateType where
  | unspecified
  | host
  deriving DecidableEq, Repr

namespace NatCandidateType

def name : NatCandidateType → String
  | .unspecified => "Unspecified"
  | .host => "Host"

def ofJson? (v : Json) : Option NatCandidateType :=
  match Json.name? v with
  | some "Unspecified" => some .unspecified
  | some "host" => some .host
  | _ => none

def toJson : NatCandidateType → Json
  | .unspecified => .string "Unspecified"
  | .host => .string "host"

end NatCandidateType

end RtcConfig
