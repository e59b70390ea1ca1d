import RtcConfig.Media.Feedback
import RtcConfig.Media.HeaderExtension

/-! # Congestion control strategies

Which side of a subscriber connection estimates the bandwidth. Each strategy needs one header
extension and one feedback entry of its own.
-/

namespace RtcConfig

inductive CongestionStrategy where
  | sendSide
  | receiverSide
  deriving DecidableEq, Repr

namespace CongestionStrategy

def ofSendSide : Bool → CongestionStrategy
  | true => .sendSide
  | false => .receiverSide

def other : CongestionStrategy → CongestionStrategy
  | .sendSide => .receiverSide
  | .receiverSide => .sendSide

def extension : CongestionStrategy → HeaderExtension
  | .sendSide => .transportCc
  | .receiverSide => .absSendTime

def feedback : CongestionStrategy → Feedback
  | .sendSide => ⟨"transport-cc", ""⟩
  | .receiverSide => ⟨"goog-remb", ""⟩

def text : CongestionStrategy → String
  | .sendSide => "send-side"
  | .receiverSide => "receiver-side"

def ofText? : String → Option CongestionStrategy
  | "send-side" => some .sendSide
  | "receiver-side" => some .receiverSide
  | _ => none

def ofJson? (v : Json) : Option CongestionStrategy := (Json.name? v).bind ofText?

def toJson (s : CongestionStrategy) : Json := .string s.text

end CongestionStrategy

end RtcConfig
