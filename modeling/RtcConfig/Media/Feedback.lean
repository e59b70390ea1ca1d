import RtcConfig.Text.Outline
import RtcConfig.Text.Quoted

/-! # RTCP feedback

A feedback mechanism and its parameter, which may be empty. The text of an entry is the value of
an `a=rtcp-fb` attribute: the mechanism, and behind a blank the parameter if there is one.
-/

namespace RtcConfig

structure Feedback where
  mechanism : String
  parameter : String
  deriving DecidableEq, Repr

namespace Feedback

/-- Whether the mechanism is one that this library negotiates. -/
def isKnown (f : Feedback) : Bool :=
  f.mechanism ∈ ["transport-cc", "goog-remb", "ack", "ccm", "nack"]

/-- Whether a list has an entry of the same mechanism and parameter. The search ends with the first
one. -/
def occursIn (f : Feedback) : List Feedback → Bool
  | [] => false
  | g :: gs =>
    if f.mechanism = g.mechanism ∧ f.parameter = g.parameter then true else f.occursIn gs

/-- The entries of the first list that occur in the second one, in the order of the first. -/
def intersection : List Feedback → List Feedback → List Feedback
  | [], _ => []
  | f :: fs, gs => if f.occursIn gs then f :: intersection fs gs else intersection fs gs

def text (f : Feedback) : String :=
  if f.parameter.isEmpty then f.mechanism else f.mechanism ++ " " ++ f.parameter

def outline (f : Feedback) : String :=
  Text.outlineRecord "RTCPFeedback"
    [("typ", Text.quote f.mechanism), ("parameter", Text.quote f.parameter)]

end Feedback

end RtcConfig
