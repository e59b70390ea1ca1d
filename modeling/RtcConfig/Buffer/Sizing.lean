import RtcConfig.Json.Decode
import RtcConfig.Text.Outline

/-! # Buffer sizes

How many packets a receive buffer holds, for each kind of media. Zero means unset: a kind
without a size takes the common one, and without a common one 500.
-/

namespace RtcConfig

structure BufferSizing where
  audio : UInt64
  video : UInt64
  deriving DecidableEq, Repr

namespace BufferSizing

def standard : UInt64 := 500

def resolve (common audio video : UInt64) : BufferSizing :=
  let common := if common = 0 then standard else common
  ⟨if audio = 0 then common else audio, if video = 0 then common else video⟩

def ofMembers? (ms : Json.Members) : Option BufferSizing := do
  let audio ← ms.field "packet_buffer_size_audio" Json.uint64? none
  let video ← ms.field "packet_buffer_size_video" Json.uint64? none
  some ⟨audio, video⟩

def ofItems? (items : List Json) : Option BufferSizing := do
  let (audio, items) ← Json.next items Json.uint64? none
  let (video, items) ← Json.next items Json.uint64? none
  Json.done items ⟨audio, video⟩

def ofJson? : Json → Option BufferSizing := Json.record? ofMembers? ofItems?

def toJson (s : BufferSizing) : Json := .object [
  ("packet_buffer_size_audio", .ofNat s.audio.toNat),
  ("packet_buffer_size_video", .ofNat s.video.toNat)]

def outline (s : BufferSizing) : String :=
  Text.outlineRecord "BufferSizing" [
    ("packet_buffer_size_audio", toString s.audio.toNat),
    ("packet_buffer_size_video", toString s.video.toNat)]

end BufferSizing

end RtcConfig
