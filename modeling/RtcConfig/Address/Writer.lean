import RtcConfig.Address.Basic
import RtcConfig.Text.Digits

/-! # Writing addresses

The canonical text of an address. IPv4 is dotted. IPv6 has lower-case groups without leading
zeros, and the longest run of two or more zero groups, the first of several, is written `::`; an
address that maps an IPv4 address is `::ffff:` followed by that address.
-/

namespace RtcConfig

def Ipv4.chars (x : Ipv4) : List Char :=
  ['.'].intercalate (x.octets.map fun o => Text.decimal o.toNat)

namespace Ipv6

/-- Start and length of the longest run of zeros, the first of several. -/
def longestZeroRun : List UInt16 → Nat × Nat
  | [] => (0, 0)
  | g :: gs =>
    let here := ((g :: gs).takeWhile (· == 0)).length
    let (start, length) := longestZeroRun gs
    if here ≥ length then (0, here) else (start + 1, length)

def groupChars (gs : List UInt16) : List Char :=
  [':'].intercalate (gs.map fun g => Text.hexadecimal g.toNat)

/-- The IPv4 address that an address of the range `::ffff:0:0/96` stands for. -/
def mapped? (x : Ipv6) : Option Ipv4 :=
  match x.groups with
  | [0, 0, 0, 0, 0, 0xffff, high, low] => some (Ipv4.ofGroups high low)
  | _ => none

def chars (x : Ipv6) : List Char :=
  match x.mapped? with
  | some y => [':', ':', 'f', 'f', 'f', 'f', ':'] ++ y.chars
  | none =>
    let (start, length) := longestZeroRun x.groups
    if length ≥ 2 then
      groupChars (x.groups.take start) ++ [':', ':'] ++ groupChars (x.groups.drop (start + length))
    else groupChars x.groups

end Ipv6

def Ipv4.text (x : Ipv4) : String := String.ofList x.chars

def Ipv6.text (x : Ipv6) : String := String.ofList x.chars

def IpAddress.text : IpAddress → String
  | .v4 x => x.text
  | .v6 x => x.text

end RtcConfig
