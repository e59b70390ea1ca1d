/-! # IP addresses

An IPv4 address is four octets and an IPv6 address eight groups of sixteen bits. Either is also
a number, with the leading octet or group on top.
-/

namespace RtcConfig

structure Ipv4 where
  a : UInt8
  b : UInt8
  c : UInt8
  d : UInt8
  deriving DecidableEq, Repr

structure Ipv6 where
  groups : List UInt16
  length_groups : groups.length = 8
  deriving DecidableEq

inductive IpAddress where
  | v4 (address : Ipv4)
  | v6 (address : Ipv6)
  deriving DecidableEq

namespace Ipv4

def octets (x : Ipv4) : List UInt8 := [x.a, x.b, x.c, x.d]

def toNat (x : Ipv4) : Nat := x.octets.foldl (fun n o => n * 256 + o.toNat) 0

/-- The two groups that carry this address at the end of an IPv6 address. -/
def toGroups (x : Ipv4) : List UInt16 :=
  [x.a.toUInt16 * 256 + x.b.toUInt16, x.c.toUInt16 * 256 + x.d.toUInt16]

def ofGroups (high low : UInt16) : Ipv4 :=
  ⟨(high / 256).toUInt8, high.toUInt8, (low / 256).toUInt8, low.toUInt8⟩

end Ipv4

namespace Ipv6

def toNat (x : Ipv6) : Nat := x.groups.foldl (fun n g => n * 65536 + g.toNat) 0

/-- The address with the given groups, if there are eight. -/
def ofGroups? (gs : List UInt16) : Option Ipv6 :=
  if h : gs.length = 8 then some ⟨gs, h⟩ else none

end Ipv6

end RtcConfig
