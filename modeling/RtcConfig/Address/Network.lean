import RtcConfig.Address.Reader
import RtcConfig.Address.Writer

/-! # IP networks

A network is an address and the number of its leading bits that count. It spans the addresses
from the one with all other bits zero to the one with all other bits one, and never one of the
other family. Bits behind the counted ones are kept and written out.
-/

namespace RtcConfig

inductive IpNetwork where
  | v4 (address : Ipv4) (length : Fin 33)
  | v6 (address : Ipv6) (length : Fin 129)
  deriving DecidableEq

namespace IpNetwork

/-- How many numbers of `width` bits agree in the leading `length` bits. -/
def size (width length : Nat) : Nat := Nat.pow 2 (width - length)

/-- The first number of `width` bits that agrees with `n` in the leading `length` bits. -/
def lowest (width length n : Nat) : Nat := n / size width length * size width length

/-- The last number of `width` bits that agrees with `n` in the leading `length` bits. -/
def highest (width length n : Nat) : Nat := lowest width length n + (size width length - 1)

def spans (width length n m : Nat) : Bool :=
  lowest width length n ≤ m && m ≤ highest width length n

def contains : IpNetwork → IpAddress → Bool
  | .v4 x length, .v4 y => spans 32 length x.toNat y.toNat
  | .v6 x length, .v6 y => spans 128 length x.toNat y.toNat
  | _, _ => false

/-- The network of a single address. -/
def host : IpAddress → IpNetwork
  | .v4 x => .v4 x 32
  | .v6 x => .v6 x 128

/-- The length behind the address: a slash and a numeral of at most `most` digits. -/
def readLength (most bound : Nat) : List Char → Option (Fin bound × List Char)
  | '/' :: r => do
    let (_, v, rest) ← AddressNotation.readNumeral 10 most r
    if h : v < bound then some (⟨v, h⟩, rest) else none
  | _ => none

def readV4 (cs : List Char) : Option (IpNetwork × List Char) := do
  let (x, r) ← AddressNotation.lax.readIpv4 cs
  let (length, r) ← readLength 2 33 r
  some (.v4 x length, r)

def readV6 (cs : List Char) : Option (IpNetwork × List Char) := do
  let (x, r) ← AddressNotation.lax.readIpv6 cs
  let (length, r) ← readLength 3 129 r
  some (.v6 x length, r)

/-- A network in the notation `address/length`. -/
def ofText? (s : String) : Option IpNetwork :=
  match AddressNotation.whole (readV4 s.toList) with
  | some n => some n
  | none => AddressNotation.whole (readV6 s.toList)

/-- A network, or an address that stands for the network of itself. -/
def ofEntry? (s : String) : Option IpNetwork :=
  match ofText? s with
  | some n => some n
  | none => (IpAddress.ofText? s).map host

def text : IpNetwork → String
  | .v4 x length => x.text ++ "/" ++ String.ofList (Text.decimal length)
  | .v6 x length => x.text ++ "/" ++ String.ofList (Text.decimal length)

end IpNetwork

end RtcConfig
