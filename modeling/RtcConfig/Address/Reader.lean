import RtcConfig.Address.Basic
import RtcConfig.Text.Digits

/-! # Reading addresses

IPv4 addresses are four decimal octets of one to three digits. IPv6 addresses are groups of one
to four hexadecimal digits, where one `::` stands for a run of zero groups and the last two
groups may be a dotted IPv4 address. A notation says whether octets may have leading zeros and
how many groups `::` stands for at least: an address by itself is strict in both, the address of
a network in neither.

Each function takes the text that is left and returns what it read with the text behind it.
-/

namespace RtcConfig

structure AddressNotation where
  leadingZeros : Bool
  leastGap : Nat
  deriving DecidableEq, Repr

namespace AddressNotation

def strict : AddressNotation := ⟨false, 1⟩

def lax : AddressNotation := ⟨true, 0⟩

/-- A run of at least one digit and at most `most`, with its value. -/
def readNumeral (base most : Nat) (cs : List Char) : Option (List Char × Nat × List Char) :=
  let (ds, rest) := cs.span (Text.isDigit base)
  if ds.length ≤ most then (Text.numeral? base ds).map fun n => (ds, n, rest) else none

def readOctet (n : AddressNotation) (cs : List Char) : Option (UInt8 × List Char) := do
  let (ds, v, rest) ← readNumeral 10 3 cs
  if n.leadingZeros || ds.head? != some '0' || ds.length == 1 then
    if h : v < UInt8.size then some (UInt8.ofNatLT v h, rest) else none
  else none

def readDot : List Char → Option (List Char)
  | '.' :: r => some r
  | _ => none

def readIpv4 (n : AddressNotation) (cs : List Char) : Option (Ipv4 × List Char) := do
  let (a, r) ← n.readOctet cs
  let (b, r) ← n.readOctet (← readDot r)
  let (c, r) ← n.readOctet (← readDot r)
  let (d, r) ← n.readOctet (← readDot r)
  some (⟨a, b, c, d⟩, r)

def readGroup (cs : List Char) : Option (UInt16 × List Char) := do
  let (_, v, rest) ← readNumeral 16 4 cs
  if h : v < UInt16.size then some (UInt16.ofNatLT v h, rest) else none

/-- The text behind the colon that separates a group, unless it is the first one. -/
def readSeparator (first : Bool) (cs : List Char) : Option (List Char) :=
  if first then some cs
  else match cs with
    | ':' :: r => some r
    | _ => none

/-- Groups of an address, and whether the last two of them were written as an IPv4 address. -/
structure Groups where
  groups : List UInt16
  dotted : Bool
  rest : List Char

/-- As many groups as there are, up to the limit. An IPv4 address ends them and takes two. -/
def readGroups (n : AddressNotation) (first : Bool) : Nat → List Char → Groups
  | 0, cs => ⟨[], false, cs⟩
  | limit + 1, cs => match readSeparator first cs with
    | none => ⟨[], false, cs⟩
    | some r => match if limit = 0 then none else n.readIpv4 r with
      | some (x, r) => ⟨x.toGroups, true, r⟩
      | none => match readGroup r with
        | none => ⟨[], false, cs⟩
        | some (g, r) =>
          let more := n.readGroups false limit r
          ⟨g :: more.groups, more.dotted, more.rest⟩

/-- Fewer than eight groups must be followed by `::` and may end in further groups behind it. -/
def readIpv6 (n : AddressNotation) (cs : List Char) : Option (Ipv6 × List Char) :=
  let head := n.readGroups true 8 cs
  if head.groups.length = 8 then (Ipv6.ofGroups? head.groups).map fun x => (x, head.rest)
  else if head.dotted then none
  else match head.rest with
    | ':' :: ':' :: r =>
      let tail := n.readGroups true (8 - (head.groups.length + n.leastGap)) r
      let gap := List.replicate (8 - (head.groups.length + tail.groups.length)) 0
      (Ipv6.ofGroups? (head.groups ++ gap ++ tail.groups)).map fun x => (x, tail.rest)
    | _ => none

/-- What is read, if that is the whole text. -/
def whole {α : Type} : Option (α × List Char) → Option α
  | some (a, []) => some a
  | _ => none

end AddressNotation

def Ipv4.ofChars? (cs : List Char) : Option Ipv4 :=
  AddressNotation.whole (AddressNotation.strict.readIpv4 cs)

def Ipv6.ofChars? (cs : List Char) : Option Ipv6 :=
  AddressNotation.whole (AddressNotation.strict.readIpv6 cs)

def IpAddress.ofText? (s : String) : Option IpAddress :=
  match Ipv4.ofChars? s.toList with
  | some x => some (.v4 x)
  | none => (Ipv6.ofChars? s.toList).map .v6

end RtcConfig
