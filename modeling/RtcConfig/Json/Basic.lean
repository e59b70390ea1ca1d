import RtcConfig.Double
import RtcConfig.Text.Digits

/-! # JSON values

A JSON value keeps what its text says: a number its sign, digits and power of ten, an object its
members in order with repetitions. Three kinds of well-formed text denote no value: a string
whose escapes name half of a surrogate pair, a number beyond every double, and an object with
such a string for a name. They are kept as `garbled`, and a value is representable when nothing
in it is garbled. Whether a number is beyond the doubles is decided in double precision: it is
the double of its significand times the double of its power of ten, so a value within a few
units of the greatest double's last place may fall on either side.
-/

namespace RtcConfig

namespace Json

/-- A number as written; without a fraction the digits after the point are the empty list. -/
structure Number where
  negative : Bool
  whole : Nat
  fraction : List (Fin 10)
  exponent : Option Int
  deriving DecidableEq, Repr

namespace Number

def ofNat (n : Nat) : Number := ⟨false, n, [], none⟩

/-- The value of a plain numeral without sign, point and exponent that fits in 64 bits. -/
def natural? (x : Number) : Option Nat :=
  if x.negative = false ∧ x.fraction = [] ∧ x.exponent = none ∧ x.whole < UInt64.size then
    some x.whole
  else none

def wholeDigits (x : Number) : List (Fin 10) := (Text.decimal x.whole).map Text.decimalDigit

/-- Digits taken into a significand as long as it fits in 64 bits, with the digits left over. -/
def takeDigits (s : Nat) : List (Fin 10) → Nat × List (Fin 10)
  | [] => (s, [])
  | d :: ds => if 10 * s + d < UInt64.size then takeDigits (10 * s + d) ds else (s, d :: ds)

/-- The significand and the power of ten that it counts in. A whole digit left over raises the
power by one, and a fraction digit taken lowers it by one. -/
def significand (x : Number) : Nat × Int :=
  let (s, beyond) := takeDigits 0 x.wholeDigits
  let (s, ignored) := takeDigits s x.fraction
  (s, x.exponent.getD 0 + beyond.length - (x.fraction.length - ignored.length : Nat))

/-- The greatest power of ten that is a double. -/
def maxPower : Nat := 308

/-- A negative power brings every significand down to a double. -/
def isFinite (x : Number) : Bool :=
  match x.significand with
  | (0, _) => true
  | (_, .negSucc _) => true
  | (s, .ofNat e) => e ≤ maxPower && Double.productIsFinite s (Nat.pow 10 e)

end Number

end Json

inductive Json where
  | null
  | bool (b : Bool)
  | number (x : Json.Number)
  | string (s : String)
  | array (items : List Json)
  | object (members : List (String × Json))
  | garbled

namespace Json

abbrev Members := List (String × Json)

/-- The value of a whole number. -/
def ofNat (n : Nat) : Json := .number (.ofNat n)

mutual

def isRepresentable : Json → Bool
  | .garbled => false
  | .array items => itemsRepresentable items
  | .object members => membersRepresentable members
  | _ => true

def itemsRepresentable : List Json → Bool
  | [] => true
  | v :: vs => v.isRepresentable && itemsRepresentable vs

def membersRepresentable : Members → Bool
  | [] => true
  | (_, v) :: ms => v.isRepresentable && membersRepresentable ms

end

mutual

/-- How many arrays and objects lie inside each other. -/
def depth : Json → Nat
  | .array items => itemsDepth items + 1
  | .object members => membersDepth members + 1
  | _ => 0

def itemsDepth : List Json → Nat
  | [] => 0
  | v :: vs => max v.depth (itemsDepth vs)

def membersDepth : Members → Nat
  | [] => 0
  | (_, v) :: ms => max v.depth (membersDepth ms)

end

/-- How many arrays and objects may lie inside each other in a value that is held. -/
def nestingLimit : Nat := 127

def canHold (limit : Nat) (v : Json) : Bool := v.isRepresentable && v.depth ≤ limit

end Json

end RtcConfig
