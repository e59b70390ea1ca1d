/-! # Whole numbers in double precision

A double keeps 53 significant bits and stays below 2 ^ 1024. A whole number with more bits is
rounded to the nearest one that can be kept, halfway between two of them to the one whose last
kept bit is zero. Where that reaches 2 ^ 1024 the number is beyond every double.
-/

namespace RtcConfig.Double

/-- How many significant bits are kept. -/
def precision : Nat := 53

/-- The least power of two beyond every double. -/
def limit : Nat := Nat.pow 2 1024

/-- What the last kept bit of a number counts. -/
def lastPlace (n : Nat) : Nat := Nat.pow 2 (n.log2 + 1 - precision)

/-- A quotient to the nearest whole number, a half to the even one. -/
def divideToEven (n d : Nat) : Nat :=
  let q := n / d
  let twice := 2 * (n % d)
  if d < twice ∨ (d = twice ∧ q % 2 = 1) then q + 1 else q

/-- A whole number to double precision. -/
def round (n : Nat) : Nat := divideToEven n (lastPlace n) * lastPlace n

def isFinite (n : Nat) : Bool := round n < limit

/-- The product of two doubles is rounded once. -/
def productIsFinite (a b : Nat) : Bool := isFinite (round a * round b)

end RtcConfig.Double
