import RtcConfig.Text.Digits

/-! # Durations

A span of time in whole nanoseconds and its text. The text counts in the largest unit not above
the span, down to nanoseconds, and writes the rest as a decimal fraction without trailing zeros.
-/

namespace RtcConfig

structure Duration where
  nanoseconds : Nat
  deriving DecidableEq, Repr

namespace Duration

def zero : Duration := ⟨0⟩

def ofMillis (n : Nat) : Duration := ⟨n * 1000000⟩

def ofSeconds (n : Nat) : Duration := ⟨n * 1000000000⟩

/-- The text of `n` parts of a unit that has ten to the power of `places` such parts. -/
def amount (places n : Nat) (unit : String) : String :=
  let parts := Nat.pow 10 places
  let whole := Text.decimal (n / parts)
  let part := Text.paddedDecimal places (n % parts)
  let part := (part.reverse.dropWhile (· == '0')).reverse
  String.ofList (whole ++ (if part.isEmpty then [] else '.' :: part)) ++ unit

def text (d : Duration) : String :=
  let n := d.nanoseconds
  if n ≥ 1000000000 then amount 9 n "s"
  else if n ≥ 1000000 then amount 6 n "ms"
  else if n ≥ 1000 then amount 3 n "µs"
  else amount 0 n "ns"

end Duration

end RtcConfig
