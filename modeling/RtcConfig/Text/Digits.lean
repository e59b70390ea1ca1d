/-! # Numerals

Digits of a base up to sixteen over lists of characters. A numeral is a non-empty run of digits;
its value is read from the left. Decimal and hexadecimal numerals are written without leading
zeros, and hexadecimal digits in lower case.
-/

namespace RtcConfig.Text

/-- The value of a digit of the given base, letters of either case counting from ten. -/
def digit? (base : Nat) (c : Char) : Option Nat :=
  let n :=
    if '0' ≤ c ∧ c ≤ '9' then c.toNat - 48
    else if 'a' ≤ c ∧ c ≤ 'f' then c.toNat - 87
    else if 'A' ≤ c ∧ c ≤ 'F' then c.toNat - 55
    else base
  if n < base then some n else none

def isDigit (base : Nat) (c : Char) : Bool := (digit? base c).isSome

/-- Continues a numeral whose digits so far have the value `n`. -/
def valueFrom (base : Nat) (n : Nat) : List Char → Option Nat
  | [] => some n
  | c :: cs => match digit? base c with
    | some d => valueFrom base (base * n + d) cs
    | none => none

/-- The value of a numeral that is the whole text. -/
def numeral? (base : Nat) : List Char → Option Nat
  | [] => none
  | c :: cs => valueFrom base 0 (c :: cs)

def decimal (n : Nat) : List Char := Nat.toDigits 10 n

/-- The value of a decimal digit. -/
def decimalDigit (c : Char) : Fin 10 := Fin.ofNat 10 (c.toNat - 48)

def hexadecimal (n : Nat) : List Char := Nat.toDigits 16 n

/-- The digit of a value below sixteen, in upper case. -/
def upperHexDigit (n : Nat) : Char := (Nat.digitChar n).toUpper

/-- A decimal numeral filled up with zeros on the left to the given number of digits. -/
def paddedDecimal (width n : Nat) : List Char :=
  let digits := decimal n
  List.replicate (width - digits.length) '0' ++ digits

end RtcConfig.Text
