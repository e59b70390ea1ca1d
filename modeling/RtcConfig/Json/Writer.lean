import RtcConfig.Json.Basic

/-! # Writing JSON text

The compact text of a value: no blanks, members in order. In strings a quote, a backslash and
the control characters are escaped, those with a letter of their own by that letter, and nothing
else.
-/

namespace RtcConfig.Json

def escapeChar (c : Char) : List Char :=
  match c with
  | '"' => ['\\', '"']
  | '\\' => ['\\', '\\']
  | '\x08' => ['\\', 'b']
  | '\x0c' => ['\\', 'f']
  | '\n' => ['\\', 'n']
  | '\r' => ['\\', 'r']
  | '\t' => ['\\', 't']
  | c => if c.toNat < 0x20 then
      ['\\', 'u', '0', '0', Nat.digitChar (c.toNat / 16), Nat.digitChar (c.toNat % 16)]
    else [c]

def writeString (s : String) : List Char := '"' :: (s.toList.flatMap escapeChar ++ ['"'])

def writeFraction : List (Fin 10) → List Char
  | [] => []
  | ds => '.' :: ds.map fun d => Nat.digitChar d.val

def writeExponent : Option Int → List Char
  | none => []
  | some (.ofNat n) => 'e' :: Text.decimal n
  | some (.negSucc n) => 'e' :: '-' :: Text.decimal (n + 1)

def writeNumber (x : Number) : List Char :=
  (if x.negative then ['-'] else []) ++ Text.decimal x.whole ++ writeFraction x.fraction ++
    writeExponent x.exponent

mutual

/-- A garbled value is written as half of a surrogate pair. -/
def writeValue : Json → List Char
  | .null => ['n', 'u', 'l', 'l']
  | .bool true => ['t', 'r', 'u', 'e']
  | .bool false => ['f', 'a', 'l', 's', 'e']
  | .number x => writeNumber x
  | .string s => writeString s
  | .garbled => ['"', '\\', 'u', 'd', '8', '0', '0', '"']
  | .array [] => ['[', ']']
  | .array (v :: vs) => '[' :: (writeValue v ++ writeItems vs)
  | .object [] => ['\x7b', '\x7d']
  | .object ((name, v) :: ms) =>
    '\x7b' :: (writeString name ++ ':' :: (writeValue v ++ writeMembers ms))

/-- The items behind the first one, with the closing bracket. -/
def writeItems : List Json → List Char
  | [] => [']']
  | v :: vs => ',' :: (writeValue v ++ writeItems vs)

/-- The members behind the first one, with the closing brace. -/
def writeMembers : Members → List Char
  | [] => ['\x7d']
  | (name, v) :: ms => ',' :: (writeString name ++ ':' :: (writeValue v ++ writeMembers ms))

end

def write (v : Json) : String := String.ofList v.writeValue

end RtcConfig.Json
