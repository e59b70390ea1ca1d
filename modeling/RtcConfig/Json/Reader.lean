import RtcConfig.Json.Basic

/-! # Reading JSON text

The reader accepts exactly one value with optional blanks around it: no comments, no trailing
commas, no leading zeros, no raw control characters in strings. Each function takes the text
that is left and returns what it read with the text behind it. Reading a value consumes a
character for every two calls, so twice the length of the text bounds the calls.
-/

namespace RtcConfig.Json

def isBlank (c : Char) : Bool := c == ' ' || c == '\t' || c == '\n' || c == '\r'

def skipBlank (cs : List Char) : List Char := cs.dropWhile isBlank

/-- One element of a string: a character, or a UTF-16 unit given by number. -/
inductive Piece where
  | char (c : Char)
  | unit (n : Nat)
  deriving DecidableEq, Repr

/-- The character that a backslash and this letter stand for. -/
def unescape : Char → Option Char
  | '"' => some '"'
  | '\\' => some '\\'
  | '/' => some '/'
  | 'b' => some '\x08'
  | 'f' => some '\x0c'
  | 'n' => some '\n'
  | 'r' => some '\r'
  | 't' => some '\t'
  | _ => none

/-- The elements of a string up to its closing quote. -/
def readPieces : List Char → Option (List Piece × List Char)
  | [] => none
  | '"' :: r => some ([], r)
  | '\\' :: 'u' :: a :: b :: c :: d :: r => match Text.valueFrom 16 0 [a, b, c, d] with
    | some n => (readPieces r).map fun p => (.unit n :: p.1, p.2)
    | none => none
  | '\\' :: e :: r => match unescape e with
    | some c => (readPieces r).map fun p => (.char c :: p.1, p.2)
    | none => none
  | c :: r =>
    if c.toNat < 0x20 ∨ c = '\\' then none
    else (readPieces r).map fun p => (.char c :: p.1, p.2)

def isHighSurrogate (n : Nat) : Bool := 0xd800 ≤ n && n < 0xdc00

def isLowSurrogate (n : Nat) : Bool := 0xdc00 ≤ n && n < 0xe000

/-- The text that the elements spell; a surrogate counts only as one half of a pair. -/
def spell : List Piece → Option (List Char)
  | [] => some []
  | .char c :: ps => (spell ps).map (c :: ·)
  | .unit n :: .unit m :: ps =>
    if isHighSurrogate n then
      if isLowSurrogate m then
        (spell ps).map (Char.ofNat (0x10000 + (n - 0xd800) * 0x400 + (m - 0xdc00)) :: ·)
      else none
    else if isLowSurrogate n then none
    else (spell (.unit m :: ps)).map (Char.ofNat n :: ·)
  | .unit n :: ps =>
    if isHighSurrogate n || isLowSurrogate n then none
    else (spell ps).map (Char.ofNat n :: ·)

/-- A string behind its opening quote, with the text that it spells if there is one. -/
def readString (cs : List Char) : Option (Option String × List Char) :=
  (readPieces cs).map fun p => ((spell p.1).map String.ofList, p.2)

def ofSpelling : Option String → Json
  | some s => .string s
  | none => .garbled

def ofNumber (x : Number) : Json := if x.isFinite then .number x else .garbled

/-- The object with the given members, provided that every name spells a text. -/
def ofMembers (ms : List (Option String × Json)) : Json :=
  match ms.mapM fun m => m.1.map fun name => (name, m.2) with
  | some members => .object members
  | none => .garbled

/-- A run of at least one decimal digit. -/
def readDigits (cs : List Char) : Option (List Char × List Char) :=
  match cs.span (Text.isDigit 10) with
  | ([], _) => none
  | found => some found

def readWhole : List Char → Option (Nat × List Char)
  | '0' :: r => some (0, r)
  | cs => do
    let (ds, rest) ← readDigits cs
    let n ← Text.numeral? 10 ds
    some (n, rest)

def readFraction : List Char → Option (List (Fin 10) × List Char)
  | '.' :: r => do
    let (ds, rest) ← readDigits r
    some (ds.map Text.decimalDigit, rest)
  | cs => some ([], cs)

def readPower (sign : Int) (cs : List Char) : Option (Option Int × List Char) := do
  let (ds, rest) ← readDigits cs
  let n ← Text.numeral? 10 ds
  some (some (sign * n), rest)

def readExponent : List Char → Option (Option Int × List Char)
  | c :: r =>
    if c = 'e' ∨ c = 'E' then
      match r with
      | '-' :: r => readPower (-1) r
      | '+' :: r => readPower 1 r
      | r => readPower 1 r
    else some (none, c :: r)
  | [] => some (none, [])

def readUnsigned (negative : Bool) (cs : List Char) : Option (Number × List Char) := do
  let (whole, r) ← readWhole cs
  let (fraction, r) ← readFraction r
  let (exponent, r) ← readExponent r
  some (⟨negative, whole, fraction, exponent⟩, r)

def readNumber : List Char → Option (Number × List Char)
  | '-' :: r => readUnsigned true r
  | cs => readUnsigned false cs

mutual

def readValue : Nat → List Char → Option (Json × List Char)
  | 0, _ => none
  | fuel + 1, cs => match skipBlank cs with
    | '"' :: r => (readString r).map fun p => (ofSpelling p.1, p.2)
    | '[' :: r => match skipBlank r with
      | ']' :: r => some (.array [], r)
      | r => (readItems fuel r).map fun p => (.array p.1, p.2)
    | '\x7b' :: r => match skipBlank r with
      | '\x7d' :: r => some (.object [], r)
      | r => (readMembers fuel r).map fun p => (ofMembers p.1, p.2)
    | 'n' :: 'u' :: 'l' :: 'l' :: r => some (.null, r)
    | 't' :: 'r' :: 'u' :: 'e' :: r => some (.bool true, r)
    | 'f' :: 'a' :: 'l' :: 's' :: 'e' :: r => some (.bool false, r)
    | r => (readNumber r).map fun p => (ofNumber p.1, p.2)

/-- The items of an array behind its bracket, of which there is at least one. -/
def readItems : Nat → List Char → Option (List Json × List Char)
  | 0, _ => none
  | fuel + 1, cs => do
    let (v, r) ← readValue fuel cs
    match skipBlank r with
    | ',' :: r => (readItems fuel r).map fun p => (v :: p.1, p.2)
    | ']' :: r => some ([v], r)
    | _ => none

/-- The members of an object behind its brace, of which there is at least one. -/
def readMembers : Nat → List Char → Option (List (Option String × Json) × List Char)
  | 0, _ => none
  | fuel + 1, cs => match skipBlank cs with
    | '"' :: r => do
      let (name, r) ← readString r
      match skipBlank r with
      | ':' :: r => do
        let (v, r) ← readValue fuel r
        match skipBlank r with
        | ',' :: r => (readMembers fuel r).map fun p => ((name, v) :: p.1, p.2)
        | '\x7d' :: r => some ([(name, v)], r)
        | _ => none
      | _ => none
    | _ => none

end

/-- The value that the whole text denotes. -/
def read (text : String) : Option Json :=
  let cs := text.toList
  match readValue (2 * cs.length + 2) cs with
  | some (v, rest) => if skipBlank rest = [] then some v else none
  | none => none

end RtcConfig.Json
