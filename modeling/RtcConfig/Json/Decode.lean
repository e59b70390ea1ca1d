import RtcConfig.Json.Basic

/-! # Decoding JSON values

Decoders from a value to a type, and the two ways in which a record is given: as an object,
where each field is the value of its only member, or as an array of the fields in order, where
trailing ones may be missing. A missing field takes a default or, if it is required, makes the
decoding fail; members with other names are skipped.
-/

namespace RtcConfig.Json

def bool? : Json → Option Bool
  | .bool b => some b
  | _ => none

def string? : Json → Option String
  | .string s => some s
  | _ => none

def uint16? : Json → Option UInt16
  | .number x => match x.natural? with
    | some n => if h : n < UInt16.size then some (UInt16.ofNatLT n h) else none
    | none => none
  | _ => none

def uint64? : Json → Option UInt64
  | .number x => match x.natural? with
    | some n => if h : n < UInt64.size then some (UInt64.ofNatLT n h) else none
    | none => none
  | _ => none

def list? {α : Type} (item : Json → Option α) : Json → Option (List α)
  | .array items => items.mapM item
  | _ => none

/-- A name given as a string, or as an object that has it as its only member with the value null. -/
def name? : Json → Option String
  | .string s => some s
  | .object [(s, .null)] => some s
  | _ => none

namespace Members

/-- The values given under a name. -/
def values (ms : Members) (name : String) : List Json :=
  (ms.filter fun m => m.1 == name).map (·.2)

/-- A field of an object; `absent` is its value without a member, or `none` if it is required. -/
def field {α : Type} (ms : Members) (name : String) (decode : Json → Option α)
    (absent : Option α) : Option α :=
  match ms.values name with
  | [] => absent
  | [v] => decode v
  | _ => none

end Members

/-- The next field of an array, with the items behind it. -/
def next {α : Type} (items : List Json) (decode : Json → Option α) (absent : Option α) :
    Option (α × List Json) :=
  match items with
  | [] => absent.map fun a => (a, [])
  | v :: vs => (decode v).map fun a => (a, vs)

/-- A record whose fields are all read; items left over make the decoding fail. -/
def done {α : Type} (items : List Json) (a : α) : Option α :=
  if items.isEmpty then some a else none

/-- A record given as an object or as an array. -/
def record? {α : Type} (ofMembers : Members → Option α) (ofItems : List Json → Option α) :
    Json → Option α
  | .object ms => ofMembers ms
  | .array vs => ofItems vs
  | _ => none

end RtcConfig.Json
