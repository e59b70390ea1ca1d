import RtcConfig.Json.Decode

/-! # Filters

A filter admits what one of its includes hits, or everything if it has none, unless one of its
excludes hits it as well.
-/

namespace RtcConfig

structure Filter (α : Type) where
  includes : List α := []
  excludes : List α := []
  deriving DecidableEq

namespace Filter

def isEmpty {α : Type} (f : Filter α) : Bool := f.includes.isEmpty && f.excludes.isEmpty

def allows {α : Type} (hits : α → Bool) (f : Filter α) : Bool :=
  (f.includes.isEmpty || f.includes.any hits) && !f.excludes.any hits

def ofMembers? (ms : Json.Members) : Option (Filter String) := do
  let includes ← ms.field "includes" (Json.list? Json.string?) (some [])
  let excludes ← ms.field "excludes" (Json.list? Json.string?) (some [])
  some ⟨includes, excludes⟩

def ofItems? (items : List Json) : Option (Filter String) := do
  let (includes, items) ← Json.next items (Json.list? Json.string?) (some [])
  let (excludes, items) ← Json.next items (Json.list? Json.string?) (some [])
  Json.done items ⟨includes, excludes⟩

def ofJson? : Json → Option (Filter String) := Json.record? ofMembers? ofItems?

def toJson (f : Filter String) : Json := .object [
  ("includes", .array (f.includes.map .string)),
  ("excludes", .array (f.excludes.map .string))]

end Filter

end RtcConfig
