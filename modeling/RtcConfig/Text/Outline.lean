/-! # Outlines of values

The one-line text of a structured value: a record names its fields, a list stands in brackets, a
present optional value in `Some(…)`, a pair in parentheses.
-/

namespace RtcConfig.Text

def outlineRecord (name : String) (fields : List (String × String)) : String :=
  name ++ " \x7b " ++ String.intercalate ", " (fields.map fun f => f.1 ++ ": " ++ f.2) ++ " \x7d"

def outlineList (items : List String) : String :=
  "[" ++ String.intercalate ", " items ++ "]"

def outlineOption : Option String → String
  | none => "None"
  | some s => "Some(" ++ s ++ ")"

def outlinePair (a b : String) : String := "(" ++ a ++ ", " ++ b ++ ")"

def outlineBool : Bool → String
  | true => "true"
  | false => "false"

end RtcConfig.Text
