/-
  Descriptions of records in a line of text.

  * `Text.describedRecord name fields`: the record's name, and its fields in braces.
  * `Text.describedOption d`: `None`, or the description of the value in `Some( )`.
  * `Text.describedList d`: the descriptions of the items in brackets.
-/

namespace ExitBridge.Text

/-- A record: its name, and its fields in braces. -/
def describedRecord (name : String) (fields : List (String × String)) : String :=
  name ++ " \x7b " ++ ", ".intercalate (fields.map fun (field, value) => field ++ ": " ++ value) ++
    " \x7d"

/-- A value that may be missing. -/
def describedOption {α : Type} (d : α → String) : Option α → String
  | none => "None"
  | some a => "Some(" ++ d a ++ ")"

/-- A list of values. -/
def describedList {α : Type} (d : α → String) (items : List α) : String :=
  "[" ++ ", ".intercalate (items.map d) ++ "]"

end ExitBridge.Text
