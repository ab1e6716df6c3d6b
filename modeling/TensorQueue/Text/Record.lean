/-!
# Record text

How a structured value is shown on one line: its name, its fields between
braces, and two dots where further fields are left out.
-/

set_option autoImplicit false

namespace TensorQueue.Text

structure Field where
  name : String
  value : String

def commaSeparated (items : List String) : String := ", ".intercalate items

/-- A record; an open one ends in two dots for the fields not shown. -/
def record (name : String) (fields : List Field) (closed : Bool) : String :=
  let shown := fields.map fun f => f.name ++ ": " ++ f.value
  name ++ " \x7b " ++ commaSeparated (if closed then shown else shown ++ [".."]) ++ " \x7d"

def sequence (items : List String) : String := "[" ++ commaSeparated items ++ "]"

/-- A value that may be missing. -/
def optional (value : Option String) : String :=
  match value with
  | none => "None"
  | some v => "Some(" ++ v ++ ")"

end TensorQueue.Text
