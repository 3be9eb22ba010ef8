/-!
# Kinds of values

Every value is of one of ten kinds; messages name a value by its kind.
-/

namespace TextTemplate

/-- The kinds of values. -/
inductive Kind where
  | null | bool | int | float | text | list | map | function | template | loader
deriving DecidableEq

/-- How a kind is written. -/
def Kind.name : Kind → String
  | .null => "NoneType"
  | .bool => "bool"
  | .int => "int"
  | .float => "float"
  | .text => "str"
  | .list => "list"
  | .map => "dict"
  | .function => "function"
  | .template => "template"
  | .loader => "loader"

end TextTemplate
