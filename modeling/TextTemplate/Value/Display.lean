import TextTemplate.Value.Basic

/-!
# Values as text

`display` is what a template writes for a value.  Inside a list or a map a value stands in its
`written` form, which differs for text: that stands between single quotes, with a backslash in front
of quotes and backslashes.  The names in a map are not escaped.
-/

namespace TextTemplate.Value

/-- A character of text between single quotes. -/
def writtenChar : Char → List Char
  | '\\' => ['\\', '\\']
  | '\'' => ['\\', '\'']
  | c => [c]

/-- Text between single quotes. -/
def writtenText (s : String) : String :=
  "'" ++ String.ofList (s.toList.flatMap writtenChar) ++ "'"

mutual

/-- A value as it stands inside a list or a map. -/
def written : Value → String
  | .null => "None"
  | .bool true => "True"
  | .bool false => "False"
  | .int n => toString n.toInt
  | .float x => Number.floatText x
  | .text s => writtenText s
  | .list items => "[" ++ ", ".intercalate (writtenItems items) ++ "]"
  | .map ⟨entries⟩ => "\x7b" ++ ", ".intercalate (writtenEntries entries) ++ "\x7d"
  | .function f => "<function " ++ f.name ++ ">"
  | .template t => "<template " ++ t.name ++ ">"
  | .loader _ => "<loader>"

/-- The items of a list. -/
def writtenItems : List Value → List String
  | [] => []
  | v :: rest => v.written :: writtenItems rest

/-- The entries of a map. -/
def writtenEntries : List (String × Value) → List String
  | [] => []
  | (name, v) :: rest => ("'" ++ name ++ "': " ++ v.written) :: writtenEntries rest

end

/-- A value as a template writes it. -/
def display : Value → String
  | .text s => s
  | v => v.written

/-- A value with its kind, for inspection. -/
def inspect : Value → String
  | .text s => "Str(" ++ Text.quoted s ++ ")"
  | v => v.kind.name ++ "(" ++ v.written ++ ")"

end TextTemplate.Value
