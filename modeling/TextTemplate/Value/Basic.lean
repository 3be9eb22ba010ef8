import TextTemplate.Node

/-!
# Values

What expressions compute with and templates are rendered with.  A value may hold a template, and a
template holds values: its default parameters and the entries that are set up for it.
-/

namespace TextTemplate

/-- The functions that every expression can call by name. -/
inductive Global where
  | range | len | str | int | float | bool | list | abs | min | max | sum | sorted | enumerate
deriving DecidableEq

/-- A function.  Functions of one name are told apart by a number. -/
inductive Function where
  /-- A global function as one look at its name has found it: each look finds another one. -/
  | global (g : Global) (serial : Nat)
  /-- Text as markup. -/
  | escaper (serial : Nat)
  /-- A function of the program that uses the library. -/
  | host (name : String) (serial : Nat)
deriving DecidableEq

/-- Tells loaders apart. -/
structure LoaderId where
  number : Nat
deriving DecidableEq

/-- Tells templates apart: who compiled a template, and the how-manieth of them it is. -/
structure TemplateId where
  maker : Option LoaderId
  serial : Nat
deriving DecidableEq

/-- A template over a type of values. -/
structure TemplateOf (α : Type) where
  id : TemplateId
  body : Fragment
  /-- Parameters that a render starts with. -/
  defaults : Dictionary α
  /-- Entries that are set up for the template; parameters of the same name hide them. -/
  globals : Dictionary α

/-- A value. -/
inductive Value where
  | null
  | bool (value : Bool)
  | int (value : Int64)
  | float (value : Float)
  | text (value : String)
  | list (items : List Value)
  | map (entries : Dictionary Value)
  | function (f : Function)
  | template (t : TemplateOf Value)
  | loader (id : LoaderId)

/-- A template. -/
abbrev Template := TemplateOf Value

/-- The name of a template. -/
def TemplateOf.name {α : Type} (t : TemplateOf α) : String := t.body.name

/-- The name that a global function is called by. -/
def Global.name : Global → String
  | .range => "range"
  | .len => "len"
  | .str => "str"
  | .int => "int"
  | .float => "float"
  | .bool => "bool"
  | .list => "list"
  | .abs => "abs"
  | .min => "min"
  | .max => "max"
  | .sum => "sum"
  | .sorted => "sorted"
  | .enumerate => "enumerate"

/-- All global functions. -/
def Global.all : List Global :=
  [.range, .len, .str, .int, .float, .bool, .list, .abs, .min, .max, .sum, .sorted, .enumerate]

/-- The global function of a name. -/
def Global.ofName? (name : String) : Option Global := Global.all.find? fun g => g.name = name

/-- The name of a function. -/
def Function.name : Function → String
  | .global g _ => g.name
  | .escaper _ => "escape_html"
  | .host name _ => name

namespace Value

/-- The kind of a value. -/
def kind : Value → Kind
  | .null => .null
  | .bool _ => .bool
  | .int _ => .int
  | .float _ => .float
  | .text _ => .text
  | .list _ => .list
  | .map _ => .map
  | .function _ => .function
  | .template _ => .template
  | .loader _ => .loader

/-- Whether a value counts as true: not null, not zero, not empty. -/
def isTruthy : Value → Bool
  | .null => false
  | .bool b => b
  | .int n => n != 0
  | .float x => x != 0
  | .text s => !s.isEmpty
  | .list items => !items.isEmpty
  | .map entries => !entries.isEmpty
  | .function _ | .template _ | .loader _ => true

/-- The items of a value: the elements of a list, the characters of a text, the names in a map. -/
def iterate : Value → Except EvalFault (List Value)
  | .list items => .ok items
  | .text s => .ok (s.toList.map fun c => .text (String.singleton c))
  | .map entries => .ok (entries.keys.map .text)
  | v => .error (.notIterable v.kind)

end Value

end TextTemplate
