import TextTemplate.Function.Global
import TextTemplate.Text.Casing

/-!
# Methods

The functions that a text, a list or a map has of its own.
-/

namespace TextTemplate.Method

open TextTemplate.Text

/-- A text as a value. -/
def textValue (cs : List Char) : Value := .text (String.ofList cs)

/-- Every word between single spaces with a capital in front. -/
def title (cs : List Char) : List Char :=
  [' '].intercalate ((split [' '] cs).map capitalize)

/-- Texts in order. -/
def textArguments (function : String) : List Value → Except EvalFault (List String)
  | [] => .ok []
  | v :: rest => do
    let s ← textArgument function v
    return s :: (← textArguments function rest)

/-- The methods of a text that take no arguments. -/
def plain? : String → Option (List Char → List Char)
  | "upper" => some upper
  | "lower" => some lower
  | "strip" => some trim
  | "lstrip" => some trimLeft
  | "rstrip" => some trimRight
  | "title" => some title
  | "capitalize" => some capitalize
  | _ => none

/-- The methods of a text that take arguments. -/
def ofTextWith (s : String) (name : String) (args : List Value) : Except EvalFault Value :=
  match name, args with
  | "startswith", [v] => do
    return .bool (startsWith s.toList (← textArgument name v).toList)
  | "endswith", [v] => do
    return .bool (endsWith s.toList (← textArgument name v).toList)
  | "replace", [old, new] => do
    let old ← textArgument name old
    let new ← textArgument name new
    return textValue (replace old.toList new.toList s.toList)
  | "split", [] => .ok (.list ((words s.toList).map textValue))
  | "split", [.null] => .ok (.list ((words s.toList).map textValue))
  | "split", [v] => do
    let separator ← textArgument name v
    return .list ((split separator.toList s.toList).map textValue)
  | "join", [v] => do
    let parts ← textArguments name (← v.iterate)
    return .text (s.intercalate parts)
  | "startswith", args => .error (.arity name (.exactly 1) args.length)
  | "endswith", args => .error (.arity name (.exactly 1) args.length)
  | "replace", args => .error (.arity name (.exactly 2) args.length)
  | "split", args => .error (.arity name (.between 0 1) args.length)
  | "join", args => .error (.arity name (.exactly 1) args.length)
  | _, _ => .error (.noAttribute .text name)

/-- A method of a text. -/
def ofText (s : String) (name : String) (args : List Value) : Except EvalFault Value :=
  match plain? name with
  | some f => do
    checkArity name (.exactly 0) args
    return textValue (f s.toList)
  | none => ofTextWith s name args

/-- A method of a list. -/
def ofList (items : List Value) (name : String) (args : List Value) : Except EvalFault Value :=
  match name, args with
  | "index", [v] =>
    match items.findIdx? fun w => w.equals v with
    | some i => Value.ofInt i
    | none => .error (.notInList v.display)
  | "count", [v] => Value.ofInt (items.countP fun w => w.equals v)
  | "index", args => .error (.arity name (.exactly 1) args.length)
  | "count", args => .error (.arity name (.exactly 1) args.length)
  | _, _ => .error (.noAttribute .list name)

/-- A method of a map. -/
def ofMap (entries : Dictionary Value) (name : String) (args : List Value) :
    Except EvalFault Value :=
  match name, args with
  | "get", key :: default => do
    checkArity name (.between 1 2) args
    let key ← textArgument name key
    return (entries.get? key).getD (default.head?.getD .null)
  | "get", [] => .error (.arity name (.between 1 2) 0)
  | "keys", [] => .ok (.list (entries.keys.map .text))
  | "values", [] => .ok (.list entries.values)
  | "items", [] => .ok (.list (entries.entries.map fun (k, v) => .list [.text k, v]))
  | "keys", args => .error (.arity name (.exactly 0) args.length)
  | "values", args => .error (.arity name (.exactly 0) args.length)
  | "items", args => .error (.arity name (.exactly 0) args.length)
  | _, _ => .error (.noAttribute .map name)

/-- A method of a value. -/
def call (target : Value) (name : String) (args : List Value) : Except EvalFault Value :=
  match target with
  | .text s => ofText s name args
  | .list items => ofList items name args
  | .map entries => ofMap entries name args
  | v => .error (.noAttribute v.kind name)

end TextTemplate.Method
