import TextTemplate.Value.Basic

/-!
# Equality and order of values

Numbers of all kinds are equal and ordered by their value as floats, two integers by their exact
value.  Lists are compared from the front, maps entry by entry; functions, templates and loaders are
equal only to themselves.
-/

namespace TextTemplate.Value

/-- A number as a float; truth values count as 0 and 1. -/
def float? : Value → Option Float
  | .int n => some (Float.ofInt n.toInt)
  | .float x => some x
  | .bool b => some (if b then 1 else 0)
  | _ => none

/-- A whole number of 64 bits; truth values count as 0 and 1. -/
def int64? : Value → Option Int64
  | .int n => some n
  | .bool b => some (if b then 1 else 0)
  | _ => none

/-- A whole number. -/
def int? (v : Value) : Option Int := v.int64?.map Int64.toInt

/-! ## Equality -/

mutual

/-- Whether two values are equal. -/
def equals : Value → Value → Bool
  | .null, .null => true
  | .text a, .text b => a == b
  | .list a, .list b => equalItems a b
  | .map ⟨a⟩, .map ⟨b⟩ => equalEntries a b
  | .function f, .function g => decide (f = g)
  | .template s, .template t => decide (s.id = t.id)
  | .loader a, .loader b => decide (a = b)
  | .int a, .int b => a == b
  | v, w =>
    match v.float?, w.float? with
    | some x, some y => x == y
    | _, _ => false

/-- Whether two lists have equal items. -/
def equalItems : List Value → List Value → Bool
  | [], [] => true
  | v :: vs, w :: ws => equals v w && equalItems vs ws
  | _, _ => false

/-- Whether two maps have the same names, with equal values. -/
def equalEntries : List (String × Value) → List (String × Value) → Bool
  | [], [] => true
  | (m, v) :: vs, (n, w) :: ws => m == n && equals v w && equalEntries vs ws
  | _, _ => false

end

/-- Whether two values are one thing: equal, and of one kind. -/
def identical (v w : Value) : Bool := v.kind = w.kind && v.equals w

/-! ## Order -/

/-- The order of two floats; not-a-number has no place in it. -/
def compareFloats (x y : Float) : Except EvalFault Ordering :=
  if x < y then .ok .lt
  else if x == y then .ok .eq
  else if y < x then .ok .gt
  else .error .unordered

mutual

/-- The order of two values, if they have one. -/
def compare : Value → Value → Except EvalFault Ordering
  | .int a, .int b => .ok (Ord.compare a.toInt b.toInt)
  | .text a, .text b => .ok (Ord.compare a b)
  | .list a, .list b => compareItems a b
  | v, w =>
    match v.float?, w.float? with
    | some x, some y => compareFloats x y
    | _, _ => .error (.incomparable v.kind w.kind)

/-- The order of two lists: that of the first items that differ, else that of their lengths. -/
def compareItems : List Value → List Value → Except EvalFault Ordering
  | [], [] => .ok .eq
  | [], _ :: _ => .ok .lt
  | _ :: _, [] => .ok .gt
  | v :: vs, w :: ws =>
    match compare v w with
    | .ok .eq => compareItems vs ws
    | other => other

end

/-! ## Membership -/

/-- Whether a value contains an item: a text a piece of it, a list an element, a map a name. -/
def contains (container item : Value) : Except EvalFault Bool :=
  match container with
  | .text s =>
    match item with
    | .text piece => .ok (Text.contains piece.toList s.toList)
    | other => .error (.containment other.kind)
  | .list items => .ok (items.any fun v => v.equals item)
  | .map entries =>
    match item with
    | .text name => .ok (entries.contains name)
    | _ => .ok false
  | other => .error (.notContainer other.kind)

end TextTemplate.Value
