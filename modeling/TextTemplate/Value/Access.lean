import TextTemplate.Number.Progression
import TextTemplate.Value.Basic

/-!
# Parts of values

An index counts from the front, a negative one from the end.  A slice walks over the indices from one
of its bounds to the other, after both have been brought into the sequence.
-/

namespace TextTemplate.Value

/-- The value of a name in a map. -/
def member (target : Value) (name : String) : Except EvalFault Value :=
  let missing := .error (.noAttribute target.kind name)
  match target with
  | .map entries => match entries.get? name with
    | some v => .ok v
    | none => missing
  | _ => missing

/-- The position in a sequence that an index stands for. -/
def position? (index : Int) (length : Nat) : Option Nat :=
  let i := if index < 0 then index + length else index
  if 0 ≤ i ∧ i < length then some i.toNat else none

/-- The element of a sequence at an index. -/
def elementAt? {α : Type} (items : List α) (index : Int) : Option α :=
  (position? index items.length).bind fun i => items[i]?

/-- The item of a list or a text at an index, or the value of a name in a map. -/
def item (target index : Value) : Except EvalFault Value :=
  match target, index with
  | .list items, .int i =>
    match elementAt? items i.toInt with
    | some v => .ok v
    | none => .error (.indexRange .list)
  | .text s, .int i =>
    match elementAt? s.toList i.toInt with
    | some c => .ok (.text (String.singleton c))
    | none => .error (.indexRange .text)
  | .map entries, .text name =>
    match entries.get? name with
    | some v => .ok v
    | none => .error (.noKey name)
  | .list _, other => .error (.indexKind other.kind)
  | .text _, other => .error (.indexKind other.kind)
  | other, _ => .error (.notSubscriptable other.kind)

/-! ## Slices -/

/-- A bound of a slice: an integer, or nothing. -/
def sliceBound (bound : String) : Option Value → Except EvalFault (Option Int)
  | none => .ok none
  | some .null => .ok none
  | some (.int n) => .ok (some n.toInt)
  | some v => .error (.sliceBound bound v.kind)

/-- A bound brought between two limits, after a negative one has been counted from the end. -/
def clampBound (length : Nat) (low high bound : Int) : Int :=
  min (max (if bound < 0 then bound + length else bound) low) high

/-- The indices of a slice. -/
def sliceIndices (length : Nat) (start stop : Option Int) (step : Int) : List Int :=
  let (low, high) : Int × Int := if 0 < step then (0, length) else (-1, length - 1)
  let clamp := clampBound length low high
  let first := if 0 < step then low else high
  let last := if 0 < step then high else low
  (Number.walk step ((stop.map clamp).getD last) #[] ((start.map clamp).getD first)).toList

/-- The elements of a sequence at some indices. -/
def select {α : Type} (items : List α) (indices : List Int) : List α :=
  let array := items.toArray
  indices.filterMap fun i => array[i.toNat]?

/-- A part of a list or a text. -/
def slice (target : Value) (start stop step : Option Value) : Except EvalFault Value := do
  let start ← sliceBound "start" start
  let stop ← sliceBound "stop" stop
  let step := (← sliceBound "step" step).getD 1
  if step = 0 then throw .zeroSliceStep
  match target with
  | .list items => return .list (select items (sliceIndices items.length start stop step))
  | .text s =>
    let cs := s.toList
    return .text (String.ofList (select cs (sliceIndices cs.length start stop step)))
  | v => throw (.notSubscriptable v.kind)

end TextTemplate.Value
