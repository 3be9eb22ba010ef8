import TextTemplate.Number.Progression
import TextTemplate.Value.Arithmetic
import TextTemplate.Value.Display
import TextTemplate.Value.Sort

/-!
# Global functions

The functions that every expression can call by name, as long as no variable of that name hides
them.
-/

namespace TextTemplate

/-- Fails unless a function takes that many arguments. -/
def checkArity (function : String) (takes : Arity) (args : List Value) : Except EvalFault Unit :=
  if takes.allows args.length then .ok () else .error (.arity function takes args.length)

/-- A whole number as an argument. -/
def intArgument (function : String) (v : Value) : Except EvalFault Int :=
  match v.int? with
  | some n => .ok n
  | none => .error (.intArgument function v.kind)

/-- A text as an argument. -/
def textArgument (function : String) : Value → Except EvalFault String
  | .text s => .ok s
  | v => .error (.textArgument function v.kind)

/-- How many arguments a global function takes. -/
def Global.arity : Global → Arity
  | .range => .between 1 3
  | .len | .abs | .sorted => .exactly 1
  | .str | .int | .float | .bool | .list => .between 0 1
  | .min | .max => .atLeast 1
  | .sum | .enumerate => .between 1 2

namespace Value

/-- The integers from a start to a stop in steps. -/
def range (start stop step : Int) : Except EvalFault Value := do
  if step = 0 then throw .zeroRangeStep
  if maxSequence < Number.termCount start stop step then throw .longRange
  return .list ((Number.progression start stop step).map fun n => .int (Int64.ofInt n))

/-- The bounds and the step of a range. -/
def rangeArguments : List Value → Except EvalFault (Int × Int × Int)
  | [stop] => return (0, ← intArgument "range" stop, 1)
  | [start, stop] =>
    return (← intArgument "range" start, ← intArgument "range" stop, 1)
  | start :: stop :: step :: _ =>
    return (← intArgument "range" start, ← intArgument "range" stop, ← intArgument "range" step)
  | [] => .error (.arity "range" Global.range.arity 0)

/-- The number of characters, items or entries. -/
def length : Value → Except EvalFault Value
  | .text s => ofInt s.length
  | .list items => ofInt items.length
  | .map entries => ofInt entries.size
  | v => .error (.noLength v.kind)

/-- The whole part of a finite float, brought into the integers of 64 bits. -/
def wholePart? (x : Float) : Option Int64 :=
  (Number.Binary.ofFloat? x).map fun b =>
    let n : Int := b.mantissa * Number.twoTo b.exponent.toNat / Number.twoTo (-b.exponent).toNat
    Int64.ofInt (max Number.minInt (min (if b.negative then -n else n) Number.maxInt))

/-- A value as an integer. -/
def toInt : Value → Except EvalFault Value
  | .int n => .ok (.int n)
  | .bool b => .ok (.int (if b then 1 else 0))
  | .float x =>
    match wholePart? x with
    | some n => .ok (.int n)
    | none => .error (.intSource .float)
  | .text s =>
    match Number.readInt? (Text.trim s.toList) with
    | some n => .ok (.int n)
    | none => .error (.intNumeral s)
  | v => .error (.intSource v.kind)

/-- A value as a float. -/
def toFloat : Value → Except EvalFault Value
  | .int n => .ok (.float (Float.ofInt n.toInt))
  | .bool b => .ok (.float (if b then 1 else 0))
  | .float x => .ok (.float x)
  | .text s =>
    match Number.readFloat? (Text.trim s.toList) with
    | some x => .ok (.float x)
    | none => .error (.floatNumeral s)
  | v => .error (.floatSource v.kind)

/-- The absolute value of a number. -/
def absolute : Value → Except EvalFault Value
  | .int n => ofInt n.toInt.natAbs
  | .float x => .ok (.float x.abs)
  | v => .error (.absOperand v.kind)

/-- The extreme of some values, or of the items of a single one. -/
def extreme (function : String) (wanted : Ordering) (args : List Value) :
    Except EvalFault Value := do
  let items ← match args with
    | [v] => v.iterate
    | vs => .ok vs
  match items with
  | [] => throw (.emptySequence function)
  | first :: rest => extremum wanted first rest

/-- The sum of values, on top of a first one. -/
def total (first : Value) : List Value → Except EvalFault Value
  | [] => .ok first
  | v :: rest => do total (← first.add v) rest

/-- Values with their numbers. -/
def enumerateFrom (number : Int) : List Value → Except EvalFault (List Value)
  | [] => .ok []
  | v :: rest => do
    let n ← ofInt number
    return .list [n, v] :: (← enumerateFrom (number + 1) rest)

end Value

/-- What a global function gives for its arguments. -/
def Global.call (g : Global) (args : List Value) : Except EvalFault Value := do
  checkArity g.name g.arity args
  match g, args with
  | .range, args =>
    let (start, stop, step) ← Value.rangeArguments args
    Value.range start stop step
  | .len, [v] => v.length
  | .str, [] => return .text ""
  | .str, v :: _ => return .text v.display
  | .int, [] => return .int 0
  | .int, v :: _ => v.toInt
  | .float, [] => return .float 0
  | .float, v :: _ => v.toFloat
  | .bool, [] => return .bool false
  | .bool, v :: _ => return .bool v.isTruthy
  | .list, [] => return .list []
  | .list, v :: _ => return .list (← v.iterate)
  | .abs, [v] => v.absolute
  | .min, args => Value.extreme "min" .lt args
  | .max, args => Value.extreme "max" .gt args
  | .sum, [v] => Value.total (.int 0) (← v.iterate)
  | .sum, v :: first :: _ => Value.total first (← v.iterate)
  | .sorted, [v] => return .list (← Value.sort (← v.iterate))
  | .enumerate, [v] => return .list (← Value.enumerateFrom 0 (← v.iterate))
  | .enumerate, v :: start :: _ =>
    let number ← intArgument "enumerate" start
    return .list (← Value.enumerateFrom number (← v.iterate))
  | g, args => throw (.arity g.name g.arity args.length)

end TextTemplate
