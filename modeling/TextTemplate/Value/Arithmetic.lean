import TextTemplate.Number.Division
import TextTemplate.Value.Order

/-!
# Arithmetic on values

Whole numbers stay whole and are computed exactly; a result outside 64 bits is refused.  As soon as a
float takes part, the result is a float.  Text and lists are joined by `+` and repeated by `*`.
-/

namespace TextTemplate.Value

/-- The operands of `op`, neither of which has a fitting kind. -/
def unsupported {α : Type} (op : String) (l r : Value) : Except EvalFault α :=
  .error (.operands op l.kind r.kind)

/-- A whole number that may not fit into 64 bits. -/
def fitting : Option Int64 → Except EvalFault Value
  | some n => .ok (.int n)
  | none => .error .overflow

/-- An exact whole number as a value. -/
def ofInt (n : Int) : Except EvalFault Value :=
  fitting (Number.int64? n)

/-- Both operands as floats. -/
def floats (op : String) (l r : Value) : Except EvalFault (Float × Float) :=
  match l.float?, r.float? with
  | some x, some y => .ok (x, y)
  | _, _ => unsupported op l r

/-- Whether a value is a float, and no other number. -/
def isFloat : Value → Bool
  | .float _ => true
  | _ => false

/-- An operation on numbers: on floats if one of them is a float, else on whole numbers. -/
def numeric (op : String) (onInts : Int → Int → Int) (onFloats : Float → Float → Float)
    (l r : Value) : Except EvalFault Value :=
  if l.isFloat || r.isFloat then
    (floats op l r).map fun (x, y) => .float (onFloats x y)
  else
    match l.int?, r.int? with
    | some a, some b => ofInt (onInts a b)
    | _, _ => unsupported op l r

/-- The sum of two numbers, or two texts or lists one behind the other. -/
def add (l r : Value) : Except EvalFault Value :=
  match l, r with
  | .text a, .text b => .ok (.text (a ++ b))
  | .list a, .list b => .ok (.list (a ++ b))
  | l, r => numeric "+" (· + ·) (· + ·) l r

/-- The difference of two numbers. -/
def sub (l r : Value) : Except EvalFault Value := numeric "-" (· - ·) (· - ·) l r

/-! ## Repetition -/

/-- The length of the longest list or text that a repetition or a range may build. -/
def maxSequence : Nat := Number.twoTo 24

/-- How many copies of a sequence are made for a factor; less than none are none. -/
def copies (size : Nat) (factor : Int) : Except EvalFault Nat :=
  if size * factor.toNat ≤ maxSequence then .ok factor.toNat else .error .longRepetition

/-- A text repeated.  Its size counts in bytes of UTF-8. -/
def repeatText (s : String) (factor : Int) : Except EvalFault Value := do
  let n ← copies s.utf8ByteSize factor
  return .text (if s.isEmpty then "" else String.join (List.replicate n s))

/-- A list repeated. -/
def repeatList (items : List Value) (factor : Int) : Except EvalFault Value := do
  let n ← copies items.length factor
  return .list (if items.isEmpty then [] else (List.replicate n items).flatten)

/-- The product of two numbers, or a sequence repeated. -/
def mul (l r : Value) : Except EvalFault Value :=
  match l, r, l.int?, r.int? with
  | .text s, _, _, some n => repeatText s n
  | _, .text s, some n, _ => repeatText s n
  | .list items, _, _, some n => repeatList items n
  | _, .list items, some n, _ => repeatList items n
  | _, _, _, _ => numeric "*" (· * ·) (· * ·) l r

/-! ## Division -/

/-- The quotient of two numbers, always a float. -/
def div (l r : Value) : Except EvalFault Value := do
  let (x, y) ← floats "/" l r
  if y == 0 then throw .zeroDivision
  return .float (x / y)

/-- The quotient rounded down. -/
def floorDiv (l r : Value) : Except EvalFault Value :=
  match l.int64?, r.int64? with
  | some a, some b =>
    if b = 0 then .error .zeroIntDivision else fitting (Number.floorQuotient? a b)
  | _, _ => do
    let (x, y) ← floats "//" l r
    if y == 0 then throw .zeroFloorDivision
    return .float (x / y).floor

/-- The remainder of floats, with the sign of the divisor. -/
def floatModulo (x y : Float) : Float :=
  let m := Number.floatRem x y
  if m != 0 && (decide (m < 0)) != decide (y < 0) then m + y else m

/-- What the division that rounds down leaves; it has the sign of the divisor.  Truth values are
taken as floats here.  Where the quotient of two integers does not fit, the remainder is refused. -/
def modulo (l r : Value) : Except EvalFault Value :=
  match l, r with
  | .int a, .int b =>
    if b = 0 then .error .zeroIntDivision else fitting (Number.floorRemainder? a b)
  | l, r => do
    let (x, y) ← floats "%" l r
    if y == 0 then throw .zeroModulo
    return .float (floatModulo x y)

/-! ## Powers -/

/-- An exact power, `none` beyond 64 bits.  A base of two or more is out of range at an exponent
of 64, so the power need not be computed there. -/
def intPower? (base : Int) (exponent : Nat) : Option Int64 :=
  if base = 0 then some (if exponent = 0 then 1 else 0)
  else if base = 1 then some 1
  else if base = -1 then some (if exponent % 2 = 0 then 1 else -1)
  else if 64 ≤ exponent then none
  else Number.int64? (Int.pow base exponent)

/-- A power: exact for integers with an exponent from 0 to `2 ^ 32 - 1`, else a float. -/
def pow (l r : Value) : Except EvalFault Value :=
  match l, r with
  | .int a, .int b =>
    if b < 0 then .ok (.float (Float.pow (Float.ofInt a.toInt) (Float.ofInt b.toInt)))
    else if Number.twoTo 32 ≤ b.toInt then .error .overflow
    else fitting (intPower? a.toInt b.toInt.toNat)
  | l, r => (floats "**" l r).map fun (x, y) => .float (Float.pow x y)

/-! ## Signs -/

/-- A number with the other sign. -/
def neg : Value → Except EvalFault Value
  | .int n => ofInt (-n.toInt)
  | .float x => .ok (.float (-x))
  | .bool b => .ok (.int (if b then -1 else 0))
  | v => .error (.sign "-" v.kind)

/-- A number as it is; a truth value as a whole number. -/
def pos : Value → Except EvalFault Value
  | .int n => .ok (.int n)
  | .float x => .ok (.float x)
  | .bool b => .ok (.int (if b then 1 else 0))
  | v => .error (.sign "+" v.kind)

end TextTemplate.Value
