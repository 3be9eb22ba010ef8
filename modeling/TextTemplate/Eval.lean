import TextTemplate.Function.Method
import TextTemplate.Text.Markup
import TextTemplate.Value.Access

/-!
# Evaluating expressions

An expression is evaluated where names have values.  Operands are evaluated from left to right, and
the first fault ends the evaluation.  The arguments of a call come before what is called.  A name that
no variable has may be that of a global function; every time it is looked up, another function is
found, so that `len == len` is false.  What was found is counted (`Memory`), and so evaluating an
expression is a step that changes a state.
-/

namespace TextTemplate

/-- What evaluating changes: how many global functions were found by their names so far, and what the
functions of the program keep. -/
structure Memory (σ : Type) where
  found : Nat
  store : σ

/-- A step of evaluating. -/
abbrev Evaluation (σ : Type) := EStateM Fault (Memory σ)

/-- Where an expression is evaluated: the values of names, and the functions of the program that uses
the library, by their names and numbers. -/
structure Environment (σ : Type) where
  lookup? : String → Option Value
  host : String → Nat → List Value → σ → Except Fault Value × σ

variable {σ : Type}

namespace Evaluation

/-- The result of an operation. -/
def operate {α : Type} : Except EvalFault α → Evaluation σ α
  | .ok a => return a
  | .error cause => throw (.eval cause)

/-- Finds a global function: another one than all that were found before. -/
def find (g : Global) : Evaluation σ Value := fun m =>
  .ok (.function (.global g m.found)) { m with found := m.found + 1 }

/-- A step that changes only what is kept. -/
def onStore {α : Type} (step : σ → Except Fault α × σ) : Evaluation σ α := fun m =>
  match step m.store with
  | (.ok a, store) => .ok a { m with store := store }
  | (.error fault, store) => .error fault { m with store := store }

end Evaluation

open Evaluation (operate)

/-- What an operator computes. -/
def Expr.Arithmetic.apply : Expr.Arithmetic → Value → Value → Except EvalFault Value
  | .add => Value.add
  | .sub => Value.sub
  | .mul => Value.mul
  | .div => Value.div
  | .floorDiv => Value.floorDiv
  | .mod => Value.modulo
  | .pow => Value.pow

/-- Whether a comparison holds. -/
def Expr.Comparison.holds (op : Expr.Comparison) (l r : Value) : Except EvalFault Bool :=
  match op with
  | .eq => .ok (l.equals r)
  | .ne => .ok (!l.equals r)
  | .lt => (l.compare r).map (· = .lt)
  | .le => (l.compare r).map (· ≠ .gt)
  | .gt => (l.compare r).map (· = .gt)
  | .ge => (l.compare r).map (· ≠ .lt)
  | .mem => r.contains l
  | .notMem => (r.contains l).map (!·)
  | .is => .ok (l.identical r)
  | .isNot => .ok (!l.identical r)

/-- What a prefix operator computes. -/
def Expr.UnaryOp.apply : Expr.UnaryOp → Value → Except EvalFault Value
  | .neg, v => v.neg
  | .pos, v => v.pos
  | .not, v => .ok (.bool !v.isTruthy)

/-- The value of a literal. -/
def Expr.Literal.value : Expr.Literal → Value
  | .null => .null
  | .bool b => .bool b
  | .int n => .int n
  | .float x => .float x
  | .text s => .text s

/-- What a function gives for its arguments. -/
def Function.call (env : Environment σ) (f : Function) (args : List Value) : Evaluation σ Value :=
  match f with
  | .global g _ => operate (g.call args)
  | .escaper _ =>
    match args with
    | [v] => return .text (Text.escapeMarkup v.display)
    | _ => throw (.eval (.arity f.name (.exactly 1) args.length))
  | .host name serial => .onStore (env.host name serial args)

namespace Value

/-- Calls a value, which has to be a function. -/
def call (env : Environment σ) (callee : Value) (args : List Value) : Evaluation σ Value :=
  match callee with
  | .function f => f.call env args
  | v => throw (.eval (.notCallable v.kind))

/-- Calls a member of a value: what a map holds under the name, or else a method. -/
def callMember (env : Environment σ) (target : Value) (name : String) (args : List Value) :
    Evaluation σ Value :=
  match target with
  | .map entries =>
    match entries.get? name with
    | some v => v.call env args
    | none => operate (Method.call target name args)
  | _ => operate (Method.call target name args)

end Value

namespace Expr.Tree

/-- The value of a name: of a variable, or else a global function that is found by it. -/
def evalName (env : Environment σ) (name : String) : Evaluation σ Value :=
  match env.lookup? name with
  | some v => return v
  | none =>
    match Global.ofName? name with
    | some g => .find g
    | none => throw (.eval (.undefined name))

/-- A value put behind the items of a set, unless an equal one is among them. -/
def addToSet (items : List Value) (v : Value) : List Value :=
  if items.any fun w => w.equals v then items else items ++ [v]

/-- A name in a map. -/
def entryName : Value → Except EvalFault String
  | .text s => .ok s
  | v => .error (.keyKind v.kind)

mutual

/-- The value of an expression. -/
def eval (env : Environment σ) : Tree → Evaluation σ Value
  | .literal value => return value.value
  | .name n => evalName env n
  | .member target n => do
    let target ← eval env target
    operate (target.member n)
  | .item target index => do
    let target ← eval env target
    let index ← eval env index
    operate (target.item index)
  | .slice target start stop step => do
    let target ← eval env target
    let start ← evalOption env start
    let stop ← evalOption env stop
    let step ← evalOption env step
    operate (target.slice start stop step)
  | .call (.member target n) args => do
    let args ← evalItems env args
    let target ← eval env target
    target.callMember env n args
  | .call callee args => do
    let args ← evalItems env args
    let callee ← eval env callee
    callee.call env args
  | .unary op operand => do
    let v ← eval env operand
    operate (op.apply v)
  | .arithmetic op left right => do
    let l ← eval env left
    let r ← eval env right
    operate (op.apply l r)
  | .comparison op left right => do
    let l ← eval env left
    let r ← eval env right
    return .bool (← operate (op.holds l r))
  | .chain first links => do
    let v ← eval env first
    return .bool (← evalLinks env v links)
  | .and left right => do
    let l ← eval env left
    if l.isTruthy then eval env right else return l
  | .or left right => do
    let l ← eval env left
    if l.isTruthy then return l else eval env right
  | .conditional test body orelse => do
    let t ← eval env test
    if t.isTruthy then eval env body else eval env orelse
  | .list items => do return .list (← evalItems env items)
  | .set items => do return .list (← evalSet env [] items)
  | .map entries => do return .map (← evalEntries env .empty entries)

/-- The value of an optional part. -/
def evalOption (env : Environment σ) : Option Tree → Evaluation σ (Option Value)
  | none => return none
  | some e => do return some (← eval env e)

/-- The values of expressions in order. -/
def evalItems (env : Environment σ) : List Tree → Evaluation σ (List Value)
  | [] => return []
  | e :: rest => do
    let v ← eval env e
    let vs ← evalItems env rest
    return v :: vs

/-- Whether all comparisons of a chain hold, up to the first that does not.  Each operand is
evaluated once. -/
def evalLinks (env : Environment σ) (left : Value) : List (Comparison × Tree) → Evaluation σ Bool
  | [] => return true
  | (op, e) :: rest => do
    let right ← eval env e
    if ← operate (op.holds left right) then evalLinks env right rest else return false

/-- The items of a set behind those found so far. -/
def evalSet (env : Environment σ) (items : List Value) : List Tree → Evaluation σ (List Value)
  | [] => return items
  | e :: rest => do
    let v ← eval env e
    evalSet env (addToSet items v) rest

/-- The entries of a map on top of those found so far. -/
def evalEntries (env : Environment σ) (entries : Dictionary Value) :
    List (Tree × Tree) → Evaluation σ (Dictionary Value)
  | [] => return entries
  | (k, e) :: rest => do
    let name ← operate (entryName (← eval env k))
    let v ← eval env e
    evalEntries env (entries.insert name v) rest

end

end Expr.Tree

/-- The value of an expression. -/
def Expression.eval (env : Environment σ) (e : Expression) : Evaluation σ Value := e.tree.eval env

end TextTemplate
