import TextTemplate.Kind

/-!
# Expression trees

What an expression is, apart from how it is written.
-/

namespace TextTemplate.Expr

/-- A value that is written out in an expression. -/
inductive Literal where
  | null
  | bool (value : Bool)
  | int (value : Int64)
  | float (value : Float)
  | text (value : String)

/-- Operators in front of their operand. -/
inductive UnaryOp where
  | neg | pos | not
deriving DecidableEq

/-- Operators that compute a value from two operands. -/
inductive Arithmetic where
  | add | sub | mul | div | floorDiv | mod | pow
deriving DecidableEq

/-- Operators that compare two operands. -/
inductive Comparison where
  | eq | ne | gt | ge | lt | le | mem | notMem | is | isNot
deriving DecidableEq

/-- An expression. -/
inductive Tree where
  | literal (value : Literal)
  | name (name : String)
  | member (target : Tree) (name : String)
  | item (target index : Tree)
  | slice (target : Tree) (start stop step : Option Tree)
  | call (callee : Tree) (args : List Tree)
  | unary (op : UnaryOp) (operand : Tree)
  | arithmetic (op : Arithmetic) (left right : Tree)
  | comparison (op : Comparison) (left right : Tree)
  /-- Two comparisons or more that share their inner operands. -/
  | chain (first : Tree) (links : List (Comparison × Tree))
  | and (left right : Tree)
  | or (left right : Tree)
  | conditional (test body orelse : Tree)
  | list (items : List Tree)
  | set (items : List Tree)
  | map (entries : List (Tree × Tree))

end TextTemplate.Expr
