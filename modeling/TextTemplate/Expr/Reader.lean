import TextTemplate.Expr.Scan
import TextTemplate.Expr.Tree

/-!
# Reading expressions

From the loosest to the tightest, the levels of an expression are: condition, `or`, `and`, `not`,
comparisons, `+` and `-`, `*` `/` `//` `%`, signs, `**`, access.  Each level is a rule made from the
next one.

## Nesting

A tree may be nested 100 levels deep.  What stands one level deeper in the tree is read by readers
that have room for one level less; so each rule takes the readers of the level below it as an
argument, and `readers` builds them from no room upward.  A chain of operators of one level nests to
the left: each further operand has less room than the one before it.
-/

namespace TextTemplate.Expr

/-- Reads from the front of the lexemes that are left. -/
abbrev Reader := StateT (List Lexeme) (Except SyntaxFault)

/-! ## Lexemes in front -/

/-- The next lexeme, which stays in front. -/
def peek : Reader (Option Lexeme) := return (← get).head?

/-- Drops the next lexeme. -/
def skip : Reader Unit := modify List.tail

/-- Whether a punctuation comes next. -/
def atPunct (p : Punct) : Reader Bool := do
  match ← peek with
  | some (.punct q) => return q = p
  | _ => return false

/-- Takes a punctuation if it comes next. -/
def eatPunct (p : Punct) : Reader Bool := do
  let found ← atPunct p
  if found then skip
  return found

/-- Takes a word if it comes next. -/
def eatWord (word : String) : Reader Bool := do
  match ← peek with
  | some (.name n) =>
    if n = word then
      skip
      return true
    else return false
  | _ => return false

/-- Fails because something else comes next. -/
def failExpected {α : Type} (wanted : String) : Reader α := do
  throw (.expected wanted (← peek))

/-- Takes a punctuation that has to come next. -/
def expectPunct (p : Punct) : Reader Unit := do
  unless ← eatPunct p do
    failExpected ("'" ++ p.text ++ "'")

/-- The words that are no names. -/
def isReserved (name : String) : Bool :=
  name = "and" || name = "or" || name = "not" || name = "if" || name = "else" || name = "in" ||
    name = "is"

/-- The literal that a word stands for. -/
def wordLiteral? (name : String) : Option Literal :=
  if name = "True" || name = "true" then some (.bool true)
  else if name = "False" || name = "false" then some (.bool false)
  else if name = "None" || name = "null" then some .null
  else none

/-! ## Lists of expressions

The bound on the number of steps is the number of lexemes, as every step takes one or more. -/

/-- Expressions with commas between them up to a closing punctuation, which may follow a comma. -/
def readItems (item : Reader Tree) (closing : Punct) : Nat → Reader (List Tree)
  | 0 => failExpected ("'" ++ closing.text ++ "'")
  | steps + 1 => do
    if ← eatPunct closing then return []
    let first ← item
    if ← eatPunct .comma then
      let rest ← readItems item closing steps
      return first :: rest
    else
      expectPunct closing
      return [first]

/-- All items up to a closing punctuation. -/
def items (item : Reader Tree) (closing : Punct) : Reader (List Tree) := do
  readItems item closing ((← get).length + 1)

/-- An entry of a map: a key, a colon and a value. -/
def readEntry (item : Reader Tree) : Reader (Tree × Tree) := do
  let key ← item
  expectPunct .colon
  return (key, ← item)

/-- The entries of a map that follow the first one; a comma may stand behind the last. -/
def readEntries (item : Reader Tree) : Nat → Reader (List (Tree × Tree))
  | 0 => return []
  | steps + 1 => do
    unless ← eatPunct .comma do return []
    if ← atPunct .closeBrace then return []
    let entry ← readEntry item
    let rest ← readEntries item steps
    return entry :: rest

/-- The text of adjacent text literals. -/
def adjacentText : List Lexeme → String × List Lexeme
  | .text s :: rest =>
    let (more, rest) := adjacentText rest
    (s ++ more, rest)
  | rest => ("", rest)

/-! ## Rules -/

/-- The readers of expressions for a certain room.  The `more` readers continue a chain whose part
so far is given to them. -/
structure Readers where
  expression : Reader Tree
  condition : Reader Tree
  conjunction : Reader Tree
  moreOr : Tree → Reader Tree
  negation : Reader Tree
  moreAnd : Tree → Reader Tree
  product : Reader Tree
  moreSum : Tree → Reader Tree
  signed : Reader Tree
  moreProduct : Tree → Reader Tree
  moreAccess : Tree → Reader Tree

/-- What has one level of room less; nothing at the last level. -/
abbrev Deeper := Option Readers

/-- Goes one level deeper. -/
def Deeper.nest {α : Type} (deeper : Deeper) (read : Readers → Reader α) : Reader α :=
  match deeper with
  | none => throw .tooDeep
  | some readers => read readers

/-- An expression inside another one. -/
def expression (deeper : Deeper) : Reader Tree := deeper.nest (·.condition)

/-- What stands between braces: a map, or a set of one item or more. -/
def braces (deeper : Deeper) : Reader Tree := do
  if ← eatPunct .closeBrace then return .map []
  let first ← expression deeper
  if ← eatPunct .colon then
    let value ← expression deeper
    let rest ← readEntries (expression deeper) (← get).length
    expectPunct .closeBrace
    return .map ((first, value) :: rest)
  else if ← eatPunct .comma then
    return .set (first :: (← items (expression deeper) .closeBrace))
  else
    expectPunct .closeBrace
    return .set [first]

/-- What stands between parentheses: an expression, or a list. -/
def parentheses (deeper : Deeper) : Reader Tree := do
  if ← eatPunct .closeParen then return .list []
  let first ← expression deeper
  if ← eatPunct .closeParen then return first
  expectPunct .comma
  return .list (first :: (← items (expression deeper) .closeParen))

/-- A literal, a name, or something between brackets. -/
def atom (deeper : Deeper) : Reader Tree := do
  match ← peek with
  | none => throw .endOfExpression
  | some (.int n) =>
    skip
    return .literal (.int n)
  | some (.float x) =>
    skip
    return .literal (.float x)
  | some (.text _) =>
    let (text, rest) := adjacentText (← get)
    set rest
    return .literal (.text text)
  | some (.name name) =>
    if isReserved name then failExpected "an expression"
    skip
    match wordLiteral? name with
    | some value => return .literal value
    | none => return .name name
  | some (.punct .openParen) =>
    skip
    parentheses deeper
  | some (.punct .openBracket) =>
    skip
    return .list (← items (expression deeper) .closeBracket)
  | some (.punct .openBrace) =>
    skip
    braces deeper
  | some found => throw (.unexpected found)

/-- An optional part of a slice: nothing if a delimiter comes next. -/
def slicePart (readers : Readers) (delimiters : List Punct) : Reader (Option Tree) := do
  if ← delimiters.anyM fun p => atPunct p then return none
  return some (← readers.expression)

/-- What follows the opening bracket of a subscript: an index or a slice. -/
def subscript (readers : Readers) (target : Tree) : Reader Tree := do
  let start ← slicePart readers [.colon]
  if ← eatPunct .closeBracket then
    match start with
    | some index => return .item target index
    | none => throw .emptySubscript
  expectPunct .colon
  let stop ← slicePart readers [.colon, .closeBracket]
  let step ← if ← eatPunct .colon then slicePart readers [.closeBracket] else pure none
  expectPunct .closeBracket
  return .slice target start stop step

/-- The name behind a point. -/
def memberName : Reader String := do
  match ← peek with
  | some (.name name) =>
    skip
    return name
  | _ => failExpected "attribute name"

/-- Attributes, calls and subscripts behind what they apply to. -/
def moreAccess (deeper : Deeper) (target : Tree) : Reader Tree := do
  match ← peek with
  | some (.punct .dot) => deeper.nest fun readers => do
    skip
    let name ← memberName
    readers.moreAccess (.member target name)
  | some (.punct .openParen) => deeper.nest fun readers => do
    skip
    let args ← items readers.expression .closeParen
    readers.moreAccess (.call target args)
  | some (.punct .openBracket) => deeper.nest fun readers => do
    skip
    let result ← subscript readers target
    readers.moreAccess result
  | _ => return target

/-- An atom with attributes, calls and subscripts. -/
def access (deeper : Deeper) : Reader Tree := do moreAccess deeper (← atom deeper)

/-- A power.  It is grouped from the right, and binds tighter than a sign in front of it. -/
def power (deeper : Deeper) : Reader Tree := do
  let base ← access deeper
  if ← eatPunct .power then
    let exponent ← deeper.nest (·.signed)
    return .arithmetic .pow base exponent
  return base

/-- A power with signs in front of it. -/
def signed (deeper : Deeper) : Reader Tree := do
  if ← eatPunct .minus then return .unary .neg (← deeper.nest (·.signed))
  if ← eatPunct .plus then return .unary .pos (← deeper.nest (·.signed))
  power deeper

/-- Takes an operator between factors. -/
def productOp : Reader (Option Arithmetic) := do
  if ← eatPunct .times then return some .mul
  if ← eatPunct .floorDivide then return some .floorDiv
  if ← eatPunct .divide then return some .div
  if ← eatPunct .remainder then return some .mod
  return none

/-- Further factors. -/
def moreProduct (deeper : Deeper) (left : Tree) : Reader Tree := do
  match ← productOp with
  | none => return left
  | some op => deeper.nest fun readers => do
    let right ← readers.signed
    readers.moreProduct (.arithmetic op left right)

/-- Factors. -/
def product (deeper : Deeper) : Reader Tree := do moreProduct deeper (← signed deeper)

/-- Takes an operator between summands. -/
def sumOp : Reader (Option Arithmetic) := do
  if ← eatPunct .plus then return some .add
  if ← eatPunct .minus then return some .sub
  return none

/-- Further summands. -/
def moreSum (deeper : Deeper) (left : Tree) : Reader Tree := do
  match ← sumOp with
  | none => return left
  | some op => deeper.nest fun readers => do
    let right ← readers.product
    readers.moreSum (.arithmetic op left right)

/-- Summands. -/
def sum (deeper : Deeper) : Reader Tree := do moreSum deeper (← product deeper)

/-- The comparison that the next lexemes are, and the number of these lexemes. -/
def comparisonAhead? : List Lexeme → Option (Comparison × Nat)
  | .punct .equal :: _ => some (.eq, 1)
  | .punct .notEqual :: _ => some (.ne, 1)
  | .punct .less :: _ => some (.lt, 1)
  | .punct .atMost :: _ => some (.le, 1)
  | .punct .greater :: _ => some (.gt, 1)
  | .punct .atLeast :: _ => some (.ge, 1)
  | .name "in" :: _ => some (.mem, 1)
  | .name "not" :: .name "in" :: _ => some (.notMem, 2)
  | .name "is" :: .name "not" :: _ => some (.isNot, 2)
  | .name "is" :: _ => some (.is, 1)
  | _ => none

/-- Takes a comparison if one comes next. -/
def comparisonOp : Reader (Option Comparison) := do
  match comparisonAhead? (← get) with
  | none => return none
  | some (op, count) =>
    modify (·.drop count)
    return some op

/-- Comparisons with their right operands. -/
def readLinks (operand : Reader Tree) : Nat → Reader (List (Comparison × Tree))
  | 0 => return []
  | steps + 1 => do
    match ← comparisonOp with
    | none => return []
    | some op =>
      let right ← operand
      let rest ← readLinks operand steps
      return (op, right) :: rest

/-- A comparison of two sums, or a chain of them.  The number of operands is no depth. -/
def comparison (deeper : Deeper) : Reader Tree := do
  let first ← sum deeper
  match ← readLinks (sum deeper) (← get).length with
  | [] => return first
  | [(op, right)] => return .comparison op first right
  | links => return .chain first links

/-- A comparison with `not` in front of it. -/
def negation (deeper : Deeper) : Reader Tree := do
  if ← eatWord "not" then return .unary .not (← deeper.nest (·.negation))
  comparison deeper

/-- Further operands of `and`. -/
def moreAnd (deeper : Deeper) (left : Tree) : Reader Tree := do
  unless ← eatWord "and" do return left
  deeper.nest fun readers => do
    let right ← readers.negation
    readers.moreAnd (.and left right)

/-- Operands of `and`. -/
def conjunction (deeper : Deeper) : Reader Tree := do moreAnd deeper (← negation deeper)

/-- Further operands of `or`. -/
def moreOr (deeper : Deeper) (left : Tree) : Reader Tree := do
  unless ← eatWord "or" do return left
  deeper.nest fun readers => do
    let right ← readers.conjunction
    readers.moreOr (.or left right)

/-- Operands of `or`. -/
def disjunction (deeper : Deeper) : Reader Tree := do moreOr deeper (← conjunction deeper)

/-- A body with or without a condition. -/
def condition (deeper : Deeper) : Reader Tree := do
  let body ← disjunction deeper
  unless ← eatWord "if" do return body
  let test ← disjunction deeper
  unless ← eatWord "else" do failExpected "'else'"
  let orelse ← expression deeper
  return .conditional test body orelse

/-! ## All levels -/

/-- The readers above those with one level of room less. -/
def readersAbove (deeper : Deeper) : Readers where
  expression := expression deeper
  condition := condition deeper
  conjunction := conjunction deeper
  moreOr := moreOr deeper
  negation := negation deeper
  moreAnd := moreAnd deeper
  product := product deeper
  moreSum := moreSum deeper
  signed := signed deeper
  moreProduct := moreProduct deeper
  moreAccess := moreAccess deeper

/-- The readers that have room for a number of levels. -/
def readers : Nat → Readers
  | 0 => readersAbove none
  | room + 1 => readersAbove (some (readers room))

/-- How deep a tree may be nested. -/
def maxNesting : Nat := 100

/-- Expressions behind a comma each; a comma may stand at the very end. -/
def readTuple (item : Reader Tree) : Nat → Reader (List Tree)
  | 0 => return []
  | steps + 1 => do
    unless ← eatPunct .comma do return []
    if (← get).isEmpty then return []
    let next ← item
    let rest ← readTuple item steps
    return next :: rest

/-- A whole expression: at the top, a list may stand without brackets. -/
def whole (item : Reader Tree) : Reader Tree := do
  let first ← item
  let tree ← if ← atPunct .comma then
      pure (Tree.list (first :: (← readTuple item (← get).length)))
    else pure first
  unless (← get).isEmpty do failExpected "end of expression"
  return tree

/-- The tree of the lexemes of a whole expression, with room for a number of levels. -/
def parseLexemes (room : Nat) (lexemes : List Lexeme) : Except SyntaxFault Tree :=
  if lexemes.isEmpty then .error .emptyExpression
  else ((whole (readers room).expression).run lexemes).map Prod.fst

/-- The tree of an expression that is nested at most a number of levels deep. -/
def parseWithin (room : Nat) (source : String) : Except SyntaxFault Tree := do
  parseLexemes room (← scan source.toList)

/-- The tree of an expression. -/
def parse (source : String) : Except SyntaxFault Tree := parseWithin maxNesting source

end TextTemplate.Expr

namespace TextTemplate

/-- An expression with the text that it was read from. -/
structure Expression where
  source : String
  tree : Expr.Tree

/-- Reads an expression. -/
def Expression.compile (source : String) : Except SyntaxFault Expression :=
  (Expr.parse source).map (⟨source, ·⟩)

end TextTemplate
