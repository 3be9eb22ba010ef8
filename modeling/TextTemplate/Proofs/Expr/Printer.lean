import TextTemplate.Expr.Reader

/-!
# Writing expressions

The precedence table as data: each tree belongs to a level, and each operand stands at a place that
takes trees from some level on.  `Tree.print` writes a tree with parentheses around an operand only
where its level is looser than its place allows, and with blanks between the lexemes.

`Tree.Printable` describes the trees that can be written: integers without a sign, any text, names
that are no words of the language, and no sets that would read as maps.
-/

namespace TextTemplate.Expr

/-! ## Levels -/

/-- The levels of the precedence table, the loosest first. -/
inductive Level where
  | condition | disjunction | conjunction | negation | comparison | sum | product | sign | power
  | access | atom
deriving DecidableEq

/-- The place of a level in the table. -/
def Level.rank : Level → Nat
  | .condition => 0
  | .disjunction => 1
  | .conjunction => 2
  | .negation => 3
  | .comparison => 4
  | .sum => 5
  | .product => 6
  | .sign => 7
  | .power => 8
  | .access => 9
  | .atom => 10

/-- The next tighter level. -/
def Level.next : Level → Level
  | .condition => .disjunction
  | .disjunction => .conjunction
  | .conjunction => .negation
  | .negation => .comparison
  | .comparison => .sum
  | .sum => .product
  | .product => .sign
  | .sign => .power
  | .power => .access
  | .access => .atom
  | .atom => .atom

/-- The level of an operator between two operands. -/
def Arithmetic.level : Arithmetic → Level
  | .add | .sub => .sum
  | .mul | .div | .floorDiv | .mod => .product
  | .pow => .power

/-- What may stand on the left of an operator.  Powers are grouped from the right, all other
operators from the left. -/
def Arithmetic.left : Arithmetic → Level
  | .add | .sub => .sum
  | .mul | .div | .floorDiv | .mod => .product
  | .pow => .access

/-- What may stand on the right of an operator. -/
def Arithmetic.right : Arithmetic → Level
  | .add | .sub => .product
  | .mul | .div | .floorDiv | .mod | .pow => .sign

/-- The level of an operator in front of its operand, which is also what it may stand in front of. -/
def UnaryOp.level : UnaryOp → Level
  | .neg | .pos => .sign
  | .not => .negation

namespace Tree

/-- The level of a tree. -/
def level : Tree → Level
  | .literal _ | .name _ | .list _ | .set _ | .map _ => .atom
  | .member .. | .item .. | .slice .. | .call .. => .access
  | .unary op _ => op.level
  | .arithmetic op _ _ => op.level
  | .comparison .. | .chain .. => .comparison
  | .and .. => .conjunction
  | .or .. => .disjunction
  | .conditional .. => .condition

end Tree

/-! ## Lexemes -/

/-- How a literal is written. -/
def Literal.lexeme : Literal → Lexeme
  | .null => .name "None"
  | .bool true => .name "True"
  | .bool false => .name "False"
  | .int n => .int n
  | .float x => .float x
  | .text s => .text s

/-- How an operator between two operands is written. -/
def Arithmetic.punct : Arithmetic → Punct
  | .add => .plus
  | .sub => .minus
  | .mul => .times
  | .div => .divide
  | .floorDiv => .floorDivide
  | .mod => .remainder
  | .pow => .power

/-- How an operator in front of its operand is written. -/
def UnaryOp.lexeme : UnaryOp → Lexeme
  | .neg => .punct .minus
  | .pos => .punct .plus
  | .not => .name "not"

/-- How a comparison is written. -/
def Comparison.lexemes : Comparison → List Lexeme
  | .eq => [.punct .equal]
  | .ne => [.punct .notEqual]
  | .gt => [.punct .greater]
  | .ge => [.punct .atLeast]
  | .lt => [.punct .less]
  | .le => [.punct .atMost]
  | .mem => [.name "in"]
  | .notMem => [.name "not", .name "in"]
  | .is => [.name "is"]
  | .isNot => [.name "is", .name "not"]

/-- The lexemes of a tree of one level at a place that takes trees from another level on. -/
def grouped (least own : Level) (lexemes : List Lexeme) : List Lexeme :=
  if own.rank < least.rank then .punct .openParen :: lexemes ++ [.punct .closeParen] else lexemes

mutual

/-- The lexemes of a tree. -/
def Tree.lexemes : Tree → List Lexeme
  | .literal value => [value.lexeme]
  | .name n => [.name n]
  | .member target n => grouped .access target.level target.lexemes ++ [.punct .dot, .name n]
  | .item target index =>
    grouped .access target.level target.lexemes ++
      .punct .openBracket :: index.lexemes ++ [.punct .closeBracket]
  | .slice target start stop step =>
    grouped .access target.level target.lexemes ++
      .punct .openBracket :: partLexemes start ++
      .punct .colon :: partLexemes stop ++
      stepLexemes step ++ [.punct .closeBracket]
  | .call callee args =>
    grouped .access callee.level callee.lexemes ++
      .punct .openParen :: itemLexemes args ++ [.punct .closeParen]
  | .unary op operand => op.lexeme :: grouped op.level operand.level operand.lexemes
  | .arithmetic op left right =>
    grouped op.left left.level left.lexemes ++
      .punct op.punct :: grouped op.right right.level right.lexemes
  | .comparison op left right =>
    grouped .sum left.level left.lexemes ++
      (op.lexemes ++ grouped .sum right.level right.lexemes)
  | .chain first links => grouped .sum first.level first.lexemes ++ linkLexemes links
  | .and left right =>
    grouped .conjunction left.level left.lexemes ++
      .name "and" :: grouped .negation right.level right.lexemes
  | .or left right =>
    grouped .disjunction left.level left.lexemes ++
      .name "or" :: grouped .conjunction right.level right.lexemes
  | .conditional test body orelse =>
    grouped .disjunction body.level body.lexemes ++
      .name "if" :: grouped .disjunction test.level test.lexemes ++
      .name "else" :: grouped .condition orelse.level orelse.lexemes
  | .list items => .punct .openBracket :: itemLexemes items ++ [.punct .closeBracket]
  | .set items => .punct .openBrace :: itemLexemes items ++ [.punct .closeBrace]
  | .map entries => .punct .openBrace :: entryLexemes entries ++ [.punct .closeBrace]

/-- The lexemes of an optional part of a slice. -/
def partLexemes : Option Tree → List Lexeme
  | none => []
  | some e => e.lexemes

/-- The lexemes of the optional step of a slice. -/
def stepLexemes : Option Tree → List Lexeme
  | none => []
  | some e => .punct .colon :: e.lexemes

/-- The lexemes of expressions with commas between them. -/
def itemLexemes : List Tree → List Lexeme
  | [] => []
  | [e] => e.lexemes
  | e :: e' :: rest => e.lexemes ++ .punct .comma :: itemLexemes (e' :: rest)

/-- The lexemes of comparisons with their right operands. -/
def linkLexemes : List (Comparison × Tree) → List Lexeme
  | [] => []
  | (op, e) :: rest => op.lexemes ++ (grouped .sum e.level e.lexemes ++ linkLexemes rest)

/-- The lexemes of the entries of a map with commas between them. -/
def entryLexemes : List (Tree × Tree) → List Lexeme
  | [] => []
  | (key, e) :: rest =>
    key.lexemes ++ .punct .colon :: (e.lexemes ++ furtherEntryLexemes rest)

/-- The lexemes of further entries, with a comma in front of each. -/
def furtherEntryLexemes : List (Tree × Tree) → List Lexeme
  | [] => []
  | (key, e) :: rest =>
    .punct .comma :: (key.lexemes ++ .punct .colon :: (e.lexemes ++ furtherEntryLexemes rest))

end

/-! ## Text -/

/-- One character of a text between single quotes. -/
def escaped (c : Char) : List Char := if c = '\'' || c = '\\' then ['\\', c] else [c]

/-- How a lexeme is written; a negative integer has no lexeme of its own. -/
def Lexeme.written : Lexeme → List Char
  | .int n => Number.digitsOf n.toInt.toNat
  | .float x => (Number.floatText x).toList
  | .text s => '\'' :: s.toList.flatMap escaped ++ ['\'']
  | .name n => n.toList
  | .punct p => p.text.toList

/-- Lexemes with a blank between each two. -/
def spaced (lexemes : List Lexeme) : List Char := [' '].intercalate (lexemes.map Lexeme.written)

/-- A tree as text. -/
def Tree.print (e : Tree) : String := String.ofList (spaced e.lexemes)

/-! ## What can be written -/

/-- Whether a text is a name of expressions: a letter or an underscore, and further ones or
numerals. -/
def isIdentifier (name : String) : Bool :=
  match name.toList with
  | [] => false
  | c :: rest => Text.startsName c && rest.all Text.continuesName

/-- The literals that one lexeme stands for. -/
def Literal.Printable : Literal → Prop
  | .int n => 0 ≤ n.toInt
  | .float _ => False
  | .null | .bool _ | .text _ => True

/-- The trees that can be written, of any size. -/
inductive Tree.Printable : Tree → Prop
  | literal {value : Literal} : value.Printable → Printable (.literal value)
  | name {n : String} : isIdentifier n = true → isReserved n = false → wordLiteral? n = none →
      Printable (.name n)
  | member {target : Tree} {n : String} : Printable target → isIdentifier n = true →
      Printable (.member target n)
  | item {target index : Tree} : Printable target → Printable index →
      Printable (.item target index)
  | slice {target : Tree} {start stop step : Option Tree} : Printable target →
      (∀ e ∈ start, Printable e) → (∀ e ∈ stop, Printable e) → (∀ e ∈ step, Printable e) →
      Printable (.slice target start stop step)
  | call {callee : Tree} {args : List Tree} : Printable callee → (∀ e ∈ args, Printable e) →
      Printable (.call callee args)
  | unary {op : UnaryOp} {operand : Tree} : Printable operand → Printable (.unary op operand)
  | arithmetic {op : Arithmetic} {left right : Tree} : Printable left → Printable right →
      Printable (.arithmetic op left right)
  | comparison {op : Comparison} {left right : Tree} : Printable left → Printable right →
      Printable (.comparison op left right)
  /-- A chain has two comparisons or more. -/
  | chain {first : Tree} {links : List (Comparison × Tree)} : Printable first →
      2 ≤ links.length → (∀ link ∈ links, Printable link.2) → Printable (.chain first links)
  | and {left right : Tree} : Printable left → Printable right → Printable (.and left right)
  | or {left right : Tree} : Printable left → Printable right → Printable (.or left right)
  | conditional {test body orelse : Tree} : Printable test → Printable body → Printable orelse →
      Printable (.conditional test body orelse)
  | list {items : List Tree} : (∀ e ∈ items, Printable e) → Printable (.list items)
  /-- Braces around nothing are a map. -/
  | set {items : List Tree} : items ≠ [] → (∀ e ∈ items, Printable e) → Printable (.set items)
  | map {entries : List (Tree × Tree)} : (∀ entry ∈ entries, Printable entry.1) →
      (∀ entry ∈ entries, Printable entry.2) → Printable (.map entries)

/-! ## Size -/

mutual

/-- The number of nodes of a tree. -/
def Tree.size : Tree → Nat
  | .literal _ | .name _ => 1
  | .member target _ => target.size + 1
  | .item target index => target.size + index.size + 1
  | .slice target start stop step =>
    target.size + partSize start + partSize stop + partSize step + 1
  | .call callee args => callee.size + itemsSize args + 1
  | .unary _ operand => operand.size + 1
  | .arithmetic _ left right => left.size + right.size + 1
  | .comparison _ left right => left.size + right.size + 1
  | .chain first links => first.size + linksSize links + 1
  | .and left right => left.size + right.size + 1
  | .or left right => left.size + right.size + 1
  | .conditional test body orelse => test.size + body.size + orelse.size + 1
  | .list items => itemsSize items + 1
  | .set items => itemsSize items + 1
  | .map entries => entriesSize entries + 1

/-- The number of nodes of an optional part. -/
def partSize : Option Tree → Nat
  | none => 0
  | some e => e.size

/-- The number of nodes of several trees. -/
def itemsSize : List Tree → Nat
  | [] => 0
  | e :: rest => e.size + itemsSize rest

/-- The number of nodes of the right operands of comparisons. -/
def linksSize : List (Comparison × Tree) → Nat
  | [] => 0
  | (_, e) :: rest => e.size + linksSize rest

/-- The number of nodes of the entries of a map. -/
def entriesSize : List (Tree × Tree) → Nat
  | [] => 0
  | (key, e) :: rest => key.size + e.size + entriesSize rest

end

theorem Tree.size_pos (e : Tree) : 0 < e.size := by
  cases e <;> simp only [Tree.size] <;> omega

end TextTemplate.Expr
