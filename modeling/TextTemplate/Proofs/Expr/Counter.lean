import TextTemplate.Proofs.Expr.Steady

/-!
# The depth as a counter

Instead of the room that is left, a reader can keep the number of levels it is in, and fail when there
are too many.  Then there is one counter for the whole text, and each rule has to give it back as it was:
a rule with one operand inside takes its level off again (`nested`), and a chain, which goes one level
deeper with each operand, goes back at its end to the counter that it started with (`moreOr` and the
other chains, which are given that counter as `outer`).

Both ways of reading are the same.  A reader with a counter does at a depth what the reader does that has
the rest of the levels as room, and then the counter is what it was (`Tracks`); so a text is read alike
(`parse_eq`), and nothing in a text changes how deep the rest of it is (`balanced`).
-/

namespace TextTemplate.Expr.Counter

/-- Reads from the front of the lexemes that are left, at a depth. -/
abbrev CountingReader := StateT Nat Reader

/-- Goes one level deeper. -/
def nest : CountingReader Unit := do
  modify (· + 1)
  if maxNesting < (← get) then throw .tooDeep

/-- Goes back by one level. -/
def leave : CountingReader Unit := modify (· - 1)

/-- The lexemes that are left. -/
abbrev lexemesLeft : Reader (List Lexeme) := get

/-! ## Lists of expressions -/

/-- Expressions with commas between them up to a closing punctuation, which may follow a comma. -/
def readItems (item : CountingReader Tree) (closing : Punct) : Nat → CountingReader (List Tree)
  | 0 => (failExpected ("'" ++ closing.text ++ "'") : Reader (List Tree))
  | steps + 1 => do
    if ← eatPunct closing then return []
    let first ← item
    if ← eatPunct .comma then
      let rest ← readItems item closing steps
      return first :: rest
    else
      expectPunct closing
      return [first]

/-- All items up to a closing punctuation. -/
def items (item : CountingReader Tree) (closing : Punct) : CountingReader (List Tree) := do
  readItems item closing ((← lexemesLeft).length + 1)

/-- An entry of a map: a key, a colon and a value. -/
def readEntry (item : CountingReader Tree) : CountingReader (Tree × Tree) := do
  let key ← item
  expectPunct .colon
  return (key, ← item)

/-- The entries of a map that follow the first one; a comma may stand behind the last. -/
def readEntries (item : CountingReader Tree) : Nat → CountingReader (List (Tree × Tree))
  | 0 => return []
  | steps + 1 => do
    unless ← eatPunct .comma do return []
    if ← atPunct .closeBrace then return []
    let entry ← readEntry item
    let rest ← readEntries item steps
    return entry :: rest

/-! ## Rules -/

/-- The readers of one level deeper.  The `more` readers continue a chain whose part so far is given to
them, and which started with a counter. -/
structure Readers where
  condition : CountingReader Tree
  conjunction : CountingReader Tree
  negation : CountingReader Tree
  product : CountingReader Tree
  signed : CountingReader Tree
  expression : CountingReader Tree
  moreOr : Nat → Tree → CountingReader Tree
  moreAnd : Nat → Tree → CountingReader Tree
  moreSum : Nat → Tree → CountingReader Tree
  moreProduct : Nat → Tree → CountingReader Tree
  moreAccess : Nat → Tree → CountingReader Tree

/-- The readers of one level deeper; nothing at a level that is too deep. -/
abbrev Deeper := Option Readers

/-- Reads what stands one level deeper. -/
def Deeper.go {α : Type} (deeper : Deeper) (read : Readers → CountingReader α) : CountingReader α :=
  match deeper with
  | none => throw .tooDeep
  | some readers => read readers

/-- Reads an operand one level deeper. -/
def nested (deeper : Deeper) (read : Readers → CountingReader Tree) : CountingReader Tree := do
  nest
  let operand ← deeper.go read
  leave
  return operand

/-- An expression inside another one. -/
def expression (deeper : Deeper) : CountingReader Tree := nested deeper (·.condition)

/-- What stands between braces: a map, or a set of one item or more. -/
def braces (deeper : Deeper) : CountingReader Tree := do
  if ← eatPunct .closeBrace then return .map []
  let first ← expression deeper
  if ← eatPunct .colon then
    let value ← expression deeper
    let rest ← readEntries (expression deeper) (← lexemesLeft).length
    expectPunct .closeBrace
    return .map ((first, value) :: rest)
  else if ← eatPunct .comma then
    return .set (first :: (← items (expression deeper) .closeBrace))
  else
    expectPunct .closeBrace
    return .set [first]

/-- What stands between parentheses: an expression, or a list. -/
def parentheses (deeper : Deeper) : CountingReader Tree := do
  if ← eatPunct .closeParen then return .list []
  let first ← expression deeper
  if ← eatPunct .closeParen then return first
  expectPunct .comma
  return .list (first :: (← items (expression deeper) .closeParen))

/-- A literal, a name, or something between brackets. -/
def atom (deeper : Deeper) : CountingReader Tree := do
  match ← peek with
  | none => throw .endOfExpression
  | some (.int n) =>
    skip
    return .literal (.int n)
  | some (.float x) =>
    skip
    return .literal (.float x)
  | some (.text _) =>
    let (text, rest) := adjacentText (← lexemesLeft)
    (set rest : Reader Unit)
    return .literal (.text text)
  | some (.name name) =>
    if isReserved name then (failExpected "an expression" : Reader Unit)
    skip
    match wordLiteral? name with
    | some value => return .literal value
    | none => return .name name
  | some (.punct .openParen) =>
    skip
    parentheses deeper
  | some (.punct .openBracket) =>
    skip
    return .list (← items (expression deeper) .closeBracket)
  | some (.punct .openBrace) =>
    skip
    braces deeper
  | some found => throw (.unexpected found)

/-- An optional part of a slice: nothing if a delimiter comes next. -/
def slicePart (item : CountingReader Tree) (delimiters : List Punct) :
    CountingReader (Option Tree) := do
  if ← (delimiters.anyM fun p => atPunct p : Reader Bool) then return none
  return some (← item)

/-- What follows the opening bracket of a subscript: an index or a slice. -/
def subscript (item : CountingReader Tree) (target : Tree) : CountingReader Tree := do
  let start ← slicePart item [.colon]
  if ← eatPunct .closeBracket then
    match start with
    | some index => return .item target index
    | none => throw .emptySubscript
  expectPunct .colon
  let stop ← slicePart item [.colon, .closeBracket]
  let step ← if ← eatPunct .colon then slicePart item [.closeBracket] else pure none
  expectPunct .closeBracket
  return .slice target start stop step

/-- Attributes, calls and subscripts behind what they apply to. -/
def moreAccess (deeper : Deeper) (outer : Nat) (target : Tree) : CountingReader Tree := do
  match ← peek with
  | some (.punct .dot) =>
    nest
    deeper.go fun readers => do
      skip
      let name ← memberName
      readers.moreAccess outer (.member target name)
  | some (.punct .openParen) =>
    nest
    deeper.go fun readers => do
      skip
      let args ← items readers.expression .closeParen
      readers.moreAccess outer (.call target args)
  | some (.punct .openBracket) =>
    nest
    deeper.go fun readers => do
      skip
      let result ← subscript readers.expression target
      readers.moreAccess outer result
  | _ =>
    set outer
    return target

/-- An atom with attributes, calls and subscripts. -/
def access (deeper : Deeper) : CountingReader Tree := do
  let first ← atom deeper
  moreAccess deeper (← get) first

/-- A power.  It is grouped from the right, and binds tighter than a sign in front of it. -/
def power (deeper : Deeper) : CountingReader Tree := do
  let base ← access deeper
  if ← eatPunct .power then
    let exponent ← nested deeper (·.signed)
    return .arithmetic .pow base exponent
  return base

/-- A power with signs in front of it. -/
def signed (deeper : Deeper) : CountingReader Tree := do
  if ← eatPunct .minus then return .unary .neg (← nested deeper (·.signed))
  if ← eatPunct .plus then return .unary .pos (← nested deeper (·.signed))
  power deeper

/-- Further factors. -/
def moreProduct (deeper : Deeper) (outer : Nat) (left : Tree) : CountingReader Tree := do
  match ← productOp with
  | none =>
    set outer
    return left
  | some op =>
    nest
    deeper.go fun readers => do
      let right ← readers.signed
      readers.moreProduct outer (.arithmetic op left right)

/-- Factors. -/
def product (deeper : Deeper) : CountingReader Tree := do
  let first ← signed deeper
  moreProduct deeper (← get) first

/-- Further summands. -/
def moreSum (deeper : Deeper) (outer : Nat) (left : Tree) : CountingReader Tree := do
  match ← sumOp with
  | none =>
    set outer
    return left
  | some op =>
    nest
    deeper.go fun readers => do
      let right ← readers.product
      readers.moreSum outer (.arithmetic op left right)

/-- Summands. -/
def sum (deeper : Deeper) : CountingReader Tree := do
  let first ← product deeper
  moreSum deeper (← get) first

/-- Comparisons with their right operands. -/
def readLinks (operand : CountingReader Tree) : Nat → CountingReader (List (Comparison × Tree))
  | 0 => return []
  | steps + 1 => do
    match ← comparisonOp with
    | none => return []
    | some op =>
      let right ← operand
      let rest ← readLinks operand steps
      return (op, right) :: rest

/-- A comparison of two sums, or a chain of them. -/
def comparison (deeper : Deeper) : CountingReader Tree := do
  let first ← sum deeper
  match ← readLinks (sum deeper) (← lexemesLeft).length with
  | [] => return first
  | [(op, right)] => return .comparison op first right
  | links => return .chain first links

/-- A comparison with `not` in front of it. -/
def negation (deeper : Deeper) : CountingReader Tree := do
  if ← eatWord "not" then return .unary .not (← nested deeper (·.negation))
  comparison deeper

/-- Further operands of `and`. -/
def moreAnd (deeper : Deeper) (outer : Nat) (left : Tree) : CountingReader Tree := do
  unless ← eatWord "and" do
    set outer
    return left
  nest
  deeper.go fun readers => do
    let right ← readers.negation
    readers.moreAnd outer (.and left right)

/-- Operands of `and`. -/
def conjunction (deeper : Deeper) : CountingReader Tree := do
  let first ← negation deeper
  moreAnd deeper (← get) first

/-- Further operands of `or`. -/
def moreOr (deeper : Deeper) (outer : Nat) (left : Tree) : CountingReader Tree := do
  unless ← eatWord "or" do
    set outer
    return left
  nest
  deeper.go fun readers => do
    let right ← readers.conjunction
    readers.moreOr outer (.or left right)

/-- Operands of `or`. -/
def disjunction (deeper : Deeper) : CountingReader Tree := do
  let first ← conjunction deeper
  moreOr deeper (← get) first

/-- A body with or without a condition. -/
def condition (deeper : Deeper) : CountingReader Tree := do
  let body ← disjunction deeper
  unless ← eatWord "if" do return body
  let test ← disjunction deeper
  unless ← eatWord "else" do (failExpected "'else'" : Reader Unit)
  let orelse ← expression deeper
  return .conditional test body orelse

/-! ## All levels -/

/-- The readers above those of one level deeper. -/
def readersAbove (deeper : Deeper) : Readers where
  condition := condition deeper
  conjunction := conjunction deeper
  negation := negation deeper
  product := product deeper
  signed := signed deeper
  expression := expression deeper
  moreOr := moreOr deeper
  moreAnd := moreAnd deeper
  moreSum := moreSum deeper
  moreProduct := moreProduct deeper
  moreAccess := moreAccess deeper

/-- The readers that go deeper a number of times at most. -/
def readers : Nat → Readers
  | 0 => readersAbove none
  | bound + 1 => readersAbove (some (readers bound))

/-- The readers below which there is a number of levels.  A reader that may go deeper `maxNesting` times
never runs out of them before the counter is too high. -/
def Deeper.ofBound : Nat → Deeper
  | 0 => none
  | bound + 1 => some (readers bound)

/-- The reader of a level. -/
def readAt : Level → Deeper → CountingReader Tree
  | .condition => condition
  | .disjunction => disjunction
  | .conjunction => conjunction
  | .negation => negation
  | .comparison => comparison
  | .sum => sum
  | .product => product
  | .sign => signed
  | .power => power
  | .access => access
  | .atom => atom

/-- Expressions behind a comma each; a comma may stand at the very end. -/
def readTuple (item : CountingReader Tree) : Nat → CountingReader (List Tree)
  | 0 => return []
  | steps + 1 => do
    unless ← eatPunct .comma do return []
    if (← lexemesLeft).isEmpty then return []
    let next ← item
    let rest ← readTuple item steps
    return next :: rest

/-- A whole expression: at the top, a list may stand without brackets. -/
def whole (item : CountingReader Tree) : CountingReader Tree := do
  let first ← item
  let tree ← if ← atPunct .comma then
      pure (Tree.list (first :: (← readTuple item (← lexemesLeft).length)))
    else pure first
  unless (← lexemesLeft).isEmpty do (failExpected "end of expression" : Reader Unit)
  return tree

/-- The tree of the lexemes of a whole expression; the counter starts at 0. -/
def parseLexemes (lexemes : List Lexeme) : Except SyntaxFault Tree :=
  if lexemes.isEmpty then .error .emptyExpression
  else (((whole (expression (.ofBound maxNesting))).run 0).run lexemes).map fun found => found.1.1

/-- The tree of an expression. -/
def parse (source : String) : Except SyntaxFault Tree := do
  parseLexemes (← scan source.toList)

/-! ## Steps at a depth -/

/-- A reader with a counter does what a reader does, and takes the counter from one depth to another. -/
def Tracks {α : Type} (entry leaving : Nat) (counted : CountingReader α) (read : Reader α) : Prop :=
  counted.run entry = read >>= fun a => pure (a, leaving)

section Steps

variable {α β : Type} {depth between leaving outer : Nat}

theorem Tracks.lift (depth : Nat) (read : Reader α) :
    Tracks depth depth (liftM read : CountingReader α) read := rfl

theorem Tracks.pure (depth : Nat) (a : α) : Tracks depth depth (pure a) (pure a) := rfl

theorem Tracks.throw (depth leaving : Nat) (cause : SyntaxFault) :
    Tracks depth leaving (throw cause : CountingReader α) (throw cause) := rfl

theorem Tracks.bind {counted : CountingReader α} {read : Reader α} {next : α → CountingReader β}
    {next' : α → Reader β} (h : Tracks depth between counted read)
    (h' : ∀ a, Tracks between leaving (next a) (next' a)) :
    Tracks depth leaving (counted >>= next) (read >>= next') := by
  unfold Tracks at *
  rw [StateT.run_bind, h, bind_assoc, bind_assoc]
  refine bind_congr fun a => ?_
  rw [pure_bind]
  exact h' a

/-- What takes no lexeme and changes only the counter. -/
theorem Tracks.count {counted : CountingReader α} {a : α} {next : α → CountingReader β}
    {read : Reader β} (h : counted.run depth = Pure.pure (a, between))
    (h' : Tracks between leaving (next a) read) : Tracks depth leaving (counted >>= next) read := by
  unfold Tracks at *
  rw [StateT.run_bind, h, pure_bind]
  exact h'

theorem run_nest (depth : Nat) :
    nest.run depth = if maxNesting < depth + 1 then throw .tooDeep else Pure.pure ((), depth + 1) := by
  show (if maxNesting < depth + 1 then throw .tooDeep else Pure.pure () : CountingReader Unit).run
    (depth + 1) = _
  split <;> rfl

theorem readers_eq (bound : Nat) : readers bound = readersAbove (.ofBound bound) := by
  cases bound <;> rfl

/-- The room that is left at a depth for readers that go deeper a number of times. -/
def roomLeft (bound depth : Nat) : Nat := min bound (maxNesting - depth)

/-- **One level deeper there is one level of room less.**  Where none is left the counter gets too high,
or there is nothing to read with. -/
theorem Tracks.nest {bound : Nat} {read : Readers → CountingReader α} {read' : Expr.Readers → Reader α}
    (h : ∀ less, bound = less + 1 → Tracks (depth + 1) leaving (read (readersAbove (.ofBound less)))
      (read' (Expr.readersAbove (.ofRoom (roomLeft less (depth + 1)))))) :
    Tracks depth leaving (nest >>= fun _ => (Deeper.ofBound bound).go read)
      ((Expr.Deeper.ofRoom (roomLeft bound depth)).nest read') := by
  rcases Nat.lt_or_ge depth maxNesting with room | none
  · have counts : Counter.nest.run depth = Pure.pure ((), depth + 1) := by
      rw [run_nest, if_neg (by omega)]
    cases bound with
    | zero =>
      -- the counter may go up, but the readers go no deeper
      have last : roomLeft 0 depth = 0 := Nat.zero_min _
      rw [last]
      exact .count counts (.throw _ _ _)
    | succ less =>
      have step : roomLeft (less + 1) depth = roomLeft less (depth + 1) + 1 := by
        unfold roomLeft
        omega
      have inside := h less rfl
      rw [← readers_eq, ← Expr.readers_eq] at inside
      rw [step]
      exact .count counts inside
  · have last : roomLeft bound depth = 0 := by
      unfold roomLeft
      omega
    rw [last]
    unfold Tracks
    rw [StateT.run_bind, run_nest, if_pos (by omega)]
    rfl

/-- The operand of an operator stands one level deeper, and the counter is lowered behind it. -/
theorem Tracks.nested {bound : Nat} {read : Readers → CountingReader Tree}
    {read' : Expr.Readers → Reader Tree}
    (h : ∀ less, bound = less + 1 → Tracks (depth + 1) (depth + 1)
      (read (readersAbove (.ofBound less)))
      (read' (Expr.readersAbove (.ofRoom (roomLeft less (depth + 1)))))) :
    Tracks depth depth (nested (.ofBound bound) read)
      ((Expr.Deeper.ofRoom (roomLeft bound depth)).nest read') := by
  have deep : Tracks depth (depth + 1) (Counter.nest >>= fun _ => (Deeper.ofBound bound).go read)
      ((Expr.Deeper.ofRoom (roomLeft bound depth)).nest read') := .nest h
  have back (operand : Tree) : Tracks (depth + 1) depth
      (leave >>= fun _ => Pure.pure operand : CountingReader Tree) (Pure.pure operand) :=
    .count (a := ()) rfl (.pure depth operand)
  have both := deep.bind back
  rwa [bind_assoc, bind_pure] at both

end Steps

/-! ## Lists of expressions -/

section Lists

variable {depth : Nat} {item : CountingReader Tree} {item' : Reader Tree}

theorem tracks_readItems (h : Tracks depth depth item item') (closing : Punct) (steps : Nat) :
    Tracks depth depth (readItems item closing steps) (Expr.readItems item' closing steps) := by
  induction steps with
  | zero => exact .lift depth _
  | succ steps ih =>
    refine .bind (.lift depth _) fun closed => ?_
    cases closed with
    | true => exact .pure depth _
    | false =>
      refine .bind h fun first => .bind (.lift depth _) fun comma => ?_
      cases comma with
      | true => exact .bind ih fun rest => .pure depth _
      | false => exact .bind (.lift depth _) fun _ => .pure depth _

theorem tracks_items (h : Tracks depth depth item item') (closing : Punct) :
    Tracks depth depth (items item closing) (Expr.items item' closing) :=
  .bind (.lift depth _) fun _ => tracks_readItems h closing _

theorem tracks_readEntry (h : Tracks depth depth item item') :
    Tracks depth depth (readEntry item) (Expr.readEntry item') :=
  .bind h fun _ => .bind (.lift depth _) fun _ => .bind h fun _ => .pure depth _

theorem tracks_readEntries (h : Tracks depth depth item item') (steps : Nat) :
    Tracks depth depth (readEntries item steps) (Expr.readEntries item' steps) := by
  induction steps with
  | zero => exact .pure depth _
  | succ steps ih =>
    refine .bind (.lift depth _) fun comma => ?_
    cases comma with
    | false => exact .pure depth _
    | true =>
      refine .bind (.lift depth _) fun closed => ?_
      cases closed with
      | true => exact .pure depth _
      | false => exact .bind (tracks_readEntry h) fun entry => .bind ih fun rest => .pure depth _

theorem tracks_readLinks (h : Tracks depth depth item item') (steps : Nat) :
    Tracks depth depth (readLinks item steps) (Expr.readLinks item' steps) := by
  induction steps with
  | zero => exact .pure depth _
  | succ steps ih =>
    refine .bind (.lift depth _) fun op => ?_
    cases op with
    | none => exact .pure depth _
    | some op => exact .bind h fun right => .bind ih fun rest => .pure depth _

theorem tracks_readTuple (h : Tracks depth depth item item') (steps : Nat) :
    Tracks depth depth (readTuple item steps) (Expr.readTuple item' steps) := by
  induction steps with
  | zero => exact .pure depth _
  | succ steps ih =>
    refine .bind (.lift depth _) fun comma => ?_
    cases comma with
    | false => exact .pure depth _
    | true =>
      refine .bind (.lift depth _) fun left => ?_
      cases left.isEmpty with
      | true => exact .pure depth _
      | false => exact .bind h fun next => .bind ih fun rest => .pure depth _

theorem tracks_slicePart (readers : Expr.Readers) (h : Tracks depth depth item readers.expression)
    (delimiters : List Punct) :
    Tracks depth depth (slicePart item delimiters) (Expr.slicePart readers delimiters) := by
  refine .bind (.lift depth _) fun delimiter => ?_
  cases delimiter with
  | true => exact .pure depth _
  | false => exact .bind h fun part => .pure depth _

theorem tracks_subscript (readers : Expr.Readers) (h : Tracks depth depth item readers.expression)
    (target : Tree) :
    Tracks depth depth (subscript item target) (Expr.subscript readers target) := by
  refine .bind (tracks_slicePart readers h _) fun start => .bind (.lift depth _) fun closed => ?_
  cases closed with
  | true =>
    cases start with
    | none => exact .throw depth depth _
    | some index => exact .pure depth _
  | false =>
    refine .bind (.lift depth _) fun _ => .bind (tracks_slicePart readers h _) fun stop => ?_
    refine .bind (.lift depth _) fun colon => ?_
    cases colon with
    | true =>
      exact .bind (tracks_slicePart readers h _) fun step => .bind (.lift depth _) fun _ => .pure depth _
    | false => exact .bind (.pure depth _) fun step => .bind (.lift depth _) fun _ => .pure depth _

end Lists

/-! ## Rules -/

/-- Continues a chain of a level; at all other levels there is nothing to continue. -/
def moreAt : Level → Deeper → Nat → Tree → CountingReader Tree
  | .disjunction => moreOr
  | .conjunction => moreAnd
  | .sum => moreSum
  | .product => moreProduct
  | .access => moreAccess
  | _ => fun _ outer e => do
    set outer
    return e

/-- A chain starts with a tree of the next level, and keeps the counter behind it. -/
theorem readAt_chain {level : Level} (h : level.isChain = true) (deeper : Deeper) :
    readAt level deeper =
      readAt level.next deeper >>= fun first => get >>= fun outer => moreAt level deeper outer first := by
  cases level <;> first | rfl | cases h

/-- An expression inside another one does with a counter what it does with the rest of the levels as
room. -/
abbrev TracksInside (bound depth : Nat) : Prop :=
  Tracks depth depth (expression (.ofBound bound)) (Expr.expression (.ofRoom (roomLeft bound depth)))

/-- The reader of a level does with a counter what it does with the rest of the levels as room. -/
abbrev TracksAt (bound depth : Nat) (level : Level) : Prop :=
  Tracks depth depth (readAt level (.ofBound bound)) (Expr.readAt level (.ofRoom (roomLeft bound depth)))

/-- All readers that go deeper a number of times track at a depth.  A chain goes back to the counter
that it started with, whatever the depth is by now. -/
structure Tracked (bound depth : Nat) : Prop where
  inside : TracksInside bound depth
  read : ∀ level, TracksAt bound depth level
  more : ∀ level outer e, Tracks depth outer (moreAt level (.ofBound bound) outer e)
    (Expr.moreAt level (.ofRoom (roomLeft bound depth)) e)

section Rules

variable {bound depth : Nat}

theorem tracks_parentheses (inside : TracksInside bound depth) :
    Tracks depth depth (parentheses (.ofBound bound))
      (Expr.parentheses (.ofRoom (roomLeft bound depth))) := by
  refine .bind (.lift depth _) fun closed => ?_
  cases closed with
  | true => exact .pure depth _
  | false =>
    refine .bind inside fun first => .bind (.lift depth _) fun closed => ?_
    cases closed with
    | true => exact .pure depth _
    | false =>
      exact .bind (.lift depth _) fun _ => .bind (tracks_items inside _) fun _ => .pure depth _

theorem tracks_braces (inside : TracksInside bound depth) :
    Tracks depth depth (braces (.ofBound bound)) (Expr.braces (.ofRoom (roomLeft bound depth))) := by
  refine .bind (.lift depth _) fun closed => ?_
  cases closed with
  | true => exact .pure depth _
  | false =>
    refine .bind inside fun first => .bind (.lift depth _) fun colon => ?_
    cases colon with
    | true =>
      refine .bind inside fun value => .bind (.lift depth _) fun left => ?_
      refine .bind (tracks_readEntries inside _) fun rest => ?_
      exact .bind (.lift depth _) fun _ => .pure depth _
    | false =>
      refine .bind (.lift depth _) fun comma => ?_
      cases comma with
      | true => exact .bind (tracks_items inside _) fun _ => .pure depth _
      | false => exact .bind (.lift depth _) fun _ => .pure depth _

theorem tracks_atom (inside : TracksInside bound depth) :
    Tracks depth depth (atom (.ofBound bound)) (Expr.atom (.ofRoom (roomLeft bound depth))) := by
  refine .bind (.lift depth _) fun found => ?_
  cases found with
  | none => exact .throw depth depth _
  | some l =>
    cases l with
    | int n => exact .bind (.lift depth _) fun _ => .pure depth _
    | float x => exact .bind (.lift depth _) fun _ => .pure depth _
    | text s =>
      exact .bind (.lift depth _) fun _ => .bind (.lift depth _) fun _ => .pure depth _
    | name name =>
      have free : Tracks depth depth
          (do
            skip
            match wordLiteral? name with
            | some value => return .literal value
            | none => return .name name : CountingReader Tree)
          (do
            skip
            match wordLiteral? name with
            | some value => return .literal value
            | none => return .name name) := by
        refine .bind (.lift depth _) fun _ => ?_
        cases wordLiteral? name with
        | some value => exact .pure depth _
        | none => exact .pure depth _
      dsimp only
      cases isReserved name with
      | true => exact .bind (.lift depth _) fun _ => free
      | false => exact free
    | punct p =>
      cases p with
      | openParen => exact .bind (.lift depth _) fun _ => tracks_parentheses inside
      | openBracket =>
        exact .bind (.lift depth _) fun _ => .bind (tracks_items inside _) fun _ => .pure depth _
      | openBrace => exact .bind (.lift depth _) fun _ => tracks_braces inside
      | _ => exact .throw depth depth _

/-- A chain tracks if what goes on behind its first operand does. -/
theorem tracks_chain (level : Level) (chain : level.isChain = true)
    (first : TracksAt bound depth level.next)
    (more : ∀ outer e, Tracks depth outer (moreAt level (.ofBound bound) outer e)
      (Expr.moreAt level (.ofRoom (roomLeft bound depth)) e)) : TracksAt bound depth level := by
  unfold TracksAt
  rw [readAt_chain chain, Expr.readAt_chain chain]
  exact .bind first fun e => .count (a := depth) rfl (more depth e)

/-- Behind its last operand a chain goes back to the counter that it started with. -/
theorem tracks_end (depth outer : Nat) (e : Tree) :
    Tracks depth outer (do set outer; return e : CountingReader Tree) (pure e) :=
  .count (a := ⟨⟩) rfl (.pure outer e)

theorem tracks_moreAccess (below : ∀ less, bound = less + 1 → Tracked less (depth + 1)) (outer : Nat)
    (e : Tree) :
    Tracks depth outer (moreAccess (.ofBound bound) outer e)
      (Expr.moreAccess (.ofRoom (roomLeft bound depth)) e) := by
  refine .bind (.lift depth _) fun found => ?_
  cases found with
  | none => exact tracks_end depth outer e
  | some l =>
    cases l with
    | punct p =>
      cases p with
      | dot =>
        refine .nest fun less eq => .bind (.lift _ _) fun _ => .bind (.lift _ _) fun name => ?_
        exact (below less eq).more .access outer _
      | openParen =>
        refine .nest fun less eq => .bind (.lift _ _) fun _ => ?_
        refine .bind (tracks_items (below less eq).inside _) fun args => ?_
        exact (below less eq).more .access outer _
      | openBracket =>
        refine .nest fun less eq => .bind (.lift _ _) fun _ => ?_
        refine .bind (tracks_subscript _ (below less eq).inside _) fun result => ?_
        exact (below less eq).more .access outer _
      | _ => exact tracks_end depth outer e
    | _ => exact tracks_end depth outer e

/-- The operands of a chain behind the first one: each of them, and all that follows it, stands one
level deeper than the one before. -/
theorem tracks_more (below : ∀ less, bound = less + 1 → Tracked less (depth + 1)) (level : Level)
    (outer : Nat) (e : Tree) :
    Tracks depth outer (moreAt level (.ofBound bound) outer e)
      (Expr.moreAt level (.ofRoom (roomLeft bound depth)) e) := by
  cases level with
  | access => exact tracks_moreAccess below outer e
  | disjunction =>
    refine .bind (.lift depth _) fun found => ?_
    cases found with
    | false => exact tracks_end depth outer e
    | true =>
      refine .nest fun less eq => ?_
      exact .bind ((below less eq).read .conjunction) fun right => (below less eq).more .disjunction _ _
  | conjunction =>
    refine .bind (.lift depth _) fun found => ?_
    cases found with
    | false => exact tracks_end depth outer e
    | true =>
      refine .nest fun less eq => ?_
      exact .bind ((below less eq).read .negation) fun right => (below less eq).more .conjunction _ _
  | sum =>
    refine .bind (.lift depth _) fun found => ?_
    cases found with
    | none => exact tracks_end depth outer e
    | some op =>
      refine .nest fun less eq => ?_
      exact .bind ((below less eq).read .product) fun right => (below less eq).more .sum _ _
  | product =>
    refine .bind (.lift depth _) fun found => ?_
    cases found with
    | none => exact tracks_end depth outer e
    | some op =>
      refine .nest fun less eq => ?_
      exact .bind ((below less eq).read .sign) fun right => (below less eq).more .product _ _
  | _ => exact tracks_end depth outer e

/-- An operator in front of an operand of its own level. -/
theorem tracks_prefixed (below : ∀ less, bound = less + 1 → Tracked less (depth + 1)) (op : UnaryOp)
    {read : Readers → CountingReader Tree} {read' : Expr.Readers → Reader Tree}
    (own : ∀ less, read (readersAbove (.ofBound less)) = readAt op.level (.ofBound less))
    (own' : ∀ less, read' (Expr.readersAbove (.ofRoom less)) = Expr.readAt op.level (.ofRoom less)) :
    Tracks depth depth (do return Tree.unary op (← nested (.ofBound bound) read))
      (do return Tree.unary op (← (Expr.Deeper.ofRoom (roomLeft bound depth)).nest read')) := by
  refine .bind (.nested fun less eq => ?_) fun operand => .pure depth _
  rw [own, own']
  exact (below less eq).read op.level

theorem tracks_power (below : ∀ less, bound = less + 1 → Tracked less (depth + 1))
    (first : TracksAt bound depth .access) : TracksAt bound depth .power := by
  refine .bind first fun base => .bind (.lift depth _) fun found => ?_
  cases found with
  | false => exact .pure depth _
  | true =>
    exact .bind (.nested fun less eq => (below less eq).read .sign) fun exponent => .pure depth _

theorem tracks_signed (below : ∀ less, bound = less + 1 → Tracked less (depth + 1))
    (first : TracksAt bound depth .power) : TracksAt bound depth .sign := by
  refine .bind (.lift depth _) fun minus => ?_
  cases minus with
  | true => exact tracks_prefixed below .neg (fun _ => rfl) fun _ => rfl
  | false =>
    refine .bind (.lift depth _) fun plus => ?_
    cases plus with
    | true => exact tracks_prefixed below .pos (fun _ => rfl) fun _ => rfl
    | false => exact first

theorem tracks_comparison (first : TracksAt bound depth .sum) : TracksAt bound depth .comparison := by
  refine .bind first fun e => .bind (.lift depth _) fun left => ?_
  refine .bind (tracks_readLinks first _) fun links => ?_
  rcases links with _ | ⟨link, _ | ⟨link', links⟩⟩
  · exact .pure depth _
  · exact .pure depth _
  · exact .pure depth _

theorem tracks_negation (below : ∀ less, bound = less + 1 → Tracked less (depth + 1))
    (first : TracksAt bound depth .comparison) : TracksAt bound depth .negation := by
  refine .bind (.lift depth _) fun found => ?_
  cases found with
  | true => exact tracks_prefixed below .not (fun _ => rfl) fun _ => rfl
  | false => exact first

theorem tracks_condition (inside : TracksInside bound depth)
    (first : TracksAt bound depth .disjunction) : TracksAt bound depth .condition := by
  refine .bind first fun body => .bind (.lift depth _) fun found => ?_
  cases found with
  | false => exact .pure depth _
  | true =>
    refine .bind first fun test => .bind (.lift depth _) fun found => ?_
    cases found with
    | false =>
      exact .bind (.lift depth _) fun _ => .bind inside fun orelse => .pure depth _
    | true => exact .bind inside fun orelse => .pure depth _

/-- **Every reader tracks**, by induction on how often it may go deeper: what is read one level deeper
has been shown to track, and the levels follow one from the next tighter one. -/
theorem tracked (bound depth : Nat) : Tracked bound depth := by
  have step (bound depth : Nat) (below : ∀ less, bound = less + 1 → Tracked less (depth + 1)) :
      Tracked bound depth := by
    have inside : TracksInside bound depth := .nested fun less eq => (below less eq).read .condition
    have more := tracks_more below
    have atom : TracksAt bound depth .atom := tracks_atom inside
    have access := tracks_chain .access rfl atom (more .access)
    have power := tracks_power below access
    have sign := tracks_signed below power
    have product := tracks_chain .product rfl sign (more .product)
    have sum := tracks_chain .sum rfl product (more .sum)
    have comparison := tracks_comparison sum
    have negation := tracks_negation below comparison
    have conjunction := tracks_chain .conjunction rfl negation (more .conjunction)
    have disjunction := tracks_chain .disjunction rfl conjunction (more .disjunction)
    have condition := tracks_condition inside disjunction
    refine ⟨inside, fun level => ?_, more⟩
    cases level <;> assumption
  induction bound generalizing depth with
  | zero => exact step 0 depth fun _ eq => nomatch eq
  | succ bound ih =>
    refine step (bound + 1) depth fun less eq => ?_
    cases eq
    exact ih (depth + 1)

/-- Where the counter alone ends the descent, all levels that are not used up are room. -/
theorem tracks_readAt (level : Level) (depth : Nat) :
    Tracks depth depth (readAt level (.ofBound maxNesting))
      (Expr.readAt level (.ofRoom (maxNesting - depth))) := by
  have rest : roomLeft maxNesting depth = maxNesting - depth := Nat.min_eq_right (Nat.sub_le _ _)
  have read := (tracked maxNesting depth).read level
  rwa [TracksAt, rest] at read

end Rules

/-! ## The counter behind what is read -/

/-- A reader that succeeds leaves the counter as it found it. -/
def Restores {α : Type} (counted : CountingReader α) : Prop :=
  ∀ depth ts a depth' rest, (counted.run depth).run ts = .ok ((a, depth'), rest) → depth' = depth

theorem restores_of_tracks {α : Type} {counted : CountingReader α} {read : Nat → Reader α}
    (h : ∀ depth, Tracks depth depth counted (read depth)) : Restores counted := by
  intro depth ts a depth' rest run
  rw [h depth] at run
  obtain ⟨found, mid, -, same⟩ := run_bind_ok run
  cases same
  rfl

/-- All procedures that read expressions and lists of them leave the counter as they found it. -/
structure Balanced (bound : Nat) : Prop where
  expression : Restores (expression (.ofBound bound))
  level : ∀ level, Restores (readAt level (.ofBound bound))
  subscript : ∀ target, Restores (subscript (Counter.expression (.ofBound bound)) target)
  items : ∀ closing, Restores (items (Counter.expression (.ofBound bound)) closing)
  braces : Restores (braces (.ofBound bound))

theorem balanced (bound : Nat) : Balanced bound where
  expression := restores_of_tracks fun depth => (tracked bound depth).inside
  level level := restores_of_tracks fun depth => (tracked bound depth).read level
  subscript target := restores_of_tracks fun depth =>
    tracks_subscript (Expr.readersAbove (.ofRoom (roomLeft bound depth)))
      (tracked bound depth).inside target
  items closing := restores_of_tracks fun depth => tracks_items (tracked bound depth).inside closing
  braces := restores_of_tracks fun depth => tracks_braces (tracked bound depth).inside

/-- Two further summands are read at depths 8 and 9, and the counter is 7 again behind them. -/
example :
    ((readAt .sum (.ofBound maxNesting)).run 7).run
      [.int 1, .punct .plus, .int 2, .punct .minus, .int 3, .punct .comma] =
    .ok ((.arithmetic .sub (.arithmetic .add (.literal (.int 1)) (.literal (.int 2)))
      (.literal (.int 3)), 7), [.punct .comma]) := rfl

/-! ## Whole expressions -/

theorem tracks_whole {depth : Nat} {item : CountingReader Tree} {item' : Reader Tree}
    (h : Tracks depth depth item item') : Tracks depth depth (whole item) (Expr.whole item') := by
  refine .bind h fun first => .bind (.lift depth _) fun comma => ?_
  have ends (tree : Tree) : Tracks depth depth
      (do
        unless (← lexemesLeft).isEmpty do (failExpected "end of expression" : Reader Unit)
        return tree : CountingReader Tree)
      (do
        unless (← get).isEmpty do failExpected "end of expression"
        return tree) := by
    refine .bind (.lift depth _) fun left => ?_
    cases left.isEmpty with
    | true => exact .pure depth _
    | false => exact .bind (.lift depth _) fun _ => .pure depth _
  cases comma with
  | true =>
    exact .bind (.lift depth _) fun left => .bind (tracks_readTuple h _) fun rest => ends _
  | false => exact ends first

/-- **A text is read alike with a counter.** -/
theorem parse_eq (source : String) : parse source = Expr.parse source := by
  have inside : Tracks 0 0 (expression (.ofBound maxNesting)) (Expr.readers maxNesting).expression := by
    rw [Expr.readers_eq]
    exact (tracked maxNesting 0).inside
  have same (lexemes : List Lexeme) : parseLexemes lexemes = Expr.parseLexemes maxNesting lexemes := by
    rw [parseLexemes, Expr.parseLexemes, tracks_whole inside, StateT.run_bind]
    cases ((Expr.whole (Expr.readers maxNesting).expression).run lexemes) <;> rfl
  unfold parse Expr.parse parseWithin
  exact bind_congr same

end TextTemplate.Expr.Counter
