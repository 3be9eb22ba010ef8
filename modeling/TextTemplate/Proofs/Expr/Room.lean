import TextTemplate.Proofs.Expr.Reading

/-!
# The room that trees take

A tree that is written is read with a certain room, and not with less (`Tree.takes`).  The operands of a
chain of operators are read with less room one after the other, but for the first one; what stands
between delimiters is one level deeper.  Each node takes at most two levels (`Tree.takes_lt`).
-/

namespace TextTemplate.Expr

/-! ## Chains -/

/-- The number of operators of a chain that goes on behind a tree, which may be such a chain itself. -/
def linksAt (level own : Level) (spine : Nat) : Nat :=
  if level.isChain = true ∧ own = level then spine else 0

/-- The number of operators in the chain that a tree ends. -/
def Tree.spine : Tree → Nat
  | .member target _ | .item target _ | .slice target _ _ _ | .call target _ =>
    linksAt .access target.level target.spine + 1
  | .arithmetic op left _ => linksAt op.level left.level left.spine + 1
  | .and left _ => linksAt .conjunction left.level left.spine + 1
  | .or left _ => linksAt .disjunction left.level left.spine + 1
  | _ => 0

/-- The number of operators on the left of the one that continues a tree to a chain of a level. -/
def Tree.links (level : Level) (e : Tree) : Nat := linksAt level e.level e.spine

/-! ## Room -/

/-- The room for a tree of one level at a place that takes trees from another level on. -/
def roomAt (least own : Level) (room : Nat) : Nat := if own.rank < least.rank then room + 1 else room

mutual

/-- The least room with which a tree is read at its own level. -/
def Tree.takes : Tree → Nat
  | .literal _ | .name _ => 0
  | .member target _ =>
    max (roomAt .access target.level target.takes) (linksAt .access target.level target.spine + 1)
  | .item target index =>
    max (roomAt .access target.level target.takes)
      (linksAt .access target.level target.spine + 1 + (index.takes + 1))
  | .slice target start stop step =>
    max (roomAt .access target.level target.takes)
      (linksAt .access target.level target.spine + 1 +
        max (partTakes start) (max (partTakes stop) (partTakes step)))
  | .call callee args =>
    max (roomAt .access callee.level callee.takes)
      (linksAt .access callee.level callee.spine + 1 + itemsTakes args)
  | .unary op operand => roomAt op.level operand.level operand.takes + 1
  | .arithmetic op left right =>
    max (roomAt op.left left.level left.takes)
      (linksAt op.level left.level left.spine + 1 + roomAt op.right right.level right.takes)
  | .comparison _ left right =>
    max (roomAt .sum left.level left.takes) (roomAt .sum right.level right.takes)
  | .chain first links => max (roomAt .sum first.level first.takes) (linksTakes links)
  | .and left right =>
    max (roomAt .conjunction left.level left.takes)
      (linksAt .conjunction left.level left.spine + 1 + roomAt .negation right.level right.takes)
  | .or left right =>
    max (roomAt .disjunction left.level left.takes)
      (linksAt .disjunction left.level left.spine + 1 + roomAt .conjunction right.level right.takes)
  | .conditional test body orelse =>
    max (roomAt .disjunction body.level body.takes)
      (max (roomAt .disjunction test.level test.takes) (orelse.takes + 1))
  | .list items | .set items => itemsTakes items
  | .map entries => entriesTakes entries

/-- The room of an optional part of a slice. -/
def partTakes : Option Tree → Nat
  | none => 0
  | some e => e.takes + 1

/-- The room of expressions between delimiters. -/
def itemsTakes : List Tree → Nat
  | [] => 0
  | e :: rest => max (e.takes + 1) (itemsTakes rest)

/-- The room of the right operands of comparisons. -/
def linksTakes : List (Comparison × Tree) → Nat
  | [] => 0
  | (_, e) :: rest => max (roomAt .sum e.level e.takes) (linksTakes rest)

/-- The room of the entries of a map. -/
def entriesTakes : List (Tree × Tree) → Nat
  | [] => 0
  | (key, e) :: rest => max (max (key.takes + 1) (e.takes + 1)) (entriesTakes rest)

end

/-- The room of a tree at a place that takes trees from a level on. -/
def Tree.takesAt (least : Level) (e : Tree) : Nat := roomAt least e.level e.takes

section Bounds

theorem linksAt_le (level own : Level) (spine : Nat) : linksAt level own spine ≤ spine := by
  unfold linksAt
  split
  · exact Nat.le_refl _
  · exact Nat.zero_le _

/-- Parentheses take one level of room. -/
theorem roomAt_lt (least own : Level) {room bound : Nat} (h : room + 1 < bound) :
    roomAt least own room < bound := by
  unfold roomAt
  split <;> omega

/-- Each operator of a chain is a node. -/
theorem Tree.spine_lt_size : (e : Tree) → e.spine < e.size
  | .member target _ | .item target _ | .slice target _ _ _ | .call target _ => by
    have links := linksAt_le .access target.level target.spine
    have spine := target.spine_lt_size
    simp only [Tree.spine, Tree.size]
    omega
  | .arithmetic op left _ => by
    have links := linksAt_le op.level left.level left.spine
    have spine := left.spine_lt_size
    simp only [Tree.spine, Tree.size]
    omega
  | .and left _ => by
    have links := linksAt_le .conjunction left.level left.spine
    have spine := left.spine_lt_size
    simp only [Tree.spine, Tree.size]
    omega
  | .or left _ => by
    have links := linksAt_le .disjunction left.level left.spine
    have spine := left.spine_lt_size
    simp only [Tree.spine, Tree.size]
    omega
  | .literal _ | .name _ | .unary .. | .comparison .. | .chain .. | .conditional .. | .list _ | .set _
  | .map _ => Tree.size_pos _

theorem Tree.links_lt_size (level : Level) (e : Tree) :
    linksAt level e.level e.spine < e.size :=
  Nat.lt_of_le_of_lt (linksAt_le _ _ _) e.spine_lt_size

mutual

/-- A tree takes at most two levels of room for each node. -/
theorem Tree.takes_lt : (e : Tree) → e.takes + 1 < 2 * e.size
  | .literal _ | .name _ => by
    simp only [Tree.takes, Tree.size]
    omega
  | .member target _ => by
    have inner := roomAt_lt .access target.level target.takes_lt
    have links := target.links_lt_size .access
    simp only [Tree.takes, Tree.size]
    omega
  | .item target index => by
    have inner := roomAt_lt .access target.level target.takes_lt
    have links := target.links_lt_size .access
    have part := index.takes_lt
    simp only [Tree.takes, Tree.size]
    omega
  | .slice target start stop step => by
    have inner := roomAt_lt .access target.level target.takes_lt
    have links := target.links_lt_size .access
    have first := partTakes_le start
    have second := partTakes_le stop
    have third := partTakes_le step
    simp only [Tree.takes, Tree.size]
    omega
  | .call callee args => by
    have inner := roomAt_lt .access callee.level callee.takes_lt
    have links := callee.links_lt_size .access
    have parts := itemsTakes_le args
    simp only [Tree.takes, Tree.size]
    omega
  | .unary op operand => by
    have inner := roomAt_lt op.level operand.level operand.takes_lt
    simp only [Tree.takes, Tree.size]
    omega
  | .arithmetic op left right => by
    have inner := roomAt_lt op.left left.level left.takes_lt
    have links := left.links_lt_size op.level
    have inner' := roomAt_lt op.right right.level right.takes_lt
    simp only [Tree.takes, Tree.size]
    omega
  | .comparison _ left right => by
    have inner := roomAt_lt .sum left.level left.takes_lt
    have inner' := roomAt_lt .sum right.level right.takes_lt
    simp only [Tree.takes, Tree.size]
    omega
  | .chain first links => by
    have inner := roomAt_lt .sum first.level first.takes_lt
    have parts := linksTakes_le links
    simp only [Tree.takes, Tree.size]
    omega
  | .and left right => by
    have inner := roomAt_lt .conjunction left.level left.takes_lt
    have links := left.links_lt_size .conjunction
    have inner' := roomAt_lt .negation right.level right.takes_lt
    simp only [Tree.takes, Tree.size]
    omega
  | .or left right => by
    have inner := roomAt_lt .disjunction left.level left.takes_lt
    have links := left.links_lt_size .disjunction
    have inner' := roomAt_lt .conjunction right.level right.takes_lt
    simp only [Tree.takes, Tree.size]
    omega
  | .conditional test body orelse => by
    have inner := roomAt_lt .disjunction test.level test.takes_lt
    have inner' := roomAt_lt .disjunction body.level body.takes_lt
    have last := orelse.takes_lt
    simp only [Tree.takes, Tree.size]
    omega
  | .list items | .set items => by
    have parts := itemsTakes_le items
    simp only [Tree.takes, Tree.size]
    omega
  | .map entries => by
    have parts := entriesTakes_le entries
    simp only [Tree.takes, Tree.size]
    omega

theorem partTakes_le : (part : Option Tree) → partTakes part ≤ 2 * partSize part
  | none => Nat.zero_le _
  | some e => Nat.le_of_lt e.takes_lt

theorem itemsTakes_le : (items : List Tree) → itemsTakes items ≤ 2 * itemsSize items
  | [] => Nat.zero_le _
  | e :: rest => by
    have first := e.takes_lt
    have others := itemsTakes_le rest
    rw [itemsTakes, itemsSize]
    omega

theorem linksTakes_le : (links : List (Comparison × Tree)) → linksTakes links ≤ 2 * linksSize links
  | [] => Nat.zero_le _
  | (_, e) :: rest => by
    have first := roomAt_lt .sum e.level e.takes_lt
    have others := linksTakes_le rest
    rw [linksTakes, linksSize]
    omega

theorem entriesTakes_le : (entries : List (Tree × Tree)) → entriesTakes entries ≤ 2 * entriesSize entries
  | [] => Nat.zero_le _
  | (key, e) :: rest => by
    have first := key.takes_lt
    have second := e.takes_lt
    have others := entriesTakes_le rest
    rw [entriesTakes, entriesSize]
    omega

end

end Bounds

end TextTemplate.Expr
