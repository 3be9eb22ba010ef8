import TextTemplate.Expr.Reader

/-!
# How high trees are

The height of a tree is the number of nodes on its longest path.  Its depth for a weight tells apart the
steps of a path: those to parts that are read with less room than the node count 1, all others count the
weight.  So the height is the depth for the weight 1 (`Tree.depth_one`), and the depth for the weight 0 is
the number of levels that the limit on nesting is about.
-/

namespace TextTemplate.Expr

/-! ## Height -/

mutual

/-- The number of nodes on the longest path from the root; literals and names are not counted. -/
def Tree.height : Tree → Nat
  | .literal _ | .name _ => 0
  | .member target _ => target.height + 1
  | .item target index => max target.height index.height + 1
  | .slice target start stop step =>
    max target.height (max (partHeight start) (max (partHeight stop) (partHeight step))) + 1
  | .call callee args => max callee.height (itemsHeight args) + 1
  | .unary _ operand => operand.height + 1
  | .arithmetic _ left right | .comparison _ left right | .and left right | .or left right =>
    max left.height right.height + 1
  | .chain first links => max first.height (linksHeight links) + 1
  | .conditional test body orelse => max test.height (max body.height orelse.height) + 1
  | .list items | .set items => itemsHeight items + 1
  | .map entries => entriesHeight entries + 1

/-- The height of an optional part. -/
def partHeight : Option Tree → Nat
  | none => 0
  | some e => e.height

/-- The height of the highest of several trees. -/
def itemsHeight : List Tree → Nat
  | [] => 0
  | e :: rest => max e.height (itemsHeight rest)

/-- The height of the highest right operand of comparisons. -/
def linksHeight : List (Comparison × Tree) → Nat
  | [] => 0
  | (_, e) :: rest => max e.height (linksHeight rest)

/-- The height of the highest key or value of a map. -/
def entriesHeight : List (Tree × Tree) → Nat
  | [] => 0
  | (key, e) :: rest => max key.height (max e.height (entriesHeight rest))

end

mutual

/-- The greatest weight of a path from the root.  A step to a part that is read with less room than the
node has the weight 1: to a right operand, to an argument, an index or an item, to the operand of a sign
and to what stands behind `else`.  A step to any other part has the weight `w`, and so has a collection
without items. -/
def Tree.depth (w : Nat) : Tree → Nat
  | .literal _ | .name _ => 0
  | .member target _ => target.depth w + w
  | .item target index => max (target.depth w + w) (index.depth w + 1)
  | .slice target start stop step =>
    max (target.depth w + w) (max (partDepth w start) (max (partDepth w stop) (partDepth w step)))
  | .call callee args => max (callee.depth w + w) (itemsDepth w args)
  | .unary _ operand => operand.depth w + 1
  | .arithmetic _ left right | .and left right | .or left right =>
    max (left.depth w + w) (right.depth w + 1)
  | .comparison _ left right => max (left.depth w) (right.depth w) + w
  | .chain first links => max (first.depth w) (linksDepth w links) + w
  | .conditional test body orelse =>
    max (max (test.depth w) (body.depth w) + w) (orelse.depth w + 1)
  | .list items | .set items => max w (itemsDepth w items)
  | .map entries => max w (entriesDepth w entries)

/-- The weight of a path through an optional part that is read with less room. -/
def partDepth (w : Nat) : Option Tree → Nat
  | none => 0
  | some e => e.depth w + 1

/-- The greatest weight of a path through one of several trees that are read with less room. -/
def itemsDepth (w : Nat) : List Tree → Nat
  | [] => 0
  | e :: rest => max (e.depth w + 1) (itemsDepth w rest)

/-- The greatest weight of a path in right operands of comparisons. -/
def linksDepth (w : Nat) : List (Comparison × Tree) → Nat
  | [] => 0
  | (_, e) :: rest => max (e.depth w) (linksDepth w rest)

/-- The greatest weight of a path through a key or a value of a map. -/
def entriesDepth (w : Nat) : List (Tree × Tree) → Nat
  | [] => 0
  | (key, e) :: rest => max (key.depth w + 1) (max (e.depth w + 1) (entriesDepth w rest))

end

mutual

/-- With all steps of weight 1 the depth is the height. -/
theorem Tree.depth_one : (e : Tree) → e.depth 1 = e.height
  | .literal _ | .name _ => rfl
  | .member target _ => by rw [Tree.depth, Tree.height, target.depth_one]
  | .item target index => by rw [Tree.depth, Tree.height, target.depth_one, index.depth_one]; omega
  | .slice target start stop step => by
    have hstart := partDepth_one start
    have hstop := partDepth_one stop
    have hstep := partDepth_one step
    rw [Tree.depth, Tree.height, target.depth_one]
    omega
  | .call callee args => by
    have := itemsDepth_one args
    rw [Tree.depth, Tree.height, callee.depth_one]
    omega
  | .unary _ operand => by rw [Tree.depth, Tree.height, operand.depth_one]
  | .arithmetic _ left right | .and left right | .or left right => by
    rw [Tree.depth, Tree.height, left.depth_one, right.depth_one]
    omega
  | .comparison _ left right => by rw [Tree.depth, Tree.height, left.depth_one, right.depth_one]
  | .chain first links => by rw [Tree.depth, Tree.height, first.depth_one, linksDepth_one links]
  | .conditional test body orelse => by
    rw [Tree.depth, Tree.height, test.depth_one, body.depth_one, orelse.depth_one]
    omega
  | .list items | .set items => by
    have := itemsDepth_one items
    rw [Tree.depth, Tree.height]
    omega
  | .map entries => by
    have := entriesDepth_one entries
    rw [Tree.depth, Tree.height]
    omega

theorem partDepth_one : (part : Option Tree) → max 1 (partDepth 1 part) = partHeight part + 1
  | none => rfl
  | some e => by rw [partDepth, partHeight, e.depth_one]; omega

theorem itemsDepth_one : (items : List Tree) → max 1 (itemsDepth 1 items) = itemsHeight items + 1
  | [] => rfl
  | e :: rest => by
    have := itemsDepth_one rest
    rw [itemsDepth, itemsHeight, e.depth_one]
    omega

theorem linksDepth_one : (links : List (Comparison × Tree)) → linksDepth 1 links = linksHeight links
  | [] => rfl
  | (_, e) :: rest => by rw [linksDepth, linksHeight, e.depth_one, linksDepth_one rest]

theorem entriesDepth_one : (entries : List (Tree × Tree)) →
    max 1 (entriesDepth 1 entries) = entriesHeight entries + 1
  | [] => rfl
  | (key, e) :: rest => by
    have := entriesDepth_one rest
    rw [entriesDepth, entriesHeight, key.depth_one, e.depth_one]
    omega

end

/-! ## Bounds of depth -/

section Depth

variable {w bound : Nat}

theorem partDepth_le {part : Option Tree} (h : ∀ e ∈ part, e.depth w + 1 ≤ bound) :
    partDepth w part ≤ bound := by
  cases part with
  | none => exact Nat.zero_le _
  | some e => exact h e rfl

theorem itemsDepth_le {items : List Tree} (h : ∀ e ∈ items, e.depth w + 1 ≤ bound) :
    itemsDepth w items ≤ bound := by
  induction items with
  | nil => exact Nat.zero_le _
  | cons e rest ih =>
    rw [List.forall_mem_cons] at h
    exact Nat.max_le.2 ⟨h.1, ih h.2⟩

theorem linksDepth_le {links : List (Comparison × Tree)} (h : ∀ link ∈ links, link.2.depth w ≤ bound) :
    linksDepth w links ≤ bound := by
  induction links with
  | nil => exact Nat.zero_le _
  | cons link rest ih =>
    rw [List.forall_mem_cons] at h
    exact Nat.max_le.2 ⟨h.1, ih h.2⟩

theorem entriesDepth_le {entries : List (Tree × Tree)}
    (h : ∀ entry ∈ entries, entry.1.depth w + 1 ≤ bound ∧ entry.2.depth w + 1 ≤ bound) :
    entriesDepth w entries ≤ bound := by
  induction entries with
  | nil => exact Nat.zero_le _
  | cons entry rest ih =>
    rw [List.forall_mem_cons] at h
    exact Nat.max_le.2 ⟨h.1.1, Nat.max_le.2 ⟨h.1.2, ih h.2⟩⟩

end Depth

end TextTemplate.Expr
