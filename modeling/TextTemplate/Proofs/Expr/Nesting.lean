import TextTemplate.Proofs.Expr.Height
import TextTemplate.Proofs.Expr.RoundTrip

/-!
# How deep trees are

Every step to a part that is read one level deeper takes room, so on no path of a tree there are more
such steps than the limit allows (`Tree.depth` with weight 0).  The first operand of a chain of
operators is read before the chain, though, with all the room that the chain had at its start; so are
the operands of comparisons and the body and the test of a condition.  A path may take many such steps,
and the height of a tree, which counts them too (weight 1), may exceed the limit (`Tall.compile_tall`).
It is bounded all the same: at each level of room there are five kinds of chains and three more nodes
that a path may go through (`cap`).

`Gives` says what holds of anything that a reader gives, whatever it reads.  The bounds of all readers of
a level of room are shown together (`Bounded`), by induction on the room.  Which of the trees that are
written with no more parentheses than they need are accepted is decided by the room that they take
(`Tree.takes`).
-/

namespace TextTemplate.Expr

/-! ## What readers give -/

/-- All that a reader gives has a property. -/
def Gives {α : Type} (read : Reader α) (P : α → Prop) : Prop :=
  ∀ ts a rest, read.run ts = .ok (a, rest) → P a

section Gives

variable {α β : Type} {read : Reader α} {next : α → Reader β} {P : α → Prop} {Q : β → Prop}

theorem gives_any (read : Reader α) : Gives read fun _ => True := fun _ _ _ _ => trivial

theorem gives_throw (cause : SyntaxFault) : Gives (throw cause : Reader α) P :=
  fun _ _ _ h => nomatch h

theorem gives_pure {a : α} (h : P a) : Gives (pure a : Reader α) P := by
  intro ts b rest run
  cases run
  exact h

theorem Gives.mono {P' : α → Prop} (h : Gives read P) (imp : ∀ a, P a → P' a) : Gives read P' :=
  fun ts a rest run => imp a (h ts a rest run)

theorem Gives.bind (h : Gives read P) (h' : ∀ a, P a → Gives (next a) Q) : Gives (read >>= next) Q := by
  intro ts b rest run
  rw [StateT.run_bind] at run
  cases first : read.run ts with
  | error cause =>
    rw [first] at run
    cases run
  | ok found =>
    rw [first] at run
    exact h' found.1 (h ts found.1 found.2 first) found.2 b rest run

/-- A step that says nothing about what is given. -/
theorem Gives.step (h : ∀ a, Gives (next a) Q) : Gives (read >>= next) Q :=
  .bind (gives_any read) fun a _ => h a

theorem gives_failExpected (wanted : String) : Gives (failExpected wanted : Reader α) P :=
  .step fun _ => gives_throw _

/-- One level deeper there is less room. -/
theorem gives_nest {room : Nat} {read : Readers → Reader α}
    (h : ∀ less, room = less + 1 → Gives (read (readersAbove (.ofRoom less))) P) :
    Gives ((Deeper.ofRoom room).nest read) P := by
  cases room with
  | zero => exact gives_throw _
  | succ less =>
    have := h less rfl
    rwa [← readers_eq] at this

end Gives

section Items

variable {item : Reader Tree} {P : Tree → Prop} (h : Gives item P)

include h

theorem gives_readItems (closing : Punct) (steps : Nat) :
    Gives (readItems item closing steps) fun items => ∀ e ∈ items, P e := by
  induction steps with
  | zero => exact gives_failExpected _
  | succ steps ih =>
    refine .step fun closed => ?_
    cases closed with
    | true => exact gives_pure (List.forall_mem_nil _)
    | false =>
      refine .bind h fun first hfirst => .step fun comma => ?_
      cases comma with
      | true => exact .bind ih fun rest hrest => gives_pure (List.forall_mem_cons.2 ⟨hfirst, hrest⟩)
      | false => exact .step fun _ => gives_pure (List.forall_mem_singleton.2 hfirst)

theorem gives_items (closing : Punct) : Gives (items item closing) fun items => ∀ e ∈ items, P e :=
  .step fun _ => gives_readItems h closing _

theorem gives_readEntry : Gives (readEntry item) fun entry => P entry.1 ∧ P entry.2 :=
  .bind h fun _ hkey => .step fun _ => .bind h fun _ hvalue => gives_pure ⟨hkey, hvalue⟩

theorem gives_readEntries (steps : Nat) :
    Gives (readEntries item steps) fun entries => ∀ entry ∈ entries, P entry.1 ∧ P entry.2 := by
  induction steps with
  | zero => exact gives_pure (List.forall_mem_nil _)
  | succ steps ih =>
    refine .step fun comma => ?_
    cases comma with
    | false => exact gives_pure (List.forall_mem_nil _)
    | true =>
      refine .step fun closed => ?_
      cases closed with
      | true => exact gives_pure (List.forall_mem_nil _)
      | false =>
        exact .bind (gives_readEntry h) fun entry hentry => .bind ih fun rest hrest =>
          gives_pure (List.forall_mem_cons.2 ⟨hentry, hrest⟩)

theorem gives_readLinks (steps : Nat) :
    Gives (readLinks item steps) fun links => ∀ link ∈ links, P link.2 := by
  induction steps with
  | zero => exact gives_pure (List.forall_mem_nil _)
  | succ steps ih =>
    refine .step fun op => ?_
    cases op with
    | none => exact gives_pure (List.forall_mem_nil _)
    | some op =>
      exact .bind h fun right hright => .bind ih fun rest hrest =>
        gives_pure (List.forall_mem_cons.2 ⟨hright, hrest⟩)

theorem gives_readTuple (steps : Nat) :
    Gives (readTuple item steps) fun items => ∀ e ∈ items, P e := by
  induction steps with
  | zero => exact gives_pure (List.forall_mem_nil _)
  | succ steps ih =>
    refine .step fun comma => ?_
    cases comma with
    | false => exact gives_pure (List.forall_mem_nil _)
    | true =>
      refine .step fun ts => ?_
      cases ts.isEmpty with
      | true => exact gives_pure (List.forall_mem_nil _)
      | false =>
        exact .bind h fun next hnext => .bind ih fun rest hrest =>
          gives_pure (List.forall_mem_cons.2 ⟨hnext, hrest⟩)

end Items

theorem gives_slicePart {room : Nat} {P : Tree → Prop} (h : Gives (expression (.ofRoom room)) P)
    (delimiters : List Punct) :
    Gives (slicePart (readersAbove (.ofRoom room)) delimiters) fun part => ∀ e ∈ part, P e := by
  refine .step fun closed => ?_
  cases closed with
  | true => exact gives_pure fun _ mem => nomatch mem
  | false =>
    refine .bind h fun e he => gives_pure fun _ mem => ?_
    cases mem
    exact he

/-! ## Bounds -/

/-- The kinds of chains that a tree of a level may start with. -/
def Level.chains : Level → Nat
  | .atom => 0
  | .access | .power | .sign => 1
  | .product => 2
  | .sum | .comparison | .negation => 3
  | .conjunction => 4
  | .disjunction | .condition => 5

/-- The nodes without a chain that a tree of a level may start with: a power, a comparison and a
condition. -/
def Level.singles : Level → Nat
  | .atom | .access => 0
  | .power | .sign | .product | .sum => 1
  | .comparison | .negation | .conjunction | .disjunction => 2
  | .condition => 3

/-- The greatest depth of an atom that is read with some room. -/
def ground (w : Nat) : Nat → Nat
  | 0 => w
  | room + 1 => ground w room + 5 * (room * w) + 3 * w + 1

/-- The greatest depth of a tree that is read at a level with some room: each chain has at most as many
operators as there is room. -/
def cap (w : Nat) (level : Level) (room : Nat) : Nat :=
  ground w room + level.chains * (room * w) + level.singles * w

section Cap

variable {w room : Nat}

theorem ground_succ (w room : Nat) :
    ground w (room + 1) = ground w room + 5 * (room * w) + 3 * w + 1 := rfl

theorem cap_eq (w : Nat) (level : Level) (room : Nat) :
    cap w level room = ground w room + level.chains * (room * w) + level.singles * w := rfl

theorem le_ground (w room : Nat) : w ≤ ground w room := by
  induction room with
  | zero => exact Nat.le_refl w
  | succ room ih =>
    rw [ground_succ]
    omega

theorem ground_zero (room : Nat) : ground 0 room = room := by
  induction room with
  | zero => rfl
  | succ room ih =>
    rw [ground_succ, ih]
    omega

theorem ground_one (room : Nat) : 2 * ground 1 room = 5 * (room * room) + 3 * room + 2 := by
  induction room with
  | zero => rfl
  | succ room ih =>
    have square : (room + 1) * (room + 1) = room * room + room + (room + 1) := by
      rw [Nat.succ_mul, Nat.mul_succ]
    rw [ground_succ, square]
    omega

theorem cap_condition : cap w .condition room + 1 = ground w (room + 1) := rfl

/-- With less room there is less depth. -/
theorem cap_lt (w : Nat) (level : Level) (room : Nat) : cap w level room + 1 ≤ cap w level (room + 1) := by
  have more : level.chains * (room * w) ≤ level.chains * ((room + 1) * w) :=
    Nat.mul_le_mul_left _ (Nat.mul_le_mul_right _ (Nat.le_succ room))
  rw [cap_eq, cap_eq, ground_succ]
  omega

theorem ground_lt (w room : Nat) : ground w room + 1 ≤ ground w (room + 1) := by
  rw [ground_succ]
  omega

/-- A chain adds as many nodes as there is room. -/
theorem cap_chain {level : Level} (chain : level.isChain = true) :
    cap w level room = cap w level.next room + room * w := by
  have chains : level.chains = level.next.chains + 1 := by cases level <;> first | rfl | cases chain
  have singles : level.singles = level.next.singles := by cases level <;> first | rfl | cases chain
  rw [cap_eq, cap_eq, chains, singles, Nat.succ_mul]
  omega

/-- A node without a chain adds one. -/
theorem cap_single (level lower : Level) (chains : level.chains = lower.chains)
    (singles : level.singles = lower.singles + 1) : cap w level room = cap w lower room + w := by
  rw [cap_eq, cap_eq, chains, singles, Nat.succ_mul, ← Nat.add_assoc]

theorem ground_le_cap (level : Level) : ground w room ≤ cap w level room := by
  rw [cap_eq]
  omega

end Cap

/-! ## The bounds of the readers -/

/-- What is read has at most some depth. -/
abbrev Within (w bound : Nat) (e : Tree) : Prop := e.depth w ≤ bound

/-- The readers with some room give trees of bounded depth. -/
structure Bounded (w room : Nat) : Prop where
  /-- An expression inside another one. -/
  inside : Gives (expression (.ofRoom room)) fun e => e.depth w + 1 ≤ ground w room
  read : ∀ level, Gives (readAt level (.ofRoom room)) (Within w (cap w level room))
  /-- A chain with a first operand of some depth. -/
  more : ∀ level, level.isChain = true → ∀ bound e, cap w level.next room ≤ bound → e.depth w ≤ bound →
    Gives (moreAt level (.ofRoom room) e) (Within w (bound + room * w))

section Bounded

variable {w room : Nat}

theorem inside_bounded (below : ∀ less, room = less + 1 → Bounded w less) :
    Gives (expression (.ofRoom room)) fun e => e.depth w + 1 ≤ ground w room := by
  refine gives_nest fun less eq => ?_
  refine ((below less eq).read .condition).mono fun e he => ?_
  rw [eq, ← cap_condition]
  exact Nat.succ_le_succ he

/-- The next operand of a chain, and what follows it. -/
theorem gives_joined {level : Level} {bound : Nat} (node : Tree → Tree) {e : Tree}
    (below : ∀ less, room = less + 1 → Bounded w less) (chain : level.isChain = true)
    (enough : cap w level.next room ≤ bound) (he : e.depth w ≤ bound)
    (node_depth : ∀ right, (node right).depth w = max (e.depth w + w) (right.depth w + 1)) (less : Nat)
    (eq : room = less + 1) :
    Gives (do
      let right ← readAt level.next (.ofRoom less)
      moreAt level (.ofRoom less) (node right)) (Within w (bound + room * w)) := by
  subst eq
  have lower := below less rfl
  have fits : cap w level.next less + 1 ≤ bound := Nat.le_trans (cap_lt w _ less) enough
  refine .bind (lower.read level.next) fun right hright => ?_
  have deeper : (node right).depth w ≤ bound + w := by
    rw [node_depth]
    exact Nat.max_le.2 ⟨Nat.add_le_add_right he w, by have : right.depth w ≤ _ := hright; omega⟩
  refine (lower.more level chain (bound + w) (node right) (by omega) deeper).mono fun e' he' => ?_
  have : e'.depth w ≤ bound + w + less * w := he'
  show e'.depth w ≤ bound + (less + 1) * w
  rw [Nat.succ_mul]
  omega

/-- What follows an access in a chain. -/
theorem gives_accessed {bound less : Nat} {e target : Tree}
    (below : ∀ less, room = less + 1 → Bounded w less) (enough : ground w room ≤ bound)
    (eq : room = less + 1) (he : e.depth w ≤ bound)
    (htarget : target.depth w ≤ max (e.depth w + w) (ground w less)) :
    Gives (moreAccess (.ofRoom less) target) (Within w (bound + room * w)) := by
  subst eq
  have fits := ground_lt w less
  have deeper : target.depth w ≤ bound + w := by omega
  have enough' : cap w Level.access.next less ≤ bound + w := by
    rw [show cap w Level.access.next less = ground w less by
      simp [cap, Level.next, Level.chains, Level.singles]]
    omega
  refine ((below less rfl).more .access rfl (bound + w) target enough' deeper).mono fun e' he' => ?_
  have : e'.depth w ≤ bound + w + less * w := he'
  show e'.depth w ≤ bound + (less + 1) * w
  rw [Nat.succ_mul]
  omega

theorem gives_subscript {target : Tree}
    (inside : Gives (expression (.ofRoom room)) fun e => e.depth w + 1 ≤ ground w room) :
    Gives (subscript (readersAbove (.ofRoom room)) target)
      fun e => e.depth w ≤ max (target.depth w + w) (ground w room) := by
  refine .bind (gives_slicePart inside _) fun start hstart => .step fun closed => ?_
  cases closed with
  | true =>
    cases start with
    | none => exact gives_throw _
    | some index =>
      have : index.depth w + 1 ≤ ground w room := hstart index rfl
      refine gives_pure ?_
      rw [Tree.depth]
      omega
  | false =>
    refine .step fun _ => .bind (gives_slicePart inside _) fun stop hstop => .step fun colon => ?_
    have parts (step : Option Tree) (hstep : ∀ e ∈ step, e.depth w + 1 ≤ ground w room) :
        (Tree.slice target start stop step).depth w ≤ max (target.depth w + w) (ground w room) := by
      have := partDepth_le hstart
      have := partDepth_le hstop
      have := partDepth_le hstep
      rw [Tree.depth]
      omega
    cases colon with
    | true =>
      exact .bind (gives_slicePart inside _) fun step hstep => .step fun _ =>
        gives_pure (parts step hstep)
    | false =>
      exact .bind (gives_pure (P := (· = none)) rfl) fun step none => .step fun _ =>
        gives_pure (parts step fun _ mem => by rw [none] at mem; cases mem)

/-- The chains of each level. -/
theorem more_bounded (below : ∀ less, room = less + 1 → Bounded w less) {level : Level}
    (chain : level.isChain = true) {bound : Nat} {e : Tree} (enough : cap w level.next room ≤ bound)
    (he : e.depth w ≤ bound) :
    Gives (moreAt level (.ofRoom room) e) (Within w (bound + room * w)) := by
  have done : Within w (bound + room * w) e := Nat.le_trans he (Nat.le_add_right _ _)
  cases level with
  | disjunction =>
    refine .step fun found => ?_
    cases found with
    | false => exact gives_pure done
    | true => exact gives_nest (gives_joined (.or e) below rfl enough he fun _ => rfl)
  | conjunction =>
    refine .step fun found => ?_
    cases found with
    | false => exact gives_pure done
    | true => exact gives_nest (gives_joined (.and e) below rfl enough he fun _ => rfl)
  | sum =>
    refine .step fun found => ?_
    cases found with
    | none => exact gives_pure done
    | some op => exact gives_nest (gives_joined (.arithmetic op e) below rfl enough he fun _ => rfl)
  | product =>
    refine .step fun found => ?_
    cases found with
    | none => exact gives_pure done
    | some op => exact gives_nest (gives_joined (.arithmetic op e) below rfl enough he fun _ => rfl)
  | access =>
    have enough : ground w room ≤ bound := Nat.le_trans (ground_le_cap .atom) enough
    refine .step fun found => ?_
    split
    · refine gives_nest fun less eq => .step fun _ => .step fun name => ?_
      refine gives_accessed below enough eq he ?_
      rw [Tree.depth]
      omega
    · refine gives_nest fun less eq => .step fun _ => ?_
      refine .bind (gives_items (below less eq).inside _) fun args hargs => ?_
      refine gives_accessed below enough eq he ?_
      have := itemsDepth_le hargs
      rw [Tree.depth]
      omega
    · refine gives_nest fun less eq => .step fun _ => ?_
      exact .bind (gives_subscript (below less eq).inside) fun target htarget =>
        gives_accessed below enough eq he htarget
    · exact gives_pure done
  | _ => cases chain

/-! ### Levels -/

theorem gives_parentheses
    (inside : Gives (expression (.ofRoom room)) fun e => e.depth w + 1 ≤ ground w room) :
    Gives (parentheses (.ofRoom room)) (Within w (ground w room)) := by
  have least := le_ground w room
  refine .step fun closed => ?_
  cases closed with
  | true => exact gives_pure (Nat.max_le.2 ⟨least, Nat.zero_le _⟩)
  | false =>
    refine .bind inside fun first hfirst => .step fun closed => ?_
    cases closed with
    | true => exact gives_pure (Nat.le_of_succ_le hfirst)
    | false =>
      refine .step fun _ => .bind (gives_items inside _) fun rest hrest => gives_pure ?_
      exact Nat.max_le.2 ⟨least, itemsDepth_le (List.forall_mem_cons.2 ⟨hfirst, hrest⟩)⟩

theorem gives_braces
    (inside : Gives (expression (.ofRoom room)) fun e => e.depth w + 1 ≤ ground w room) :
    Gives (braces (.ofRoom room)) (Within w (ground w room)) := by
  have least := le_ground w room
  refine .step fun closed => ?_
  cases closed with
  | true => exact gives_pure (Nat.max_le.2 ⟨least, Nat.zero_le _⟩)
  | false =>
    refine .bind inside fun first hfirst => .step fun colon => ?_
    cases colon with
    | true =>
      refine .bind inside fun value hvalue => .step fun ts => ?_
      refine .bind (gives_readEntries inside _) fun rest hrest => .step fun _ => gives_pure ?_
      refine Nat.max_le.2 ⟨least, entriesDepth_le (List.forall_mem_cons.2 ⟨⟨hfirst, hvalue⟩, hrest⟩)⟩
    | false =>
      refine .step fun comma => ?_
      cases comma with
      | true =>
        refine .bind (gives_items inside _) fun rest hrest => gives_pure ?_
        exact Nat.max_le.2 ⟨least, itemsDepth_le (List.forall_mem_cons.2 ⟨hfirst, hrest⟩)⟩
      | false =>
        refine .step fun _ => gives_pure ?_
        exact Nat.max_le.2 ⟨least, itemsDepth_le (List.forall_mem_singleton.2 hfirst)⟩

theorem gives_atom
    (inside : Gives (expression (.ofRoom room)) fun e => e.depth w + 1 ≤ ground w room) :
    Gives (atom (.ofRoom room)) (Within w (ground w room)) := by
  have leaf {e : Tree} (h : e.depth w = 0) : Within w (ground w room) e := by
    rw [Within, h]
    exact Nat.zero_le _
  refine .step fun found => ?_
  split
  · exact gives_throw _
  · exact .step fun _ => gives_pure (leaf rfl)
  · exact .step fun _ => gives_pure (leaf rfl)
  · exact .step fun ts => .step fun _ => gives_pure (leaf rfl)
  · next name =>
    dsimp only
    cases isReserved name with
    | true => exact .bind (gives_failExpected _ (P := fun _ => False)) fun _ h => h.elim
    | false =>
      refine .step fun _ => ?_
      cases wordLiteral? name with
      | some value => exact gives_pure (leaf rfl)
      | none => exact gives_pure (leaf rfl)
  · exact .step fun _ => gives_parentheses inside
  · refine .step fun _ => .bind (gives_items inside _) fun items hitems => gives_pure ?_
    exact Nat.max_le.2 ⟨le_ground w room, itemsDepth_le hitems⟩
  · exact .step fun _ => gives_braces inside
  · exact gives_throw _

/-- A chain of a level, if its first operand is bounded. -/
theorem gives_chain (below : ∀ less, room = less + 1 → Bounded w less) (level : Level)
    (chain : level.isChain = true)
    (first : Gives (readAt level.next (.ofRoom room)) (Within w (cap w level.next room))) :
    Gives (readAt level (.ofRoom room)) (Within w (cap w level room)) := by
  rw [readAt_chain chain, cap_chain chain]
  exact .bind first fun e he => more_bounded below chain (Nat.le_refl _) he

/-- An operator in front of an operand of its own level. -/
theorem gives_prefixed (below : ∀ less, room = less + 1 → Bounded w less) {read : Readers → Reader Tree}
    (op : UnaryOp) (same : ∀ less, read (readersAbove (.ofRoom less)) = readAt op.level (.ofRoom less)) :
    Gives (do return .unary op (← (Deeper.ofRoom room).nest read)) (Within w (cap w op.level room)) := by
  refine .bind (P := fun e => e.depth w + 1 ≤ cap w op.level room) ?_ fun e he => gives_pure he
  refine gives_nest fun less eq => ?_
  subst eq
  rw [same]
  refine ((below less rfl).read op.level).mono fun e he => ?_
  exact Nat.le_trans (Nat.succ_le_succ he) (cap_lt w op.level less)

theorem gives_power (below : ∀ less, room = less + 1 → Bounded w less)
    (first : Gives (readAt .access (.ofRoom room)) (Within w (cap w .access room))) :
    Gives (readAt .power (.ofRoom room)) (Within w (cap w .power room)) := by
  refine .bind first fun base hbase => .step fun found => ?_
  rw [cap_single .power .access rfl rfl]
  cases found with
  | false => exact gives_pure (Nat.le_trans hbase (Nat.le_add_right _ _))
  | true =>
    refine .bind (P := fun e => e.depth w + 1 ≤ cap w .sign room) ?_ fun exponent hexponent => ?_
    · refine gives_nest fun less eq => ?_
      subst eq
      refine ((below less rfl).read .sign).mono fun e he => ?_
      exact Nat.le_trans (Nat.succ_le_succ he) (cap_lt w .sign less)
    · have same : cap w .sign room = cap w .access room + w :=
        cap_single .sign .access rfl rfl
      refine gives_pure (Nat.max_le.2 ⟨Nat.add_le_add_right hbase w, ?_⟩)
      rwa [same] at hexponent

theorem gives_signed (below : ∀ less, room = less + 1 → Bounded w less)
    (first : Gives (readAt .power (.ofRoom room)) (Within w (cap w .power room))) :
    Gives (readAt .sign (.ofRoom room)) (Within w (cap w .sign room)) := by
  refine .step fun minus => ?_
  cases minus with
  | true => exact gives_prefixed below .neg fun _ => rfl
  | false =>
    refine .step fun plus => ?_
    cases plus with
    | true => exact gives_prefixed below .pos fun _ => rfl
    | false => exact first

theorem gives_comparison
    (first : Gives (readAt .sum (.ofRoom room)) (Within w (cap w .sum room))) :
    Gives (readAt .comparison (.ofRoom room)) (Within w (cap w .comparison room)) := by
  rw [cap_single .comparison .sum rfl rfl]
  refine .bind first fun e he => .step fun ts => .bind (gives_readLinks first _) fun links hlinks => ?_
  split
  · exact gives_pure (Nat.le_trans he (Nat.le_add_right _ _))
  · next op right =>
    have hright : right.depth w ≤ cap w .sum room := hlinks _ (.head _)
    exact gives_pure (Nat.add_le_add_right (Nat.max_le.2 ⟨he, hright⟩) w)
  · exact gives_pure (Nat.add_le_add_right (Nat.max_le.2 ⟨he, linksDepth_le hlinks⟩) w)

theorem gives_negation (below : ∀ less, room = less + 1 → Bounded w less)
    (first : Gives (readAt .comparison (.ofRoom room)) (Within w (cap w .comparison room))) :
    Gives (readAt .negation (.ofRoom room)) (Within w (cap w .negation room)) := by
  refine .step fun found => ?_
  cases found with
  | true => exact gives_prefixed below .not fun _ => rfl
  | false => exact first

theorem gives_condition
    (inside : Gives (expression (.ofRoom room)) fun e => e.depth w + 1 ≤ ground w room)
    (first : Gives (readAt .disjunction (.ofRoom room)) (Within w (cap w .disjunction room))) :
    Gives (readAt .condition (.ofRoom room)) (Within w (cap w .condition room)) := by
  refine .bind first fun body hbody => .step fun found => ?_
  rw [cap_single .condition .disjunction rfl rfl]
  cases found with
  | false => exact gives_pure (Nat.le_trans hbody (Nat.le_add_right _ _))
  | true =>
    refine .bind first fun test htest => .step fun found => ?_
    cases found with
    | false => exact .bind (gives_failExpected _ (P := fun _ => False)) fun _ h => h.elim
    | true =>
      refine .bind inside fun orelse horelse => gives_pure ?_
      have above : ground w room ≤ cap w .disjunction room + w :=
        Nat.le_trans (ground_le_cap .disjunction) (Nat.le_add_right _ _)
      refine Nat.max_le.2 ⟨Nat.add_le_add_right (Nat.max_le.2 ⟨htest, hbody⟩) w, ?_⟩
      exact Nat.le_trans horelse above

/-- **All readers are bounded**, by induction on the room: what is read one level deeper has been shown
to be bounded, and the levels follow one from the next tighter one. -/
theorem bounded (w room : Nat) : Bounded w room := by
  have step (room : Nat) (below : ∀ less, room = less + 1 → Bounded w less) : Bounded w room := by
    have inside := inside_bounded below
    have atom : Gives (readAt .atom (.ofRoom room)) (Within w (cap w .atom room)) :=
      (gives_atom inside).mono fun e he => Nat.le_trans he (ground_le_cap .atom)
    have access := gives_chain below .access rfl atom
    have power := gives_power below access
    have sign := gives_signed below power
    have product := gives_chain below .product rfl sign
    have sum := gives_chain below .sum rfl product
    have comparison := gives_comparison sum
    have negation := gives_negation below comparison
    have conjunction := gives_chain below .conjunction rfl negation
    have disjunction := gives_chain below .disjunction rfl conjunction
    have condition := gives_condition inside disjunction
    refine ⟨inside, fun level => ?_, fun level chain bound e => more_bounded below chain⟩
    cases level <;> assumption
  induction room with
  | zero => exact step 0 fun _ eq => nomatch eq
  | succ room ih => exact step (room + 1) fun less eq => by cases eq; exact ih

end Bounded

/-- A whole expression that is read with some room is as deep as an atom there at most. -/
theorem gives_whole (w room : Nat) :
    Gives (whole (readers room).expression) (Within w (ground w room)) := by
  have inside : Gives (readers room).expression fun e => e.depth w + 1 ≤ ground w room := by
    rw [readers_eq]
    exact (bounded w room).inside
  refine .bind inside fun first hfirst => .step fun comma => ?_
  have tree (e : Tree) (he : Within w (ground w room) e) :
      Gives (do
        unless (← get).isEmpty do failExpected "end of expression"
        return e) (Within w (ground w room)) := by
    refine .step fun ts => ?_
    cases ts.isEmpty with
    | true => exact gives_pure he
    | false => exact .bind (gives_failExpected _ (P := fun _ => False)) fun _ h => h.elim
  cases comma with
  | true =>
    refine .step fun ts => .bind (gives_readTuple inside _) fun rest hrest => tree _ ?_
    exact Nat.max_le.2 ⟨le_ground w room, itemsDepth_le (List.forall_mem_cons.2 ⟨hfirst, hrest⟩)⟩
  | false => exact tree _ (Nat.le_of_succ_le hfirst)

theorem depth_le_of_parse {w room : Nat} {source : String} {e : Tree}
    (h : parseWithin room source = .ok e) : e.depth w ≤ ground w room := by
  unfold parseWithin at h
  cases scanned : scan source.toList with
  | error cause =>
    rw [scanned] at h
    cases h
  | ok lexemes =>
    rw [scanned] at h
    replace h : parseLexemes room lexemes = .ok e := h
    unfold parseLexemes at h
    split at h
    · cases h
    · cases run : (whole (readers room).expression).run lexemes with
      | error cause =>
        rw [run] at h
        cases h
      | ok found =>
        rw [run] at h
        cases h
        exact gives_whole w room lexemes found.1 found.2 run

/-! ## Trees that are accepted -/

/-- Trees that are accepted with the limit on nesting. -/
theorem height_le_of_compile {source : String} {e : Expression}
    (compiled : Expression.compile source = .ok e) :
    e.tree.depth 0 ≤ maxNesting ∧ e.tree.height ≤ 25151 := by
  unfold Expression.compile at compiled
  cases parsed : parse source with
  | error cause =>
    rw [parsed] at compiled
    cases compiled
  | ok tree =>
    rw [parsed] at compiled
    cases compiled
    have counted := depth_le_of_parse (w := 0) parsed
    have high := depth_le_of_parse (w := 1) parsed
    rw [ground_zero] at counted
    have most : 2 * ground 1 maxNesting = 50302 := ground_one maxNesting
    rw [tree.depth_one] at high
    have bounded : tree.height ≤ 25151 := by omega
    exact ⟨counted, bounded⟩

/-- A tree that is written is accepted if it takes less room than the limit gives. -/
theorem compile_print_of_lt {e : Tree} (printable : e.Printable) (enough : e.takes < maxNesting) :
    Expression.compile e.print = .ok ⟨e.print, e⟩ := by
  rw [Expression.compile, parse, parseWithin_print_eq_ite printable, if_pos enough]
  rfl

theorem compile_print_of_le {e : Tree} (printable : e.Printable) (less : maxNesting ≤ e.takes) :
    Expression.compile e.print = .error .tooDeep := by
  rw [Expression.compile, parse, parseWithin_print_eq_ite printable, if_neg (Nat.not_lt.2 less)]
  rfl

/-- **What the limit on nesting bounds.**  In the tree of a text that is accepted no path has more than
100 steps to parts that are read with less room, and the height of the tree is bounded.  A tree that is
written is accepted exactly if it takes less than 100 levels of room, and refused else.  So the limit
bounds the height where no tree is higher that takes less room. -/
theorem compile_nesting (source : String) :
    (∀ e, Expression.compile source = .ok e →
      e.tree.depth 0 ≤ maxNesting ∧ e.tree.height ≤ 25151) ∧
    ∀ e : Tree, e.Printable → source = e.print →
      (e.takes < maxNesting → Expression.compile source = .ok ⟨source, e⟩) ∧
      (maxNesting ≤ e.takes → (Expression.compile source).mapError SyntaxFault.message =
        .error "expression is too deeply nested") ∧
      ((∀ e', Expression.compile source = .ok e' → e'.tree.height ≤ maxNesting) ↔
        e.height ≤ maxNesting ∨ maxNesting ≤ e.takes) := by
  refine ⟨fun _ => height_le_of_compile, ?_⟩
  rintro e printable rfl
  rcases Nat.lt_or_ge e.takes maxNesting with enough | less
  · have accepted := compile_print_of_lt printable enough
    refine ⟨fun _ => accepted, fun less => absurd enough (Nat.not_lt.2 less), fun limit => ?_, ?_⟩
    · exact .inl (limit _ accepted)
    · intro low e' accepted'
      cases accepted.symm.trans accepted'
      exact low.resolve_right (Nat.not_le.2 enough)
  · have refused := compile_print_of_le printable less
    refine ⟨fun enough => absurd enough (Nat.not_lt.2 less), fun _ => ?_, fun _ => .inr less, ?_⟩
    · rw [refused]
      rfl
    · intro _ e' accepted
      cases refused.symm.trans accepted

/-! ### Sums of attributes -/

namespace Tall

/-- An attribute of an attribute, and so on, of a name. -/
def members : Nat → Tree
  | 0 => .name "x"
  | n + 1 => .member (members n) "a"

/-- Ones that are added to an attribute. -/
def sums (n : Nat) : Nat → Tree
  | 0 => members n
  | m + 1 => .arithmetic .add (sums n m) (.literal (.int 1))

theorem printable_sums (n m : Nat) : (sums n m).Printable := by
  have members : (members n).Printable := by
    induction n with
    | zero => exact .name (by decide) (by decide) (by decide)
    | succ n ih => exact .member ih (by decide)
  induction m with
  | zero => exact members
  | succ m ih => exact .arithmetic ih (.literal (by decide : (0 : Int) ≤ 1))

theorem height_sums (n m : Nat) : (sums n m).height = n + m := by
  have members_height : (members n).height = n := by
    induction n with
    | zero => rfl
    | succ n ih => rw [members, Tree.height, ih]
  induction m with
  | zero => exact members_height
  | succ m ih =>
    rw [sums, Tree.height, ih, Tree.height]
    omega

theorem takes_members (n : Nat) : (members n).takes = n ∧ (members n).links .access = n := by
  induction n with
  | zero => exact ⟨rfl, rfl⟩
  | succ n ih =>
    have own : roomAt .access (members n).level (members n).takes = (members n).takes := by
      cases n <;> rfl
    constructor
    · rw [members, Tree.takes, own, ← Tree.links, ih.1, ih.2]
      omega
    · show (members n).links .access + 1 = _
      rw [ih.2]

/-- Attributes and ones take room of their own. -/
theorem takes_sums (n m : Nat) : (sums n m).takes = max n m ∧ (sums n m).links .sum = m := by
  induction m with
  | zero =>
    refine ⟨(takes_members n).1.trans (Nat.max_zero n).symm, ?_⟩
    cases n <;> rfl
  | succ m ih =>
    have own : roomAt .sum (sums n m).level (sums n m).takes = (sums n m).takes := by
      cases m with
      | zero => cases n <;> rfl
      | succ m => rfl
    constructor
    · rw [sums, Tree.takes]
      show max (roomAt .sum _ _) ((sums n m).links .sum + 1 + 0) = _
      rw [own, ih.1, ih.2]
      omega
    · show (sums n m).links .sum + 1 = _
      rw [ih.2]

/-- Sixty attributes below sixty sums. -/
def source : String :=
  String.ofList ('x' :: (List.replicate 60 " . a".toList).flatten ++
    (List.replicate 60 " + 1".toList).flatten)

set_option maxRecDepth 100000 in
theorem print_sums : (sums 60 60).print = source :=
  congrArg String.ofList (by decide +kernel)

theorem compile_source : Expression.compile source = .ok ⟨source, sums 60 60⟩ := by
  have enough : (sums 60 60).takes < maxNesting := by
    rw [(takes_sums 60 60).1]
    decide
  rw [← print_sums]
  exact compile_print_of_lt (printable_sums 60 60) enough

/-- The bounds hold of a tree that is higher than the limit, and a hundred ones are too many. -/
theorem nesting_source :
    (∃ e, Expression.compile source = .ok e ∧ e.tree.depth 0 ≤ maxNesting ∧ e.tree.height ≤ 25151) ∧
      (Expression.compile (sums 60 100).print).mapError SyntaxFault.message =
        .error "expression is too deeply nested" := by
  refine ⟨⟨_, compile_source, (compile_nesting _).1 _ compile_source⟩, ?_⟩
  refine ((compile_nesting _).2 _ (printable_sums 60 100) rfl).2.1 ?_
  rw [(takes_sums 60 100).1]
  decide

/-- A tree that is higher than the limit is accepted. -/
theorem compile_tall : ∃ e, Expression.compile source = .ok e ∧ maxNesting < e.tree.height := by
  refine ⟨_, compile_source, ?_⟩
  show maxNesting < (sums 60 60).height
  rw [height_sums]
  decide

end Tall

end TextTemplate.Expr
