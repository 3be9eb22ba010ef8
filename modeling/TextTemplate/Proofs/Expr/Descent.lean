import TextTemplate.Proofs.Expr.Delimiter
import TextTemplate.Proofs.Expr.Nesting

/-!
# Reading at the level of a tree

The tree tells at which level it was read.  An operator makes a tree of its own level, so a reader that
gives a tree of a tighter level met no operator of its own: the reader of the next tighter level gives
the same (`run_next`), and so does the reader of the level of the tree (`run_level`).

A chain that goes on behind a tree has more operators than that tree (`Continues`), so a chain with one
operator ends there.
-/

namespace TextTemplate.Expr

/-! ## Nothing was there -/

/-- A reader that gives `a` leaves all as it is. -/
def Leaves {α : Type} (read : Reader α) (a : α) : Prop :=
  ∀ ts rest, read.run ts = .ok (a, rest) → rest = ts

section Leaves

variable {α β : Type}

theorem leaves_pure (a : α) : Leaves (pure a : Reader α) a := by
  rintro ts rest ⟨⟩
  rfl

theorem leaves_of_take {f : Option Lexeme → Bool} {read : Reader Bool}
    (h : ∀ ts, read.run ts = .ok (f ts.head?, if f ts.head? then ts.tail else ts)) :
    Leaves read false := by
  intro ts rest run
  obtain ⟨none, same⟩ := Prod.mk.inj (Except.ok.inj ((h ts).symm.trans run))
  rw [none] at same
  exact same.symm

theorem leaves_eatPunct (p : Punct) : Leaves (eatPunct p) false := leaves_of_take (run_eatPunct p)

theorem leaves_eatWord (word : String) : Leaves (eatWord word) false := leaves_of_take (run_eatWord word)

/-- Something is looked for first, and something else if it is not there. -/
theorem Leaves.orElse {look : Reader Bool} {found : Reader α} {other : Reader α} {a : α}
    (h : Leaves look false) (h' : ∀ ts rest, found.run ts ≠ .ok (a, rest)) (h'' : Leaves other a) :
    Leaves (look >>= fun b => if b then found else other) a := by
  intro ts rest run
  obtain ⟨b, mid, first, second⟩ := run_bind_ok run
  cases b with
  | true => exact absurd second (h' mid rest)
  | false => rw [h'' mid rest second, h ts mid first]

theorem leaves_sumOp : Leaves sumOp none :=
  .orElse (leaves_eatPunct .plus) (fun _ _ run => nomatch run) <|
  .orElse (leaves_eatPunct .minus) (fun _ _ run => nomatch run) <| leaves_pure none

theorem leaves_productOp : Leaves productOp none :=
  .orElse (leaves_eatPunct .times) (fun _ _ run => nomatch run) <|
  .orElse (leaves_eatPunct .floorDivide) (fun _ _ run => nomatch run) <|
  .orElse (leaves_eatPunct .divide) (fun _ _ run => nomatch run) <|
  .orElse (leaves_eatPunct .remainder) (fun _ _ run => nomatch run) <| leaves_pure none

theorem leaves_comparisonOp : Leaves comparisonOp none := by
  intro ts rest run
  have same := Except.ok.inj ((run_comparisonOp ts).symm.trans run)
  cases ahead : comparisonAhead? ts with
  | none =>
    rw [ahead] at same
    exact (Prod.mk.inj same).2.symm
  | some found =>
    rw [ahead] at same
    cases same

theorem leaves_readLinks (operand : Reader Tree) (steps : Nat) : Leaves (readLinks operand steps) [] := by
  cases steps with
  | zero => exact leaves_pure []
  | succ steps =>
    intro ts rest run
    obtain ⟨op, mid, first, second⟩ := run_bind_ok run
    cases op with
    | none =>
      cases second
      exact leaves_comparisonOp ts _ first
    | some op =>
      obtain ⟨right, mid', -, second⟩ := run_bind_ok second
      obtain ⟨links, mid'', -, second⟩ := run_bind_ok second
      cases second

end Leaves

/-! ## Chains -/

/-- A reader gives a tree as it is, or a chain of a level that goes on behind the tree. -/
def Continues (level : Level) (e : Tree) (read : Reader Tree) : Prop :=
  ∀ ts e' rest, read.run ts = .ok (e', rest) →
    e' = e ∧ rest = ts ∨ e'.level = level ∧ e.links level < e'.spine

/-- A chain of a level with one operator more than a tree. -/
def Extends (level : Level) (e e' : Tree) : Prop := e'.level = level ∧ e'.spine = e.links level + 1

section Chains

variable {α : Type} {room : Nat} {level : Level} {e : Tree}

theorem run_nest_succ (room : Nat) (read : Readers → Reader α) (ts : List Lexeme) :
    ((Deeper.ofRoom (room + 1)).nest read).run ts = (read (readersAbove (.ofRoom room))).run ts := by
  rw [← readers_eq]
  rfl

theorem run_nest_ok {read : Readers → Reader α} {ts rest : List Lexeme} {a : α}
    (run : ((Deeper.ofRoom room).nest read).run ts = .ok (a, rest)) :
    ∃ less, room = less + 1 ∧ (read (readersAbove (.ofRoom less))).run ts = .ok (a, rest) := by
  cases room with
  | zero => cases run
  | succ less => exact ⟨less, rfl, (run_nest_succ less read ts).symm.trans run⟩

theorem Extends.links {e' : Tree} (h : Extends level e e') (chain : level.isChain = true) :
    e'.links level = e.links level + 1 := by
  rw [Tree.links, linksAt, if_pos ⟨chain, h.1⟩, h.2]

theorem gives_sumOp : Gives sumOp fun found => ∀ op ∈ found, op.level = .sum := by
  refine .step fun plus => ?_
  cases plus with
  | true => exact gives_pure (by rintro op ⟨⟩; rfl)
  | false =>
    refine .step fun minus => ?_
    cases minus with
    | true => exact gives_pure (by rintro op ⟨⟩; rfl)
    | false => exact gives_pure (by rintro op ⟨⟩)

theorem gives_productOp : Gives productOp fun found => ∀ op ∈ found, op.level = .product := by
  refine .step fun found => ?_
  cases found with
  | true => exact gives_pure (by rintro op ⟨⟩; rfl)
  | false =>
    refine .step fun found => ?_
    cases found with
    | true => exact gives_pure (by rintro op ⟨⟩; rfl)
    | false =>
      refine .step fun found => ?_
      cases found with
      | true => exact gives_pure (by rintro op ⟨⟩; rfl)
      | false =>
        refine .step fun found => ?_
        cases found with
        | true => exact gives_pure (by rintro op ⟨⟩; rfl)
        | false => exact gives_pure (by rintro op ⟨⟩)

theorem gives_subscript_extends (readers : Readers) (target : Tree) :
    Gives (subscript readers target) (Extends .access target) := by
  refine .step fun start => .step fun closed => ?_
  cases closed with
  | true =>
    cases start with
    | none => exact gives_throw _
    | some index => exact gives_pure ⟨rfl, rfl⟩
  | false =>
    refine .step fun _ => .step fun stop => .step fun colon => ?_
    cases colon with
    | true => exact .step fun step => .step fun _ => gives_pure ⟨rfl, rfl⟩
    | false => exact .step fun step => .step fun _ => gives_pure ⟨rfl, rfl⟩

/-- What goes on behind a chain goes on behind the tree that the chain goes on behind. -/
theorem run_extended (level : Level) {e' found : Tree} {ts rest : List Lexeme} (chain : level.isChain = true)
    (h : Extends level e e') (goes : Continues level e' (moreAt level (.ofRoom room) e'))
    (run : (moreAt level (.ofRoom room) e').run ts = .ok (found, rest)) :
    found.level = level ∧ e.links level < found.spine := by
  obtain ⟨rfl, -⟩ | ⟨own, more⟩ := goes ts found rest run
  · exact ⟨h.1, by rw [h.2]; exact Nat.lt_succ_self _⟩
  · rw [h.links chain] at more
    exact ⟨own, by omega⟩

/-- The next operand of a chain, and what follows it. -/
theorem run_joined {node : Tree → Tree} {less : Nat} {found : Tree} {ts rest : List Lexeme}
    (below : ∀ e, Continues level e (moreAt level (.ofRoom less) e)) (chain : level.isChain = true)
    (longer : ∀ right, Extends level e (node right))
    (run : (do
      let right ← readAt level.next (.ofRoom less)
      moreAt level (.ofRoom less) (node right)).run ts = .ok (found, rest)) :
    found.level = level ∧ e.links level < found.spine := by
  obtain ⟨right, mid, -, run⟩ := run_bind_ok run
  exact run_extended level chain (longer right) (below _) run

theorem moreAccess_continues
    (below : ∀ less, room = less + 1 → ∀ e, Continues .access e (moreAt .access (.ofRoom less) e))
    (e : Tree) :
    Continues .access e (moreAccess (.ofRoom room) e) := by
  intro ts e' rest run
  cases ts with
  | nil =>
    cases run
    exact .inl ⟨rfl, rfl⟩
  | cons l ts =>
    obtain stays | rfl | rfl | rfl := run_moreAccess_cons (.ofRoom room) e l
    · obtain ⟨rfl, rfl⟩ := Prod.mk.inj (Except.ok.inj ((stays ts).symm.trans run))
      exact .inl ⟨rfl, rfl⟩
    · rw [run_moreAccess_dot] at run
      obtain ⟨less, eq, run⟩ := run_nest_ok run
      obtain ⟨name, mid, -, run⟩ := run_bind_ok run
      exact .inr (run_extended .access rfl ⟨rfl, rfl⟩ (below less eq _) run)
    · rw [run_moreAccess_openParen] at run
      obtain ⟨less, eq, run⟩ := run_nest_ok run
      obtain ⟨args, mid, -, run⟩ := run_bind_ok run
      exact .inr (run_extended .access rfl ⟨rfl, rfl⟩ (below less eq _) run)
    · rw [run_moreAccess_openBracket] at run
      obtain ⟨less, eq, run⟩ := run_nest_ok run
      obtain ⟨result, mid, first, run⟩ := run_bind_ok run
      have longer := gives_subscript_extends _ _ _ _ _ first
      exact .inr (run_extended .access rfl longer (below less eq _) run)

/-- The chains of each level go on behind a tree, or leave it as it is. -/
theorem moreAt_continues (room : Nat) (level : Level) (e : Tree) :
    Continues level e (moreAt level (.ofRoom room) e) := by
  have step (room : Nat)
      (below : ∀ less, room = less + 1 → ∀ level e, Continues level e (moreAt level (.ofRoom less) e))
      (level : Level) (e : Tree) : Continues level e (moreAt level (.ofRoom room) e) := by
    have stays : Continues level e (pure e) := by
      rintro ts e' rest ⟨⟩
      exact .inl ⟨rfl, rfl⟩
    cases level with
    | access => exact moreAccess_continues (fun less eq => below less eq .access) e
    | disjunction =>
      intro ts e' rest run
      obtain ⟨found, mid, first, run⟩ := run_bind_ok run
      cases found with
      | false =>
        rw [← leaves_eatWord "or" ts mid first]
        exact stays mid e' rest run
      | true =>
        obtain ⟨less, eq, run⟩ := run_nest_ok run
        exact .inr (run_joined (below less eq .disjunction) rfl (fun _ => ⟨rfl, rfl⟩) run)
    | conjunction =>
      intro ts e' rest run
      obtain ⟨found, mid, first, run⟩ := run_bind_ok run
      cases found with
      | false =>
        rw [← leaves_eatWord "and" ts mid first]
        exact stays mid e' rest run
      | true =>
        obtain ⟨less, eq, run⟩ := run_nest_ok run
        exact .inr (run_joined (below less eq .conjunction) rfl (fun _ => ⟨rfl, rfl⟩) run)
    | sum =>
      intro ts e' rest run
      obtain ⟨found, mid, first, run⟩ := run_bind_ok run
      cases found with
      | none =>
        rw [← leaves_sumOp ts mid first]
        exact stays mid e' rest run
      | some op =>
        obtain ⟨less, eq, run⟩ := run_nest_ok run
        have own : op.level = .sum := gives_sumOp _ _ _ first op rfl
        have longer (right : Tree) : Extends .sum e (.arithmetic op e right) :=
          ⟨own, by rw [Tree.spine, own]; rfl⟩
        exact .inr (run_joined (below less eq .sum) rfl longer run)
    | product =>
      intro ts e' rest run
      obtain ⟨found, mid, first, run⟩ := run_bind_ok run
      cases found with
      | none =>
        rw [← leaves_productOp ts mid first]
        exact stays mid e' rest run
      | some op =>
        obtain ⟨less, eq, run⟩ := run_nest_ok run
        have own : op.level = .product := gives_productOp _ _ _ first op rfl
        have longer (right : Tree) : Extends .product e (.arithmetic op e right) :=
          ⟨own, by rw [Tree.spine, own]; rfl⟩
        exact .inr (run_joined (below less eq .product) rfl longer run)
    | _ => exact stays
  induction room generalizing level e with
  | zero => exact step 0 (fun less eq => absurd eq (Nat.succ_ne_zero less).symm) level e
  | succ room ih => exact step (room + 1) (fun less eq => by cases eq; exact ih) level e

end Chains

/-! ## Levels -/

section Levels

variable {room : Nat} {level own : Level} {ts rest : List Lexeme} {e : Tree}

/-- A tree of a tighter level is read by the reader of the next level. -/
theorem run_next (run : (readAt level (.ofRoom room)).run ts = .ok (e, rest))
    (tighter : level.rank < e.level.rank) :
    (readAt level.next (.ofRoom room)).run ts = .ok (e, rest) := by
  have loose {l : Level} (own : e.level = l) (le : l.rank ≤ level.rank) : False := by
    rw [own] at tighter
    omega
  by_cases chain : level.isChain = true
  · rw [readAt_chain chain] at run
    obtain ⟨first, mid, read, more⟩ := run_bind_ok run
    obtain ⟨rfl, rfl⟩ | ⟨own, -⟩ := moreAt_continues room level first mid e rest more
    · exact read
    · exact (loose own (Nat.le_refl _)).elim
  · cases level with
    | condition =>
      obtain ⟨body, mid, first, run⟩ := run_bind_ok run
      obtain ⟨found, mid', look, run⟩ := run_bind_ok run
      cases found with
      | false =>
        cases run
        rwa [leaves_eatWord "if" mid _ look]
      | true =>
        obtain ⟨test, mid', -, run⟩ := run_bind_ok run
        obtain ⟨found, mid', -, run⟩ := run_bind_ok run
        cases found with
        | false => cases run
        | true =>
          obtain ⟨orelse, mid', -, run⟩ := run_bind_ok run
          cases run
          exact (loose rfl (Nat.le_refl _)).elim
    | negation =>
      obtain ⟨found, mid, look, run⟩ := run_bind_ok run
      cases found with
      | false => rwa [← leaves_eatWord "not" ts _ look]
      | true =>
        obtain ⟨operand, mid', -, run⟩ := run_bind_ok run
        cases run
        exact (loose rfl (Nat.le_refl _)).elim
    | comparison =>
      obtain ⟨first, mid, read, run⟩ := run_bind_ok run
      obtain ⟨_, _, ⟨⟩, run⟩ := run_bind_ok run
      obtain ⟨links, mid', more, run⟩ := run_bind_ok run
      rcases links with _ | ⟨link, _ | ⟨link', links⟩⟩
      · cases run
        rwa [leaves_readLinks _ _ mid _ more]
      · cases run
        exact (loose rfl (Nat.le_refl _)).elim
      · cases run
        exact (loose rfl (Nat.le_refl _)).elim
    | sign =>
      obtain ⟨minus, mid, look, run⟩ := run_bind_ok run
      cases minus with
      | true =>
        obtain ⟨operand, mid', -, run⟩ := run_bind_ok run
        cases run
        exact (loose rfl (Nat.le_refl _)).elim
      | false =>
        obtain ⟨plus, mid', look', run⟩ := run_bind_ok run
        cases plus with
        | true =>
          obtain ⟨operand, mid', -, run⟩ := run_bind_ok run
          cases run
          exact (loose rfl (Nat.le_refl _)).elim
        | false => rwa [← leaves_eatPunct .minus ts _ look, ← leaves_eatPunct .plus mid _ look']
    | power =>
      obtain ⟨base, mid, first, run⟩ := run_bind_ok run
      obtain ⟨found, mid', look, run⟩ := run_bind_ok run
      cases found with
      | false =>
        cases run
        rwa [leaves_eatPunct .power mid _ look]
      | true =>
        obtain ⟨exponent, mid', -, run⟩ := run_bind_ok run
        cases run
        exact (loose rfl (Nat.le_refl _)).elim
    | atom => exact run
    | _ => exact absurd rfl chain

/-- **A tree is read at its own level**, and at each one between. -/
theorem run_level (level own : Level) (run : (readAt level (.ofRoom room)).run ts = .ok (e, rest))
    (le : level.rank ≤ own.rank) (le' : own.rank ≤ e.level.rank) :
    (readAt own (.ofRoom room)).run ts = .ok (e, rest) := by
  obtain ⟨gap, distance⟩ := Nat.exists_eq_add_of_le le
  induction gap generalizing level with
  | zero =>
    obtain rfl : own = level := Level.ext_rank distance
    exact run
  | succ gap ih =>
    have inner : level ≠ .atom := by
      rintro rfl
      have : own.rank ≤ Level.atom.rank := by cases own <;> decide
      omega
    have next := Level.rank_next inner
    exact ih _ (run_next run (by omega)) (by omega) (by omega)

end Levels

end TextTemplate.Expr
