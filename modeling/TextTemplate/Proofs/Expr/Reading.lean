import TextTemplate.Proofs.Expr.Printer

/-!
# What readers take

`Reads enough read lexemes a rest` says what a reader does in front of lexemes: it takes some of them,
gives `a` and leaves `rest` if there is enough room, and else it says that there is not.  Such facts are
put together along the steps of a reader (`Reads.bind`, `Reads.nest`).

A reader of one level is the reader of the next tighter one, unless an operator of the level stands in
front or behind (`reads_next`).  So what is read at the level of a tree is read at every looser place
too (`reads_of_le`), if what stands behind it does not continue it (`Stops`).
-/

namespace TextTemplate.Expr

/-! ## Steps of readers -/

/-- A reader gives `a` and leaves `rest` if there is enough room, and only then. -/
structure Reads {α : Type} (enough : Prop) (read : Reader α) (lexemes : List Lexeme) (a : α)
    (rest : List Lexeme) : Prop where
  done : enough → read.run lexemes = .ok (a, rest)
  refused : ¬ enough → read.run lexemes = .error .tooDeep

section Steps

variable {α β : Type} {enough more : Prop} {ts t rest : List Lexeme} {a : α} {b : β}

theorem Reads.of_iff {read : Reader α} (h : Reads enough read ts a rest) (same : enough ↔ more) :
    Reads more read ts a rest := by
  rwa [← propext same]

theorem Reads.bind {read : Reader α} {next : α → Reader β} (h : Reads enough read ts a t)
    (h' : Reads more (next a) t b rest) : Reads (enough ∧ more) (read >>= next) ts b rest where
  done := by
    rintro ⟨first, second⟩
    rw [StateT.run_bind, h.done first]
    exact h'.done second
  refused := by
    intro less
    rw [StateT.run_bind]
    by_cases first : enough
    · rw [h.done first]
      exact h'.refused fun second => less ⟨first, second⟩
    · rw [h.refused first]
      rfl

/-- A step that always succeeds comes first. -/
theorem Reads.step {read : Reader α} {next : α → Reader β} (h : read.run ts = .ok (a, t))
    (h' : Reads enough (next a) t b rest) : Reads enough (read >>= next) ts b rest where
  done first := by
    rw [StateT.run_bind, h]
    exact h'.done first
  refused less := by
    rw [StateT.run_bind, h]
    exact h'.refused less

/-- What takes no room comes first. -/
theorem Reads.free {read : Reader α} {next : α → Reader β} (h : Reads True read ts a t)
    (h' : Reads enough (next a) t b rest) : Reads enough (read >>= next) ts b rest :=
  .step (h.done trivial) h'

/-- What takes no room comes last. -/
theorem Reads.last {read : Reader α} {next : α → Reader β} (h : Reads enough read ts a t)
    (h' : Reads True (next a) t b rest) : Reads enough (read >>= next) ts b rest :=
  (h.bind h').of_iff (and_iff_left trivial)

/-- What takes no room is read with any. -/
theorem Reads.roomless {read : Reader α} (h : Reads True read ts a rest) (room : Nat) :
    Reads (0 ≤ room) read ts a rest :=
  h.of_iff (iff_of_true trivial (Nat.zero_le room))

theorem Reads.pure (a : α) (ts : List Lexeme) : Reads True (pure a : Reader α) ts a ts :=
  ⟨fun _ => rfl, fun never => absurd trivial never⟩

/-- The readers below a number of levels of room. -/
def Deeper.ofRoom : Nat → Deeper
  | 0 => none
  | room + 1 => some (readers room)

theorem readers_eq (room : Nat) : readers room = readersAbove (.ofRoom room) := by
  cases room <;> rfl

/-- One level deeper there is one level of room less. -/
theorem Reads.nest {room : Nat} {read : Readers → Reader α}
    (h : Reads enough (read (readersAbove (.ofRoom (room - 1)))) ts a rest) :
    Reads (0 < room ∧ enough) ((Deeper.ofRoom room).nest read) ts a rest := by
  cases room with
  | zero => exact ⟨fun some => absurd some.1 (Nat.lt_irrefl 0), fun _ => rfl⟩
  | succ less =>
    rw [Nat.add_sub_cancel, ← readers_eq] at h
    exact h.of_iff (and_iff_right (Nat.succ_pos less)).symm

end Steps

/-! ## Lexemes in front -/

section Front

variable {p : Punct} {word : String} {ts : List Lexeme}

theorem run_eatPunct_cons (p : Punct) (ts : List Lexeme) :
    (eatPunct p).run (.punct p :: ts) = .ok (true, ts) := by
  cases p <;> rfl

theorem run_atPunct_of_ne (h : ts.head? ≠ some (.punct p)) : (atPunct p).run ts = .ok (false, ts) := by
  cases ts with
  | nil => rfl
  | cons l ts =>
    cases l with
    | punct q =>
      have ne : decide (q = p) = false := decide_eq_false fun same => h (by rw [same]; rfl)
      show Except.ok (decide (q = p), _) = _
      rw [ne]
    | _ => rfl

theorem run_eatPunct_of_ne (h : ts.head? ≠ some (.punct p)) :
    (eatPunct p).run ts = .ok (false, ts) := by
  rw [eatPunct, StateT.run_bind, run_atPunct_of_ne h]
  rfl

theorem run_expectPunct_cons (p : Punct) (ts : List Lexeme) :
    (expectPunct p).run (.punct p :: ts) = .ok ((), ts) := by
  cases p <;> rfl

theorem run_eatWord_cons (word : String) (ts : List Lexeme) :
    (eatWord word).run (.name word :: ts) = .ok (true, ts) := by
  show (if word = word then _ else _ : Reader Bool).run _ = _
  rw [if_pos rfl]
  rfl

theorem run_eatWord_of_ne (h : ts.head? ≠ some (.name word)) :
    (eatWord word).run ts = .ok (false, ts) := by
  cases ts with
  | nil => rfl
  | cons l ts =>
    cases l with
    | name n =>
      show (if n = word then _ else _ : Reader Bool).run _ = _
      rw [if_neg fun same => h (by rw [same]; rfl)]
      rfl
    | _ => rfl

end Front

/-! ## What continues a tree -/

/-- The level at which a punctuation continues what stands before it. -/
def Punct.continued : Punct → Option Level
  | .dot | .openParen | .openBracket => some .access
  | .power => some .power
  | .times | .divide | .floorDivide | .remainder => some .product
  | .plus | .minus => some .sum
  | .equal | .notEqual | .atMost | .atLeast | .less | .greater => some .comparison
  | _ => none

/-- The level at which a word continues what stands before it. -/
def wordContinued (word : String) : Option Level :=
  if word = "in" || word = "is" || word = "not" then some .comparison
  else if word = "and" then some .conjunction
  else if word = "or" then some .disjunction
  else if word = "if" then some .condition
  else none

/-- The level at which a lexeme continues what stands before it; adjacent texts are one text. -/
def Lexeme.continued : Lexeme → Option Level
  | .text _ => some .atom
  | .punct p => p.continued
  | .name n => wordContinued n
  | .int _ | .float _ => none

/-- What stands behind a tree does not continue it at a level or at a tighter one. -/
def Stops (level : Level) (rest : List Lexeme) : Prop :=
  ∀ l ∈ rest.head?, ∀ m ∈ l.continued, m.rank < level.rank

section Stops

variable {level : Level} {l : Lexeme} {rest : List Lexeme}

theorem stops_of_none (h : l.continued = none) : Stops level (l :: rest) := by
  intro l' mem m cont
  cases mem
  rw [h] at cont
  cases cont

theorem stops_of_lt {m : Level} (h : l.continued = some m) (lt : m.rank < level.rank) :
    Stops level (l :: rest) := by
  intro l' mem m' cont
  cases mem
  rw [h] at cont
  cases cont
  exact lt

theorem Stops.mono {tighter : Level} (h : Stops level rest) (le : level.rank ≤ tighter.rank) :
    Stops tighter rest := fun l mem m cont => Nat.lt_of_lt_of_le (h l mem m cont) le

theorem Stops.ne {m : Level} (h : Stops level rest) (cont : l.continued = some m)
    (le : level.rank ≤ m.rank) : rest.head? ≠ some l := by
  intro head
  have := h l head m cont
  omega

end Stops

/-! ## What starts a tree -/

/-- The loosest level of a tree that starts with a lexeme. -/
def Lexeme.opens : Lexeme → Option Level
  | .punct .minus | .punct .plus => some .sign
  | .punct .openParen | .punct .openBracket | .punct .openBrace => some .atom
  | .punct _ => none
  | .name n => if n = "not" then some .negation else if isReserved n then none else some .atom
  | .int _ | .float _ | .text _ => some .atom

/-- The first lexeme starts a tree of a level or of a tighter one. -/
def StartsAt (level : Level) (lexemes : List Lexeme) : Prop :=
  ∃ l rest m, lexemes = l :: rest ∧ l.opens = some m ∧ level.rank ≤ m.rank

section StartsAt

variable {level : Level} {l : Lexeme} {ts : List Lexeme}

theorem StartsAt.mono {looser : Level} (h : StartsAt level ts) (le : looser.rank ≤ level.rank) :
    StartsAt looser ts := by
  obtain ⟨l, rest, m, rfl, opens, le'⟩ := h
  exact ⟨l, rest, m, rfl, opens, Nat.le_trans le le'⟩

/-- A lexeme that starts no tree, or only looser ones, does not come first. -/
theorem StartsAt.ne (h : StartsAt level ts) (none : ∀ m ∈ l.opens, m.rank < level.rank) :
    ts.head? ≠ some l := by
  obtain ⟨l', rest, m, rfl, opens, le⟩ := h
  intro same
  cases same
  have := none m opens
  omega

end StartsAt

theorem StartsAt.grouped {level own : Level} {lexemes rest : List Lexeme}
    (h : StartsAt own (lexemes ++ rest)) : StartsAt level (grouped level own lexemes ++ rest) := by
  unfold Expr.grouped
  split
  · exact ⟨_, _, .atom, rfl, rfl, by cases level <;> decide⟩
  · exact h.mono (by omega)

/-- A tree starts with a lexeme that starts trees of its level. -/
theorem Tree.Printable.startsAt {e : Tree} (h : e.Printable) (rest : List Lexeme) :
    StartsAt e.level (e.lexemes ++ rest) := by
  induction h generalizing rest with
  | @literal value h =>
    cases value with
    | bool b => cases b <;> exact ⟨_, _, .atom, rfl, rfl, Nat.le_refl _⟩
    | _ => exact ⟨_, _, .atom, rfl, rfl, Nat.le_refl _⟩
  | @name n _ free _ =>
    refine ⟨.name n, rest, .atom, rfl, ?_, Nat.le_refl _⟩
    have noWord : n ≠ "not" := by
      rintro rfl
      exact absurd free (by decide)
    rw [Lexeme.opens, if_neg noWord, free]
    rfl
  | member _ _ ih =>
    rw [Tree.lexemes, List.append_assoc]
    exact (ih _).grouped
  | item _ _ ih _ =>
    rw [Tree.lexemes, List.append_assoc, List.append_assoc]
    exact (ih _).grouped
  | slice _ _ _ _ ih =>
    rw [Tree.lexemes]
    simp only [List.append_assoc]
    exact (ih _).grouped
  | call _ _ ih =>
    rw [Tree.lexemes, List.append_assoc, List.append_assoc]
    exact (ih _).grouped
  | @unary op _ _ _ => cases op <;> exact ⟨_, _, _, rfl, rfl, Nat.le_refl _⟩
  | @arithmetic op left right _ _ ih _ =>
    have le : op.level.rank ≤ op.left.rank := by cases op <;> decide
    rw [Tree.lexemes, List.append_assoc]
    exact StartsAt.mono (ih _).grouped le
  | comparison _ _ ih _ =>
    rw [Tree.lexemes, List.append_assoc]
    exact StartsAt.mono (ih _).grouped (by decide : Level.comparison.rank ≤ Level.sum.rank)
  | chain _ _ _ ih =>
    rw [Tree.lexemes, List.append_assoc]
    exact StartsAt.mono (ih _).grouped (by decide : Level.comparison.rank ≤ Level.sum.rank)
  | and _ _ ih _ =>
    rw [Tree.lexemes, List.append_assoc]
    exact (ih _).grouped
  | or _ _ ih _ =>
    rw [Tree.lexemes, List.append_assoc]
    exact (ih _).grouped
  | conditional _ _ _ _ ih _ =>
    rw [Tree.lexemes]
    simp only [List.append_assoc]
    exact StartsAt.mono (ih _).grouped (by decide : Level.condition.rank ≤ Level.disjunction.rank)
  | list => exact ⟨_, _, .atom, rfl, rfl, Nat.le_refl _⟩
  | set => exact ⟨_, _, .atom, rfl, rfl, Nat.le_refl _⟩
  | map => exact ⟨_, _, .atom, rfl, rfl, Nat.le_refl _⟩

/-! ## Levels -/

/-- The reader of a level. -/
def readAt : Level → Deeper → Reader Tree
  | .condition => condition
  | .disjunction => disjunction
  | .conjunction => conjunction
  | .negation => negation
  | .comparison => comparison
  | .sum => sum
  | .product => product
  | .sign => signed
  | .power => power
  | .access => access
  | .atom => atom

/-- The levels whose trees are chains that are grouped from the left. -/
def Level.isChain : Level → Bool
  | .disjunction | .conjunction | .sum | .product | .access => true
  | _ => false

/-- Continues a chain of a level; at all other levels there is nothing to continue. -/
def moreAt : Level → Deeper → Tree → Reader Tree
  | .disjunction => moreOr
  | .conjunction => moreAnd
  | .sum => moreSum
  | .product => moreProduct
  | .access => moreAccess
  | _ => fun _ e => return e

/-- A chain starts with a tree of the next level. -/
theorem readAt_chain {level : Level} (h : level.isChain = true) (deeper : Deeper) :
    readAt level deeper = readAt level.next deeper >>= moreAt level deeper := by
  cases level <;> first | rfl | cases h

theorem Level.rank_next {level : Level} (h : level ≠ .atom) : level.next.rank = level.rank + 1 := by
  cases level <;> first | rfl | exact absurd rfl h

theorem Level.ext_rank {l m : Level} (h : l.rank = m.rank) : l = m := by
  cases l <;> cases m <;> first | rfl | cases h

section Levels

variable {enough : Prop} {deeper : Deeper} {ts rest : List Lexeme} {e : Tree}

/-- No comparison follows. -/
theorem comparisonAhead?_of_stops (h : Stops .comparison rest) : comparisonAhead? rest = none := by
  have none : ∀ l ts, l.continued = some .comparison → rest ≠ l :: ts := by
    rintro l ts cont rfl
    exact h.ne cont (Nat.le_refl _) rfl
  unfold comparisonAhead?
  split <;> first | exact absurd rfl (none _ _ rfl) | rfl

theorem comparisonOp_of_stops (h : Stops .comparison rest) :
    Reads True comparisonOp rest none rest := by
  refine .step (a := rest) rfl ?_
  rw [comparisonAhead?_of_stops h]
  exact .pure _ _

theorem readLinks_of_stops {operand : Reader Tree} (steps : Nat) (h : Stops .comparison rest) :
    Reads True (readLinks operand steps) rest [] rest := by
  cases steps with
  | zero => exact .pure _ _
  | succ steps => exact .free (comparisonOp_of_stops h) (.pure _ _)

/-- A chain that is not continued ends. -/
theorem moreAt_of_stops {level : Level} (h : Stops level rest) :
    Reads True (moreAt level deeper e) rest e rest := by
  have punct : ∀ p m, p.continued = some m → level.rank ≤ m.rank →
      (eatPunct p).run rest = .ok (false, rest) := fun p m cont le =>
    run_eatPunct_of_ne (h.ne (l := .punct p) cont le)
  cases level with
  | disjunction =>
    exact .step (run_eatWord_of_ne (h.ne (l := .name "or") rfl (Nat.le_refl _))) (.pure _ _)
  | conjunction =>
    exact .step (run_eatWord_of_ne (h.ne (l := .name "and") rfl (Nat.le_refl _))) (.pure _ _)
  | sum =>
    have none : Reads True sumOp rest none rest :=
      .step (punct .plus _ rfl (Nat.le_refl _)) <|
      .step (punct .minus _ rfl (Nat.le_refl _)) <| .pure _ _
    exact .free none (.pure _ _)
  | product =>
    have none : Reads True productOp rest none rest :=
      .step (punct .times _ rfl (Nat.le_refl _)) <|
      .step (punct .floorDivide _ rfl (Nat.le_refl _)) <|
      .step (punct .divide _ rfl (Nat.le_refl _)) <|
      .step (punct .remainder _ rfl (Nat.le_refl _)) <| .pure _ _
    exact .free none (.pure _ _)
  | access =>
    have head : ∀ p, p.continued = some .access → rest.head? ≠ some (.punct p) := fun p cont =>
      h.ne (l := .punct p) cont (Nat.le_refl _)
    refine .step (a := rest.head?) rfl ?_
    split
    · next eq => exact absurd eq (head .dot rfl)
    · next eq => exact absurd eq (head .openParen rfl)
    · next eq => exact absurd eq (head .openBracket rfl)
    · exact .pure _ _
  | _ => exact .pure _ _

/-- What is read at a level is read at the next looser one, if no operator of that stands around. -/
theorem reads_next {level : Level} (inner : level ≠ .atom)
    (h : Reads enough (readAt level.next deeper) ts e rest) (starts : StartsAt level.next ts)
    (stops : Stops level rest) : Reads enough (readAt level deeper) ts e rest := by
  by_cases chain : level.isChain = true
  · rw [readAt_chain chain]
    exact .last h (moreAt_of_stops stops)
  · cases level with
    | condition =>
      refine .last h (.step (run_eatWord_of_ne ?_) (.pure _ _))
      exact stops.ne (l := .name "if") rfl (Nat.le_refl _)
    | negation =>
      refine .step (run_eatWord_of_ne ?_) h
      exact starts.ne (l := .name "not") (by decide)
    | comparison => exact .last h (.step rfl (.free (readLinks_of_stops _ stops) (.pure _ _)))
    | sign =>
      refine .step (run_eatPunct_of_ne ?_) (.step (run_eatPunct_of_ne ?_) h)
      · exact starts.ne (l := .punct .minus) (by decide)
      · exact starts.ne (l := .punct .plus) (by decide)
    | power =>
      refine .last h (.step (run_eatPunct_of_ne ?_) (.pure _ _))
      exact stops.ne (l := .punct .power) rfl (Nat.le_refl _)
    | atom => exact absurd rfl inner
    | _ => exact absurd rfl chain

/-- What is read at a level is read at every looser one, if nothing continues it there. -/
theorem reads_of_le {level own : Level} (le : level.rank ≤ own.rank)
    (h : Reads enough (readAt own deeper) ts e rest) (starts : StartsAt own ts)
    (stops : Stops level rest) : Reads enough (readAt level deeper) ts e rest := by
  obtain ⟨gap, distance⟩ := Nat.exists_eq_add_of_le le
  induction gap generalizing level with
  | zero =>
    obtain rfl : own = level := Level.ext_rank distance
    exact h
  | succ gap ih =>
    have inner : level ≠ .atom := by
      rintro rfl
      have : own.rank ≤ Level.atom.rank := by cases own <;> decide
      omega
    have next := Level.rank_next inner
    have tighter : level.next.rank ≤ own.rank := by omega
    exact reads_next inner (ih tighter (stops.mono (by omega)) (by omega)) (starts.mono tighter)
      stops

end Levels

end TextTemplate.Expr
