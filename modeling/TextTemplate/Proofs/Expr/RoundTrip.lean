import TextTemplate.Proofs.Expr.Room
import TextTemplate.Proofs.Expr.Scan

/-!
# Expressions are read as they are written

`Returns e` says that a tree is read back wherever it may stand: at a place of any level, between
delimiters, and in front of the rest of a chain of operators.  One lemma for each kind of node shows
that it is read back if its parts are; `returns` puts them together by induction on the tree, and
`parse_print` reads the whole text.

The room is counted along: a tree is read back exactly if there is more room than it takes
(`parseWithin_print_eq_ite`).
-/

namespace TextTemplate.Expr

/-- A tree at a place that takes trees from a level on. -/
def Tree.operand (least : Level) (e : Tree) : List Lexeme := grouped least e.level e.lexemes

/-- A written tree is read back, if there is the room that it takes: as an operand of any level, between
delimiters, and as the first part of a chain. -/
structure Returns (e : Tree) : Prop where
  operand : ∀ level room rest, Stops level rest →
    Reads (e.takesAt level ≤ room) (readAt level (.ofRoom room)) (e.operand level ++ rest) e rest
  inside : ∀ room rest, Stops .condition rest →
    Reads (e.takes < room) (expression (.ofRoom room)) (e.lexemes ++ rest) e rest
  /-- The rest of the chain is read with the room that is left behind the tree. -/
  chained : ∀ {level : Level} {more : Prop} {room : Nat} {rest ts : List Lexeme} {b : Tree},
    level.isChain = true → Stops level.next rest →
    Reads more (moreAt level (.ofRoom (room - e.links level)) e) rest b ts →
    Reads (e.takesAt level ≤ room ∧ more) (readAt level (.ofRoom room)) (e.operand level ++ rest) b ts

section Returns

variable {e : Tree}

theorem Tree.operand_of_le {level : Level} (h : level.rank ≤ e.level.rank) :
    e.operand level = e.lexemes := by
  rw [operand, grouped, if_neg (by omega)]

theorem Tree.operand_of_lt {level : Level} (h : e.level.rank < level.rank) :
    e.operand level = .punct .openParen :: e.lexemes ++ [.punct .closeParen] := by
  rw [operand, grouped, if_pos h]

theorem Tree.takesAt_of_le {level : Level} (h : level.rank ≤ e.level.rank) :
    e.takesAt level = e.takes := by
  rw [takesAt, roomAt, if_neg (by omega)]

theorem Tree.takesAt_of_lt {level : Level} (h : e.level.rank < level.rank) :
    e.takesAt level = e.takes + 1 := by
  rw [takesAt, roomAt, if_pos h]

theorem Level.ne_atom_of_isChain {level : Level} (h : level.isChain = true) : level ≠ .atom := by
  rintro rfl
  cases h

/-- What is read at its own level is read everywhere. -/
theorem returns_of_own (printable : e.Printable)
    (own : ∀ room rest, Stops e.level rest →
      Reads (e.takes ≤ room) (readAt e.level (.ofRoom room)) (e.lexemes ++ rest) e rest)
    (chained : ∀ {more : Prop} {room : Nat} {rest ts : List Lexeme} {b : Tree},
      e.level.isChain = true → Stops e.level.next rest →
      Reads more (moreAt e.level (.ofRoom (room - e.spine)) e) rest b ts →
      Reads (e.takes ≤ room ∧ more) (readAt e.level (.ofRoom room)) (e.lexemes ++ rest) b ts) :
    Returns e := by
  have bare : ∀ level room rest, level.rank ≤ e.level.rank → Stops level rest →
      Reads (e.takes ≤ room) (readAt level (.ofRoom room)) (e.lexemes ++ rest) e rest :=
    fun level room rest le stops =>
      reads_of_le le (own room rest (stops.mono le)) (printable.startsAt rest) stops
  have inside : ∀ room rest, Stops .condition rest →
      Reads (e.takes < room) (expression (.ofRoom room)) (e.lexemes ++ rest) e rest := by
    intro room rest stops
    exact (Reads.nest (bare .condition (room - 1) rest (Nat.zero_le _) stops)).of_iff (by omega)
  have operand : ∀ level room rest, Stops level rest →
      Reads (e.takesAt level ≤ room) (readAt level (.ofRoom room)) (e.operand level ++ rest) e
        rest := by
    intro level room rest stops
    by_cases le : level.rank ≤ e.level.rank
    · rw [Tree.operand_of_le le, Tree.takesAt_of_le le]
      exact bare level room rest le stops
    · rw [Tree.operand_of_lt (by omega), Tree.takesAt_of_lt (by omega), List.append_assoc]
      have atom : Reads (e.takes + 1 ≤ room) (readAt .atom (.ofRoom room))
          (.punct .openParen :: (e.lexemes ++ ([.punct .closeParen] ++ rest))) e rest := by
        refine .step (a := some (.punct .openParen)) rfl (.step rfl ?_)
        refine .step (run_eatPunct_of_ne ((printable.startsAt _).ne (l := .punct .closeParen) ?_)) ?_
        · intro m mem
          cases mem
        · refine .last (inside room _ (stops_of_none rfl)) ?_
          exact .step (run_eatPunct_cons _ _) (.pure _ _)
      exact reads_of_le (by cases level <;> decide) atom ⟨_, _, .atom, rfl, rfl, Nat.le_refl _⟩ stops
  refine ⟨operand, inside, fun {level more room rest ts b} chain stops continued => ?_⟩
  by_cases same : e.level = level
  · subst same
    have links : e.links e.level = e.spine := if_pos ⟨chain, rfl⟩
    rw [links] at continued
    rw [Tree.operand_of_le (Nat.le_refl _), Tree.takesAt_of_le (Nat.le_refl _)]
    exact chained chain stops continued
  · have next := Level.rank_next (Level.ne_atom_of_isChain chain)
    have ne : e.level.rank ≠ level.rank := fun eq => same (Level.ext_rank eq)
    have shape : e.operand level = e.operand level.next ∧ e.takesAt level = e.takesAt level.next := by
      by_cases le : level.rank ≤ e.level.rank
      · rw [Tree.operand_of_le le, Tree.operand_of_le (by omega), Tree.takesAt_of_le le,
          Tree.takesAt_of_le (by omega)]
        exact ⟨rfl, rfl⟩
      · rw [Tree.operand_of_lt (by omega), Tree.operand_of_lt (by omega),
          Tree.takesAt_of_lt (by omega), Tree.takesAt_of_lt (by omega)]
        exact ⟨rfl, rfl⟩
    have links : e.links level = 0 := if_neg fun both => same both.2
    rw [links, Nat.sub_zero] at continued
    rw [readAt_chain chain, shape.1, shape.2]
    exact .bind (operand level.next room rest stops) continued

/-- A tree of a level without chains. -/
theorem returns_of_reads (printable : e.Printable) (single : e.level.isChain = false)
    (own : ∀ room rest, Stops e.level rest →
      Reads (e.takes ≤ room) (readAt e.level (.ofRoom room)) (e.lexemes ++ rest) e rest) :
    Returns e :=
  returns_of_own printable own fun chain => by
    rw [single] at chain
    cases chain

/-- A tree that ends a chain so far. -/
theorem returns_of_chained (printable : e.Printable) (chain : e.level.isChain = true)
    (chained : ∀ {more : Prop} {room : Nat} {rest ts : List Lexeme} {b : Tree},
      Stops e.level.next rest →
      Reads more (moreAt e.level (.ofRoom (room - e.spine)) e) rest b ts →
      Reads (e.takes ≤ room ∧ more) (readAt e.level (.ofRoom room)) (e.lexemes ++ rest) b ts) :
    Returns e := by
  refine returns_of_own printable (fun room rest stops => ?_) fun _ => chained
  have next := Level.rank_next (Level.ne_atom_of_isChain chain)
  exact (chained (stops.mono (by omega)) (moreAt_of_stops stops)).of_iff (and_iff_left trivial)

end Returns

/-! ## Operators between two operands -/

/-- A lexeme joins two operands of a chain of a level. -/
def Joins (level : Level) (op : Lexeme) (node : Tree → Tree → Tree) : Prop :=
  ∀ {enough more : Prop} {room : Nat} {ts mid rest : List Lexeme} {left right b : Tree},
    Reads enough (readAt level.next (.ofRoom (room - 1))) ts right mid →
    Reads more (moreAt level (.ofRoom (room - 1)) (node left right)) mid b rest →
    Reads (0 < room ∧ enough ∧ more) (moreAt level (.ofRoom room) left) (op :: ts) b rest

theorem joins_and : Joins .conjunction (.name "and") .and :=
  fun reads continued => .step (run_eatWord_cons _ _) (.nest (.bind reads continued))

theorem joins_or : Joins .disjunction (.name "or") .or :=
  fun reads continued => .step (run_eatWord_cons _ _) (.nest (.bind reads continued))

/-- All operators but the power are grouped from the left. -/
theorem joins_arithmetic {op : Arithmetic} (h : op ≠ .pow) :
    Joins op.level (.punct op.punct) (.arithmetic op) := by
  intro enough more room ts mid rest left right b reads continued
  have next : Reads (enough ∧ more) (do
      let right ← readAt op.level.next (.ofRoom (room - 1))
      moreAt op.level (.ofRoom (room - 1)) (.arithmetic op left right)) ts b rest :=
    .bind reads continued
  cases op with
  | pow => exact absurd rfl h
  | add => exact .step (a := some Arithmetic.add) (t := ts) rfl (.nest next)
  | sub => exact .step (a := some Arithmetic.sub) (t := ts) rfl (.nest next)
  | mul => exact .step (a := some Arithmetic.mul) (t := ts) rfl (.nest next)
  | div => exact .step (a := some Arithmetic.div) (t := ts) rfl (.nest next)
  | floorDiv => exact .step (a := some Arithmetic.floorDiv) (t := ts) rfl (.nest next)
  | mod => exact .step (a := some Arithmetic.mod) (t := ts) rfl (.nest next)

theorem returns_of_joins {level : Level} {op : Lexeme} {node : Tree → Tree → Tree}
    {left right : Tree} (joins : Joins level op node) (chain : level.isChain = true)
    (cont : op.continued = some level) (printable : (node left right).Printable)
    (own : (node left right).level = level)
    (written : (node left right).lexemes = left.operand level ++ op :: right.operand level.next)
    (spine : (node left right).spine = left.links level + 1)
    (takes : (node left right).takes =
      max (left.takesAt level) (left.links level + 1 + right.takesAt level.next))
    (hl : Returns left) (hr : Returns right) : Returns (node left right) := by
  subst own
  refine returns_of_chained printable chain fun {more room rest ts b} stops continued => ?_
  have next := Level.rank_next (Level.ne_atom_of_isChain chain)
  rw [spine, ← Nat.sub_sub] at continued
  rw [written, List.append_assoc, takes]
  refine (hl.chained chain (stops_of_lt cont (by omega))
    (joins (hr.operand _ _ rest stops) continued)).of_iff ?_
  rw [← and_assoc, ← and_assoc]
  exact and_congr_left' (by omega)

/-! ## Lists of expressions -/

section Items

variable {rest : List Lexeme}

/-- Written trees start with none of the delimiters. -/
theorem Tree.Printable.head_ne {e : Tree} (h : e.Printable) (ts : List Lexeme) {p : Punct}
    (none : (Lexeme.punct p).opens = none) : (e.lexemes ++ ts).head? ≠ some (.punct p) :=
  (h.startsAt ts).ne (l := .punct p) fun m mem => by
    rw [none] at mem
    cases mem

/-- What closes a list: it starts no tree and continues none. -/
structure Closes (closing : Punct) : Prop where
  opens : (Lexeme.punct closing).opens = none
  continued : (Lexeme.punct closing).continued = none
  ne_comma : closing ≠ .comma

theorem reads_readItems {closing : Punct} (room : Nat) (closes : Closes closing) {items : List Tree}
    (printable : ∀ e ∈ items, e.Printable) (returns : ∀ e ∈ items, Returns e) {steps : Nat}
    (enough : items.length < steps) :
    Reads (itemsTakes items ≤ room) (readItems (expression (.ofRoom room)) closing steps)
      (itemLexemes items ++ .punct closing :: rest) items rest := by
  induction items generalizing steps with
  | nil =>
    obtain ⟨steps, rfl⟩ : ∃ n, steps = n + 1 := ⟨steps - 1, by simp at enough; omega⟩
    refine Reads.roomless (.step (run_eatPunct_cons _ _) ?_) room
    exact .pure _ _
  | cons e more ih =>
    obtain ⟨steps, rfl⟩ : ∃ n, steps = n + 1 := ⟨steps - 1, by simp at enough; omega⟩
    have first := printable e (.head _)
    have read := fun ts stops => (returns e (.head _)).inside room ts stops
    cases more with
    | nil =>
      have noComma : (Lexeme.punct closing :: rest).head? ≠ some (.punct .comma) := by
        intro same
        cases same
        exact closes.ne_comma rfl
      have takes : e.takes < room ↔ itemsTakes [e] ≤ room := by
        rw [itemsTakes, itemsTakes]
        omega
      refine .step (run_eatPunct_of_ne (first.head_ne _ closes.opens)) ?_
      refine .last ((read _ (stops_of_none closes.continued)).of_iff takes) ?_
      exact .step (run_eatPunct_of_ne noComma) (.step (run_expectPunct_cons _ _) (.pure _ _))
    | cons e' more =>
      have enough' : (e' :: more).length < steps := by
        simp only [List.length_cons] at enough ⊢
        omega
      have others := ih (fun e mem => printable e (.tail _ mem))
        (fun e mem => returns e (.tail _ mem)) enough'
      have takes : e.takes < room ∧ itemsTakes (e' :: more) ≤ room ↔
          itemsTakes (e :: e' :: more) ≤ room := by
        rw [itemsTakes.eq_def (e :: _)]
        dsimp only
        omega
      rw [itemLexemes, List.append_assoc, List.cons_append]
      refine .step (run_eatPunct_of_ne (first.head_ne _ closes.opens)) (Reads.of_iff ?_ takes)
      refine .bind (read _ (stops_of_none rfl)) ?_
      exact .step (run_eatPunct_cons _ _) (.last others (.pure _ _))

theorem Tree.Printable.lexemes_ne_nil {e : Tree} (h : e.Printable) : 0 < e.lexemes.length := by
  obtain ⟨l, rest, m, eq, -⟩ := h.startsAt []
  rw [List.append_nil] at eq
  rw [eq]
  exact Nat.succ_pos _

theorem length_le_itemLexemes {items : List Tree} (printable : ∀ e ∈ items, e.Printable) :
    items.length ≤ (itemLexemes items).length := by
  induction items with
  | nil => exact Nat.le_refl _
  | cons e more ih =>
    have first := (printable e (.head _)).lexemes_ne_nil
    cases more with
    | nil => exact first
    | cons e' more =>
      have others := ih fun e mem => printable e (.tail _ mem)
      rw [itemLexemes, List.length_append, List.length_cons]
      simp only [List.length_cons] at others ⊢
      omega

theorem reads_items {closing : Punct} (room : Nat) (rest : List Lexeme) (closes : Closes closing)
    {items : List Tree} (printable : ∀ e ∈ items, e.Printable)
    (returns : ∀ e ∈ items, Returns e) :
    Reads (itemsTakes items ≤ room) (Expr.items (expression (.ofRoom room)) closing)
      (itemLexemes items ++ .punct closing :: rest) items rest := by
  refine .step rfl (reads_readItems room closes printable returns ?_)
  have := length_le_itemLexemes printable
  simp only [List.length_append, List.length_cons]
  omega

end Items

/-! ## Parts of slices -/

section Parts

variable {rest : List Lexeme} {p : Punct} {delimiters : List Punct}

theorem reads_anyM_of_ne {ts : List Lexeme} (h : ∀ p ∈ delimiters, ts.head? ≠ some (.punct p)) :
    Reads True (delimiters.anyM fun p => atPunct p) ts false ts := by
  induction delimiters with
  | nil => exact .pure _ _
  | cons q others ih =>
    refine .step (run_atPunct_of_ne (h q (.head _))) ?_
    exact ih fun p mem => h p (.tail _ mem)

theorem reads_anyM_of_mem (mem : p ∈ delimiters) :
    Reads True (delimiters.anyM fun p => atPunct p) (.punct p :: rest) true (.punct p :: rest) := by
  induction delimiters with
  | nil => cases mem
  | cons q others ih =>
    by_cases same : p = q
    · subst same
      refine .step (a := true) ?_ (.pure _ _)
      show Except.ok (decide (p = p), _) = _
      rw [decide_eq_true rfl]
    · have others := ih ((List.mem_cons.1 mem).resolve_left same)
      refine .step (run_atPunct_of_ne fun eq => ?_) others
      cases eq
      exact same rfl

/-- An optional part of a slice in front of a delimiter. -/
theorem reads_slicePart {part : Option Tree} (room : Nat) (delimiters : List Punct) (p : Punct)
    (rest : List Lexeme) (opens : ∀ q ∈ delimiters, (Lexeme.punct q).opens = none)
    (cont : (Lexeme.punct p).continued = none) (mem : part = none → p ∈ delimiters)
    (printable : ∀ e ∈ part, e.Printable) (returns : ∀ e ∈ part, Returns e) :
    Reads (partTakes part ≤ room) (slicePart (readersAbove (.ofRoom room)) delimiters)
      (partLexemes part ++ .punct p :: rest) part (.punct p :: rest) := by
  cases part with
  | none =>
    refine Reads.roomless ?_ room
    exact .free (reads_anyM_of_mem (mem rfl)) (.pure _ _)
  | some e =>
    have first := printable e rfl
    refine .free (reads_anyM_of_ne fun q mem => first.head_ne _ (opens q mem)) ?_
    exact .last ((returns e rfl).inside room _ (stops_of_none cont)) (.pure _ _)

end Parts

/-! ## Access -/

section Access

variable {target : Tree}

/-- A tree that adds a suffix, whose parts take some room, to its target. -/
theorem returns_of_suffix {e : Tree} (suffix : List Lexeme) (parts : Nat) (printable : e.Printable)
    (level : e.level = .access) (written : e.lexemes = target.operand .access ++ suffix)
    (spine : e.spine = target.links .access + 1)
    (takes : e.takes = max (target.takesAt .access) (target.links .access + 1 + parts))
    (ht : Returns target) (stops : ∀ rest, Stops .atom (suffix ++ rest))
    (extend : ∀ {more : Prop} {room : Nat} {rest ts : List Lexeme} {b : Tree},
      Reads more (moreAccess (.ofRoom (room - 1)) e) rest b ts →
      Reads (0 < room ∧ parts ≤ room - 1 ∧ more) (moreAccess (.ofRoom room) target) (suffix ++ rest) b
        ts) : Returns e := by
  refine returns_of_chained printable (by rw [level]; rfl)
    fun {more room rest ts b} _ continued => ?_
  rw [level, spine, ← Nat.sub_sub] at continued
  rw [level, written, List.append_assoc, takes]
  have behind : Stops Level.access.next (suffix ++ rest) := stops rest
  refine (ht.chained rfl behind (extend continued)).of_iff ?_
  rw [← and_assoc, ← and_assoc]
  exact and_congr_left' (by omega)

theorem returns_member {n : String} (printable : (Tree.member target n).Printable)
    (ht : Returns target) : Returns (.member target n) := by
  refine returns_of_suffix [.punct .dot, .name n] 0 printable rfl rfl rfl rfl ht
    (fun rest => stops_of_lt rfl (by decide)) fun {more room rest ts b} continued => ?_
  have takes : more ↔ 0 ≤ room - 1 ∧ more := (and_iff_right (Nat.zero_le _)).symm
  refine .step (a := some (Lexeme.punct .dot)) rfl (Reads.nest ?_)
  exact .step rfl (.step (a := n) rfl (continued.of_iff takes))

theorem returns_call {args : List Tree} (printable : (Tree.call target args).Printable)
    (ht : Returns target) (hargs : ∀ e ∈ args, Returns e) : Returns (.call target args) := by
  have each : ∀ e ∈ args, e.Printable := by
    cases printable with
    | call _ each => exact each
  refine returns_of_suffix (.punct .openParen :: itemLexemes args ++ [.punct .closeParen])
    (itemsTakes args) printable rfl ?_ rfl rfl ht (fun rest => stops_of_lt rfl (by decide))
    fun {more room rest ts b} continued => ?_
  · rw [Tree.lexemes, List.append_assoc]
    rfl
  · rw [List.append_assoc]
    refine .step (a := some (Lexeme.punct .openParen)) rfl (Reads.nest ?_)
    exact .step rfl (.bind (reads_items _ _ ⟨rfl, rfl, by decide⟩ each hargs) continued)

theorem returns_item {index : Tree} (printable : (Tree.item target index).Printable)
    (ht : Returns target) (hi : Returns index) : Returns (.item target index) := by
  have inner : index.Printable := by
    cases printable with
    | item _ inner => exact inner
  refine returns_of_suffix (.punct .openBracket :: index.lexemes ++ [.punct .closeBracket])
    (partTakes (some index)) printable rfl ?_ rfl rfl ht (fun rest => stops_of_lt rfl (by decide))
    fun {more room rest ts b} continued => ?_
  · rw [Tree.lexemes, List.append_assoc]
    rfl
  · rw [List.append_assoc]
    refine .step (a := some (Lexeme.punct .openBracket)) rfl (Reads.nest ?_)
    refine .step rfl (.bind (a := Tree.item target index) ?_ continued)
    have start := reads_slicePart (room - 1) [.colon] .closeBracket rest (by decide) rfl
      (fun none => by cases none) (fun e mem => Option.some.inj mem ▸ inner)
      (fun e mem => Option.some.inj mem ▸ hi)
    exact .last start (.step (run_eatPunct_cons _ _) (.pure _ _))

theorem returns_slice {start stop step : Option Tree}
    (printable : (Tree.slice target start stop step).Printable) (ht : Returns target)
    (hstart : ∀ e ∈ start, Returns e) (hstop : ∀ e ∈ stop, Returns e)
    (hstep : ∀ e ∈ step, Returns e) : Returns (.slice target start stop step) := by
  obtain ⟨pstart, pstop, pstep⟩ : (∀ e ∈ start, e.Printable) ∧ (∀ e ∈ stop, e.Printable) ∧
      ∀ e ∈ step, e.Printable := by
    cases printable with
    | slice _ first second third => exact ⟨first, second, third⟩
  refine returns_of_suffix (.punct .openBracket :: partLexemes start ++
      .punct .colon :: partLexemes stop ++ stepLexemes step ++ [.punct .closeBracket])
    (max (partTakes start) (max (partTakes stop) (partTakes step))) printable rfl ?_ rfl rfl ht
    (fun rest => stops_of_lt rfl (by decide)) fun {more room rest ts b} continued => ?_
  · rw [Tree.lexemes]
    simp only [List.append_assoc]
    rfl
  · refine .step (a := some (Lexeme.punct .openBracket)) rfl (Reads.nest ?_)
    refine .step rfl (.bind (a := Tree.slice target start stop step) ?_ continued)
    have first := fun ts => reads_slicePart (room - 1) [.colon] .colon ts (by decide) rfl
      (fun _ => .head _) pstart hstart
    have second := fun p cont mem ts => reads_slicePart (room - 1) [.colon, .closeBracket] p ts
      (by decide) cont (fun _ => mem) pstop hstop
    have third := reads_slicePart (room - 1) [.closeBracket] .closeBracket rest (by decide) rfl
      (fun _ => .head _) pstep hstep
    simp only [List.append_assoc, List.cons_append, List.nil_append]
    cases step with
    | none =>
      have takes : partTakes start ≤ room - 1 ∧ partTakes stop ≤ room - 1 ↔
          max (partTakes start) (max (partTakes stop) (partTakes none)) ≤ room - 1 := by
        rw [partTakes.eq_def none]
        dsimp only
        omega
      refine Reads.of_iff ?_ takes
      refine .bind (first _) (.step rfl (.step (run_expectPunct_cons _ _) ?_))
      refine .last (second .closeBracket rfl (by simp) _) (.step rfl (.step rfl ?_))
      exact .step (run_expectPunct_cons _ _) (.pure _ _)
    | some e =>
      have takes : partTakes start ≤ room - 1 ∧ partTakes stop ≤ room - 1 ∧
          partTakes (some e) ≤ room - 1 ↔
          max (partTakes start) (max (partTakes stop) (partTakes (some e))) ≤ room - 1 := by
        omega
      refine Reads.of_iff ?_ takes
      refine .bind (first _) (.step rfl (.step (run_expectPunct_cons _ _) ?_))
      refine .bind (second .colon rfl (by simp) _) (.step rfl (.last third ?_))
      exact .step (run_expectPunct_cons _ _) (.pure _ _)

end Access

/-! ## Signs, powers and conditions -/

theorem Stops.power_of_sign {rest : List Lexeme} (h : Stops .power rest) : Stops .sign rest := by
  intro l mem m cont
  have lt := h l mem m cont
  -- no lexeme continues a tree with a sign in front
  have ne : m ≠ .sign := by
    rintro rfl
    cases l with
    | punct p => cases p <;> cases cont
    | name n =>
      simp only [Lexeme.continued, wordContinued] at cont
      split at cont
      · cases cont
      · split at cont
        · cases cont
        · split at cont
          · cases cont
          · split at cont <;> cases cont
    | _ => cases cont
  cases m <;> first | exact absurd rfl ne | decide | exact absurd lt (by decide)

theorem returns_unary {op : UnaryOp} {operand : Tree} (printable : (Tree.unary op operand).Printable)
    (h : Returns operand) : Returns (.unary op operand) := by
  refine returns_of_reads printable (by cases op <;> rfl) fun room rest stops => ?_
  have inner := h.operand op.level (room - 1) rest stops
  have takes : 0 < room ∧ operand.takesAt op.level ≤ room - 1 ↔
      (Tree.unary op operand).takes ≤ room := by
    rw [Tree.takes, ← Tree.takesAt]
    omega
  refine Reads.of_iff ?_ takes
  cases op with
  | neg => exact .step (run_eatPunct_cons _ _) (.last (Reads.nest inner) (.pure _ _))
  | pos =>
    refine .step (a := false) rfl (.step (run_eatPunct_cons .plus _) ?_)
    exact .last (Reads.nest inner) (.pure _ _)
  | not => exact .step (run_eatWord_cons _ _) (.last (Reads.nest inner) (.pure _ _))

theorem returns_pow {base exponent : Tree} (printable : (Tree.arithmetic .pow base exponent).Printable)
    (hb : Returns base) (he : Returns exponent) : Returns (.arithmetic .pow base exponent) := by
  refine returns_of_reads printable rfl fun room rest stops => ?_
  have front := fun ts => hb.operand .access room (.punct .power :: ts) (stops_of_lt rfl (by decide))
  have behind := he.operand .sign (room - 1) rest (Stops.power_of_sign stops)
  have takes : base.takesAt .access ≤ room ∧ 0 < room ∧ exponent.takesAt .sign ≤ room - 1 ↔
      (Tree.arithmetic .pow base exponent).takes ≤ room := by
    have spine : linksAt Arithmetic.pow.level base.level base.spine = 0 := rfl
    rw [Tree.takes, spine]
    show _ ↔ max (base.takesAt .access) (0 + 1 + exponent.takesAt .sign) ≤ room
    omega
  rw [Tree.lexemes, List.append_assoc]
  refine Reads.of_iff ?_ takes
  refine .bind (front _) (.step (run_eatPunct_cons _ _) ?_)
  exact .last (Reads.nest behind) (.pure _ _)

theorem returns_conditional {test body orelse : Tree}
    (printable : (Tree.conditional test body orelse).Printable) (ht : Returns test)
    (hb : Returns body) (ho : Returns orelse) : Returns (.conditional test body orelse) := by
  refine returns_of_reads printable rfl fun room rest stops => ?_
  have first := fun ts => hb.operand .disjunction room (.name "if" :: ts) (stops_of_lt rfl (by decide))
  have second := fun ts => ht.operand .disjunction room (.name "else" :: ts) (stops_of_none rfl)
  have third := ho.inside room rest stops
  have bare : orelse.operand .condition = orelse.lexemes := Tree.operand_of_le (Nat.zero_le _)
  have written : (Tree.conditional test body orelse).lexemes ++ rest =
      body.operand .disjunction ++ .name "if" :: (test.operand .disjunction ++
        .name "else" :: (orelse.lexemes ++ rest)) := by
    rw [← bare, Tree.lexemes]
    simp only [List.append_assoc, List.cons_append]
    rfl
  have takes : body.takesAt .disjunction ≤ room ∧ test.takesAt .disjunction ≤ room ∧
      orelse.takes < room ↔ (Tree.conditional test body orelse).takes ≤ room := by
    rw [Tree.takes, ← Tree.takesAt, ← Tree.takesAt]
    omega
  rw [written]
  refine Reads.of_iff ?_ takes
  refine .bind (first _) (.step (run_eatWord_cons _ _) ?_)
  refine .bind (second _) (.step (run_eatWord_cons _ _) ?_)
  exact .last third (.pure _ _)

/-! ## Comparisons -/

section Comparisons

variable {room : Nat} {rest : List Lexeme}

theorem reads_comparisonOp (op : Comparison) (h : rest.head? ≠ some (.name "not")) :
    Reads True comparisonOp (op.lexemes ++ rest) (some op) rest := by
  have ahead : comparisonAhead? (op.lexemes ++ rest) = some (op, op.lexemes.length) := by
    cases op with
    | is =>
      show comparisonAhead? (.name "is" :: rest) = _
      unfold comparisonAhead?
      split <;> first | rfl | simp_all
    | _ => rfl
  refine .step (a := op.lexemes ++ rest) rfl ?_
  rw [ahead]
  refine .step (a := ()) (t := rest) ?_ (.pure _ _)
  show Except.ok ((), (op.lexemes ++ rest).drop op.lexemes.length) = _
  rw [List.drop_left]

theorem reads_readLinks {links : List (Comparison × Tree)}
    (printable : ∀ link ∈ links, link.2.Printable) (returns : ∀ link ∈ links, Returns link.2)
    {steps : Nat} (enough : links.length ≤ steps) (stops : Stops .comparison rest) :
    Reads (linksTakes links ≤ room) (readLinks (sum (.ofRoom room)) steps) (linkLexemes links ++ rest)
      links rest := by
  induction links generalizing steps with
  | nil => exact (readLinks_of_stops steps stops).roomless room
  | cons link more ih =>
    obtain ⟨op, e⟩ := link
    obtain ⟨steps, rfl⟩ : ∃ n, steps = n + 1 := ⟨steps - 1, by simp at enough; omega⟩
    have first := printable _ (.head _)
    have others := ih (fun link mem => printable link (.tail _ mem))
      (fun link mem => returns link (.tail _ mem)) (Nat.le_of_succ_le_succ enough)
    -- what follows the operand is a comparison, or what stops the chain
    have next : Stops .sum (linkLexemes more ++ rest) := by
      cases more with
      | nil => exact stops.mono (by decide)
      | cons link more =>
        obtain ⟨op, e⟩ := link
        cases op <;> exact stops_of_lt rfl (by decide)
    have read := (returns _ (.head _)).operand .sum room _ next
    have takes : e.takesAt .sum ≤ room ∧ linksTakes more ≤ room ↔
        linksTakes ((op, e) :: more) ≤ room := by
      rw [linksTakes, ← Tree.takesAt]
      omega
    rw [linkLexemes, List.append_assoc, List.append_assoc]
    refine .free (reads_comparisonOp op ?_) (Reads.of_iff (.bind read (.last others (.pure _ _))) takes)
    have starts : StartsAt .sum (e.operand .sum ++ (linkLexemes more ++ rest)) :=
      (first.startsAt _).grouped
    exact starts.ne (by decide)

theorem length_le_linkLexemes (links : List (Comparison × Tree)) :
    links.length ≤ (linkLexemes links).length := by
  induction links with
  | nil => exact Nat.le_refl _
  | cons link more ih =>
    obtain ⟨op, e⟩ := link
    have pos : 0 < op.lexemes.length := by cases op <;> decide
    simp only [linkLexemes, List.length_append, List.length_cons]
    omega

/-- A first operand with comparisons behind it. -/
theorem reads_comparison {first e : Tree} {links : List (Comparison × Tree)} (hf : Returns first)
    (some : links ≠ []) (printable : ∀ link ∈ links, link.2.Printable)
    (returns : ∀ link ∈ links, Returns link.2)
    (made : Reads True (match links with
      | [] => pure first
      | [(op, right)] => pure (Tree.comparison op first right)
      | links => pure (Tree.chain first links)) rest e rest) (stops : Stops .comparison rest) :
    Reads (first.takesAt .sum ≤ room ∧ linksTakes links ≤ room) (comparison (.ofRoom room))
      (first.operand .sum ++ (linkLexemes links ++ rest)) e rest := by
  have next : Stops .sum (linkLexemes links ++ rest) := by
    cases links with
    | nil => exact absurd rfl some
    | cons link more =>
      obtain ⟨op, e⟩ := link
      cases op <;> exact stops_of_lt rfl (by decide)
  refine .bind (hf.operand .sum room _ next) (.step rfl ?_)
  refine .last (reads_readLinks printable returns ?_ stops) made
  have := length_le_linkLexemes links
  rw [List.length_append]
  omega

end Comparisons

theorem returns_comparison {op : Comparison} {left right : Tree}
    (printable : (Tree.comparison op left right).Printable) (hl : Returns left)
    (hr : Returns right) : Returns (.comparison op left right) := by
  refine returns_of_reads printable rfl fun room rest stops => ?_
  have inner : right.Printable := by
    cases printable with
    | comparison _ inner => exact inner
  have written : (Tree.comparison op left right).lexemes =
      left.operand .sum ++ linkLexemes [(op, right)] := by
    rw [Tree.lexemes, linkLexemes, linkLexemes, List.append_nil]
    rfl
  have takes : left.takesAt .sum ≤ room ∧ linksTakes [(op, right)] ≤ room ↔
      (Tree.comparison op left right).takes ≤ room := by
    rw [Tree.takes, linksTakes, linksTakes, ← Tree.takesAt, ← Tree.takesAt]
    omega
  rw [written, List.append_assoc]
  refine (reads_comparison hl (by simp) ?_ ?_ (.pure _ _) stops).of_iff takes
  · simpa using inner
  · simpa using hr

theorem returns_chain {first : Tree} {links : List (Comparison × Tree)}
    (printable : (Tree.chain first links).Printable) (hf : Returns first)
    (hl : ∀ link ∈ links, Returns link.2) : Returns (.chain first links) := by
  refine returns_of_reads printable rfl fun room rest stops => ?_
  obtain ⟨two, inner⟩ : 2 ≤ links.length ∧ ∀ link ∈ links, link.2.Printable := by
    cases printable with
    | chain _ two inner => exact ⟨two, inner⟩
  have takes : first.takesAt .sum ≤ room ∧ linksTakes links ≤ room ↔
      (Tree.chain first links).takes ≤ room := by
    rw [Tree.takes, ← Tree.takesAt]
    omega
  rw [Tree.lexemes, List.append_assoc]
  refine (reads_comparison hf ?_ inner hl ?_ stops).of_iff takes
  · rintro rfl
    cases two
  · obtain ⟨link, link', others, rfl⟩ : ∃ link link' others, links = link :: link' :: others := by
      cases links with
      | nil => cases two
      | cons link links =>
        cases links with
        | nil => exact absurd two (Nat.lt_irrefl 1)
        | cons link' others => exact ⟨link, link', others, rfl⟩
    exact .pure _ _

/-! ## Atoms -/

section Atoms

variable {rest : List Lexeme}

theorem adjacentText_of_stops (h : Stops .atom rest) : adjacentText rest = ("", rest) := by
  unfold adjacentText
  split
  · exact absurd rfl (h.ne rfl (Nat.le_refl _))
  · rfl

theorem returns_literal {value : Literal} (printable : (Tree.literal value).Printable) :
    Returns (.literal value) := by
  refine returns_of_reads printable rfl fun room rest stops => Reads.roomless ?_ room
  cases value with
  | null => exact .step rfl (.step (a := ()) rfl (.pure _ _))
  | bool b => cases b <;> exact .step rfl (.step (a := ()) rfl (.pure _ _))
  | int n => exact .step rfl (.step rfl (.pure _ _))
  | float x => exact .step rfl (.step rfl (.pure _ _))
  | text s =>
    refine .step rfl (.step rfl ?_)
    have joined : adjacentText ((Tree.literal (.text s)).lexemes ++ rest) = (s, rest) := by
      show adjacentText (.text s :: rest) = _
      rw [adjacentText, adjacentText_of_stops stops]
      dsimp only
      rw [String.append_empty]
    rw [joined]
    exact .step (a := ()) rfl (.pure _ _)

theorem returns_name {n : String} (printable : (Tree.name n).Printable) : Returns (.name n) := by
  refine returns_of_reads printable rfl fun room rest stops => Reads.roomless ?_ room
  obtain ⟨free, noLiteral⟩ : isReserved n = false ∧ wordLiteral? n = none := by
    cases printable with
    | name _ free noLiteral => exact ⟨free, noLiteral⟩
  refine .step (a := some (Lexeme.name n)) rfl ?_
  show Reads _ (if isReserved n then _ else _ : Reader Tree) _ _ _
  rw [free, if_neg Bool.false_ne_true]
  refine .step (a := ()) (t := rest) rfl ?_
  rw [noLiteral]
  exact .pure _ _

theorem returns_list {items : List Tree} (printable : (Tree.list items).Printable)
    (h : ∀ e ∈ items, Returns e) : Returns (.list items) := by
  refine returns_of_reads printable rfl fun room rest stops => ?_
  have each : ∀ e ∈ items, e.Printable := by
    cases printable with
    | list each => exact each
  rw [Tree.lexemes, List.append_assoc, Tree.takes]
  exact .step rfl (.step rfl (.last (reads_items _ _ ⟨rfl, rfl, by decide⟩ each h) (.pure _ _)))

theorem returns_set {items : List Tree} (printable : (Tree.set items).Printable)
    (h : ∀ e ∈ items, Returns e) : Returns (.set items) := by
  refine returns_of_reads printable rfl fun room rest stops => ?_
  obtain ⟨some, each⟩ : items ≠ [] ∧ ∀ e ∈ items, e.Printable := by
    cases printable with
    | set some each => exact ⟨some, each⟩
  cases items with
  | nil => exact absurd rfl some
  | cons e more =>
    have first := each e (.head _)
    have read := fun ts stops => (h e (.head _)).inside room ts stops
    refine .step (a := Option.some (Lexeme.punct .openBrace)) rfl (.step rfl ?_)
    cases more with
    | nil =>
      have takes : e.takes < room ↔ (Tree.set [e]).takes ≤ room := by
        rw [Tree.takes, itemsTakes, itemsTakes]
        omega
      show Reads _ (braces _) (e.lexemes ++ [.punct .closeBrace] ++ rest) _ _
      rw [List.append_assoc]
      refine .step (run_eatPunct_of_ne (first.head_ne _ rfl)) ?_
      refine .last ((read _ (stops_of_none rfl)).of_iff takes) ?_
      exact .step rfl (.step rfl (.step (run_expectPunct_cons _ _) (.pure _ _)))
    | cons e' more =>
      have closes : Closes .closeBrace := ⟨rfl, rfl, by decide⟩
      have others := reads_items room rest closes (fun e mem => each e (.tail _ mem))
        (fun e mem => h e (.tail _ mem))
      have takes : e.takes < room ∧ itemsTakes (e' :: more) ≤ room ↔
          (Tree.set (e :: e' :: more)).takes ≤ room := by
        rw [Tree.takes, itemsTakes.eq_def (e :: _)]
        dsimp only
        omega
      show Reads _ (braces _) (itemLexemes (e :: e' :: more) ++ [.punct .closeBrace] ++ rest) _ _
      rw [itemLexemes, List.append_assoc, List.append_assoc]
      refine .step (run_eatPunct_of_ne (first.head_ne _ rfl)) (Reads.of_iff ?_ takes)
      refine .bind (read _ (stops_of_none rfl)) ?_
      refine .step (a := false) rfl (.step (run_eatPunct_cons .comma _) ?_)
      rw [List.singleton_append]
      exact .last others (.pure _ _)

/-- An entry in front of something that continues no value. -/
theorem reads_readEntry {key e : Tree} {ts : List Lexeme} (room : Nat) (hk : Returns key) (he : Returns e)
    (stops : Stops .condition ts) :
    Reads (key.takes < room ∧ e.takes < room) (readEntry (expression (.ofRoom room)))
      (key.lexemes ++ .punct .colon :: (e.lexemes ++ ts)) (key, e) ts := by
  refine .bind (hk.inside room _ (stops_of_none rfl)) (.step (run_expectPunct_cons _ _) ?_)
  exact .last (he.inside room _ stops) (.pure _ _)

theorem stops_furtherEntryLexemes (entries : List (Tree × Tree)) (rest : List Lexeme) :
    Stops .condition (furtherEntryLexemes entries ++ .punct .closeBrace :: rest) := by
  cases entries <;> exact stops_of_none rfl

theorem reads_readEntries {entries : List (Tree × Tree)} (room : Nat) (rest : List Lexeme)
    (printable : ∀ entry ∈ entries, entry.1.Printable)
    (returns : ∀ entry ∈ entries, Returns entry.1 ∧ Returns entry.2) {steps : Nat}
    (enough : entries.length ≤ steps) :
    Reads (entriesTakes entries ≤ room) (readEntries (expression (.ofRoom room)) steps)
      (furtherEntryLexemes entries ++ .punct .closeBrace :: rest) entries
      (.punct .closeBrace :: rest) := by
  induction entries generalizing steps with
  | nil =>
    refine Reads.roomless ?_ room
    cases steps with
    | zero => exact .pure _ _
    | succ steps => exact .step (a := false) rfl (.pure _ _)
  | cons entry more ih =>
    obtain ⟨key, e⟩ := entry
    obtain ⟨steps, rfl⟩ : ∃ n, steps = n + 1 := ⟨steps - 1, by simp at enough; omega⟩
    obtain ⟨hk, he⟩ := returns _ (.head _)
    have first := reads_readEntry room hk he (stops_furtherEntryLexemes more rest)
    have others := ih (fun entry mem => printable entry (.tail _ mem))
      (fun entry mem => returns entry (.tail _ mem)) (Nat.le_of_succ_le_succ enough)
    have key_ne := (printable _ (.head _)).head_ne (p := .closeBrace)
      (.punct .colon :: (e.lexemes ++ (furtherEntryLexemes more ++ .punct .closeBrace :: rest))) rfl
    have takes : (key.takes < room ∧ e.takes < room) ∧ entriesTakes more ≤ room ↔
        entriesTakes ((key, e) :: more) ≤ room := by
      rw [entriesTakes]
      omega
    rw [furtherEntryLexemes]
    simp only [List.cons_append, List.append_assoc]
    refine .step (run_eatPunct_cons _ _) (.step (run_atPunct_of_ne key_ne) (Reads.of_iff ?_ takes))
    exact .bind first (.last others (.pure _ _))

theorem length_le_furtherEntryLexemes (entries : List (Tree × Tree)) :
    entries.length ≤ (furtherEntryLexemes entries).length := by
  induction entries with
  | nil => exact Nat.le_refl _
  | cons entry more ih =>
    obtain ⟨key, e⟩ := entry
    simp only [furtherEntryLexemes, List.length_append, List.length_cons]
    omega

theorem returns_map {entries : List (Tree × Tree)} (printable : (Tree.map entries).Printable)
    (h : ∀ entry ∈ entries, Returns entry.1 ∧ Returns entry.2) : Returns (.map entries) := by
  refine returns_of_reads printable rfl fun room rest stops => ?_
  have each : ∀ entry ∈ entries, entry.1.Printable := by
    cases printable with
    | map keys _ => exact keys
  cases entries with
  | nil =>
    refine Reads.roomless ?_ room
    refine .step (a := some (Lexeme.punct .openBrace)) rfl (.step rfl ?_)
    exact .step (a := true) rfl (.pure _ _)
  | cons entry more =>
    obtain ⟨key, e⟩ := entry
    obtain ⟨hk, he⟩ := h _ (.head _)
    have others := fun (steps : Nat) (enough : more.length ≤ steps) => reads_readEntries room rest
      (fun entry mem => each entry (.tail _ mem)) (fun entry mem => h entry (.tail _ mem)) enough
    have takes : key.takes < room ∧ e.takes < room ∧ entriesTakes more ≤ room ↔
        (Tree.map ((key, e) :: more)).takes ≤ room := by
      rw [Tree.takes, entriesTakes]
      omega
    refine .step (a := some (Lexeme.punct .openBrace)) rfl (.step rfl ?_)
    show Reads _ (braces _) (entryLexemes ((key, e) :: more) ++ [.punct .closeBrace] ++ rest) _ _
    rw [entryLexemes]
    simp only [List.cons_append, List.append_assoc, List.nil_append]
    refine .step (run_eatPunct_of_ne ((each _ (.head _)).head_ne _ rfl)) (Reads.of_iff ?_ takes)
    refine .bind (hk.inside room _ (stops_of_none rfl)) (.step (run_eatPunct_cons _ _) ?_)
    refine .bind (he.inside room _ (stops_furtherEntryLexemes more rest)) (.step rfl ?_)
    refine .last (others _ ?_) (.step (run_expectPunct_cons _ _) (.pure _ _))
    have := length_le_furtherEntryLexemes more
    rw [List.length_append]
    omega

end Atoms

/-! ## All trees -/

/-- A written tree is read back wherever it stands: by induction on the tree, one case for each kind
of node. -/
theorem returns {e : Tree} (h : e.Printable) : Returns e := by
  induction h with
  | literal value => exact returns_literal (.literal value)
  | name identifier free noLiteral => exact returns_name (.name identifier free noLiteral)
  | member pt identifier ht => exact returns_member (.member pt identifier) ht
  | item pt pi ht hi => exact returns_item (.item pt pi) ht hi
  | slice pt pstart pstop pstep ht hstart hstop hstep =>
    exact returns_slice (.slice pt pstart pstop pstep) ht hstart hstop hstep
  | call pt pargs ht hargs => exact returns_call (.call pt pargs) ht hargs
  | unary p h => exact returns_unary (.unary p) h
  | @arithmetic op left right pl pr hl hr =>
    by_cases pow : op = .pow
    · subst pow
      exact returns_pow (.arithmetic pl pr) hl hr
    · have chain : op.level.isChain = true := by cases op <;> first | rfl | exact absurd rfl pow
      have cont : (Lexeme.punct op.punct).continued = some op.level := by cases op <;> rfl
      have sides : op.left = op.level ∧ op.right = op.level.next := by
        cases op <;> first | exact ⟨rfl, rfl⟩ | exact absurd rfl pow
      refine returns_of_joins (joins_arithmetic pow) chain cont (.arithmetic pl pr) rfl ?_ rfl ?_ hl hr
      · show left.operand op.left ++ .punct op.punct :: right.operand op.right = _
        rw [sides.1, sides.2]
      · rw [Tree.takes, sides.1, sides.2]
        rfl
  | comparison pl pr hl hr => exact returns_comparison (.comparison pl pr) hl hr
  | chain pf two pl hf hl => exact returns_chain (.chain pf two pl) hf hl
  | and pl pr hl hr => exact returns_of_joins joins_and rfl rfl (.and pl pr) rfl rfl rfl rfl hl hr
  | or pl pr hl hr => exact returns_of_joins joins_or rfl rfl (.or pl pr) rfl rfl rfl rfl hl hr
  | conditional pt pb po ht hb ho => exact returns_conditional (.conditional pt pb po) ht hb ho
  | list p h => exact returns_list (.list p) h
  | set some p h => exact returns_set (.set some p) h
  | map pk pv hk hv => exact returns_map (.map pk pv) fun entry mem => ⟨hk entry mem, hv entry mem⟩

/-! ## Whole expressions -/

/-- A written tree is read back as a whole expression. -/
theorem reads_whole {e : Tree} (h : e.Printable) (room : Nat) :
    Reads (e.takes < room) (whole (readers room).expression) e.lexemes e [] := by
  have inside := (returns h).inside room [] fun _ mem => by cases mem
  rw [List.append_nil] at inside
  have read : (readers room).expression = expression (.ofRoom room) := by rw [readers_eq]; rfl
  rw [read]
  refine .last inside (.step (a := false) rfl (.step (a := e) rfl ?_))
  exact .step (a := []) rfl (.pure _ _)

/-- A text that is scanned to the lexemes of a tree is read as the tree, if there is the room that it
takes. -/
theorem parseWithin_of_scan {e : Tree} (h : e.Printable) {source : String}
    (scanned : scan source.toList = .ok e.lexemes) (room : Nat) :
    parseWithin room source = if e.takes < room then .ok e else .error .tooDeep := by
  have some : e.lexemes.isEmpty = false := by
    rw [List.isEmpty_eq_false_iff]
    exact List.ne_nil_of_length_pos h.lexemes_ne_nil
  have read : parseWithin room source =
      ((whole (readers room).expression).run e.lexemes).map Prod.fst := by
    rw [parseWithin, scanned]
    show parseLexemes room e.lexemes = _
    rw [parseLexemes, some, if_neg Bool.false_ne_true]
  rw [read]
  split
  · next enough =>
    rw [(reads_whole h room).done enough]
    rfl
  · next less =>
    rw [(reads_whole h room).refused less]
    rfl

/-- **What is written is read as the tree, if there is the room that it takes.** -/
theorem parseWithin_print_eq_ite {e : Tree} (h : e.Printable) (room : Nat) :
    parseWithin room e.print = if e.takes < room then .ok e else .error .tooDeep := by
  refine parseWithin_of_scan h ?_ room
  rw [Tree.print, String.toList_ofList, scan_spaced h.writable]

/-- What is written is read as the tree, or there is not enough room for it. -/
theorem parseWithin_print {e : Tree} (h : e.Printable) (room : Nat) :
    parseWithin room e.print = .ok e ∨
      room + 1 < 2 * e.size ∧ parseWithin room e.print = .error .tooDeep := by
  have most := e.takes_lt
  rw [parseWithin_print_eq_ite h]
  split
  · exact .inl rfl
  · exact .inr ⟨by omega, rfl⟩

/-- **The expression parser realises the precedence table.**  A tree of any size, written with
parentheses only where the table demands them, is read back as the very tree if the limit on nesting
is large enough.  With the limit as it is, the only other answer is that the expression is nested too
deeply, and up to thirty nodes the tree is read back. -/
theorem parse_print {e : Tree} (h : e.Printable) :
    (∀ limit, 2 * e.size ≤ limit → parseWithin limit e.print = .ok e) ∧
      (parse e.print = .ok e ∨
        (parse e.print).mapError SyntaxFault.message = .error "expression is too deeply nested") ∧
      (e.size ≤ 30 → parse e.print = .ok e) := by
  have answers := parseWithin_print h
  refine ⟨fun limit enough => ?_, ?_, fun small => ?_⟩
  · refine (answers limit).resolve_right fun deep => ?_
    have := deep.1
    omega
  · refine (answers maxNesting).imp id fun deep => ?_
    show (parseWithin maxNesting e.print).mapError _ = _
    rw [deep.2]
    rfl
  · refine (answers maxNesting).resolve_right fun deep => ?_
    have room : maxNesting = 100 := rfl
    have := deep.1
    omega

/-- A conditional inside of a slice, a signed exponent, and a chain with a comparison of two words. -/
def mixedTree : Tree :=
  .and
    (.arithmetic .pow
      (.slice (.conditional (.name "b") (.name "a") (.name "c")) none (some (.literal (.int 1))) none)
      (.unary .neg (.name "x")))
    (.unary .not (.chain (.name "p")
      [(.lt, .arithmetic .sub (.name "q") (.arithmetic .sub (.name "r") (.literal (.text "it's")))),
        (.notMem, .set [.literal .null])]))

theorem mixedTree_printable : mixedTree.Printable := by
  have name : ∀ n ∈ ["a", "b", "c", "p", "q", "r", "x"], Tree.Printable (.name n) := by
    have words : ∀ n ∈ ["a", "b", "c", "p", "q", "r", "x"],
        isIdentifier n = true ∧ isReserved n = false ∧ wordLiteral? n = none := by decide
    exact fun n mem => .name (words n mem).1 (words n mem).2.1 (words n mem).2.2
  have one : Tree.Printable (.literal (.int 1)) := .literal (by decide : (0 : Int) ≤ 1)
  have text : Tree.Printable (.literal (.text "it's")) := .literal trivial
  have nothing : Tree.Printable (.literal .null) := .literal trivial
  have test : Tree.Printable (.conditional (.name "b") (.name "a") (.name "c")) :=
    .conditional (name _ (by decide)) (name _ (by decide)) (name _ (by decide))
  have base : Tree.Printable (.slice (.conditional (.name "b") (.name "a") (.name "c")) none
      (some (.literal (.int 1))) none) :=
    .slice test (by rintro e ⟨⟩) (by rintro e ⟨⟩; exact one) (by rintro e ⟨⟩)
  refine .and (.arithmetic base (.unary (name "x" (by decide))))
    (.unary (.chain (name _ (by decide)) (Nat.le_refl 2) fun link mem => ?_))
  rcases List.mem_cons.1 mem with rfl | mem
  · exact .arithmetic (name _ (by decide)) (.arithmetic (name _ (by decide)) text)
  · rw [List.mem_singleton.1 mem]
    refine .set (by simp) fun e mem => ?_
    rw [List.mem_singleton.1 mem]
    exact nothing

theorem parse_print_mixedTree :
    mixedTree.print =
        "( a if b else c ) [ : 1 ] ** - x and not p < q - ( r - 'it\\'s' ) not in \x7b None \x7d" ∧
      parse mixedTree.print = .ok mixedTree :=
  ⟨rfl, (parse_print mixedTree_printable).2.2 (by decide)⟩

end TextTemplate.Expr
