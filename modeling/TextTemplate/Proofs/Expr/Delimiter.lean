import TextTemplate.Proofs.Expr.Steady

/-!
# Delimiters behind an expression

No reader of expressions cares which delimiter stands behind what it reads (`settled`): an expression
that is read in front of a closing bracket is read in front of a comma too, and the other way round.
All readers of a level of room are looked at together (`Settled`), by induction on the room.

The steps that lists, maps and comparisons take are bounded by the number of lexemes that are left, and
this depends on what stands behind the delimiter.  But more steps than lexemes make no difference.
-/

namespace TextTemplate.Expr

/-! ## Lists of expressions -/

section Items

variable {item : Reader Tree} (h : Firm 1 item)

include h

theorem firm_readItems (closing : Punct) (steps : Nat) : Firm 1 (readItems item closing steps) := by
  induction steps with
  | zero => exact steady_failExpected _
  | succ steps ih =>
    refine Firm.look (steady_eatDelimiter closing) fun closed => ?_
    cases closed with
    | true => exact steady_pure rfl
    | false =>
      refine .bind h fun first => Firm.loose (Firm.look (steady_eatDelimiter .comma) fun comma => ?_)
      cases comma with
      | true => exact .bind ih.loose fun rest => steady_pure rfl
      | false => exact .bind (firm_expectPunct closing) fun _ => steady_pure rfl

/-- More steps than there are lexemes make no difference. -/
theorem run_readItems_steps (closing : Punct) {ts : List Lexeme} {steps more : Nat}
    (enough : ts.length < steps) (enough' : ts.length < more) :
    (readItems item closing steps).run ts = (readItems item closing more).run ts := by
  induction steps generalizing ts more with
  | zero => cases enough
  | succ steps ih =>
    cases more with
    | zero => cases enough'
    | succ more =>
      refine run_bind_congr fun closed mid run => ?_
      have taken := ((steady_eatDelimiter closing).consumes _ _ _ run).2
      cases closed with
      | true => rfl
      | false =>
        refine run_bind_congr fun first mid' run => run_bind_congr fun comma mid'' run' => ?_
        have taken' := (h.consumes _ _ _ run).2
        have taken'' := ((steady_eatDelimiter .comma).consumes _ _ _ run').2
        cases comma with
        | true => exact run_bind_left (ih (by omega) (by omega))
        | false => rfl

theorem firm_items (closing : Punct) : Firm 1 (items item closing) :=
  steady_of_steps (fun steps => readItems item closing (steps + 1))
    (fun _ => firm_readItems h closing _)
    fun _ _ enough => run_readItems_steps h closing (by omega) (Nat.lt_succ_self _)

theorem firm_readEntry : Firm 1 (readEntry item) :=
  .bind h fun _ => .bind (firm_expectPunct .colon).loose fun _ =>
    .bind h.loose fun _ => steady_pure rfl

/-- The entries that follow the first one do not stop in front of a delimiter, but what comes next
does. -/
theorem firm_readEntries {α : Type} {next : List (Tree × Tree) → Reader α}
    (h' : ∀ entries, Firm 1 (next entries)) (steps : Nat) :
    Firm 1 (readEntries item steps >>= next) := by
  induction steps generalizing next with
  | zero => exact h' []
  | succ steps ih =>
    rw [readEntries, bind_assoc]
    refine Firm.look (steady_eatDelimiter .comma) fun comma => ?_
    cases comma with
    | false => exact h' []
    | true =>
      refine Firm.loose ?_
      show Firm 1 ((atPunct .closeBrace >>= _) >>= next)
      rw [bind_assoc]
      refine Firm.look (steady_atPunct _) fun closed => ?_
      cases closed with
      | true => exact h' []
      | false =>
        show Firm 1 ((readEntry item >>= _) >>= next)
        rw [bind_assoc]
        refine .bind (firm_readEntry h) fun entry => Firm.loose ?_
        show Firm 1 ((readEntries item steps >>= _) >>= next)
        rw [bind_assoc]
        exact ih fun rest => h' (entry :: rest)

theorem run_readEntries_steps {ts : List Lexeme} {steps more : Nat} (enough : ts.length ≤ steps)
    (enough' : ts.length ≤ more) :
    (readEntries item steps).run ts = (readEntries item more).run ts := by
  induction steps generalizing ts more with
  | zero =>
    obtain rfl := List.eq_nil_of_length_eq_zero (Nat.eq_zero_of_le_zero enough)
    cases more <;> rfl
  | succ steps ih =>
    cases more with
    | zero =>
      obtain rfl := List.eq_nil_of_length_eq_zero (Nat.eq_zero_of_le_zero enough')
      rfl
    | succ more =>
      refine run_bind_congr fun comma mid run => ?_
      have taken := ((steady_eatDelimiter .comma).consumes _ _ _ run).2
      cases comma with
      | false => rfl
      | true =>
        refine run_bind_congr fun closed mid' run => ?_
        have taken' := ((steady_atPunct .closeBrace).consumes _ _ _ run).2
        cases closed with
        | true => rfl
        | false =>
          refine run_bind_congr fun entry mid'' run => ?_
          have taken'' := ((firm_readEntry h).consumes _ _ _ run).2
          dsimp only [Bool.toNat] at taken
          exact run_bind_left (ih (by omega) (by omega))

theorem run_readLinks_steps {ts : List Lexeme} {steps more : Nat} (enough : ts.length ≤ steps)
    (enough' : ts.length ≤ more) :
    (readLinks item steps).run ts = (readLinks item more).run ts := by
  induction steps generalizing ts more with
  | zero =>
    obtain rfl := List.eq_nil_of_length_eq_zero (Nat.eq_zero_of_le_zero enough)
    cases more <;> rfl
  | succ steps ih =>
    cases more with
    | zero =>
      obtain rfl := List.eq_nil_of_length_eq_zero (Nat.eq_zero_of_le_zero enough')
      rfl
    | succ more =>
      refine run_bind_congr fun op mid run => ?_
      have taken := (steady_comparisonOp.consumes _ _ _ run).2
      cases op with
      | none => rfl
      | some op =>
        refine run_bind_congr fun right mid' run => ?_
        have taken' := (h.consumes _ _ _ run).2
        dsimp only [Option.isSome, Bool.toNat] at taken
        exact run_bind_left (ih (by omega) (by omega))

/-- Comparisons end in front of a delimiter. -/
theorem firm_readLinks (steps : Nat) : Firm 0 (readLinks item steps) := by
  induction steps with
  | zero => exact steady_pure rfl
  | succ steps ih =>
    refine .bind steady_comparisonOp fun op => ?_
    cases op with
    | none => exact steady_pure rfl
    | some op => exact .bind h.loose fun right => .bind ih fun rest => steady_pure rfl

end Items

/-! ## Levels -/

/-- The readers with some room do not care about the delimiter behind what they read. -/
structure Settled (room : Nat) : Prop where
  /-- An expression inside another one. -/
  inside : Firm 1 (expression (.ofRoom room))
  read : ∀ level, Firm 1 (readAt level (.ofRoom room))
  more : ∀ level e, Firm 0 (moreAt level (.ofRoom room) e)

section Levels

variable {room : Nat}

theorem firm_slicePart (inside : Firm 1 (expression (.ofRoom room))) (delimiters : List Punct) :
    Steady 1 (fun _ => 0) (slicePart (readersAbove (.ofRoom room)) delimiters) := by
  refine .bind (steady_anyM delimiters) fun closed => ?_
  cases closed with
  | true => exact steady_pure rfl
  | false => exact .bind inside.loose fun e => steady_pure rfl

theorem firm_subscript (inside : Firm 1 (expression (.ofRoom room))) (target : Tree) :
    Firm 1 (subscript (readersAbove (.ofRoom room)) target) := by
  refine Firm.look (firm_slicePart inside _) fun start => ?_
  refine Firm.look (steady_eatDelimiter _) fun closed => ?_
  cases closed with
  | true =>
    cases start with
    | none => exact steady_throw _
    | some index => exact steady_pure rfl
  | false =>
    refine .bind (firm_expectPunct .colon) fun _ => Firm.loose ?_
    refine Firm.look (firm_slicePart inside _) fun stop => ?_
    refine Firm.look (steady_eatDelimiter _) fun colon => ?_
    cases colon with
    | true =>
      refine Firm.loose ?_
      refine Firm.look (firm_slicePart inside _) fun step => ?_
      exact .bind (firm_expectPunct .closeBracket) fun _ => steady_pure rfl
    | false =>
      have noStep : Firm 0 (pure none : Reader (Option Tree)) := steady_pure rfl
      refine .bind noStep fun step => ?_
      exact .bind (firm_expectPunct .closeBracket) fun _ => steady_pure rfl

/-- The next operand of a chain, and what follows it. -/
theorem firm_joined (below : ∀ less, room = less + 1 → Settled less) (level : Level)
    (node : Tree → Tree) (less : Nat) (eq : room = less + 1) :
    Firm 0 (do
      let right ← readAt level.next (.ofRoom less)
      moreAt level (.ofRoom less) (node right)) :=
  .bind ((below less eq).read level.next).loose fun right =>
    (below less eq).more level (node right)

theorem run_moreAccess_dot (deeper : Deeper) (target : Tree) (ts : List Lexeme) :
    (moreAccess deeper target).run (.punct .dot :: ts) = (deeper.nest fun readers => do
      let name ← memberName
      readers.moreAccess (.member target name)).run ts := by
  cases deeper <;> rfl

theorem run_moreAccess_openParen (deeper : Deeper) (target : Tree) (ts : List Lexeme) :
    (moreAccess deeper target).run (.punct .openParen :: ts) = (deeper.nest fun readers => do
      let args ← items readers.expression .closeParen
      readers.moreAccess (.call target args)).run ts := by
  cases deeper <;> rfl

theorem run_moreAccess_openBracket (deeper : Deeper) (target : Tree) (ts : List Lexeme) :
    (moreAccess deeper target).run (.punct .openBracket :: ts) = (deeper.nest fun readers => do
      let result ← subscript readers target
      readers.moreAccess result).run ts := by
  cases deeper <;> rfl

/-- Nothing else than these three goes on behind a target. -/
theorem run_moreAccess_cons (deeper : Deeper) (target : Tree) (l : Lexeme) :
    (∀ ts, (moreAccess deeper target).run (l :: ts) = .ok (target, l :: ts)) ∨
      l = .punct .dot ∨ l = .punct .openParen ∨ l = .punct .openBracket := by
  cases l with
  | punct p =>
    cases p with
    | dot => exact .inr (.inl rfl)
    | openParen => exact .inr (.inr (.inl rfl))
    | openBracket => exact .inr (.inr (.inr rfl))
    | _ => exact .inl fun _ => rfl
  | _ => exact .inl fun _ => rfl

theorem firm_moreAccess (below : ∀ less, room = less + 1 → Settled less) (target : Tree) :
    Firm 0 (moreAccess (.ofRoom room) target) := by
  have goes (less : Nat) (eq : room = less + 1) (e : Tree) : Firm 0 (moreAccess (.ofRoom less) e) :=
    (below less eq).more .access e
  refine steady_of_first ?_ (fun _ => swaps_nil_of_stays (a := target) fun D fenced => ?_) fun l => ?_
  · rintro e rest ⟨⟩
    exact ⟨rfl, rfl⟩
  · have ends : Reads True (moreAt .access (.ofRoom room) target) D target D :=
      moreAt_of_stops (fenced.stops _)
    exact ends.done trivial
  · obtain stays | rfl | rfl | rfl := run_moreAccess_cons (.ofRoom room) target l
    · exact .inl ⟨target, rfl, stays⟩
    · refine .inr ⟨_, .nest fun less eq => ?_, run_moreAccess_dot _ target⟩
      exact .bind firm_memberName.loose fun name => goes less eq _
    · refine .inr ⟨_, .nest fun less eq => ?_, run_moreAccess_openParen _ target⟩
      exact .bind (firm_items (below less eq).inside _).loose fun args =>
        goes less eq _
    · refine .inr ⟨_, .nest fun less eq => ?_, run_moreAccess_openBracket _ target⟩
      exact .bind (firm_subscript (below less eq).inside target).loose
        fun result => goes less eq _

/-- The chains of each level. -/
theorem firm_moreAt (below : ∀ less, room = less + 1 → Settled less) (level : Level) (e : Tree) :
    Firm 0 (moreAt level (.ofRoom room) e) := by
  cases level with
  | disjunction =>
    refine .bind (steady_eatWord "or") fun found => ?_
    cases found with
    | false => exact steady_pure rfl
    | true => exact .nest (firm_joined below .disjunction (.or e))
  | conjunction =>
    refine .bind (steady_eatWord "and") fun found => ?_
    cases found with
    | false => exact steady_pure rfl
    | true => exact .nest (firm_joined below .conjunction (.and e))
  | sum =>
    refine .bind steady_sumOp fun found => ?_
    cases found with
    | none => exact steady_pure rfl
    | some op => exact .nest (firm_joined below .sum (.arithmetic op e))
  | product =>
    refine .bind steady_productOp fun found => ?_
    cases found with
    | none => exact steady_pure rfl
    | some op => exact .nest (firm_joined below .product (.arithmetic op e))
  | access => exact firm_moreAccess below e
  | _ => exact steady_pure rfl

theorem firm_parentheses (inside : Firm 1 (expression (.ofRoom room))) :
    Firm 1 (parentheses (.ofRoom room)) := by
  refine Firm.look (steady_eatDelimiter _) fun closed => ?_
  cases closed with
  | true => exact steady_pure rfl
  | false =>
    refine .bind inside fun first => Firm.loose ?_
    refine Firm.look (steady_eatDelimiter _) fun closed => ?_
    cases closed with
    | true => exact steady_pure rfl
    | false =>
      refine .bind (firm_expectPunct .comma) fun _ => ?_
      exact .bind (firm_items inside _).loose fun rest => steady_pure rfl

theorem firm_braces (inside : Firm 1 (expression (.ofRoom room))) :
    Firm 1 (braces (.ofRoom room)) := by
  refine Firm.look (steady_eatDelimiter _) fun closed => ?_
  cases closed with
  | true => exact steady_pure rfl
  | false =>
    refine .bind inside fun first => Firm.loose ?_
    refine Firm.look (steady_eatDelimiter _) fun colon => ?_
    cases colon with
    | true =>
      refine .bind inside.loose fun value => Firm.loose ?_
      refine steady_of_steps (fun steps => readEntries (expression (.ofRoom room)) steps >>= _)
        (fun steps => firm_readEntries inside (fun rest => ?_) steps)
        fun ts steps enough => run_bind_left (run_readEntries_steps inside enough (Nat.le_refl _))
      exact .bind (firm_expectPunct .closeBrace) fun _ => steady_pure rfl
    | false =>
      refine Firm.look (steady_eatDelimiter _) fun comma => ?_
      cases comma with
      | true => exact .bind (firm_items inside _).loose fun rest => steady_pure rfl
      | false => exact .bind (firm_expectPunct .closeBrace) fun _ => steady_pure rfl

theorem run_atom_name (deeper : Deeper) (n : String) (ts : List Lexeme) :
    (atom deeper).run (.name n :: ts) =
      if isReserved n then .error (.expected "an expression" (some (.name n)))
      else .ok (match wordLiteral? n with
        | some value => .literal value
        | none => .name n, ts) := by
  show (if isReserved n then _ else _ : Reader Tree).run _ = _
  cases isReserved n with
  | true => rfl
  | false => cases wordLiteral? n <;> rfl

theorem run_atom_openBracket (deeper : Deeper) (ts : List Lexeme) :
    (atom deeper).run (.punct .openBracket :: ts) =
      (do return Tree.list (← items (expression deeper) .closeBracket) : Reader Tree).run ts := rfl

theorem firm_atom (inside : Firm 1 (expression (.ofRoom room))) : Firm 1 (atom (.ofRoom room)) := by
  refine .strict ?_ fun _ => Nat.one_pos
  refine steady_of_first (fun _ _ run => nomatch run) (fun zero => nomatch zero) fun l => .inr ?_
  have leaf (e : Tree) : Firm 0 (pure e : Reader Tree) := steady_pure rfl
  cases l with
  | int n => exact ⟨_, leaf _, fun _ => rfl⟩
  | float x => exact ⟨_, leaf _, fun _ => rfl⟩
  | text s => exact ⟨_, steady_adjacent fun more => .literal (.text (s ++ more)), fun _ => rfl⟩
  | name n =>
    cases reserved : isReserved n with
    | true => exact ⟨throw _, steady_throw _, fun ts => by rw [run_atom_name, reserved]; rfl⟩
    | false => exact ⟨pure _, leaf _, fun ts => by rw [run_atom_name, reserved]; rfl⟩
  | punct p =>
    cases p with
    | openParen => exact ⟨_, (firm_parentheses inside).loose, fun _ => rfl⟩
    | openBracket =>
      refine ⟨_, ?_, run_atom_openBracket _⟩
      exact .bind (firm_items inside _).loose fun all => steady_pure rfl
    | openBrace => exact ⟨_, (firm_braces inside).loose, fun _ => rfl⟩
    | _ => exact ⟨_, steady_throw _, fun _ => rfl⟩

/-- A chain of a level. -/
theorem firm_chain (below : ∀ less, room = less + 1 → Settled less) (level : Level)
    (chain : level.isChain = true) (first : Firm 1 (readAt level.next (.ofRoom room))) :
    Firm 1 (readAt level (.ofRoom room)) := by
  rw [readAt_chain chain]
  exact .bind first fun e => firm_moreAt below level e

theorem firm_power (below : ∀ less, room = less + 1 → Settled less)
    (first : Firm 1 (readAt .access (.ofRoom room))) : Firm 1 (readAt .power (.ofRoom room)) := by
  refine .bind first fun base => .bind (steady_eatOther rfl).loose fun found => ?_
  cases found with
  | false => exact steady_pure rfl
  | true =>
    have exponent : Firm 0 ((Deeper.ofRoom room).nest (·.signed)) :=
      .nest fun less eq => ((below less eq).read .sign).loose
    exact .bind exponent fun e => steady_pure rfl

theorem firm_signed (below : ∀ less, room = less + 1 → Settled less)
    (first : Firm 1 (readAt .power (.ofRoom room))) : Firm 1 (readAt .sign (.ofRoom room)) := by
  have operand : Firm 0 ((Deeper.ofRoom room).nest (·.signed)) :=
    .nest fun less eq => ((below less eq).read .sign).loose
  refine .bind (steady_eatOther rfl) fun minus => ?_
  cases minus with
  | true => exact .bind operand fun e => steady_pure rfl
  | false =>
    refine .bind (steady_eatOther rfl) fun plus => ?_
    cases plus with
    | true => exact .bind operand fun e => steady_pure rfl
    | false => exact first

theorem firm_comparison (first : Firm 1 (readAt .sum (.ofRoom room))) :
    Firm 1 (readAt .comparison (.ofRoom room)) := by
  refine .bind first fun e => ?_
  refine steady_of_steps (fun steps => readLinks (sum (.ofRoom room)) steps >>= _)
    (fun steps => .bind (firm_readLinks first steps) fun links => ?_)
    fun ts steps enough => run_bind_left (run_readLinks_steps first enough (Nat.le_refl _))
  split
  · exact steady_pure rfl
  · exact steady_pure rfl
  · exact steady_pure rfl

theorem firm_negation (below : ∀ less, room = less + 1 → Settled less)
    (first : Firm 1 (readAt .comparison (.ofRoom room))) :
    Firm 1 (readAt .negation (.ofRoom room)) := by
  have operand : Firm 0 ((Deeper.ofRoom room).nest (·.negation)) :=
    .nest fun less eq => ((below less eq).read .negation).loose
  refine .bind (steady_eatWord "not") fun found => ?_
  cases found with
  | true => exact .bind operand fun e => steady_pure rfl
  | false => exact first

theorem firm_condition (inside : Firm 1 (expression (.ofRoom room)))
    (first : Firm 1 (readAt .disjunction (.ofRoom room))) :
    Firm 1 (readAt .condition (.ofRoom room)) := by
  refine .bind first fun body => .bind (steady_eatWord "if").loose fun found => ?_
  cases found with
  | false => exact steady_pure rfl
  | true =>
    refine .bind first.loose fun test => ?_
    refine .bind (steady_eatWord "else").loose fun found => ?_
    cases found with
    | true => exact .bind inside.loose fun orelse => steady_pure rfl
    | false => exact steady_failExpected _

/-- **No reader cares which delimiter stands behind what it reads**, by induction on the room: the levels
follow one from the next tighter one. -/
theorem settled (room : Nat) : Settled room := by
  have step (room : Nat) (below : ∀ less, room = less + 1 → Settled less) : Settled room := by
    have inside : Firm 1 (expression (.ofRoom room)) :=
      .nest fun less eq => (below less eq).read .condition
    have atom : Firm 1 (readAt .atom (.ofRoom room)) := firm_atom inside
    have access := firm_chain below .access rfl atom
    have power := firm_power below access
    have sign := firm_signed below power
    have product := firm_chain below .product rfl sign
    have sum := firm_chain below .sum rfl product
    have comparison := firm_comparison sum
    have negation := firm_negation below comparison
    have conjunction := firm_chain below .conjunction rfl negation
    have disjunction := firm_chain below .disjunction rfl conjunction
    have condition := firm_condition inside disjunction
    refine ⟨inside, fun level => ?_, firm_moreAt below⟩
    cases level <;> assumption
  induction room with
  | zero => exact step 0 fun _ eq => nomatch eq
  | succ room ih => exact step (room + 1) fun less eq => by cases eq; exact ih

end Levels

end TextTemplate.Expr
