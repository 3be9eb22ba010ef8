import TextTemplate.Proofs.Expr.Reading

/-!
# Delimiters behind what is read

A reader that stops in front of a delimiter does not care which one it is, nor what stands behind it:
what it gives in front of one, it gives in front of every other (`Swaps`).

A reader may ask whether a certain delimiter comes next, as lists do for their closing punctuation, so
it can tell delimiters apart if it stands in front of one from the start.  But whatever asks so goes on
to take a lexeme, and then it does not stop there.  So `Steady` keeps count of the lexemes that a reader
takes, and asks for a swap only where there are as many in front of the delimiter as it needs.  The
rules follow the steps of a reader (`Steady.bind`, `Steady.nest`).
-/

namespace TextTemplate.Expr

/-! ## Delimiters -/

/-- The punctuations that end an expression and continue none. -/
def Punct.delimits : Punct → Bool
  | .comma | .colon | .closeParen | .closeBracket | .closeBrace => true
  | _ => false

/-- A delimiter comes first. -/
def Fenced (rest : List Lexeme) : Prop := ∃ p more, rest = .punct p :: more ∧ p.delimits = true

theorem fenced_cons {p : Punct} (h : p.delimits = true) (more : List Lexeme) :
    Fenced (.punct p :: more) := ⟨p, more, rfl, h⟩

/-- A delimiter continues nothing. -/
theorem Fenced.stops {D : List Lexeme} (h : Fenced D) (level : Level) : Stops level D := by
  obtain ⟨p, more, rfl, delimits⟩ := h
  exact stops_of_none (by cases p <;> first | rfl | cases delimits)

/-! ## Steps of readers -/

section Steps

variable {α β : Type} {read read' : Reader α} {next next' : α → Reader β} {ts : List Lexeme}

theorem run_bind_ok {b : β} {rest : List Lexeme} (run : (read >>= next).run ts = .ok (b, rest)) :
    ∃ a mid, read.run ts = .ok (a, mid) ∧ (next a).run mid = .ok (b, rest) := by
  rw [StateT.run_bind] at run
  cases first : read.run ts with
  | error cause =>
    rw [first] at run
    cases run
  | ok found =>
    rw [first] at run
    exact ⟨found.1, found.2, rfl, run⟩

theorem run_bind_eq {a : α} {mid : List Lexeme} (run : read.run ts = .ok (a, mid)) :
    (read >>= next).run ts = (next a).run mid := by
  rw [StateT.run_bind, run]
  rfl

theorem run_bind_left (same : read.run ts = read'.run ts) :
    (read >>= next).run ts = (read' >>= next).run ts := by
  rw [StateT.run_bind, StateT.run_bind, same]

theorem run_bind_congr
    (h : ∀ a mid, read.run ts = .ok (a, mid) → (next a).run mid = (next' a).run mid) :
    (read >>= next).run ts = (read >>= next').run ts := by
  rw [StateT.run_bind, StateT.run_bind]
  cases first : read.run ts with
  | error cause => rfl
  | ok found => exact h found.1 found.2 first

end Steps

/-! ## Readers in front of delimiters -/

section Steady

variable {α β : Type}

/-- A reader takes lexemes from the front, and at least as many as go with what it gives. -/
def Consumes (least : α → Nat) (read : Reader α) : Prop :=
  ∀ ts a rest, read.run ts = .ok (a, rest) → rest <:+ ts ∧ rest.length + least a ≤ ts.length

/-- What a reader gives in front of one delimiter behind some lexemes, it gives in front of all. -/
def Swaps (read : Reader α) (ts : List Lexeme) : Prop :=
  ∀ D D', Fenced D → Fenced D' → ∀ a rest, read.run (ts ++ D) = .ok (a, rest ++ D) →
    read.run (ts ++ D') = .ok (a, rest ++ D')

/-- A reader does not care about the delimiter behind so many lexemes or more. -/
structure Steady (enough : Nat) (least : α → Nat) (read : Reader α) : Prop where
  consumes : Consumes least read
  swaps : ∀ ts, enough ≤ ts.length → Swaps read ts

/-- A reader that takes so many lexemes does not care about any delimiter. -/
abbrev Firm (least : Nat) (read : Reader α) : Prop := Steady 0 (fun _ => least) read

variable {read : Reader α} {next : α → Reader β} {least : α → Nat} {least' : β → Nat} {enough : Nat}

theorem Consumes.bind (h : Consumes least read)
    (h' : ∀ a, Consumes (fun b => least' b - least a) (next a)) : Consumes least' (read >>= next) := by
  intro ts b rest run
  obtain ⟨a, mid, first, second⟩ := run_bind_ok run
  obtain ⟨inside, taken⟩ := h ts a mid first
  obtain ⟨inside', taken'⟩ := h' a mid b rest second
  dsimp only at taken'
  exact ⟨inside'.trans inside, by omega⟩

/-- The first of two readers stops in front of the delimiter too, as the second one puts nothing
back. -/
theorem Steady.bind (h : Steady enough least read)
    (h' : ∀ a, Steady 0 (fun b => least' b - least a) (next a)) :
    Steady enough least' (read >>= next) where
  consumes := h.consumes.bind fun a => (h' a).consumes
  swaps := by
    intro ts long D D' fenced fenced' b rest run
    obtain ⟨a, mid, first, second⟩ := run_bind_ok run
    obtain ⟨taken, split⟩ := ((h' a).consumes mid b _ second).1
    rw [← List.append_assoc] at split
    subst split
    rw [run_bind_eq (h.swaps ts long D D' fenced fenced' a _ first)]
    exact (h' a).swaps _ (Nat.zero_le _) D D' fenced fenced' b rest second

theorem Steady.mono {fewer : α → Nat} (h : Steady enough least read) (le : ∀ a, fewer a ≤ least a) :
    Steady enough fewer read where
  consumes ts a rest run :=
    ⟨(h.consumes ts a rest run).1,
      Nat.le_trans (Nat.add_le_add_left (le a) _) (h.consumes ts a rest run).2⟩
  swaps := h.swaps

theorem Steady.loose (h : Steady enough least read) : Steady enough (fun _ => 0) read :=
  h.mono fun _ => Nat.zero_le _

theorem Firm.loose (h : Firm 1 read) : Firm 0 read := Steady.loose h

/-- A reader that takes a lexeme stops in front of no delimiter where it starts. -/
theorem Consumes.swaps_nil (h : Consumes least read) (some : ∀ a, 0 < least a) : Swaps read [] := by
  intro D D' _ _ a rest run
  have taken := (h _ a _ run).2
  have := some a
  simp only [List.length_append, List.length_nil] at taken
  omega

/-- A reader that takes a lexeme has to be looked at only where one stands in front of the
delimiter. -/
theorem Steady.strict (h : Steady 1 least read) (some : ∀ a, 0 < least a) : Steady 0 least read where
  consumes := h.consumes
  swaps ts _ := by
    cases ts with
    | nil => exact h.consumes.swaps_nil some
    | cons l ts => exact h.swaps _ (Nat.succ_pos _)

/-- A reader that looks for a delimiter first, and takes a lexeme in the end. -/
theorem Firm.look (h : Steady 1 least read) (h' : ∀ a, Steady 0 (fun _ => 1 - least a) (next a)) :
    Firm 1 (read >>= next) := .strict (.bind h h') fun _ => Nat.one_pos

/-- A reader that always fails. -/
theorem steady_of_fails (h : ∀ ts a rest, read.run ts ≠ .ok (a, rest)) : Steady enough least read :=
  ⟨fun ts a rest run => absurd run (h ts a rest), fun _ _ _ _ _ _ a _ run => absurd run (h _ a _)⟩

theorem steady_throw (cause : SyntaxFault) : Steady enough least (throw cause : Reader α) :=
  steady_of_fails fun _ _ _ run => nomatch run

theorem steady_failExpected (wanted : String) :
    Steady enough least (failExpected wanted : Reader α) :=
  steady_of_fails fun _ _ _ run => nomatch run

/-- One level deeper there is less room. -/
theorem Steady.nest {room : Nat} {read : Readers → Reader α}
    (h : ∀ less, room = less + 1 → Steady enough least (read (readersAbove (.ofRoom less)))) :
    Steady enough least ((Deeper.ofRoom room).nest read) := by
  cases room with
  | zero => exact steady_throw _
  | succ less =>
    have := h less rfl
    rwa [← readers_eq] at this

/-- A reader that never fails, and does the same in front of a delimiter as at the end. -/
theorem steady_of_run {f : List Lexeme → α × List Lexeme} (h : ∀ ts, read.run ts = .ok (f ts))
    (taken : ∀ ts, (f ts).2 <:+ ts ∧ (f ts).2.length + least (f ts).1 ≤ ts.length)
    (ends : ∀ ts, enough ≤ ts.length → ∀ D, Fenced D → f (ts ++ D) = ((f ts).1, (f ts).2 ++ D)) :
    Steady enough least read where
  consumes := by
    intro ts a rest run
    have found := Except.ok.inj ((h ts).symm.trans run)
    have := taken ts
    rwa [found] at this
  swaps := by
    intro ts long D D' fenced fenced' a rest run
    have found := Except.ok.inj ((h _).symm.trans run)
    rw [ends ts long D fenced] at found
    obtain ⟨rfl, same⟩ := Prod.mk.inj found
    rw [h, ends ts long D' fenced', List.append_cancel_right same]

theorem steady_pure {a : α} (none : least a = 0) : Steady enough least (pure a : Reader α) := by
  refine steady_of_run (f := fun ts => (a, ts)) (fun _ => rfl) (fun ts => ?_) fun _ _ _ _ => rfl
  rw [none]
  exact ⟨List.suffix_refl _, Nat.le_refl _⟩

/-- A reader that only looks at the next lexeme. -/
theorem steady_of_look {f : Option Lexeme → α} (h : ∀ ts, read.run ts = .ok (f ts.head?, ts)) :
    Steady 1 (fun _ => 0) read := by
  refine steady_of_run (f := fun ts => (f ts.head?, ts)) h
    (fun ts => ⟨List.suffix_refl _, Nat.le_refl _⟩) fun ts some D _ => ?_
  cases ts with
  | nil => cases some
  | cons l ts => rfl

/-- A reader that takes the next lexeme if it is one that delimits nothing, or if any does. -/
theorem steady_of_take {f : Option Lexeme → Bool} {read : Reader Bool}
    (h : ∀ ts, read.run ts = .ok (f ts.head?, if f ts.head? then ts.tail else ts))
    (none : f none = false) (ends : enough = 0 → ∀ p, p.delimits = true → f (some (.punct p)) = false) :
    Steady enough Bool.toNat read := by
  refine steady_of_run (f := fun ts => (f ts.head?, if f ts.head? then ts.tail else ts)) h
    (fun ts => ?_) fun ts long D fenced => ?_
  · cases ts with
    | nil => simp [none]
    | cons l ts => cases found : f (some l) <;> simp [found]
  · cases ts with
    | nil =>
      obtain ⟨p, more, rfl, delimits⟩ := fenced
      have stays := ends (Nat.eq_zero_of_le_zero long) p delimits
      simp [stays, none]
    | cons l ts => cases found : f (some l) <;> simp [found]

/-- A reader that looks at the first lexeme, and then either leaves all as it is or takes this lexeme
and goes on. -/
theorem steady_of_first (empty : ∀ a left, read.run [] = .ok (a, left) → left = [] ∧ least a = 0)
    (ends : enough = 0 → Swaps read [])
    (h : ∀ l, (∃ a, least a = 0 ∧ ∀ ts, read.run (l :: ts) = .ok (a, l :: ts)) ∨
      ∃ after, Steady 0 (fun a => least a - 1) after ∧ ∀ ts, read.run (l :: ts) = after.run ts) :
    Steady enough least read where
  consumes := by
    intro ts a rest run
    cases ts with
    | nil =>
      obtain ⟨rfl, none⟩ := empty a rest run
      exact ⟨List.suffix_refl _, by rw [none]; exact Nat.le_refl _⟩
    | cons l ts =>
      obtain ⟨b, none, stays⟩ | ⟨after, steady, goes⟩ := h l
      · obtain ⟨rfl, rfl⟩ := Prod.mk.inj (Except.ok.inj ((stays ts).symm.trans run))
        exact ⟨List.suffix_refl _, by rw [none]; exact Nat.le_refl _⟩
      · obtain ⟨inside, taken⟩ := steady.consumes ts a rest ((goes ts).symm.trans run)
        dsimp only at taken
        refine ⟨inside.trans (List.suffix_cons l ts), ?_⟩
        rw [List.length_cons]
        omega
  swaps := by
    intro ts long
    cases ts with
    | nil => exact ends (Nat.eq_zero_of_le_zero long)
    | cons l ts =>
      obtain ⟨b, none, stays⟩ | ⟨after, steady, goes⟩ := h l
      · intro D D' _ _ a rest run
        obtain ⟨rfl, same⟩ := Prod.mk.inj (Except.ok.inj ((stays _).symm.trans run))
        obtain rfl : l :: ts = rest := List.append_cancel_right same
        exact stays _
      · intro D D' fenced fenced' a rest run
        exact (goes _).trans (steady.swaps ts (Nat.zero_le _) D D' fenced fenced' a rest
          ((goes _).symm.trans run))

/-- A reader that stops in front of every delimiter at once. -/
theorem swaps_nil_of_stays {a : α} (h : ∀ D, Fenced D → read.run D = .ok (a, D)) :
    Swaps read [] := by
  intro D D' fenced fenced' b rest run
  obtain ⟨rfl, same⟩ := Prod.mk.inj (Except.ok.inj ((h D fenced).symm.trans run))
  obtain rfl : [] = rest := List.append_cancel_right same
  exact h D' fenced'

/-- A bound on the number of steps that the lexemes which are left give, if more steps make no
difference. -/
theorem steady_of_steps (read : Nat → Reader α) (h : ∀ steps, Steady enough least (read steps))
    (same : ∀ ts steps, ts.length ≤ steps → (read steps).run ts = (read ts.length).run ts) :
    Steady enough least (do read (← get).length : Reader α) where
  consumes ts a rest run := (h ts.length).consumes ts a rest run
  swaps ts long D D' fenced fenced' a rest run := by
    have steps (E : List Lexeme) (le : (ts ++ E).length ≤ (ts ++ D ++ D').length) :
        (do read (← get).length : Reader α).run (ts ++ E) =
          (read (ts ++ D ++ D').length).run (ts ++ E) := (same _ _ le).symm
    rw [steps D' (by simp only [List.length_append]; omega)]
    rw [steps D (by simp only [List.length_append]; omega)] at run
    exact (h _).swaps ts long D D' fenced fenced' a rest run

end Steady

/-! ## Lexemes in front -/

section Front

variable {p : Punct}

/-- Whether a lexeme is a certain punctuation. -/
def isPunct (p : Punct) : Option Lexeme → Bool
  | some (.punct q) => q = p
  | _ => false

/-- Whether a lexeme is a certain word. -/
def isWord (word : String) : Option Lexeme → Bool
  | some (.name n) => n = word
  | _ => false

theorem run_atPunct (p : Punct) (ts : List Lexeme) :
    (atPunct p).run ts = .ok (isPunct p ts.head?, ts) := by
  cases ts with
  | nil => rfl
  | cons l ts => cases l <;> rfl

theorem run_eatPunct (p : Punct) (ts : List Lexeme) :
    (eatPunct p).run ts =
      .ok (isPunct p ts.head?, if isPunct p ts.head? then ts.tail else ts) := by
  rw [eatPunct, run_bind_eq (run_atPunct p ts)]
  cases isPunct p ts.head? <;> rfl

theorem run_eatWord (word : String) (ts : List Lexeme) :
    (eatWord word).run ts =
      .ok (isWord word ts.head?, if isWord word ts.head? then ts.tail else ts) := by
  cases ts with
  | nil => rfl
  | cons l ts =>
    cases l with
    | name n =>
      show (if n = word then _ else _ : Reader Bool).run _ =
        .ok (decide (n = word), if decide (n = word) then _ else _)
      by_cases same : n = word <;> simp only [same, if_true, if_false, decide_true, decide_false] <;> rfl
    | _ => rfl

theorem run_anyM (ps : List Punct) (ts : List Lexeme) :
    (ps.anyM fun p => atPunct p).run ts = .ok (ps.any fun p => isPunct p ts.head?, ts) := by
  induction ps with
  | nil => rfl
  | cons p ps ih =>
    rw [List.anyM, run_bind_eq (run_atPunct p ts), List.any_cons]
    cases isPunct p ts.head? with
    | true => rfl
    | false => exact ih

theorem steady_atPunct (p : Punct) : Steady 1 (fun _ => 0) (atPunct p) :=
  steady_of_look (run_atPunct p)

theorem steady_anyM (ps : List Punct) : Steady 1 (fun _ => 0) (ps.anyM fun p => atPunct p) :=
  steady_of_look (f := fun l => ps.any fun p => isPunct p l) (run_anyM ps)

/-- A delimiter that is looked for where one more lexeme has to be taken anyway. -/
theorem steady_eatDelimiter (p : Punct) : Steady 1 Bool.toNat (eatPunct p) :=
  steady_of_take (run_eatPunct p) rfl fun zero => nomatch zero

/-- A punctuation that delimits nothing. -/
theorem steady_eatOther (h : p.delimits = false) : Steady 0 Bool.toNat (eatPunct p) := by
  refine steady_of_take (run_eatPunct p) rfl fun _ q delimits => decide_eq_false ?_
  rintro rfl
  rw [h] at delimits
  cases delimits

theorem steady_eatWord (word : String) : Steady 0 Bool.toNat (eatWord word) :=
  steady_of_take (run_eatWord word) rfl fun _ _ _ => rfl

theorem firm_expectPunct (p : Punct) : Firm 1 (expectPunct p) := by
  refine Firm.look (steady_eatDelimiter p) fun found => ?_
  cases found with
  | true => exact steady_pure rfl
  | false => exact steady_failExpected _

theorem firm_memberName : Firm 1 memberName := by
  refine .strict (steady_of_first (by rintro a rest ⟨⟩) (fun zero => nomatch zero) fun l => .inr ?_)
    fun _ => Nat.one_pos
  obtain ⟨n, rfl⟩ | other : (∃ n, l = .name n) ∨ ∀ ts, memberName.run (l :: ts) =
      (throw (.expected "attribute name" (some l)) : Reader String).run ts := by
    cases l <;> first | exact .inl ⟨_, rfl⟩ | exact .inr fun _ => rfl
  · exact ⟨pure n, steady_pure rfl, fun _ => rfl⟩
  · exact ⟨_, steady_throw _, other⟩

/-- The operators of a level are taken. -/
theorem steady_sumOp : Steady 0 (fun op => op.isSome.toNat) sumOp := by
  refine .bind (steady_eatOther rfl) fun plus => ?_
  cases plus with
  | true => exact steady_pure rfl
  | false =>
    refine .bind (steady_eatOther rfl) fun minus => ?_
    cases minus with
    | true => exact steady_pure rfl
    | false => exact steady_pure rfl

theorem steady_productOp : Steady 0 (fun op => op.isSome.toNat) productOp := by
  refine .bind (steady_eatOther rfl) fun found => ?_
  cases found with
  | true => exact steady_pure rfl
  | false =>
    refine .bind (steady_eatOther rfl) fun found => ?_
    cases found with
    | true => exact steady_pure rfl
    | false =>
      refine .bind (steady_eatOther rfl) fun found => ?_
      cases found with
      | true => exact steady_pure rfl
      | false =>
        refine .bind (steady_eatOther rfl) fun found => ?_
        cases found with
        | true => exact steady_pure rfl
        | false => exact steady_pure rfl

/-- A comparison is no longer than what is there. -/
theorem comparisonAhead?_le {ts : List Lexeme} {op : Comparison} {count : Nat}
    (h : comparisonAhead? ts = some (op, count)) : 0 < count ∧ count ≤ ts.length := by
  unfold comparisonAhead? at h
  split at h <;> cases h <;> exact ⟨by decide, by simp⟩

theorem comparisonAhead?_cons_cons (l l' : Lexeme) (ts D : List Lexeme) :
    comparisonAhead? (l :: l' :: (ts ++ D)) = comparisonAhead? (l :: l' :: ts) := by
  cases l with
  | name n =>
    by_cases is : n = "is"
    · subst is
      by_cases not : l' = .name "not"
      · rw [not]
        rfl
      · have other : ∀ rest, l' :: rest = .name "not" :: rest → False := by
          rintro _ ⟨⟩
          exact not rfl
        rw [comparisonAhead?.eq_10, comparisonAhead?.eq_10] <;> rintro _ ⟨⟩ <;> exact not rfl
    · unfold comparisonAhead?
      split <;> simp_all
  | punct p => cases p <;> rfl
  | _ => rfl

/-- No delimiter is part of a comparison. -/
theorem comparisonAhead?_append (ts : List Lexeme) {D : List Lexeme} (fenced : Fenced D) :
    comparisonAhead? (ts ++ D) = comparisonAhead? ts := by
  obtain ⟨p, more, rfl, delimits⟩ := fenced
  rcases ts with _ | ⟨l, _ | ⟨l', ts⟩⟩
  · cases p <;> first | rfl | cases delimits
  · show comparisonAhead? (l :: .punct p :: more) = comparisonAhead? [l]
    unfold comparisonAhead?
    split <;> simp_all
  · exact comparisonAhead?_cons_cons l l' ts _

theorem run_comparisonOp (ts : List Lexeme) :
    comparisonOp.run ts = .ok (match comparisonAhead? ts with
      | none => (none, ts)
      | some (op, count) => (some op, ts.drop count)) := by
  show (match comparisonAhead? ts with | none => _ | some (op, count) => _ : Reader _).run ts = _
  cases comparisonAhead? ts <;> rfl

theorem steady_comparisonOp : Steady 0 (fun op => op.isSome.toNat) comparisonOp := by
  refine steady_of_run run_comparisonOp (fun ts => ?_) fun ts _ D fenced => ?_
  · cases ahead : comparisonAhead? ts with
    | none => exact ⟨List.suffix_refl _, Nat.le_refl _⟩
    | some found =>
      have := comparisonAhead?_le ahead
      refine ⟨List.drop_suffix _ _, ?_⟩
      rw [List.length_drop]
      show _ + 1 ≤ _
      omega
  · rw [comparisonAhead?_append ts fenced]
    cases ahead : comparisonAhead? ts with
    | none => rfl
    | some found =>
      dsimp only
      rw [List.drop_append_of_le_length (comparisonAhead?_le ahead).2]

/-- Adjacent texts end in front of a delimiter. -/
theorem adjacentText_append (ts : List Lexeme) {D : List Lexeme} (fenced : Fenced D) :
    adjacentText (ts ++ D) = ((adjacentText ts).1, (adjacentText ts).2 ++ D) := by
  induction ts with
  | nil =>
    obtain ⟨p, more, rfl, -⟩ := fenced
    rfl
  | cons l ts ih =>
    cases l with
    | text s =>
      rw [List.cons_append, adjacentText, adjacentText, ih]
    | _ => rfl

theorem adjacentText_suffix (ts : List Lexeme) : (adjacentText ts).2 <:+ ts := by
  induction ts with
  | nil => exact List.suffix_refl _
  | cons l ts ih =>
    cases l with
    | text s => exact ih.trans (List.suffix_cons _ _)
    | _ => exact List.suffix_refl _

/-- The texts that follow a text, which is all that an atom does with them. -/
theorem steady_adjacent {α : Type} (give : String → α) :
    Steady 0 (fun _ => 0) (do
      let (text, rest) := adjacentText (← get)
      set rest
      return give text : Reader α) :=
  steady_of_run (f := fun ts => (give (adjacentText ts).1, (adjacentText ts).2)) (fun _ => rfl)
    (fun ts => ⟨adjacentText_suffix ts, (adjacentText_suffix ts).length_le⟩)
    fun ts _ D fenced => by rw [adjacentText_append ts fenced]

end Front

end TextTemplate.Expr
