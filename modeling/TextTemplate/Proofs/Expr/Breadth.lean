import TextTemplate.Proofs.Expr.Boundary
import TextTemplate.Proofs.Expr.Counter
import TextTemplate.Proofs.Expr.Descent
import TextTemplate.Proofs.Value.Spelling

/-!
# Breadth is no depth

If each of some items is read alone between brackets, then all of them are read between one pair of
brackets, however many they are.  The items of a list all have the room that a lone item has, and what
stands behind an item makes no difference: a comma, or what closes the list (`settled`).

From what a lone item between brackets is read as follows how the item itself is read (`Lone`): the tree
tells at which level it was read, and there the brackets were taken off.  An item that ends with a comma
is no such item, as the comma would stand between it and what closes the list.
-/

namespace TextTemplate.Expr

open TextTemplate.Value (listed further further_cons toList_intercalate listedLexemes furtherLexemes
  furtherLexemes_cons exists_forall₂)

/-! ## Items -/

/-- An item that is read in front of what closes it, and that nothing has closed before. -/
structure Lone (item : Reader Tree) (closing : Punct) (lexemes : List Lexeme) (e : Tree) : Prop where
  read : item.run (lexemes ++ [Lexeme.punct closing]) = .ok (e, [.punct closing])
  starts : (lexemes ++ [Lexeme.punct closing]).head? ≠ some (Lexeme.punct closing)

/-- The last lexeme is no comma. -/
def NoTrailingComma (lexemes : List Lexeme) : Prop := ¬ [Lexeme.punct .comma] <:+ lexemes

section Items

variable {item : Reader Tree} {closing : Punct} {lexemes ts rest : List Lexeme} {e : Tree}

theorem eq_cons_of_eatPunct {p : Punct} (run : (eatPunct p).run ts = .ok (true, rest)) :
    ts = .punct p :: rest := by
  obtain ⟨found, left⟩ := Prod.mk.inj (Except.ok.inj ((run_eatPunct p ts).symm.trans run))
  rw [found, if_pos rfl] at left
  subst left
  cases ts with
  | nil => cases found
  | cons l ts =>
    cases l with
    | punct q =>
      obtain rfl : q = p := of_decide_eq_true found
      rfl
    | _ => cases found

theorem head_ne_of_eatPunct {p : Punct} (run : (eatPunct p).run ts = .ok (false, rest)) :
    ts.head? ≠ some (.punct p) := by
  intro head
  obtain ⟨found, -⟩ := Prod.mk.inj (Except.ok.inj ((run_eatPunct p ts).symm.trans run))
  rw [head] at found
  exact of_decide_eq_false found rfl

theorem eq_cons_of_expectPunct {p : Punct} (run : (expectPunct p).run ts = .ok ((), rest)) :
    ts = .punct p :: rest := by
  obtain ⟨found, mid, look, run⟩ := run_bind_ok run
  cases found with
  | true =>
    cases run
    exact eq_cons_of_eatPunct look
  | false => cases run

/-- There are no items only if all is closed at once. -/
theorem eq_cons_of_readItems {steps : Nat}
    (run : (readItems item closing steps).run ts = .ok ([], rest)) : ts = .punct closing :: rest := by
  cases steps with
  | zero => cases run
  | succ steps =>
    obtain ⟨closed, mid, look, run⟩ := run_bind_ok run
    cases closed with
    | true =>
      cases run
      exact eq_cons_of_eatPunct look
    | false =>
      obtain ⟨first, mid, -, run⟩ := run_bind_ok run
      obtain ⟨comma, mid, -, run⟩ := run_bind_ok run
      cases comma with
      | true =>
        obtain ⟨others, mid, -, run⟩ := run_bind_ok run
        cases run
      | false =>
        obtain ⟨_, mid, -, run⟩ := run_bind_ok run
        cases run

/-- What ends in front of the last lexeme of a list is the end of all but that lexeme. -/
theorem trailing_of_suffix {p q : Punct} (h : [.punct p, .punct q] <:+ lexemes ++ [.punct q]) :
    [Lexeme.punct p] <:+ lexemes := by
  have both : [Lexeme.punct p] ++ [Lexeme.punct q] <:+ lexemes ++ [.punct q] := h
  exact ((List.suffix_append_inj_of_length_eq rfl).1 both).1

/-- A list with one item holds nothing but the item. -/
theorem lone_of_items (firm : Firm 1 item) (noComma : NoTrailingComma lexemes)
    (run : (items item closing).run (lexemes ++ [Lexeme.punct closing]) = .ok ([e], [])) :
    Lone item closing lexemes e := by
  obtain ⟨closed, mid, look, run⟩ :=
    run_bind_ok (show (readItems item closing (_ + 1)).run _ = _ from run)
  cases closed with
  | true => cases run
  | false =>
    have starts := head_ne_of_eatPunct look
    obtain rfl := leaves_eatPunct closing _ _ look
    obtain ⟨first, mid, read, run⟩ := run_bind_ok run
    obtain ⟨comma, mid', look, run⟩ := run_bind_ok run
    cases comma with
    | true =>
      obtain ⟨others, mid'', more, run⟩ := run_bind_ok run
      cases run
      -- nothing stands behind the comma, so it is the last lexeme of the item
      obtain rfl := eq_cons_of_readItems more
      obtain rfl := eq_cons_of_eatPunct look
      exact absurd (trailing_of_suffix (firm.consumes _ _ _ read).1) noComma
    | false =>
      rw [leaves_eatPunct .comma _ _ look] at run
      obtain ⟨_, left, close, run⟩ := run_bind_ok run
      cases run
      rw [eq_cons_of_expectPunct close] at read
      exact ⟨read, starts⟩

theorem Lone.ne_nil (h : Lone item closing lexemes e) : lexemes ≠ [] := by
  rintro rfl
  exact h.starts rfl

theorem Lone.head_ne (h : Lone item closing lexemes e) (behind : List Lexeme) :
    (lexemes ++ behind).head? ≠ some (.punct closing) := by
  have starts := h.starts
  cases lexemes with
  | nil => exact absurd rfl h.ne_nil
  | cons l ls => exact starts

/-- An item is read in front of any other delimiter too. -/
theorem Lone.behind (h : Lone item closing lexemes e) (firm : Firm 1 item)
    (delimits : closing.delimits = true) {D : List Lexeme} (fenced : Fenced D) :
    item.run (lexemes ++ D) = .ok (e, D) :=
  firm.swaps lexemes (Nat.zero_le _) [.punct closing] D (fenced_cons delimits []) fenced e [] h.read

/-- **All items are read**, if each one is read alone. -/
theorem run_readItems_listed (firm : Firm 1 item) (delimits : closing.delimits = true)
    (other : closing ≠ .comma) {groups : List (List Lexeme)} {es : List Tree}
    (lone : List.Forall₂ (Lone item closing) groups es) (some : groups ≠ []) {steps : Nat}
    (enough : (listedLexemes groups).length < steps) :
    (readItems item closing steps).run (listedLexemes groups ++ [.punct closing]) = .ok (es, []) := by
  induction lone generalizing steps with
  | nil => exact absurd rfl some
  | @cons group e groups es first others ih =>
    obtain ⟨steps, rfl⟩ : ∃ n, steps = n + 1 := ⟨steps - 1, by omega⟩
    have noComma : [Lexeme.punct closing].head? ≠ .some (.punct .comma) := by
      rintro ⟨⟩
      exact other rfl
    cases others with
    | nil =>
      have lexemes : listedLexemes [group] = group := List.append_nil group
      rw [lexemes, readItems, run_bind_eq (run_eatPunct_of_ne first.starts)]
      rw [if_neg Bool.false_ne_true, run_bind_eq first.read, run_bind_eq (run_eatPunct_of_ne noComma)]
      rw [if_neg Bool.false_ne_true, run_bind_eq (run_expectPunct_cons closing [])]
      rfl
    | @cons group' e' groups es second others =>
      have lexemes : listedLexemes (group :: group' :: groups) ++ [.punct closing] =
          group ++ .punct .comma :: (listedLexemes (group' :: groups) ++ [.punct closing]) := by
        simp [listedLexemes, furtherLexemes_cons]
      have shorter : (listedLexemes (group' :: groups)).length < steps := by
        have := congrArg List.length lexemes
        simp only [List.length_append, List.length_cons, List.length_nil] at this
        omega
      have read := first.behind firm delimits
        (fenced_cons (p := .comma) rfl (listedLexemes (group' :: groups) ++ [.punct closing]))
      rw [lexemes, readItems, run_bind_eq (run_eatPunct_of_ne (first.head_ne _))]
      rw [if_neg Bool.false_ne_true, run_bind_eq read, run_bind_eq (run_eatPunct_cons _ _), if_pos rfl]
      rw [run_bind_eq (ih (List.cons_ne_nil _ _) shorter)]
      rfl

theorem run_items_listed (firm : Firm 1 item) (delimits : closing.delimits = true)
    (other : closing ≠ .comma) {groups : List (List Lexeme)} {es : List Tree}
    (lone : List.Forall₂ (Lone item closing) groups es) (some : groups ≠ []) :
    (items item closing).run (listedLexemes groups ++ [.punct closing]) = .ok (es, []) := by
  refine run_readItems_listed firm delimits other lone some ?_
  simp only [List.length_append]
  omega

end Items

/-! ## Brackets -/

section Brackets

variable {room : Nat} {lexemes ts rest : List Lexeme} {groups : List (List Lexeme)} {e : Tree}
  {es : List Tree}

/-- What is read at its own level, and not continued, is read as an expression. -/
theorem run_condition (own : Level) (run : (readAt own (.ofRoom room)).run ts = .ok (e, rest))
    (starts : StartsAt own ts) (stops : Stops .condition rest) :
    (condition (.ofRoom room)).run ts = .ok (e, rest) := by
  have read : Reads True (readAt own (.ofRoom room)) ts e rest :=
    ⟨fun _ => run, fun never => absurd trivial never⟩
  have outside : Reads True (readAt .condition (.ofRoom room)) ts e rest :=
    reads_of_le (Nat.zero_le _) read starts stops
  exact outside.done trivial

theorem stops_nil (level : Level) : Stops level [] := fun _ mem => nomatch mem

/-- The item of a list with one item. -/
theorem lone_of_list (noComma : NoTrailingComma lexemes)
    (run : (condition (.ofRoom room)).run
      (.punct .openBracket :: (lexemes ++ [Lexeme.punct .closeBracket])) = .ok (.list [e], [])) :
    Lone (expression (.ofRoom room)) .closeBracket lexemes e := by
  have read := run_level .condition .atom run (by decide) (Nat.le_refl _)
  obtain ⟨all, mid, read, give⟩ := run_bind_ok ((run_atom_openBracket _ _).symm.trans read)
  cases give
  exact lone_of_items (settled room).inside noComma read

theorem run_list (lone : List.Forall₂ (Lone (expression (.ofRoom room)) .closeBracket) groups es)
    (some : groups ≠ []) :
    (condition (.ofRoom room)).run
      (.punct .openBracket :: (listedLexemes groups ++ [Lexeme.punct .closeBracket])) =
      .ok (.list es, []) := by
  have read := run_items_listed (settled room).inside rfl (by decide) lone some
  refine run_condition .atom ?_ ⟨_, _, .atom, rfl, rfl, Nat.le_refl _⟩ (stops_nil _)
  exact (run_atom_openBracket _ _).trans (run_bind_eq read)

/-- The name and the argument of a call with one argument. -/
theorem lone_of_call {f : String} (noComma : NoTrailingComma lexemes)
    (run : (condition (.ofRoom (room + 1))).run
      (.name f :: .punct .openParen :: (lexemes ++ [Lexeme.punct .closeParen])) =
      .ok (.call (.name f) [e], [])) :
    isReserved f = false ∧ wordLiteral? f = none ∧
      Lone (expression (.ofRoom room)) .closeParen lexemes e := by
  have access := run_level .condition .access run (by decide) (Nat.le_refl _)
  obtain ⟨callee, mid, first, more⟩ := run_bind_ok
    (show (atom (.ofRoom (room + 1)) >>= moreAccess (.ofRoom (room + 1))).run _ = _ from access)
  rw [run_atom_name] at first
  cases reserved : isReserved f with
  | true =>
    rw [reserved] at first
    cases first
  | false =>
    rw [reserved] at first
    obtain ⟨word, rfl⟩ := Prod.mk.inj (Except.ok.inj first)
    have single : callee.links .access = 0 := by
      rw [← word]
      cases wordLiteral? f <;> rfl
    have more := (run_moreAccess_openParen _ _ _).symm.trans more
    obtain ⟨less, eq, more⟩ := run_nest_ok more
    obtain rfl := Nat.succ.inj eq
    obtain ⟨args, mid, read, more⟩ := run_bind_ok more
    obtain ⟨same, rfl⟩ | ⟨-, longer⟩ := moreAt_continues room .access _ _ _ _ more
    · cases same
      refine ⟨rfl, ?_, lone_of_items (settled room).inside noComma read⟩
      cases named : wordLiteral? f with
      | none => rfl
      | some value =>
        rw [named] at word
        cases word
    · -- what is called after a call has more than one access
      have call : Extends .access callee (.call callee args) := ⟨rfl, rfl⟩
      rw [call.links rfl, single] at longer
      exact absurd longer (Nat.lt_irrefl 1)

theorem run_call {f : String} (free : isReserved f = false) (noWord : wordLiteral? f = none)
    (lone : List.Forall₂ (Lone (expression (.ofRoom room)) .closeParen) groups es)
    (some : groups ≠ []) :
    (condition (.ofRoom (room + 1))).run
      (.name f :: .punct .openParen :: (listedLexemes groups ++ [Lexeme.punct .closeParen])) =
      .ok (.call (.name f) es, []) := by
  have read := run_items_listed (settled room).inside rfl (by decide) lone some
  have name (ts : List Lexeme) :
      (atom (.ofRoom (room + 1))).run (.name f :: ts) = .ok (.name f, ts) := by
    rw [run_atom_name, free, noWord]
    rfl
  have noNot : f ≠ "not" := by
    rintro rfl
    cases free
  have starts : (Lexeme.name f).opens = Option.some .atom := by
    rw [Lexeme.opens, if_neg noNot, free]
    rfl
  refine run_condition .access ?_ ⟨_, _, .atom, rfl, starts, by decide⟩ (stops_nil _)
  refine (run_bind_eq (name _)).trans ((run_moreAccess_openParen _ _ _).trans ?_)
  exact (run_nest_succ room _ _).trans (run_bind_eq read)

end Brackets

/-! ## Entries -/

/-- An entry of a map with a text as its key, whose value is read in front of the closing brace. -/
def Entry (item : Reader Tree) (lexemes : List Lexeme) (entry : Tree × Tree) : Prop :=
  ∃ s value, lexemes = .text s :: .punct .colon :: value ∧ entry.1 = .literal (.text s) ∧
    item.run (value ++ [Lexeme.punct .closeBrace]) = .ok (entry.2, [.punct .closeBrace])

section Entries

variable {room : Nat} {lexemes : List Lexeme} {groups : List (List Lexeme)} {entry : Tree × Tree}
  {entries : List (Tree × Tree)}

/-- A text in front of a colon is read as a literal. -/
theorem run_key (room : Nat) (s : String) (ts : List Lexeme) :
    (expression (.ofRoom (room + 1))).run (.text s :: .punct .colon :: ts) =
      .ok (.literal (.text s), .punct .colon :: ts) := by
  have text : s ++ "" = s := String.append_empty
  have atom : (atom (.ofRoom room)).run (.text s :: .punct .colon :: ts) =
      .ok (.literal (.text (s ++ "")), .punct .colon :: ts) := rfl
  rw [text] at atom
  refine (run_nest_succ room (·.condition) _).trans ?_
  exact run_condition .atom atom ⟨_, _, .atom, rfl, rfl, Nat.le_refl _⟩ (stops_of_none rfl)

theorem Entry.head_ne {item : Reader Tree} (h : Entry item lexemes entry) (p : Punct)
    (behind : List Lexeme) : (lexemes ++ behind).head? ≠ some (.punct p) := by
  obtain ⟨s, value, rfl, -, -⟩ := h
  rintro ⟨⟩

/-- An entry is read in front of any other delimiter too. -/
theorem Entry.behind (h : Entry (expression (.ofRoom (room + 1))) lexemes entry) {D : List Lexeme}
    (fenced : Fenced D) :
    (readEntry (expression (.ofRoom (room + 1)))).run (lexemes ++ D) = .ok (entry, D) := by
  obtain ⟨s, value, rfl, key, read⟩ := h
  have firm := (settled (room + 1)).inside
  have read := firm.swaps value (Nat.zero_le _) _ D (fenced_cons rfl []) fenced entry.2 [] read
  rw [readEntry, List.cons_append, List.cons_append, run_bind_eq (run_key room s _)]
  rw [run_bind_eq (run_expectPunct_cons .colon _), run_bind_eq read, ← key]
  rfl

/-- Behind an entry stands a comma, or what closes the map. -/
theorem fenced_further (groups : List (List Lexeme)) (closing : Punct)
    (delimits : closing.delimits = true) : Fenced (furtherLexemes groups ++ [.punct closing]) := by
  cases groups with
  | nil => exact fenced_cons delimits []
  | cons group groups =>
    rw [furtherLexemes_cons]
    exact fenced_cons rfl _

theorem run_readEntries_further
    (each : List.Forall₂ (Entry (expression (.ofRoom (room + 1)))) groups entries) {steps : Nat}
    (enough : (furtherLexemes groups).length ≤ steps) :
    (readEntries (expression (.ofRoom (room + 1))) steps).run
      (furtherLexemes groups ++ [.punct .closeBrace]) = .ok (entries, [.punct .closeBrace]) := by
  induction each generalizing steps with
  | nil => cases steps <;> rfl
  | @cons group entry groups entries first others ih =>
    rw [furtherLexemes_cons, List.length_cons, List.length_append] at enough
    obtain ⟨steps, rfl⟩ : ∃ n, steps = n + 1 := ⟨steps - 1, by omega⟩
    have read := first.behind (fenced_further groups .closeBrace rfl)
    rw [furtherLexemes_cons, List.cons_append, List.append_assoc, readEntries]
    rw [run_bind_eq (run_eatPunct_cons .comma _)]
    rw [if_pos rfl]
    rw [run_bind_eq (run_atPunct_of_ne (first.head_ne _ _)), if_neg Bool.false_ne_true]
    rw [run_bind_eq read, run_bind_eq (ih (by omega))]
    rfl

/-- There are no further entries only if no comma follows, or if one follows in front of what closes
the map. -/
theorem eq_of_readEntries {item : Reader Tree} {steps : Nat} {ts rest : List Lexeme}
    (run : (readEntries item steps).run ts = .ok ([], rest)) :
    ts = rest ∨ ts = .punct .comma :: rest := by
  cases steps with
  | zero =>
    cases run
    exact .inl rfl
  | succ steps =>
    obtain ⟨comma, mid, look, run⟩ := run_bind_ok run
    cases comma with
    | false =>
      cases run
      exact .inl (leaves_eatPunct .comma _ _ look).symm
    | true =>
      obtain ⟨closed, mid', look', run⟩ := run_bind_ok run
      cases closed with
      | true =>
        cases run
        obtain ⟨-, same⟩ := Prod.mk.inj (Except.ok.inj ((run_atPunct _ _).symm.trans look'))
        exact .inr (same ▸ eq_cons_of_eatPunct look)
      | false =>
        obtain ⟨entry, mid, -, run⟩ := run_bind_ok run
        obtain ⟨others, mid, -, run⟩ := run_bind_ok run
        cases run

/-- The entry of a map with one entry. -/
theorem entry_of_map {s : String} {value : List Lexeme} (noComma : NoTrailingComma value)
    (run : (condition (.ofRoom (room + 1))).run (.punct .openBrace :: .text s :: .punct .colon ::
      (value ++ [Lexeme.punct .closeBrace])) = .ok (.map [entry], [])) :
    Entry (expression (.ofRoom (room + 1))) (.text s :: .punct .colon :: value) entry := by
  have read := run_level .condition .atom run (by decide) (Nat.le_refl _)
  have run : (braces (.ofRoom (room + 1))).run (.text s :: .punct .colon ::
    (value ++ [Lexeme.punct .closeBrace])) = .ok (.map [entry], []) := read
  have noBrace : (Lexeme.text s :: .punct .colon :: (value ++ [Lexeme.punct .closeBrace])).head? ≠
      some (.punct .closeBrace) := by rintro ⟨⟩
  rw [braces, run_bind_eq (run_eatPunct_of_ne noBrace), if_neg Bool.false_ne_true] at run
  rw [run_bind_eq (run_key room s _), run_bind_eq (run_eatPunct_cons .colon _), if_pos rfl] at run
  obtain ⟨e, mid, first, run⟩ := run_bind_ok run
  obtain ⟨_, _, ⟨⟩, run⟩ := run_bind_ok run
  obtain ⟨others, mid', more, run⟩ := run_bind_ok run
  obtain ⟨_, left, close, run⟩ := run_bind_ok run
  cases run
  obtain rfl := eq_cons_of_expectPunct close
  obtain rfl | rfl := eq_of_readEntries more
  · exact ⟨s, value, rfl, rfl, first⟩
  · exact absurd (trailing_of_suffix ((settled (room + 1)).inside.consumes _ _ _ first).1) noComma

theorem run_map (each : List.Forall₂ (Entry (expression (.ofRoom (room + 1)))) groups entries)
    (some : groups ≠ []) :
    (condition (.ofRoom (room + 1))).run
      (.punct .openBrace :: (listedLexemes groups ++ [Lexeme.punct .closeBrace])) =
      .ok (.map entries, []) := by
  refine run_condition .atom ?_ ⟨_, _, .atom, rfl, rfl, Nat.le_refl _⟩ (stops_nil _)
  show (braces (.ofRoom (room + 1))).run (listedLexemes groups ++ [Lexeme.punct .closeBrace]) = _
  cases each with
  | nil => exact absurd rfl some
  | @cons group entry groups entries first others =>
    have noBrace := first.head_ne .closeBrace (furtherLexemes groups ++ [.punct .closeBrace])
    obtain ⟨s, value, rfl, key, read⟩ := first
    have firm := (settled (room + 1)).inside
    have fenced := fenced_further groups .closeBrace rfl
    have read := firm.swaps value (Nat.zero_le _) _ _ (fenced_cons rfl []) fenced entry.2 [] read
    have enough : (furtherLexemes groups).length ≤
        (furtherLexemes groups ++ [Lexeme.punct .closeBrace]).length := by simp
    have more := run_readEntries_further others enough
    rw [listedLexemes, List.append_assoc]
    rw [braces, run_bind_eq (run_eatPunct_of_ne noBrace), if_neg Bool.false_ne_true]
    rw [List.cons_append, List.cons_append, run_bind_eq (run_key room s _)]
    rw [run_bind_eq (run_eatPunct_cons .colon _), if_pos rfl, run_bind_eq read, List.nil_append]
    have look : (get : Reader (List Lexeme)).run (furtherLexemes groups ++ [.punct .closeBrace]) =
      .ok (_, _) := rfl
    rw [run_bind_eq look, run_bind_eq more, run_bind_eq (run_expectPunct_cons .closeBrace []), ← key]
    rfl

end Entries

/-! ## Texts -/

section Texts

variable {room : Nat} {source : String} {ts : List Lexeme} {e : Tree} {d : Char} {p : Punct}

theorem scan_of_parseWithin {limit : Nat} (parsed : parseWithin limit source = .ok e) :
    ∃ ts, scan source.toList = .ok ts ∧ parseLexemes limit ts = .ok e := by
  unfold parseWithin at parsed
  cases scanned : scan source.toList with
  | error cause =>
    rw [scanned] at parsed
    cases parsed
  | ok ts =>
    rw [scanned] at parsed
    exact ⟨ts, rfl, parsed⟩

theorem parseWithin_of_condition (scanned : scan source.toList = .ok ts) (some : ts ≠ [])
    (run : (condition (.ofRoom room)).run ts = .ok (e, [])) :
    parseWithin (room + 1) source = .ok e := by
  have inside : (readers (room + 1)).expression.run ts = .ok (e, []) := by
    rw [readers_eq]
    exact (run_nest_succ room (·.condition) ts).trans run
  have read : (whole (readers (room + 1)).expression).run ts = .ok (e, []) := by
    rw [whole, run_bind_eq inside]
    rfl
  rw [parseWithin, scanned]
  show parseLexemes (room + 1) ts = _
  rw [parseLexemes, List.isEmpty_eq_false_iff.2 some, if_neg Bool.false_ne_true, read]
  rfl

/-- At the top, a comma with nothing behind it is the last lexeme. -/
theorem eq_of_readTuple {item : Reader Tree} {steps : Nat} {rest : List Lexeme}
    (run : (readTuple item (steps + 1)).run ts = .ok ([], rest))
    (comma : isPunct .comma ts.head? = true) : ts = [.punct .comma] := by
  obtain ⟨found, mid, look, run⟩ := run_bind_ok run
  cases found with
  | false =>
    have none := (Prod.mk.inj (Except.ok.inj ((run_eatPunct _ _).symm.trans look))).1
    rw [comma] at none
    cases none
  | true =>
    have behind := eq_cons_of_eatPunct look
    obtain ⟨shown, left, same, run⟩ := run_bind_ok run
    cases same
    cases mid with
    | nil => exact behind
    | cons l mid =>
      obtain ⟨next, mid', -, run⟩ := run_bind_ok run
      obtain ⟨others, mid', -, run⟩ := run_bind_ok run
      cases run

/-- A tree that is no list of several items, and whose last lexeme is no comma, is read as an
expression. -/
theorem condition_of_parseLexemes (parsed : parseLexemes (room + 1) ts = .ok e)
    (noComma : NoTrailingComma ts) (single : ∀ first second more, e ≠ .list (first :: second :: more)) :
    (condition (.ofRoom room)).run ts = .ok (e, []) := by
  have ends {left rest : List Lexeme} {tree : Tree} (run : (do
      unless (← get).isEmpty do failExpected "end of expression"
      return tree : Reader Tree).run left = .ok (e, rest)) : left = [] ∧ tree = e := by
    cases left with
    | nil =>
      cases run
      exact ⟨rfl, rfl⟩
    | cons l left => cases run
  unfold parseLexemes at parsed
  split at parsed
  · cases parsed
  · obtain ⟨⟨tree, left⟩, run, rfl⟩ := of_map_ok parsed
    rw [readers_eq] at run
    obtain ⟨first, mid, inside, run⟩ := run_bind_ok run
    have read := (run_nest_succ room (·.condition) ts).symm.trans inside
    obtain ⟨comma, mid', look, run⟩ := run_bind_ok run
    obtain ⟨found, rfl⟩ := Prod.mk.inj (Except.ok.inj ((run_atPunct _ _).symm.trans look))
    cases comma with
    | false =>
      obtain ⟨rfl, rfl⟩ := ends run
      exact read
    | true =>
      obtain ⟨_, _, ⟨⟩, run⟩ := run_bind_ok run
      obtain ⟨others, mid', more, run⟩ := run_bind_ok run
      obtain ⟨rfl, same⟩ := ends run
      cases others with
      | cons second others => exact absurd same.symm (single _ _ _)
      | nil =>
        cases mid with
        | nil => cases found
        | cons l mid =>
          obtain same := eq_of_readTuple more found
          have inside := ((settled (room + 1)).inside.consumes _ _ _ inside).1
          rw [same] at inside
          exact absurd inside noComma

/-! ### Between brackets -/

theorem scan_open (h : Separator d p) (cs : List Char) :
    scan (d :: cs) = (scan cs).map (.punct p :: ·) :=
  scan_punct h.solid (h.scanLexeme cs)

/-- Texts with commas between them are scanned one by one. -/
theorem scan_listed (h : Separator d p) {texts : List (List Char)} {groups : List (List Lexeme)}
    (each : List.Forall₂ (fun cs ls => scan cs = .ok ls) texts groups) :
    scan (listed texts ++ [d]) = .ok (listedLexemes groups ++ [.punct p]) := by
  have behind : ∀ {texts groups}, List.Forall₂ (fun cs ls => scan cs = .ok ls) texts groups →
      ∀ {cs ls}, scan cs = .ok ls →
        scan (cs ++ (further texts ++ [d])) = .ok (ls ++ (furtherLexemes groups ++ [.punct p])) := by
    intro texts groups each
    induction each with
    | nil => exact fun scanned => scan_separator h scanned []
    | cons first others ih =>
      intro cs ls scanned
      rw [further_cons, furtherLexemes_cons]
      simp only [List.cons_append, List.append_assoc]
      rw [scan_separator .comma scanned, scan_white (by decide), ih first]
      rfl
  cases each with
  | nil => exact scan_open h []
  | cons first others =>
    rw [listed, listedLexemes, List.append_assoc, List.append_assoc]
    exact behind others first

/-- If the text of each part has lexemes that give its result, there are groups of lexemes for all. -/
theorem exists_groups {ι γ : Type} (text : ι → String) (result : ι → γ) (Q : List Lexeme → γ → Prop)
    {parts : List ι} (some : parts ≠ [])
    (each : ∀ part ∈ parts, ∃ lexemes, scan (text part).toList = .ok lexemes ∧ Q lexemes (result part)) :
    ∃ groups, groups ≠ [] ∧
      List.Forall₂ (fun cs ls => scan cs = .ok ls) (parts.map fun part => (text part).toList) groups ∧
      List.Forall₂ Q groups (parts.map result) := by
  obtain ⟨groups, all⟩ := exists_forall₂ each
  refine ⟨groups, ?_, ?_, ?_⟩
  · rintro rfl
    cases all
    exact some rfl
  · exact List.forall₂_map_left_iff.2 (all.imp fun _ _ h => h.1)
  · exact List.forall₂_map_right_iff.2 (List.Forall₂.flip (all.imp fun _ _ h => h.2))

/-- The last lexeme of a text is a comma. -/
def EndsInComma (text : String) : Prop :=
  ∃ lexemes, scan text.toList = .ok lexemes ∧ [Lexeme.punct .comma] <:+ lexemes

/-- What ends with a closing punctuation does not end with a comma. -/
theorem noTrailingComma_closed (other : p ≠ .comma) (lexemes : List Lexeme) :
    NoTrailingComma (lexemes ++ [Lexeme.punct p]) := by
  intro last
  have last : [] ++ [Lexeme.punct .comma] <:+ lexemes ++ [Lexeme.punct p] := last
  have length : [Lexeme.punct .comma].length = [Lexeme.punct p].length := rfl
  cases ((List.suffix_append_inj_of_length_eq length).1 last).2
  exact other rfl

theorem toList_bracketed (opening text closing : String) :
    (opening ++ text ++ closing).toList = opening.toList ++ (text.toList ++ closing.toList) := by
  rw [String.toList_append, String.toList_append, List.append_assoc]

/-- What stands before what closes a text is scanned by itself. -/
theorem scan_closed (h : Separator d p) {cs : List Char} (scanned : scan (cs ++ [d]) = .ok ts) :
    ∃ lexemes, scan cs = .ok lexemes ∧ ts = lexemes ++ [.punct p] :=
  of_map_ok ((scan_separator_last h cs).symm.trans scanned)

/-- The item of a list with one item, and its lexemes. -/
theorem lone_of_parse_list {text : String} (noComma : ¬ EndsInComma text)
    (parsed : parseWithin (room + 1) ("[" ++ text ++ "]") = .ok (.list [e])) :
    ∃ lexemes, scan text.toList = .ok lexemes ∧
      Lone (expression (.ofRoom room)) .closeBracket lexemes e := by
  obtain ⟨ts, scanned, read⟩ := scan_of_parseWithin parsed
  rw [toList_bracketed] at scanned
  obtain ⟨inner, behind, rfl⟩ := of_map_ok ((scan_open .openBracket _).symm.trans scanned)
  obtain ⟨lexemes, inside, rfl⟩ := scan_closed (d := ']') .closeBracket behind
  have closed := noTrailingComma_closed (p := .closeBracket) (by decide)
    (.punct .openBracket :: lexemes)
  have run := condition_of_parseLexemes read closed fun _ _ _ same => nomatch same
  exact ⟨lexemes, inside, lone_of_list (fun last => noComma ⟨lexemes, inside, last⟩) run⟩

theorem parse_list {parts : List (String × Tree)} (some : parts ≠ [])
    (noComma : ∀ part ∈ parts, ¬ EndsInComma part.1)
    (alone : ∀ part ∈ parts, parseWithin (room + 1) ("[" ++ part.1 ++ "]") = .ok (.list [part.2])) :
    parseWithin (room + 1) ("[" ++ ", ".intercalate (parts.map Prod.fst) ++ "]") =
      .ok (.list (parts.map Prod.snd)) := by
  obtain ⟨groups, nonempty, each, lone⟩ := exists_groups Prod.fst Prod.snd
    (Lone (expression (.ofRoom room)) .closeBracket) some
    fun part mem => lone_of_parse_list (noComma part mem) (alone part mem)
  refine parseWithin_of_condition ?_ (List.cons_ne_nil _ _) (run_list lone nonempty)
  rw [toList_bracketed, toList_intercalate, List.map_map]
  refine (scan_open .openBracket _).trans ?_
  show (scan (listed (parts.map fun part => part.1.toList) ++ [']'])).map _ = _
  rw [scan_listed .closeBracket each]
  rfl

/-- The argument of a call with one argument, and its lexemes. -/
theorem lone_of_parse_call {f text : String} {n : String} (name : scan f.toList = .ok [.name n])
    (noComma : ¬ EndsInComma text)
    (parsed : parseWithin (room + 2) (f ++ "(" ++ text ++ ")") = .ok (.call (.name n) [e])) :
    (isReserved n = false ∧ wordLiteral? n = none) ∧ ∃ lexemes, scan text.toList = .ok lexemes ∧
      Lone (expression (.ofRoom room)) .closeParen lexemes e := by
  obtain ⟨ts, scanned, read⟩ := scan_of_parseWithin parsed
  rw [toList_bracketed, String.toList_append, List.append_assoc] at scanned
  obtain ⟨inner, behind, rfl⟩ := of_map_ok ((scan_separator .openParen name _).symm.trans scanned)
  obtain ⟨lexemes, inside, rfl⟩ := scan_closed (d := ')') .closeParen behind
  have closed := noTrailingComma_closed (p := .closeParen) (by decide)
    (.name n :: .punct .openParen :: lexemes)
  have run := condition_of_parseLexemes read closed fun _ _ _ same => nomatch same
  obtain ⟨free, noWord, lone⟩ := lone_of_call (fun last => noComma ⟨lexemes, inside, last⟩) run
  exact ⟨⟨free, noWord⟩, lexemes, inside, lone⟩

theorem parse_call {f n : String} (name : scan f.toList = .ok [.name n])
    {parts : List (String × Tree)} (some : parts ≠ [])
    (noComma : ∀ part ∈ parts, ¬ EndsInComma part.1)
    (alone : ∀ part ∈ parts,
      parseWithin (room + 2) (f ++ "(" ++ part.1 ++ ")") = .ok (.call (.name n) [part.2])) :
    parseWithin (room + 2) (f ++ "(" ++ ", ".intercalate (parts.map Prod.fst) ++ ")") =
      .ok (.call (.name n) (parts.map Prod.snd)) := by
  have each part mem := lone_of_parse_call name (noComma part mem) (alone part mem)
  obtain ⟨free, noWord⟩ := (each _ (List.head_mem some)).1
  obtain ⟨groups, nonempty, each, lone⟩ := exists_groups Prod.fst Prod.snd
    (Lone (expression (.ofRoom room)) .closeParen) some fun part mem => (each part mem).2
  refine parseWithin_of_condition ?_ (List.cons_ne_nil _ _) (run_call free noWord lone nonempty)
  rw [toList_bracketed, toList_intercalate, List.map_map, String.toList_append, List.append_assoc]
  refine (scan_separator .openParen name _).trans ?_
  show (scan (listed (parts.map fun part => part.1.toList) ++ [')'])).map _ = _
  rw [scan_listed .closeParen each]
  rfl

/-- An entry as it is written. -/
def writtenEntry (entry : String × String) : String := entry.1 ++ ": " ++ entry.2

/-- The entry of a map with one entry, and its lexemes. -/
theorem entry_of_parse_map {key text v : String} {entry : Tree × Tree}
    (literal : scan key.toList = .ok [.text v]) (noComma : ¬ EndsInComma text)
    (parsed : parseWithin (room + 2) ("\x7b" ++ writtenEntry (key, text) ++ "\x7d") =
      .ok (.map [entry])) :
    ∃ lexemes, scan (writtenEntry (key, text)).toList = .ok lexemes ∧
      Entry (expression (.ofRoom (room + 1))) lexemes entry := by
  have split : (writtenEntry (key, text)).toList = key.toList ++ ':' :: ' ' :: text.toList := by
    rw [writtenEntry, String.toList_append, String.toList_append, List.append_assoc]
    rfl
  obtain ⟨ts, scanned, read⟩ := scan_of_parseWithin parsed
  rw [toList_bracketed] at scanned
  obtain ⟨inner, behind, rfl⟩ := of_map_ok ((scan_open .openBrace _).symm.trans scanned)
  obtain ⟨both, inside, rfl⟩ := scan_closed (d := '\x7d') .closeBrace behind
  have inside' := inside
  rw [split] at inside'
  obtain ⟨lexemes, value, rfl⟩ := of_map_ok ((scan_separator .colon literal _).symm.trans inside')
  rw [scan_white (by decide)] at value
  have closed := noTrailingComma_closed (p := .closeBrace) (by decide)
    (.punct .openBrace :: .text v :: .punct .colon :: lexemes)
  have run := condition_of_parseLexemes read closed fun _ _ _ same => nomatch same
  exact ⟨_, inside, entry_of_map (fun last => noComma ⟨lexemes, value, last⟩) run⟩

theorem parse_map {parts : List ((String × String) × (Tree × Tree))} (some : parts ≠ [])
    (literal : ∀ part ∈ parts, ∃ v, scan part.1.1.toList = .ok [.text v])
    (noComma : ∀ part ∈ parts, ¬ EndsInComma part.1.2)
    (alone : ∀ part ∈ parts,
      parseWithin (room + 2) ("\x7b" ++ writtenEntry part.1 ++ "\x7d") = .ok (.map [part.2])) :
    parseWithin (room + 2)
        ("\x7b" ++ ", ".intercalate (parts.map fun part => writtenEntry part.1) ++ "\x7d") =
      .ok (.map (parts.map Prod.snd)) := by
  obtain ⟨groups, nonempty, scanned, each⟩ := exists_groups (fun part => writtenEntry part.1) Prod.snd
    (Entry (expression (.ofRoom (room + 1)))) some fun part mem => by
      obtain ⟨v, key⟩ := literal part mem
      exact entry_of_parse_map key (noComma part mem) (alone part mem)
  refine parseWithin_of_condition ?_ (List.cons_ne_nil _ _) (run_map each nonempty)
  rw [toList_bracketed, toList_intercalate, List.map_map]
  refine (scan_open .openBrace _).trans ?_
  show (scan (listed (parts.map fun part => (writtenEntry part.1).toList) ++ ['\x7d'])).map _ = _
  rw [scan_listed .closeBrace scanned]
  rfl

end Texts

/-- **Breadth is no depth.**  Items that are each read alone between brackets, between the parentheses of
a call or between braces are read all together there, whatever their number.  With a counter for the
depth, every procedure leaves it as it found it, and reads what is read with the rest of the levels as
room; so each text is read alike. -/
theorem parse_siblings :
    (∀ parts : List (String × Tree), parts ≠ [] → (∀ part ∈ parts, ¬ EndsInComma part.1) →
      (∀ part ∈ parts, parse ("[" ++ part.1 ++ "]") = .ok (.list [part.2])) →
      parse ("[" ++ ", ".intercalate (parts.map Prod.fst) ++ "]") =
        .ok (.list (parts.map Prod.snd))) ∧
    (∀ f n : String, scan f.toList = .ok [.name n] → ∀ parts : List (String × Tree), parts ≠ [] →
      (∀ part ∈ parts, ¬ EndsInComma part.1) →
      (∀ part ∈ parts, parse (f ++ "(" ++ part.1 ++ ")") = .ok (.call (.name n) [part.2])) →
      parse (f ++ "(" ++ ", ".intercalate (parts.map Prod.fst) ++ ")") =
        .ok (.call (.name n) (parts.map Prod.snd))) ∧
    (∀ parts : List ((String × String) × (Tree × Tree)), parts ≠ [] →
      (∀ part ∈ parts, ∃ v, scan part.1.1.toList = .ok [.text v]) →
      (∀ part ∈ parts, ¬ EndsInComma part.1.2) →
      (∀ part ∈ parts, parse ("\x7b" ++ writtenEntry part.1 ++ "\x7d") = .ok (.map [part.2])) →
      parse ("\x7b" ++ ", ".intercalate (parts.map fun part => writtenEntry part.1) ++ "\x7d") =
        .ok (.map (parts.map Prod.snd))) ∧
    (∀ bound, Counter.Balanced bound) ∧
    (∀ level depth, Counter.Tracks depth depth (Counter.readAt level (.ofBound maxNesting))
      (readAt level (.ofRoom (maxNesting - depth)))) ∧
    ∀ source, Counter.parse source = parse source :=
  ⟨fun _ some noComma alone => parse_list some noComma alone,
    fun _ _ name _ some noComma alone => parse_call name some noComma alone,
    fun _ some literal noComma alone => parse_map some literal noComma alone,
    Counter.balanced, Counter.tracks_readAt, Counter.parse_eq⟩

/-! ### A number and a list -/

namespace Siblings

/-- The second item holds a comma of its own. -/
def parts : List (String × Tree) :=
  [("1", .literal (.int 1)), ("[2, x]", .list [.literal (.int 2), .name "x"])]

/-- The same items as values of a map. -/
def entries : List ((String × String) × (Tree × Tree)) :=
  parts.map fun part => (("'k'", part.1), (.literal (.text "k"), part.2))

/-- What is read of each part is read of all parts. -/
theorem forall_parts {P : String × Tree → Prop} (first : P ("1", .literal (.int 1)))
    (second : P ("[2, x]", .list [.literal (.int 2), .name "x"])) : ∀ part ∈ parts, P part :=
  List.forall_mem_cons.2 ⟨first, List.forall_mem_singleton.2 second⟩

theorem not_endsInComma {text : String} (lexemes : List Lexeme)
    (scanned : scan text.toList = .ok lexemes) (last : lexemes.getLast? ≠ some (.punct .comma)) : ¬ EndsInComma text := by
  rintro ⟨others, same, front, rfl⟩
  cases scanned.symm.trans same
  exact last List.getLast?_concat

set_option maxRecDepth 100000 in
theorem noComma_parts : ∀ part ∈ parts, ¬ EndsInComma part.1 :=
  forall_parts (not_endsInComma [.int 1] (by cbv) nofun)
    (not_endsInComma
      [.punct .openBracket, .int 2, .punct .comma, .name "x", .punct .closeBracket] (by cbv) nofun)

set_option maxRecDepth 100000 in
theorem list_parts : ∀ part ∈ parts, parse ("[" ++ part.1 ++ "]") = .ok (.list [part.2]) :=
  forall_parts (by cbv) (by cbv)

set_option maxRecDepth 100000 in
theorem call_parts : ∀ part ∈ parts,
    parse ("f" ++ "(" ++ part.1 ++ ")") = .ok (.call (.name "f") [part.2]) :=
  forall_parts (by cbv) (by cbv)

set_option maxRecDepth 100000 in
theorem map_parts : ∀ part ∈ parts, parse ("\x7b" ++ writtenEntry ("'k'", part.1) ++ "\x7d") =
    .ok (.map [(.literal (.text "k"), part.2)]) :=
  forall_parts (by cbv) (by cbv)

set_option maxRecDepth 100000 in
/-- Both items are read between one pair of brackets, as arguments and as values. -/
theorem parse_both :
    parse "[1, [2, x]]" = .ok (.list (parts.map Prod.snd)) ∧
      parse "f(1, [2, x])" = .ok (.call (.name "f") (parts.map Prod.snd)) ∧
      parse "\x7b'k': 1, 'k': [2, x]\x7d" = .ok (.map (entries.map Prod.snd)) ∧
      ∀ level, Counter.Restores (Counter.readAt level (.ofBound maxNesting)) := by
  obtain ⟨lists, calls, maps, balanced, -⟩ := parse_siblings
  have some : parts ≠ [] := List.cons_ne_nil _ _
  refine ⟨lists parts some noComma_parts list_parts, ?_, ?_, (balanced maxNesting).level⟩
  · exact calls "f" "f" (by cbv) parts some noComma_parts call_parts
  · refine maps entries (List.cons_ne_nil _ _) ?_ ?_ ?_
    · exact List.forall_mem_map.2 (forall_parts ⟨"k", by cbv⟩ ⟨"k", by cbv⟩)
    · exact List.forall_mem_map.2 noComma_parts
    · exact List.forall_mem_map.2 map_parts

end Siblings

end TextTemplate.Expr
