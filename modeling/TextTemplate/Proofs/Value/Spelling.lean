import Mathlib
import TextTemplate.Eval
import TextTemplate.Proofs.Dictionary
import TextTemplate.Proofs.Expr.RoundTrip
import TextTemplate.Proofs.Value.Written

/-!
# Written values are expressions

An expression spells a value (`Spells`) if the written form of the value is scanned to the lexemes of
the expression, and the expression has the value in every environment.  One lemma for each kind of value
shows that it is spelled if its items are.  A negative integer is spelled with a sign, which is why the
least one is not: its opposite is too large.  The names of a map are spelled if nothing in them would
have to be escaped.

An expression takes one level of room for each list and map around it (`Spells.takes`), so that the
limit on nesting leaves room for 98 levels.  The main result is `compile_display`.
-/

namespace TextTemplate.Value

open TextTemplate.Expr

/-- A map with its names in order, as insertions leave them, none of which holds a character that is
escaped. -/
structure Verbatim (entries : Dictionary Value) : Prop where
  ascending : entries.Ascending
  unescaped : ∀ name ∈ entries.keys, '\'' ∉ name.toList ∧ '\\' ∉ name.toList

/-- Data that is spelled by expressions. -/
abbrev Spellable : Value → Prop := Data (· ≠ Int64.minValue) Verbatim

/-! ## Nesting -/

mutual

/-- How deep lists and maps are nested in a value. -/
def depth : Value → Nat
  | .list items => itemsDepth items + 1
  | .map ⟨entries⟩ => entriesDepth entries + 1
  | _ => 0

/-- How deep lists and maps are nested in some values. -/
def itemsDepth : List Value → Nat
  | [] => 0
  | v :: rest => max v.depth (itemsDepth rest)

/-- How deep lists and maps are nested in the values of some entries. -/
def entriesDepth : List (String × Value) → Nat
  | [] => 0
  | (_, v) :: rest => max v.depth (entriesDepth rest)

end

/-! ## Scanning -/

section Scanning

variable {tail : List Char} {rest : List Lexeme} {closing : Char}

theorem Delimited.endsWord (h : Delimited tail) : EndsWord tail := by
  intro c mem
  rcases isDelimiter_iff.1 (h c mem) with rfl | rfl | rfl <;> decide

/-- A text is scanned to some lexemes in front of a delimiter. -/
def ScannedAs (text : List Char) (lexemes : List Lexeme) : Prop :=
  ∀ tail rest, Delimited tail → Scans tail rest → Scans (text ++ tail) (lexemes ++ rest)

/-- Lexemes of several items, with a comma in front of each. -/
def furtherLexemes (groups : List (List Lexeme)) : List Lexeme :=
  groups.flatMap fun lexemes => .punct .comma :: lexemes

/-- Lexemes of several items, with a comma between each two. -/
def listedLexemes : List (List Lexeme) → List Lexeme
  | [] => []
  | first :: rest => first ++ furtherLexemes rest

theorem furtherLexemes_cons (lexemes : List Lexeme) (groups : List (List Lexeme)) :
    furtherLexemes (lexemes :: groups) = .punct .comma :: (lexemes ++ furtherLexemes groups) := by
  rw [furtherLexemes, List.flatMap_cons]
  rfl

theorem itemLexemes_eq_listed (items : List Tree) :
    itemLexemes items = listedLexemes (items.map Tree.lexemes) := by
  induction items with
  | nil => rfl
  | cons e more ih =>
    cases more with
    | nil => simp [itemLexemes, listedLexemes, furtherLexemes]
    | cons e' more => simp [itemLexemes, ih, listedLexemes, furtherLexemes_cons]

/-- The lexemes of one entry of a map. -/
def pairLexemes (pair : Tree × Tree) : List Lexeme :=
  pair.1.lexemes ++ .punct .colon :: pair.2.lexemes

theorem entryLexemes_eq_listed (pairs : List (Tree × Tree)) :
    entryLexemes pairs = listedLexemes (pairs.map pairLexemes) := by
  have further : ∀ pairs : List (Tree × Tree),
      furtherEntryLexemes pairs = furtherLexemes (pairs.map pairLexemes) := by
    intro pairs
    induction pairs with
    | nil => rfl
    | cons pair more ih => simp [furtherEntryLexemes, pairLexemes, ih, furtherLexemes_cons]
  cases pairs with
  | nil => rfl
  | cons pair more => simp [entryLexemes, listedLexemes, pairLexemes, further]

/-- Items are scanned one after the other up to what closes them. -/
theorem scans_listed {texts : List (List Char)} {groups : List (List Lexeme)}
    (scanned : List.Forall₂ ScannedAs texts groups) (closes : isDelimiter closing = true)
    (behind : Scans (closing :: tail) rest) :
    Scans (listed texts ++ closing :: tail) (listedLexemes groups ++ rest) := by
  have more : ∀ {texts groups}, List.Forall₂ ScannedAs texts groups →
      Scans (further texts ++ closing :: tail) (furtherLexemes groups ++ rest) := by
    intro texts groups scanned
    induction scanned with
    | nil => exact behind
    | cons first others ih =>
      rw [further_cons, furtherLexemes_cons]
      simp only [List.cons_append, List.append_assoc]
      exact .char rfl rfl (.blank (first _ _ (delimited_further closes _ _) ih))
  cases scanned with
  | nil => exact behind
  | cons first others =>
    rw [listed, listedLexemes, List.append_assoc, List.append_assoc]
    exact first _ _ (delimited_further closes _ _) (more others)

end Scanning

/-! ## Spelling -/

/-- An expression spells a value: it is what the written form is scanned to, and has this value. -/
structure Spells (v : Value) (e : Tree) : Prop where
  printable : e.Printable
  scanned : ScannedAs v.chars e.lexemes
  takes : e.takes ≤ v.depth + 1
  value {σ : Type} (env : Environment σ) : e.eval env = pure v

theorem spells_null : Spells .null (.literal .null) where
  printable := .literal trivial
  scanned _ _ delimited behind := by
    have word : isIdentifier "None" = true := by decide
    exact behind.name word delimited.endsWord
  takes := Nat.zero_le _
  value _ := rfl

theorem spells_bool (b : Bool) : Spells (.bool b) (.literal (.bool b)) where
  printable := .literal trivial
  scanned _ _ delimited behind := by
    have words : isIdentifier "True" = true ∧ isIdentifier "False" = true := by decide
    cases b with
    | true => exact behind.name words.1 delimited.endsWord
    | false => exact behind.name words.2 delimited.endsWord
  takes := Nat.zero_le _
  value _ := rfl

theorem spells_text (s : String) : Spells (.text s) (.literal (.text s)) where
  printable := .literal trivial
  scanned _ _ _ behind := by
    rw [chars_text]
    exact behind.text s
  takes := Nat.zero_le _
  value _ := rfl

theorem toInt_neg_of_ne {n : Int64} (h : n ≠ Int64.minValue) : (-n).toInt = -n.toInt := by
  have low := Int64.le_toInt n
  have high := Int64.toInt_lt n
  have least : n.toInt ≠ -2 ^ 63 := fun eq => h (Int64.toInt_inj.1 (by rw [eq]; decide))
  rw [Int64.toInt_neg, Int.bmod_eq_of_le] <;> omega

theorem spells_int {n : Int64} (h : n ≠ Int64.minValue) : ∃ e, Spells (.int n) e := by
  rcases Int.lt_or_le n.toInt 0 with negative | nonneg
  · have opposite := toInt_neg_of_ne h
    have positive : 0 ≤ (-n).toInt := by omega
    refine ⟨.unary .neg (.literal (.int (-n))), ?_⟩
    refine ⟨.unary (.literal positive), ?_, Nat.le_refl 1, fun {_} env => ?_⟩
    · intro tail rest delimited behind
      have digits := behind.int positive delimited.endsWord
      rw [opposite] at digits
      rw [chars_int_of_neg negative]
      exact .char rfl rfl digits
    · -- the sign is an operator, so the opposite is turned around again
      show Evaluation.operate (ofInt (-(-n).toInt)) = _
      rw [opposite, Int.neg_neg, ofInt, int64?_toInt]
      rfl
  · refine ⟨.literal (.int n), .literal nonneg, ?_, Nat.zero_le _, fun {_} _ => rfl⟩
    intro tail rest delimited behind
    rw [chars_int_of_nonneg nonneg]
    exact behind.int nonneg delimited.endsWord

/-! ### Lists -/

section Lists

variable {items : List Value} {es : List Tree}

theorem takes_of_items (spelled : List.Forall₂ Spells items es) :
    itemsTakes es ≤ itemsDepth items + 2 := by
  induction spelled with
  | nil => exact Nat.zero_le _
  | cons first _ ih =>
    have := first.takes
    rw [itemsTakes, itemsDepth]
    omega

theorem eval_of_items {σ : Type} (env : Environment σ) (spelled : List.Forall₂ Spells items es) :
    Tree.evalItems env es = pure items := by
  induction spelled with
  | nil => rfl
  | cons first _ ih => rw [Tree.evalItems, first.value env, ih, pure_bind, pure_bind]

/-- A list is spelled by the expressions that spell its items. -/
theorem spells_list (spelled : List.Forall₂ Spells items es) : Spells (.list items) (.list es) where
  printable := by
    have each := spelled.flip.imp fun e v spells => And.intro spells.printable spells
    exact .list ((List.forall₂_and_left _ _).1 each).1
  scanned tail rest _ behind := by
    have groups : List.Forall₂ ScannedAs (items.map chars) (es.map Tree.lexemes) := by
      rw [List.forall₂_map_left_iff, List.forall₂_map_right_iff]
      exact spelled.imp fun _ _ spells => spells.scanned
    have inside := scans_listed groups (by decide : isDelimiter ']' = true)
      (behind.char (l := .punct .closeBracket) rfl rfl)
    rw [chars_list, Tree.lexemes, itemLexemes_eq_listed]
    simpa using Scans.char (c := '[') (l := .punct .openBracket) rfl rfl inside
  takes := by
    have := takes_of_items spelled
    rw [Tree.takes, depth]
    omega
  value env := by
    rw [Tree.eval, eval_of_items env spelled]
    rfl

end Lists

/-! ### Maps -/

/-- A key and an expression spell an entry of a map. -/
structure SpellsEntry (e : String × Value) (pair : Tree × Tree) : Prop where
  key : pair.1 = .literal (.text e.1)
  unescaped : '\'' ∉ e.1.toList ∧ '\\' ∉ e.1.toList
  value : Spells e.2 pair.2

section Maps

variable {entries : List (String × Value)} {pairs : List (Tree × Tree)}

theorem flatMap_escaped_of_unescaped {cs : List Char} (h : '\'' ∉ cs ∧ '\\' ∉ cs) :
    cs.flatMap escaped = cs := by
  induction cs with
  | nil => rfl
  | cons c rest ih =>
    simp only [List.mem_cons, not_or] at h
    obtain ⟨⟨noQuote, quotes⟩, noEscape, escapes⟩ := h
    have plain : escaped c = [c] := by
      rw [escaped, if_neg]
      simp [Ne.symm noQuote, Ne.symm noEscape]
    rw [List.flatMap_cons, plain, ih ⟨quotes, escapes⟩]
    rfl

theorem SpellsEntry.printable {e : String × Value} {pair : Tree × Tree} (h : SpellsEntry e pair) :
    pair.1.Printable ∧ pair.2.Printable := by
  rw [h.key]
  exact ⟨.literal trivial, h.value.printable⟩

/-- The name of an entry is scanned like a text, as it is written without an escape. -/
theorem SpellsEntry.scanned {e : String × Value} {pair : Tree × Tree} (h : SpellsEntry e pair) :
    ScannedAs (entryText e) (pairLexemes pair) := by
  intro tail rest delimited behind
  have value := h.value.scanned tail rest delimited behind
  have colon : Scans (':' :: ' ' :: (e.2.chars ++ tail))
      (.punct .colon :: (pair.2.lexemes ++ rest)) := .char rfl rfl (.blank value)
  have all := colon.text e.1
  rw [flatMap_escaped_of_unescaped h.unescaped] at all
  simpa [entryText, pairLexemes, h.key, Tree.lexemes, Literal.lexeme] using all

theorem takes_of_entries (spelled : List.Forall₂ SpellsEntry entries pairs) :
    entriesTakes pairs ≤ entriesDepth entries + 2 := by
  induction spelled with
  | nil => exact Nat.zero_le _
  | @cons e pair _ _ first _ ih =>
    have key : pair.1.takes = 0 := by rw [first.key, Tree.takes]
    have := first.value.takes
    rw [entriesTakes, entriesDepth]
    omega

/-- Entries that come behind others in order are put in at their place. -/
theorem eval_of_entries {σ : Type} (env : Environment σ)
    (spelled : List.Forall₂ SpellsEntry entries pairs) (front : List (String × Value))
    (ascending : Dictionary.Ascending ⟨front ++ entries⟩) :
    Tree.evalEntries env ⟨front⟩ pairs = pure ⟨front ++ entries⟩ := by
  induction spelled generalizing front with
  | nil =>
    rw [List.append_nil]
    rfl
  | @cons e pair others _ first _ ih =>
    have before : ∀ d ∈ front, d.1 < e.1 := fun d mem =>
      (List.pairwise_append.1 ascending).2.2 d mem e (.head _)
    have split : front ++ e :: others = (front ++ [e]) ++ others := by simp
    have key : pair.1.eval env = pure (.text e.1) := by rw [first.key]; rfl
    rw [split] at ascending ⊢
    rw [Tree.evalEntries, key, first.value.value env]
    show Tree.evalEntries env (Dictionary.insert ⟨front⟩ e.1 e.2) _ = _
    -- all names so far are smaller, so that this one is put in at the end
    rw [Dictionary.insert_of_forall_lt e.2 before]
    exact ih (front ++ [e]) ascending

/-- A map is spelled by the expressions that spell its entries. -/
theorem spells_map (ascending : Dictionary.Ascending ⟨entries⟩)
    (spelled : List.Forall₂ SpellsEntry entries pairs) : Spells (.map ⟨entries⟩) (.map pairs) where
  printable := by
    have each := spelled.flip.imp fun pair e spells => And.intro spells.printable spells
    have parts := ((List.forall₂_and_left _ _).1 each).1
    exact .map (fun pair mem => (parts pair mem).1) fun pair mem => (parts pair mem).2
  scanned tail rest _ behind := by
    have groups : List.Forall₂ ScannedAs (entries.map entryText) (pairs.map pairLexemes) := by
      rw [List.forall₂_map_left_iff, List.forall₂_map_right_iff]
      exact spelled.imp fun _ _ spells => spells.scanned
    have inside := scans_listed groups (by decide : isDelimiter '\x7d' = true)
      (behind.char (l := .punct .closeBrace) rfl rfl)
    rw [chars_map, Tree.lexemes, entryLexemes_eq_listed]
    simpa using Scans.char (c := '\x7b') (l := .punct .openBrace) rfl rfl inside
  takes := by
    have := takes_of_entries spelled
    rw [Tree.takes, depth]
    omega
  value env := by
    have all := eval_of_entries env spelled [] ascending
    rw [Tree.eval, Dictionary.empty, all]
    rfl

end Maps

/-! ### Values -/

theorem exists_forall₂ {α β : Type} {R : α → β → Prop} {xs : List α} (h : ∀ x ∈ xs, ∃ y, R x y) :
    ∃ ys, List.Forall₂ R xs ys := by
  induction xs with
  | nil => exact ⟨[], .nil⟩
  | cons x rest ih =>
    obtain ⟨y, first⟩ := h x (.head _)
    obtain ⟨ys, others⟩ := ih fun x mem => h x (.tail _ mem)
    exact ⟨y :: ys, .cons first others⟩

/-- Every such value is spelled by an expression. -/
theorem Data.exists_spells {v : Value} (data : Spellable v) : ∃ e, Spells v e := by
  induction data with
  | null => exact ⟨_, spells_null⟩
  | bool b => exact ⟨_, spells_bool b⟩
  | int notLeast => exact spells_int notLeast
  | text s => exact ⟨_, spells_text s⟩
  | list _ ih =>
    obtain ⟨es, spelled⟩ := exists_forall₂ ih
    exact ⟨_, spells_list spelled⟩
  | @map entries verbatim _ ih =>
    have each : ∀ e ∈ entries.entries, ∃ pair, SpellsEntry e pair := by
      intro e mem
      obtain ⟨tree, spells⟩ := ih e mem
      exact ⟨(.literal (.text e.1), tree), rfl, verbatim.unescaped e.1 (List.mem_map_of_mem mem), spells⟩
    obtain ⟨pairs, spelled⟩ := exists_forall₂ each
    exact ⟨_, spells_map verbatim.ascending spelled⟩

/-- **The printed form of a list or a map is an expression for it.**  If its integers are not the least
one, its names need no escape and it is nested at most 90 levels deep, then its text is read as an
expression, and in every environment the value of this expression is the very list or map. -/
theorem compile_display {v : Value} (data : Spellable v) (collection : v.kind = .list ∨ v.kind = .map)
    (shallow : v.depth ≤ 90) :
    ∃ e, Expression.compile v.display = .ok e ∧
      ∀ {σ : Type} (env : Environment σ), e.eval env = pure v := by
  obtain ⟨e, spells⟩ := data.exists_spells
  have shown : v.display.toList = v.chars := by
    cases v with
    | text s => simp [kind] at collection
    | _ => rfl
  have scanned : scan v.display.toList = .ok e.lexemes := by
    have all := (spells.scanned [] [] delimited_nil .nil).scan_eq
    rwa [List.append_nil, List.append_nil, ← shown] at all
  have room : e.takes < maxNesting := by
    have := spells.takes
    show e.takes < 100
    omega
  refine ⟨⟨v.display, e⟩, ?_, spells.value⟩
  rw [Expression.compile, parse, parseWithin_of_scan spells.printable scanned, if_pos room]
  rfl

/-- A list with a text that is escaped and a negative integer. -/
def mixedItems : List Value := [.text "it's a \\ and\na ü", .int (-7), .map ⟨[]⟩]

/-- A map with a name that looks like more than one. -/
def mixed : Value := .map ⟨[("a: b", .list mixedItems), ("c", .null)]⟩

theorem mixed_spellable : Spellable mixed := by
  have items : ∀ v ∈ mixedItems, Spellable v := by
    intro v mem
    simp only [mixedItems, List.mem_cons, List.not_mem_nil, or_false] at mem
    rcases mem with rfl | rfl | rfl
    · exact .text _
    · exact .int (by decide)
    · exact .map ⟨.nil, fun _ mem => by cases mem⟩ fun _ mem => by cases mem
  have before : "a: b" < "c" := by decide
  have unescaped : ∀ name ∈ ["a: b", "c"], '\'' ∉ name.toList ∧ '\\' ∉ name.toList := by
    decide
  refine .map ⟨List.pairwise_pair.2 before, unescaped⟩ fun e mem => ?_
  rcases List.mem_pair.1 mem with rfl | rfl
  · exact .list items
  · exact .null

theorem compile_display_mixed :
    (Spellable mixed ∧ mixed.kind = .map ∧ mixed.depth = 3) ∧
      mixed.display = "\x7b'a: b': ['it\\'s a \\\\ and\na ü', -7, \x7b\x7d], 'c': None\x7d" ∧
      ∃ e, Expression.compile mixed.display = .ok e ∧
        ∀ {σ : Type} (env : Environment σ), e.eval env = pure mixed :=
  ⟨⟨mixed_spellable, rfl, by decide⟩, rfl, compile_display mixed_spellable (.inr rfl) (by decide)⟩

end TextTemplate.Value
