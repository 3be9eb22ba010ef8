import TextTemplate.Proofs.Expr.Printer
import TextTemplate.Proofs.Text.CharClass

/-!
# Reading written lexemes

What is written with blanks between the lexemes is read as these lexemes (`scan_spaced`).  A lexeme
is read up to the blank behind it (`Scans.written`): by one lemma for each kind of lexeme.  A name
or a number needs no blank, but only something that it cannot go on with (`EndsWord`).
-/

namespace TextTemplate.Expr

open TextTemplate.Text

/-- The lexemes that can be written. -/
def Lexeme.Writable : Lexeme → Prop
  | .int n => 0 ≤ n.toInt
  | .float _ => False
  | .name n => isIdentifier n = true
  | .text _ | .punct _ => True

/-- All of these lexemes can be written. -/
def Writable (lexemes : List Lexeme) : Prop := ∀ l ∈ lexemes, l.Writable

/-- What may follow a lexeme: nothing, or a blank. -/
inductive Apart : List Char → Prop
  | nil : Apart []
  | blank (rest : List Char) : Apart (' ' :: rest)

/-- What may follow a name or a number: nothing that it could go on with. -/
def EndsWord (tail : List Char) : Prop := ∀ c ∈ tail.head?, continuesName c = false ∧ c ≠ '.'

theorem Apart.endsWord {tail : List Char} (apart : Apart tail) : EndsWord tail := by
  cases apart with
  | nil => exact fun c mem => by cases mem
  | blank rest =>
    rintro c ⟨⟩
    decide

/-! ## Runs of characters -/

/-- A run is taken as a whole if it does not go on behind. -/
theorem takeWhile_append_of_head {p : Char → Bool} {cs tail : List Char}
    (all : ∀ c ∈ cs, p c = true) (ends : ∀ c ∈ tail.head?, p c = false) :
    (cs ++ tail).takeWhile p = cs ∧ (cs ++ tail).dropWhile p = tail := by
  rw [List.takeWhile_append_of_pos all, List.dropWhile_append_of_pos all]
  cases tail with
  | nil => simp
  | cons c rest => simp [ends c rfl]

/-! ## Names -/

theorem scanLexeme_name {n : String} (h : isIdentifier n = true) {tail : List Char}
    (ends : EndsWord tail) :
    ∃ c cs, n.toList = c :: cs ∧ isWhite c = false ∧
      scanLexeme c (cs ++ tail) = .ok (.name n, tail) := by
  cases chars : n.toList with
  | nil => simp [isIdentifier, chars] at h
  | cons c cs =>
    obtain ⟨starts, continues⟩ : startsName c = true ∧ cs.all continuesName = true := by
      simpa [isIdentifier, chars] using h
    have noQuote : ¬ (c = '\'' ∨ c = '"') := by
      rintro (rfl | rfl) <;> revert starts <;> decide
    have noPoint : c ≠ '.' := by
      rintro rfl
      revert starts
      decide
    have noNumber : startsNumber (c :: (cs ++ tail)) = false := by
      unfold startsNumber
      split
      · next eq => exact absurd (List.cons.inj eq).1 noPoint
      · next eq =>
        rw [← (List.cons.inj eq).1]
        exact isDigit_of_startsName starts
      · rfl
    obtain ⟨taken, left⟩ := takeWhile_append_of_head (List.all_eq_true.1 continues)
      fun c mem => (ends c mem).1
    refine ⟨c, cs, rfl, isWhite_of_startsName starts, ?_⟩
    rw [scanLexeme, noNumber, if_neg Bool.false_ne_true, if_neg (by simpa using noQuote), starts,
      if_pos rfl, taken, left, ← chars, String.ofList_toList]

/-! ## Integers -/

theorem isDigit_of_mem_digitsOf {n : Nat} {c : Char} (h : c ∈ Number.digitsOf n) :
    c.isDigit = true := Nat.isDigit_of_mem_toDigits (by decide) (by decide) h

/-- Digits are read back as the number they were written for. -/
theorem readDigits_digitsOf (n : Nat) : Number.readDigits (Number.digitsOf n) = n := by
  rw [Number.readDigits_eq_natOfDigits]
  exact Nat.ofDigitChars_toDigits (by decide) (by decide)

theorem takeSign_of_digits {cs : List Char} (digits : ∀ c ∈ cs, c.isDigit = true) :
    Number.takeSign cs = (false, cs) := by
  unfold Number.takeSign
  split
  · exact absurd (digits '-' (.head _)) (by decide)
  · exact absurd (digits '+' (.head _)) (by decide)
  · rfl

theorem int64?_toInt (n : Int64) : Number.int64? n.toInt = some n := by
  have inside : Number.minInt ≤ n.toInt ∧ n.toInt ≤ Number.maxInt :=
    ⟨Int64.le_toInt n, Int64.toInt_le n⟩
  rw [Number.int64?, if_pos inside, Int64.ofInt_toInt]

/-- An integer that is not negative is read back from its digits. -/
theorem readInt?_digitsOf {n : Int64} (h : 0 ≤ n.toInt) :
    Number.readInt? (Number.digitsOf n.toInt.toNat) = some n := by
  have digits : ∀ c ∈ Number.digitsOf n.toInt.toNat, c.isDigit = true :=
    fun _ mem => isDigit_of_mem_digitsOf mem
  have some : (Number.digitsOf n.toInt.toNat).isEmpty = false := by
    rw [List.isEmpty_eq_false_iff]
    exact Nat.toDigits_ne_nil
  have value : ((n.toInt.toNat : Nat) : Int) = n.toInt := Int.toNat_of_nonneg h
  rw [Number.readInt?, takeSign_of_digits digits]
  dsimp only
  rw [some, List.all_eq_true.2 digits, Bool.not_true, Bool.or_false, if_neg Bool.false_ne_true,
    if_neg Bool.false_ne_true, readDigits_digitsOf, value, int64?_toInt]

theorem isDigitOrGap_of_continuesName {c : Char} (h : continuesName c = false) :
    isDigitOrGap c = false := by
  rw [continuesName, Bool.or_eq_false_iff, Bool.or_eq_false_iff] at h
  obtain ⟨⟨-, noNumeral⟩, noGap⟩ := h
  rw [isNumeral, Bool.or_eq_false_iff] at noNumeral
  rw [isDigitOrGap, noNumeral.1, noGap, Bool.or_false]

theorem fractionPart_of_endsWord {tail : List Char} (ends : EndsWord tail) :
    fractionPart tail = ([], tail) := by
  unfold fractionPart
  split
  · exact absurd rfl (ends '.' rfl).2
  · rfl

theorem exponentPart_of_endsWord {tail : List Char} (ends : EndsWord tail) :
    exponentPart tail = ([], tail) := by
  cases tail with
  | nil => rfl
  | cons c rest =>
    have noMark : ¬ (c = 'e' ∨ c = 'E') := by
      rintro (rfl | rfl) <;> exact absurd (ends _ rfl).1 (by decide)
    rw [exponentPart, if_neg (by simpa using noMark)]

theorem scanLexeme_int {n : Int64} (h : 0 ≤ n.toInt) {tail : List Char} (ends : EndsWord tail) :
    ∃ c cs, Number.digitsOf n.toInt.toNat = c :: cs ∧ isWhite c = false ∧
      scanLexeme c (cs ++ tail) = .ok (.int n, tail) := by
  cases chars : Number.digitsOf n.toInt.toNat with
  | nil => exact absurd chars Nat.toDigits_ne_nil
  | cons c cs =>
    have digit : ∀ d ∈ c :: cs, d.isDigit = true := by
      intro d mem
      exact isDigit_of_mem_digitsOf (chars ▸ mem)
    have first := digit c (.head _)
    have number : startsNumber (c :: (cs ++ tail)) = true := by
      unfold startsNumber
      split
      · next eq =>
        rw [(List.cons.inj eq).1] at first
        exact absurd first (by decide)
      · next eq => rwa [← (List.cons.inj eq).1]
      · next eq => cases eq
    have digits : ∀ d ∈ c :: cs, isDigitOrGap d = true := by
      intro d mem
      rw [isDigitOrGap, digit d mem, Bool.true_or]
    obtain ⟨taken, left⟩ := takeWhile_append_of_head digits
      fun c mem => isDigitOrGap_of_continuesName (ends c mem).1
    have noGap : (c :: cs).filter (· ≠ '_') = c :: cs := by
      refine List.filter_eq_self.2 fun d mem => ?_
      refine decide_eq_true fun gap => ?_
      rw [gap] at mem
      exact absurd (digit '_' mem) (by decide)
    refine ⟨c, cs, rfl, isWhite_of_isDigit first, ?_⟩
    rw [scanLexeme, number, if_pos rfl, scanNumber, ← List.cons_append, taken, left,
      fractionPart_of_endsWord ends]
    dsimp only
    rw [exponentPart_of_endsWord ends]
    dsimp only
    rw [List.append_nil, List.append_nil, noGap, ← chars, readInt?_digitsOf h]
    rfl

/-! ## Text -/

theorem scanText_escaped (cs tail : List Char) :
    scanText '\'' (cs.flatMap escaped ++ '\'' :: tail) = .ok (cs, tail) := by
  induction cs with
  | nil =>
    show scanText '\'' ('\'' :: tail) = _
    unfold scanText
    rw [if_pos rfl]
  | cons c rest ih =>
    rw [List.flatMap_cons, List.append_assoc]
    by_cases special : c = '\'' ∨ c = '\\'
    · have unchanged : unescape c = [c] := by
        rcases special with rfl | rfl <;> rfl
      rw [escaped, if_pos (by simpa using special)]
      show scanText '\'' ('\\' :: c :: (rest.flatMap escaped ++ '\'' :: tail)) = _
      unfold scanText
      rw [if_neg (by decide), if_pos rfl]
      dsimp only
      rw [ih, unchanged]
      rfl
    · obtain ⟨noQuote, noEscape⟩ := not_or.1 special
      rw [escaped, if_neg (by simpa using special)]
      show scanText '\'' (c :: (rest.flatMap escaped ++ '\'' :: tail)) = _
      unfold scanText
      rw [if_neg noQuote, if_neg noEscape, ih]
      rfl

theorem scanLexeme_text (s : String) (tail : List Char) :
    scanLexeme '\'' (s.toList.flatMap escaped ++ ['\''] ++ tail) = .ok (.text s, tail) := by
  have noNumber : startsNumber ('\'' :: (s.toList.flatMap escaped ++ ['\''] ++ tail)) = false := rfl
  have read := scanText_escaped s.toList tail
  rw [scanLexeme, noNumber, if_neg Bool.false_ne_true, if_pos (by decide), List.append_assoc,
    List.singleton_append, read]
  show Except.ok (Lexeme.text (String.ofList s.toList), tail) = _
  rw [String.ofList_toList]

/-! ## Punctuation -/

theorem scanLexeme_punct (p : Punct) {tail : List Char} (apart : Apart tail) :
    ∃ c cs, p.text.toList = c :: cs ∧ isWhite c = false ∧
      scanLexeme c (cs ++ tail) = .ok (.punct p, tail) := by
  cases apart with
  | nil => cases p <;> exact ⟨_, _, rfl, rfl, rfl⟩
  | blank rest => cases p <;> exact ⟨_, _, rfl, rfl, rfl⟩

/-! ## Texts -/

/-- A text is read as these lexemes, in as many steps as it has characters or more. -/
def Scans (cs : List Char) (lexemes : List Lexeme) : Prop :=
  ∀ steps, cs.length ≤ steps → scanWithin steps cs = .ok lexemes

section Scans

variable {tail : List Char} {lexemes : List Lexeme}

theorem Scans.nil : Scans [] [] := fun steps _ => scanWithin.eq_1 steps

theorem Scans.blank (behind : Scans tail lexemes) : Scans (' ' :: tail) lexemes := by
  intro steps enough
  cases steps with
  | zero => cases enough
  | succ steps =>
    rw [scanWithin, if_pos (by decide)]
    exact behind steps (Nat.le_of_succ_le_succ enough)

/-- One lexeme is read, and then the others. -/
theorem Scans.cons {c : Char} {cs : List Char} {l : Lexeme} (solid : isWhite c = false)
    (scanned : scanLexeme c (cs ++ tail) = .ok (l, tail)) (behind : Scans tail lexemes) :
    Scans (c :: (cs ++ tail)) (l :: lexemes) := by
  intro steps enough
  cases steps with
  | zero => cases enough
  | succ steps =>
    have rest := behind steps (by
      simp only [List.length_cons, List.length_append] at enough
      omega)
    rw [scanWithin, solid, if_neg Bool.false_ne_true, scanned]
    show (scanWithin steps tail).bind _ = _
    rw [rest]
    rfl

/-- A lexeme of one character. -/
theorem Scans.char {c : Char} {l : Lexeme} (solid : isWhite c = false)
    (scanned : scanLexeme c tail = .ok (l, tail)) (behind : Scans tail lexemes) :
    Scans (c :: tail) (l :: lexemes) := @Scans.cons tail lexemes c [] l solid scanned behind

theorem Scans.name {n : String} (h : isIdentifier n = true) (ends : EndsWord tail)
    (behind : Scans tail lexemes) : Scans (n.toList ++ tail) (.name n :: lexemes) := by
  obtain ⟨c, cs, chars, solid, scanned⟩ := scanLexeme_name h ends
  rw [chars]
  exact behind.cons solid scanned

theorem Scans.int {n : Int64} (h : 0 ≤ n.toInt) (ends : EndsWord tail)
    (behind : Scans tail lexemes) :
    Scans (Number.digitsOf n.toInt.toNat ++ tail) (.int n :: lexemes) := by
  obtain ⟨c, cs, chars, solid, scanned⟩ := scanLexeme_int h ends
  rw [chars]
  exact behind.cons solid scanned

theorem Scans.text (s : String) (behind : Scans tail lexemes) :
    Scans ('\'' :: (s.toList.flatMap escaped ++ ['\''] ++ tail)) (.text s :: lexemes) :=
  behind.cons rfl (scanLexeme_text s tail)

theorem Scans.punct (p : Punct) (apart : Apart tail) (behind : Scans tail lexemes) :
    Scans (p.text.toList ++ tail) (.punct p :: lexemes) := by
  obtain ⟨c, cs, chars, solid, scanned⟩ := scanLexeme_punct p apart
  rw [chars]
  exact behind.cons solid scanned

/-- A lexeme is read up to the blank behind it. -/
theorem Scans.written {l : Lexeme} (h : l.Writable) (apart : Apart tail)
    (behind : Scans tail lexemes) : Scans (l.written ++ tail) (l :: lexemes) := by
  cases l with
  | int n => exact behind.int h apart.endsWord
  | float x => exact h.elim
  | text s => exact behind.text s
  | name n => exact behind.name h apart.endsWord
  | punct p => exact behind.punct p apart

theorem Scans.scan_eq {cs : List Char} (h : Scans cs lexemes) : scan cs = .ok lexemes :=
  h _ (Nat.le_refl _)

/-- **Written lexemes are read back**, if blanks stand between them. -/
theorem scan_spaced (h : Writable lexemes) : scan (spaced lexemes) = .ok lexemes := by
  suffices all : Scans (spaced lexemes) lexemes from all.scan_eq
  induction lexemes with
  | nil => exact .nil
  | cons l rest ih =>
    have first := h l (.head _)
    have behind := ih fun l' mem => h l' (.tail _ mem)
    cases rest with
    | nil =>
      have alone : spaced [l] = l.written ++ [] := by simp [spaced]
      rw [alone]
      exact behind.written first .nil
    | cons l' rest =>
      have split : spaced (l :: l' :: rest) = l.written ++ ' ' :: spaced (l' :: rest) := by
        simp [spaced]
      rw [split]
      exact behind.blank.written first (.blank _)

end Scans

/-! ## Trees -/

section Trees

variable {l : Lexeme} {some others : List Lexeme}

@[simp] theorem writable_nil : Writable [] := fun _ mem => by cases mem

@[simp] theorem writable_cons : Writable (l :: some) ↔ l.Writable ∧ Writable some :=
  List.forall_mem_cons

@[simp] theorem writable_append : Writable (some ++ others) ↔ Writable some ∧ Writable others :=
  List.forall_mem_append

@[simp] theorem writable_punct (p : Punct) : (Lexeme.punct p).Writable := trivial

@[simp] theorem writable_name (n : String) :
    (Lexeme.name n).Writable ↔ isIdentifier n = true := Iff.rfl

theorem Writable.grouped {least own : Level} (h : Writable some) :
    Writable (grouped least own some) := by
  unfold Expr.grouped
  split
  · simpa using h
  · exact h

theorem Literal.Printable.writable {value : Literal} (h : value.Printable) :
    value.lexeme.Writable := by
  cases value with
  | null => exact (by decide : isIdentifier "None" = true)
  | bool b =>
    cases b with
    | true => exact (by decide : isIdentifier "True" = true)
    | false => exact (by decide : isIdentifier "False" = true)
  | int n => exact h
  | float x => exact h
  | text s => trivial

theorem UnaryOp.writable (op : UnaryOp) : op.lexeme.Writable := by
  cases op with
  | not => exact (by decide : isIdentifier "not" = true)
  | _ => trivial

theorem Comparison.writable (op : Comparison) : Writable op.lexemes := by
  have word : ∀ n ∈ ["in", "not", "is"], isIdentifier n = true := by decide
  cases op <;> simp [Comparison.lexemes, word]

theorem writable_itemLexemes {items : List Tree} (h : ∀ e ∈ items, Writable e.lexemes) :
    Writable (itemLexemes items) := by
  induction items with
  | nil => exact writable_nil
  | cons e more ih =>
    have first := h e (.head _)
    have others := ih fun e mem => h e (.tail _ mem)
    cases more with
    | nil => exact first
    | cons e' more =>
      rw [itemLexemes]
      simp [first, others]

theorem writable_partLexemes {part : Option Tree} (h : ∀ e ∈ part, Writable e.lexemes) :
    Writable (partLexemes part) ∧ Writable (stepLexemes part) := by
  cases part with
  | none => exact ⟨writable_nil, writable_nil⟩
  | some e =>
    have := h e rfl
    exact ⟨this, by simpa [stepLexemes] using this⟩

theorem writable_linkLexemes {links : List (Comparison × Tree)}
    (h : ∀ link ∈ links, Writable link.2.lexemes) : Writable (linkLexemes links) := by
  induction links with
  | nil => exact writable_nil
  | cons link more ih =>
    obtain ⟨op, e⟩ := link
    have first : Writable (grouped .sum e.level e.lexemes) := (h _ (.head _)).grouped
    have others := ih fun link mem => h link (.tail _ mem)
    simp [linkLexemes, op.writable, first, others]

theorem writable_entryLexemes {entries : List (Tree × Tree)}
    (h : ∀ entry ∈ entries, Writable entry.1.lexemes)
    (h' : ∀ entry ∈ entries, Writable entry.2.lexemes) : Writable (entryLexemes entries) := by
  have further : ∀ entries : List (Tree × Tree), (∀ entry ∈ entries, Writable entry.1.lexemes) →
      (∀ entry ∈ entries, Writable entry.2.lexemes) → Writable (furtherEntryLexemes entries) := by
    intro entries
    induction entries with
    | nil => exact fun _ _ => writable_nil
    | cons entry more ih =>
      intro keys values
      have others := ih (fun entry mem => keys entry (.tail _ mem))
        fun entry mem => values entry (.tail _ mem)
      have := keys entry (.head _)
      have := values entry (.head _)
      simp [furtherEntryLexemes, *]
  cases entries with
  | nil => exact writable_nil
  | cons entry more =>
    have others := further more (fun entry mem => h entry (.tail _ mem))
      fun entry mem => h' entry (.tail _ mem)
    have := h entry (.head _)
    have := h' entry (.head _)
    simp [entryLexemes, *]

/-- The lexemes of a tree that can be written can be written. -/
theorem Tree.Printable.writable {e : Tree} (h : e.Printable) : Writable e.lexemes := by
  have word : ∀ n ∈ ["and", "or", "if", "else"], isIdentifier n = true := by decide
  induction h with
  | literal h => simpa [Tree.lexemes] using h.writable
  | name identifier _ _ => simpa [Tree.lexemes] using identifier
  | member _ identifier ih => simpa [Tree.lexemes] using ⟨ih.grouped, identifier⟩
  | item _ _ ih ih' => simpa [Tree.lexemes] using ⟨ih.grouped, ih'⟩
  | slice _ _ _ _ ih start stop step =>
    have start := (writable_partLexemes start).1
    have stop := (writable_partLexemes stop).1
    have step := (writable_partLexemes step).2
    simpa [Tree.lexemes] using ⟨ih.grouped, start, stop, step⟩
  | call _ _ ih ih' => simpa [Tree.lexemes] using ⟨ih.grouped, writable_itemLexemes ih'⟩
  | @unary op _ _ ih => simpa [Tree.lexemes] using ⟨op.writable, ih.grouped⟩
  | arithmetic _ _ ih ih' => simpa [Tree.lexemes] using ⟨ih.grouped, ih'.grouped⟩
  | @comparison op _ _ _ _ ih ih' =>
    simpa [Tree.lexemes] using ⟨ih.grouped, op.writable, ih'.grouped⟩
  | chain _ _ _ ih ih' => simpa [Tree.lexemes] using ⟨ih.grouped, writable_linkLexemes ih'⟩
  | and _ _ ih ih' =>
    simpa [Tree.lexemes] using ⟨ih.grouped, word _ (by decide), ih'.grouped⟩
  | or _ _ ih ih' =>
    simpa [Tree.lexemes] using ⟨ih.grouped, word _ (by decide), ih'.grouped⟩
  | conditional _ _ _ test body orelse =>
    simpa [Tree.lexemes] using
      ⟨body.grouped, word _ (by decide), test.grouped, word _ (by decide), orelse.grouped⟩
  | list _ ih => simpa [Tree.lexemes] using writable_itemLexemes ih
  | set _ _ ih => simpa [Tree.lexemes] using writable_itemLexemes ih
  | map _ _ keys values => simpa [Tree.lexemes] using writable_entryLexemes keys values

end Trees

end TextTemplate.Expr
