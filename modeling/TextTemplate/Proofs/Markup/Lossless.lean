import Mathlib
import TextTemplate.Markup.Token
import TextTemplate.Proofs.Text.CharClass
import TextTemplate.Proofs.Text.Search

/-!
# Tokens keep the text

What the tokens of a template are is said here without the tokenizer.  A text falls into lines
(`IsLine`).  A marker line is one tag or nothing (`Marks`); any other line falls into literals and marks
(`Factors`), each mark as short as its delimiters allow, and no mark starts inside of a literal.
`Reading` puts the lines together: it holds of a text and its tokens, so that the text can be rebuilt
from them character by character, up to comments and the white space inside of marks.

`tokenize_lossless` shows this of all texts, and that a text that ends with a line can be read by itself.
-/

namespace TextTemplate.Markup

open TextTemplate.Text

/-! ## Lines -/

/-- A line with the text behind it: it holds a line end at its end only, and ends with one unless
nothing is behind. -/
structure IsLine (line rest : List Char) : Prop where
  filled : line ≠ []
  inner : '\n' ∉ line.dropLast
  ends : rest = [] ∨ line.getLast? = some '\n'

theorem lines_cons_newline (cs : List Char) : lines ('\n' :: cs) = ['\n'] :: lines cs := by
  rw [lines, if_pos rfl]

/-- Text that is not empty has a first line. -/
theorem exists_line {cs : List Char} (h : cs ≠ []) :
    ∃ line rest, cs = line ++ rest ∧ IsLine line rest ∧ lines cs = line :: lines rest := by
  induction cs with
  | nil => exact absurd rfl h
  | cons c cs ih =>
    by_cases newline : c = '\n'
    · subst newline
      exact ⟨['\n'], cs, rfl, ⟨by simp, by simp, .inr rfl⟩, lines_cons_newline cs⟩
    · cases cs with
      | nil =>
        exact ⟨[c], [], rfl, ⟨by simp, by simp, .inl rfl⟩, by simp [lines, newline]⟩
      | cons d cs =>
        obtain ⟨line, rest, same, is, first⟩ := ih (by simp)
        refine ⟨c :: line, rest, by rw [same]; rfl, ⟨by simp, ?_, ?_⟩, ?_⟩
        · rw [List.dropLast_cons_of_ne_nil is.filled, List.mem_cons, not_or]
          exact ⟨Ne.symm newline, is.inner⟩
        · rw [List.getLast?_cons_of_ne_nil is.filled]
          exact is.ends
        · rw [lines, if_neg newline, first]

/-- A text that ends with a line is cut off by itself. -/
theorem lines_append {a : List Char} (b : List Char) (h : a = [] ∨ a.getLast? = some '\n') :
    lines (a ++ b) = lines a ++ lines b := by
  induction a with
  | nil => rfl
  | cons c a ih =>
    by_cases none : a = []
    · subst none
      obtain rfl : c = '\n' := by simpa using h
      rw [List.singleton_append, lines_cons_newline]
      rfl
    · have last : a.getLast? = some '\n' := by
        rw [← List.getLast?_cons_of_ne_nil none]
        exact h.resolve_left (by simp)
      have both := ih (.inr last)
      rw [List.cons_append, lines, lines, both]
      by_cases newline : c = '\n'
      · rw [if_pos newline, if_pos newline]
        rfl
      · obtain ⟨line, rest, -, -, first⟩ := exists_line none
        rw [if_neg newline, if_neg newline, first]
        rfl

/-- A text that starts with a line. -/
theorem lines_of_isLine {line rest : List Char} (is : IsLine line rest) :
    lines (line ++ rest) = line :: lines rest := by
  have alone : lines line = [line] := by
    obtain ⟨first, behind, same, is', all⟩ := exists_line is.filled
    rcases is'.ends with rfl | last
    · rw [all, same, List.append_nil]
      rfl
    · cases behind with
      | nil => rw [all, same, List.append_nil]; rfl
      | cons c behind =>
        refine absurd ?_ is.inner
        rw [same, List.dropLast_append_of_ne_nil (by simp)]
        exact List.mem_append_left _ (List.mem_of_getLast? last)
  rcases is.ends with rfl | last
  · rw [List.append_nil, alone]
    rfl
  · rw [lines_append rest (.inr last), alone]
    rfl

/-- A text starts with one line only. -/
theorem IsLine.unique {line line' rest rest' : List Char} (is : IsLine line rest)
    (is' : IsLine line' rest') (same : line ++ rest = line' ++ rest') : line = line' ∧ rest = rest' := by
  have first : line :: lines rest = line' :: lines rest' := by
    rw [← lines_of_isLine is, same, lines_of_isLine is']
  obtain rfl : line = line' := (List.cons.inj first).1
  exact ⟨rfl, List.append_cancel_left same⟩

/-! ## Tokens of several lines -/

/-- A token of a later line. -/
def Token.shift (token : Token) (count : Nat) : Token := { token with line := token.line + count }

theorem pairTokens_add (number count : Nat) (pair : List Char × Mark) :
    pairTokens (number + count) pair = (pairTokens number pair).map (·.shift count) := by
  obtain ⟨literal, kind, inside⟩ := pair
  rw [pairTokens, pairTokens, List.map_append]
  congr 1
  · split <;> rfl
  · cases kind <;> rfl

theorem lineTokens_add (number count : Nat) (line : List Char) :
    lineTokens (number + count) line = (lineTokens number line).map (·.shift count) := by
  unfold lineTokens
  split
  · rfl
  · rfl
  · dsimp only
    rw [List.map_append, List.map_flatMap, funext (pairTokens_add number count)]
    rfl

theorem linesTokens_add (number count : Nat) (ls : List (List Char)) :
    linesTokens (number + count) ls = (linesTokens number ls).map (·.shift count) := by
  induction ls generalizing number with
  | nil => rfl
  | cons line rest ih =>
    rw [linesTokens, linesTokens, List.map_append, ← lineTokens_add, ← ih, Nat.add_right_comm]

theorem linesTokens_append (number : Nat) (ls ls' : List (List Char)) :
    linesTokens number (ls ++ ls') = linesTokens number ls ++ linesTokens (number + ls.length) ls' := by
  induction ls generalizing number with
  | nil => rfl
  | cons line rest ih =>
    rw [List.cons_append, linesTokens, linesTokens, ih, List.append_assoc, List.length_cons,
      Nat.add_assoc, Nat.add_comm 1]

/-- What comes behind the end of a line does not matter to the tokens before. -/
theorem tokenize_append {a : String} (b : String) (h : a = "" ∨ a.toList.getLast? = some '\n') :
    tokenize (a ++ b) = tokenize a ++ (tokenize b).map (·.shift (lineCount a)) := by
  have ends : a.toList = [] ∨ a.toList.getLast? = some '\n' := by
    refine h.imp (fun empty => ?_) id
    rw [empty]
    rfl
  rw [tokenize, String.toList_append, lines_append _ ends, linesTokens_append, linesTokens_add]
  rfl

/-! ## Marker lines -/

/-- A line with a marker: blanks, the marker, blanks, and a text that starts with no white space. -/
def Marks (sign : String) (line body : List Char) : Prop :=
  ∃ before between c rest, line = before ++ (sign.toList ++ (between ++ body)) ∧
    (∀ d ∈ before, isBlank d = true) ∧ (∀ d ∈ between, isBlank d = true) ∧
    body = c :: rest ∧ isWhite c = false

/-- White space at the end of a marker line: blanks and the line end. -/
def isTail (c : Char) : Prop := isBlank c = true ∨ c = '\r' ∨ c = '\n'

theorem isWhite_of_isBlank {c : Char} (h : isBlank c = true) : isWhite c = true := by
  have : c = ' ' ∨ c = '\t' := by simpa [isBlank] using h
  rcases this with rfl | rfl <;> rfl

theorem dropWhile_isBlank {before cs : List Char} {c : Char} (blank : ∀ d ∈ before, isBlank d = true)
    (solid : isBlank c = false) : (before ++ c :: cs).dropWhile isBlank = c :: cs := by
  rw [List.dropWhile_append_of_pos blank, List.dropWhile_cons_of_neg (by simp [solid])]

/-- What is left out at the end of a marker line. -/
theorem exists_markerText (cs : List Char) :
    ∃ tail, cs = markerText cs ++ tail ∧ ∀ c ∈ tail, isTail c := by
  have drop : ∀ (d : Char) (cs : List Char), ∃ tail, cs = dropLast d cs ++ tail ∧ ∀ c ∈ tail, c = d := by
    intro d cs
    unfold dropLast
    cases eq : cs.reverse with
    | nil => exact ⟨[], by simpa using eq, by simp⟩
    | cons last before =>
      have whole : cs = before.reverse ++ [last] := by
        rw [← List.reverse_reverse cs, eq, List.reverse_cons]
      dsimp only
      by_cases same : last = d
      · exact ⟨[last], by rw [if_pos same, ← whole], by simpa using same⟩
      · exact ⟨[], by rw [if_neg same, List.append_nil], by simp⟩
  obtain ⟨newline, first, isNewline⟩ := drop '\n' cs
  obtain ⟨return', second, isReturn⟩ := drop '\r' (dropLast '\n' cs)
  have third : dropLast '\r' (dropLast '\n' cs) = markerText cs ++
      ((dropLast '\r' (dropLast '\n' cs)).reverse.takeWhile isBlank).reverse := by
    rw [markerText, ← List.reverse_append, List.takeWhile_append_dropWhile, List.reverse_reverse]
  refine ⟨((dropLast '\r' (dropLast '\n' cs)).reverse.takeWhile isBlank).reverse ++ return' ++ newline,
    ?_, ?_⟩
  · rw [← List.append_assoc, ← List.append_assoc, ← third, ← second, ← first]
  · intro c mem
    simp only [List.mem_append, List.mem_reverse] at mem
    rcases mem with (blank | mem) | mem
    · exact .inl (List.all_eq_true.1 List.all_takeWhile c blank)
    · exact .inr (.inl (isReturn c mem))
    · exact .inr (.inr (isNewline c mem))

theorem markerBody?_append {between rest : List Char} {c : Char}
    (blank : ∀ d ∈ between, isBlank d = true) (solid : isWhite c = false) :
    markerBody? (between ++ c :: rest) = some (markerText (c :: rest)) := by
  have noBlank : isBlank c = false := by
    refine Bool.eq_false_iff.2 fun blank => ?_
    rw [isWhite_of_isBlank blank] at solid
    cases solid
  rw [markerBody?, dropWhile_isBlank blank noBlank]
  dsimp only
  rw [solid, if_neg Bool.false_ne_true]

theorem markerBody?_eq_some {cs body : List Char} (h : markerBody? cs = some body) :
    ∃ between c rest, cs = between ++ c :: rest ∧ (∀ d ∈ between, isBlank d = true) ∧
      isWhite c = false := by
  unfold markerBody? at h
  cases solid : cs.dropWhile isBlank with
  | nil =>
    rw [solid] at h
    cases h
  | cons c rest =>
    rw [solid] at h
    dsimp only at h
    split at h
    · cases h
    · next notWhite =>
      refine ⟨cs.takeWhile isBlank, c, rest, ?_, List.all_eq_true.1 List.all_takeWhile,
        Bool.eq_false_iff.2 notWhite⟩
      rw [← solid, List.takeWhile_append_dropWhile]

theorem marker?_tag {line body : List Char} (h : Marks "%%" line body) :
    marker? line = some (.tag (markerText body)) := by
  obtain ⟨before, between, c, rest, rfl, blank, blank', rfl, solid⟩ := h
  have first : (before ++ ("%%".toList ++ (between ++ c :: rest))).dropWhile isBlank =
      '%' :: '%' :: (between ++ c :: rest) := dropWhile_isBlank blank (by decide)
  rw [marker?, first]
  show (markerBody? (between ++ c :: rest)).map Marker.tag = _
  rw [markerBody?_append blank' solid]
  rfl

theorem marker?_comment {line body : List Char} (h : Marks "##" line body) :
    marker? line = some .comment := by
  obtain ⟨before, between, c, rest, rfl, blank, blank', rfl, solid⟩ := h
  have first : (before ++ ("##".toList ++ (between ++ c :: rest))).dropWhile isBlank =
      '#' :: '#' :: (between ++ c :: rest) := dropWhile_isBlank blank (by decide)
  rw [marker?, first]
  show (markerBody? (between ++ c :: rest)).map (fun _ => Marker.comment) = _
  rw [markerBody?_append blank' solid]
  rfl

/-- Without a marker a line is no marker line. -/
theorem marker?_eq_none {line : List Char} (tag : ∀ body, ¬ Marks "%%" line body)
    (comment : ∀ body, ¬ Marks "##" line body) : marker? line = none := by
  have marks : ∀ (sign : String) {rest body : List Char},
      line.dropWhile isBlank = sign.toList ++ rest → markerBody? rest = some body →
      ∃ body, Marks sign line body := by
    intro sign rest body start found
    obtain ⟨between, c, rest', rfl, blank, solid⟩ := markerBody?_eq_some found
    refine ⟨c :: rest', line.takeWhile isBlank, between, c, rest', ?_,
      List.all_eq_true.1 List.all_takeWhile, blank, rfl, solid⟩
    rw [← start, List.takeWhile_append_dropWhile]
  unfold marker?
  split
  · next rest start =>
    cases found : markerBody? rest with
    | none => rfl
    | some body =>
      obtain ⟨body, is⟩ := marks "%%" start found
      exact absurd is (tag body)
  · next rest start =>
    cases found : markerBody? rest with
    | none => rfl
    | some body =>
      obtain ⟨body, is⟩ := marks "##" start found
      exact absurd is (comment body)
  · rfl

/-! ## Marks -/

/-- A mark ends where its closing delimiter stands for the first time. -/
def Mark.Closed (m : Mark) : Prop :=
  ∀ n < m.inside.length, ¬ m.kind.closing <+: (m.inside ++ m.kind.closing).drop n

/-- A text starts with a mark: with an opening delimiter, and a closing one of the same kind behind. -/
def StartsMark (cs : List Char) : Prop := ∃ m : Mark, m.written <+: cs

theorem closing_ne_nil (kind : MarkKind) : kind.closing ≠ [] := by
  cases kind <;> simp [MarkKind.closing]

theorem markOf?_eq_some {kind : MarkKind} {cs rest : List Char} {m : Mark}
    (h : markOf? kind cs = some (m, rest)) : cs = m.written ++ rest ∧ m.Closed := by
  unfold markOf? at h
  cases after : afterPrefix? kind.opening cs with
  | none =>
    rw [after] at h
    cases h
  | some behind =>
    rw [after] at h
    obtain ⟨⟨inside, rest'⟩, cut, same⟩ := Option.map_eq_some_iff.1 h
    cases same
    obtain ⟨split, first⟩ := (cut?_eq_some (closing_ne_nil kind)).1 cut
    refine ⟨?_, fun n lt close => first n lt ?_⟩
    · rw [afterPrefix?_eq_some.1 after, split, Mark.written]
      simp only [List.append_assoc]
    · have short : n ≤ (inside ++ kind.closing).length := by
        rw [List.length_append]
        exact Nat.le_trans (Nat.le_of_lt lt) (Nat.le_add_right _ _)
      rw [split, ← List.append_assoc, List.drop_append_of_le_length short]
      exact List.IsPrefix.trans close (List.prefix_append _ _)

theorem markOf?_eq_none {kind : MarkKind} {cs : List Char} :
    markOf? kind cs = none ↔ ∀ inside, ¬ Mark.written ⟨kind, inside⟩ <+: cs := by
  unfold markOf?
  cases after : afterPrefix? kind.opening cs with
  | none =>
    have away := afterPrefix?_eq_none.1 after
    refine ⟨fun _ inside start => away ?_, fun _ => rfl⟩
    rw [Mark.written, List.append_assoc] at start
    exact (List.prefix_append _ _).trans start
  | some behind =>
    dsimp only
    rw [Option.map_eq_none_iff, cut?_eq_none (closing_ne_nil kind), afterPrefix?_eq_some.1 after]
    constructor
    · intro open' inside start
      rw [Mark.written, List.append_assoc, List.prefix_append_right_inj] at start
      exact open' ((List.suffix_append _ _).isInfix.trans start.isInfix)
    · rintro never ⟨inside, rest, rfl⟩
      refine never inside ⟨rest, ?_⟩
      rw [Mark.written]
      simp only [List.append_assoc]

theorem mark?_eq_some {cs rest : List Char} {m : Mark} (h : mark? cs = some (m, rest)) :
    cs = m.written ++ rest ∧ m.Closed := by
  unfold mark? at h
  split at h
  · next found eq =>
    rw [Option.some.inj h] at eq
    exact markOf?_eq_some eq
  · split at h
    · next found eq =>
      rw [Option.some.inj h] at eq
      exact markOf?_eq_some eq
    · exact markOf?_eq_some h

theorem mark?_eq_none {cs : List Char} (h : mark? cs = none) : ¬ StartsMark cs := by
  unfold mark? at h
  split at h
  · cases h
  · next comment =>
    split at h
    · cases h
    · next expression =>
      rintro ⟨⟨kind, inside⟩, start⟩
      cases kind with
      | comment => exact markOf?_eq_none.1 comment inside start
      | expression => exact markOf?_eq_none.1 expression inside start
      | tag => exact markOf?_eq_none.1 h inside start

theorem Mark.Closed.le_length {kind : MarkKind} {inside inside' rest rest' : List Char}
    (closed : Mark.Closed ⟨kind, inside'⟩)
    (same : inside ++ (kind.closing ++ rest) = inside' ++ (kind.closing ++ rest')) :
    inside'.length ≤ inside.length := by
  refine Nat.le_of_not_lt fun lt => closed inside.length lt ?_
  have long : kind.closing.length ≤ ((inside' ++ kind.closing).drop inside.length).length := by
    rw [List.length_drop, List.length_append]
    omega
  have start : kind.closing <+: (inside' ++ kind.closing).drop inside.length ++ rest' := by
    rw [← List.drop_append_of_le_length (by rw [List.length_append]; omega), List.append_assoc, ← same,
      List.drop_left]
    exact List.prefix_append _ _
  exact List.prefix_of_prefix_length_le start (List.prefix_append _ _) long

/-- A text starts with one mark only. -/
theorem Mark.Closed.unique {m m' : Mark} {rest rest' : List Char} (closed : m.Closed)
    (closed' : m'.Closed) (same : m.written ++ rest = m'.written ++ rest') : m = m' ∧ rest = rest' := by
  obtain ⟨kind, inside⟩ := m
  obtain ⟨kind', inside'⟩ := m'
  simp only [Mark.written, List.append_assoc] at same
  obtain rfl : kind = kind' := by
    cases kind <;> cases kind' <;> first | rfl | simp [MarkKind.opening] at same
  have behind := List.append_cancel_left same
  obtain ⟨rfl, others⟩ := List.append_inj behind
    (Nat.le_antisymm (closed.le_length behind.symm) (closed'.le_length behind))
  exact ⟨rfl, List.append_cancel_left others⟩

/-! ## Lines of literals and marks -/

/-- A text inside of a mark without the white space at both ends. -/
def Trims (inside text : List Char) : Prop :=
  ∃ left right, inside = left ++ (text ++ right) ∧ (∀ c ∈ left, isWhite c = true) ∧
    (∀ c ∈ right, isWhite c = true) ∧ (∀ c ∈ text.head?, isWhite c = false) ∧
    ∀ c ∈ text.getLast?, isWhite c = false

theorem head?_dropWhile_isWhite (cs : List Char) :
    ∀ c ∈ (cs.dropWhile isWhite).head?, isWhite c = false := by
  intro c mem
  have := List.head?_dropWhile_not isWhite cs
  rw [Option.mem_def.1 mem] at this
  exact this

theorem trims_trim (inside : List Char) : Trims inside (trim inside) := by
  have white : ∀ cs : List Char, ∀ c ∈ cs.takeWhile isWhite, isWhite c = true :=
    fun cs => List.all_eq_true.1 List.all_takeWhile
  have back : trimLeft inside =
      trim inside ++ ((trimLeft inside).reverse.takeWhile isWhite).reverse := by
    rw [trim, trimRight, ← List.reverse_append, List.takeWhile_append_dropWhile, List.reverse_reverse]
  refine ⟨inside.takeWhile isWhite, ((trimLeft inside).reverse.takeWhile isWhite).reverse, ?_, white _,
    fun c mem => white _ c (List.mem_reverse.1 mem), ?_, ?_⟩
  · rw [← back, trimLeft, List.takeWhile_append_dropWhile]
  · intro c mem
    refine head?_dropWhile_isWhite inside c ?_
    rw [show inside.dropWhile isWhite = trimLeft inside from rfl, back]
    cases text : trim inside with
    | nil =>
      rw [text] at mem
      cases mem
    | cons d rest =>
      rw [text] at mem
      exact mem
  · intro c mem
    refine head?_dropWhile_isWhite (trimLeft inside).reverse c ?_
    rw [trim, trimRight, List.getLast?_reverse] at mem
    exact mem

theorem dropWhile_isWhite {white cs : List Char} (all : ∀ c ∈ white, isWhite c = true)
    (solid : ∀ c ∈ cs.head?, isWhite c = false) : (white ++ cs).dropWhile isWhite = cs := by
  rw [List.dropWhile_append_of_pos all]
  cases cs with
  | nil => rfl
  | cons c cs => rw [List.dropWhile_cons_of_neg (by simp [solid c rfl])]

/-- Text is trimmed in one way only. -/
theorem Trims.eq_trim {inside text : List Char} (h : Trims inside text) : text = trim inside := by
  obtain ⟨left, right, rfl, white, white', first, last⟩ := h
  cases text with
  | nil =>
    have none : trimLeft (left ++ ([] ++ right)) = [] := by
      rw [trimLeft, ← List.append_nil (left ++ _)]
      refine dropWhile_isWhite (fun c mem => ?_) (by simp)
      exact (List.mem_append.1 mem).elim (white c) (white' c)
    rw [trim, none]
    rfl
  | cons c cs =>
    have front : trimLeft (left ++ (c :: cs ++ right)) = c :: cs ++ right :=
      dropWhile_isWhite white first
    rw [trim, front, trimRight, List.reverse_append, dropWhile_isWhite, List.reverse_reverse]
    · exact fun d mem => white' d (List.mem_reverse.1 mem)
    · rw [List.head?_reverse]
      exact last

/-- What the tokens of a mark are: none of a comment, and else the text inside. -/
inductive MarkReads (number : Nat) : Mark → List Token → Prop
  | comment {inside : List Char} : MarkReads number ⟨.comment, inside⟩ []
  | expression {inside text : List Char} : Trims inside text →
      MarkReads number ⟨.expression, inside⟩ [⟨number, .expression, String.ofList text⟩]
  | tag {inside text : List Char} : Trims inside text →
      MarkReads number ⟨.tag, inside⟩ [⟨number, .tag, String.ofList text⟩]

/-- No mark starts inside of a literal, whatever stands behind; so there is none in the literal. -/
structure Unmarked (literal behind : List Char) : Prop where
  starts : ∀ n < literal.length, ¬ StartsMark ((literal ++ behind).drop n)
  inner : ∀ m : Mark, ¬ m.written <:+: literal

/-- A line with a number falls into literals and marks, in turn; these are its tokens. -/
inductive Factors (number : Nat) : List Char → List Token → Prop
  | last {literal : List Char} : Unmarked literal [] →
      Factors number literal [⟨number, .literal, String.ofList literal⟩]
  | mark {literal rest : List Char} {m : Mark} {tokens more : List Token} :
      Unmarked literal (m.written ++ rest) → m.Closed → MarkReads number m tokens →
      Factors number rest more →
      Factors number (literal ++ (m.written ++ rest))
        ((if literal = [] then [] else [⟨number, .literal, String.ofList literal⟩]) ++ (tokens ++ more))

theorem unmarked_of_starts {literal behind : List Char}
    (h : ∀ n < literal.length, ¬ StartsMark ((literal ++ behind).drop n)) : Unmarked literal behind := by
  refine ⟨h, ?_⟩
  rintro m ⟨before, after, rfl⟩
  have pos : 0 < m.written.length := by
    rw [Mark.written]
    cases m.kind <;> simp [MarkKind.opening]
  refine h before.length (by simp only [List.length_append]; omega) ⟨m, after ++ behind, ?_⟩
  simp only [List.append_assoc, List.drop_left]

theorem Unmarked.ne_append {literal literal' rest behind : List Char} {m : Mark}
    (unmarked : Unmarked literal behind) : literal ≠ literal' ++ (m.written ++ rest) := by
  rintro rfl
  exact unmarked.inner m ⟨literal', rest, by rw [List.append_assoc]⟩

theorem Unmarked.length_le {literal literal' rest behind : List Char} {m : Mark}
    (unmarked : Unmarked literal' behind)
    (same : literal ++ (m.written ++ rest) = literal' ++ behind) : literal'.length ≤ literal.length := by
  refine Nat.le_of_not_lt fun lt => unmarked.starts literal.length lt ⟨m, rest, ?_⟩
  rw [← same, List.drop_left]

/-- The first mark of a line is determined. -/
theorem Unmarked.unique {literal literal' rest rest' : List Char} {m m' : Mark}
    (unmarked : Unmarked literal (m.written ++ rest)) (closed : m.Closed)
    (unmarked' : Unmarked literal' (m'.written ++ rest')) (closed' : m'.Closed)
    (same : literal ++ (m.written ++ rest) = literal' ++ (m'.written ++ rest')) :
    literal = literal' ∧ m = m' ∧ rest = rest' := by
  obtain ⟨rfl, behind⟩ := List.append_inj same
    (Nat.le_antisymm (unmarked.length_le same.symm) (unmarked'.length_le same))
  exact ⟨rfl, closed.unique closed' behind⟩

theorem markReads (number : Nat) (m : Mark) : MarkReads number m (m.token? number).toList := by
  obtain ⟨kind, inside⟩ := m
  cases kind with
  | comment => exact .comment
  | expression => exact .expression (trims_trim inside)
  | tag => exact .tag (trims_trim inside)

theorem factorFrom_of_mark {before rest behind : List Char} {c : Char} {m : Mark}
    (h : mark? (c :: rest) = some (m, behind)) :
    factorFrom before (c :: rest) =
      ((before.reverse, m) :: (factorFrom [] behind).1, (factorFrom [] behind).2) := by
  rw [factorFrom]
  split
  · next found =>
    rw [h] at found
    cases found
    rfl
  · next none =>
    rw [h] at none
    cases none

theorem factorFrom_of_none {before rest : List Char} {c : Char} (h : mark? (c :: rest) = none) :
    factorFrom before (c :: rest) = factorFrom (c :: before) rest := by
  rw [factorFrom]
  split
  · next found =>
    rw [h] at found
    cases found
  · rfl

/-- Reading goes on from a place up to which no mark starts. -/
theorem factors_factorFrom (number : Nat) (before cs : List Char)
    (h : ∀ n < before.length, ¬ StartsMark ((before.reverse ++ cs).drop n)) :
    Factors number (before.reverse ++ cs) ((factorFrom before cs).1.flatMap (pairTokens number) ++
      [literalToken number (factorFrom before cs).2]) := by
  induction before, cs using factorFrom.induct with
  | case1 before =>
    rw [factorFrom, List.append_nil]
    refine .last (unmarked_of_starts fun n lt => ?_)
    rw [List.length_reverse] at lt
    exact h n lt
  | case2 before c rest m behind found pairs last eq ih =>
    obtain ⟨whole, closed⟩ := mark?_eq_some found
    have first : pairTokens number (before.reverse, m) =
        (if before.reverse = [] then [] else [⟨number, .literal, String.ofList before.reverse⟩]) ++
          (m.token? number).toList := by
      rw [pairTokens]
      cases before.reverse <;> rfl
    rw [factorFrom_of_mark found, List.flatMap_cons, first, List.append_assoc, List.append_assoc]
    rw [whole] at h ⊢
    refine .mark (unmarked_of_starts fun n lt => ?_) closed (markReads number m) ?_
    · rw [List.length_reverse] at lt
      exact h n lt
    · exact ih fun n lt => absurd lt (Nat.not_lt_zero n)
  | case3 before c rest found ih =>
    rw [factorFrom_of_none found]
    have shift : before.reverse ++ c :: rest = (c :: before).reverse ++ rest := by simp
    rw [shift] at h ⊢
    refine ih fun n lt => ?_
    by_cases here : n = before.length
    · rw [here, ← shift, ← List.length_reverse, List.drop_left]
      exact mark?_eq_none found
    · refine h n ?_
      rw [List.length_cons] at lt
      omega

/-- A line falls into literals and marks. -/
theorem factors_factor (number : Nat) (line : List Char) :
    Factors number line
      ((factor line).1.flatMap (pairTokens number) ++ [literalToken number (factor line).2]) :=
  factors_factorFrom number [] line fun n lt => absurd lt (Nat.not_lt_zero n)

/-! ## Texts -/

/-- What the tokens of a line with a number are. -/
structure LineReads (number : Nat) (line : List Char) (tokens : List Token) : Prop where
  tag : ∀ body, Marks "%%" line body → ∃ text tail, body = text ++ tail ∧ (∀ c ∈ tail, isTail c) ∧
    tokens = [⟨number, .tag, String.ofList text⟩]
  comment : ∀ body, Marks "##" line body → tokens = []
  text : (∀ body, ¬ Marks "%%" line body) → (∀ body, ¬ Marks "##" line body) →
    Factors number line tokens

/-- What the tokens of a text are, whose first line has a number. -/
inductive Reading : Nat → List Char → List Token → Prop
  | done {number : Nat} : Reading number [] []
  | line {number : Nat} {line rest : List Char} {tokens more : List Token} :
      IsLine line rest → LineReads number line tokens → (∀ token ∈ tokens, token.line = number) →
      Reading (number + 1) rest more → Reading number (line ++ rest) (tokens ++ more)

theorem lineReads (number : Nat) (line : List Char) :
    LineReads number line (lineTokens number line) where
  tag body marks := by
    obtain ⟨tail, whole, isTail⟩ := exists_markerText body
    refine ⟨markerText body, tail, whole, isTail, ?_⟩
    rw [lineTokens, marker?_tag marks]
  comment body marks := by rw [lineTokens, marker?_comment marks]
  text noTag noComment := by
    rw [lineTokens, marker?_eq_none noTag noComment]
    exact factors_factor number line

theorem line_of_mem {number : Nat} {line : List Char} {token : Token}
    (h : token ∈ lineTokens number line) : token.line = number := by
  unfold lineTokens at h
  split at h
  · rw [List.mem_singleton.1 h]
  · cases h
  · dsimp only at h
    rcases List.mem_append.1 h with h | h
    · obtain ⟨⟨literal, kind, inside⟩, -, h⟩ := List.mem_flatMap.1 h
      rcases List.mem_append.1 h with h | h
      · split at h
        · cases h
        · rw [List.mem_singleton.1 h]
          rfl
      · cases kind with
        | comment => cases h
        | expression => rw [List.mem_singleton.1 h]
        | tag => rw [List.mem_singleton.1 h]
    · rw [List.mem_singleton.1 h]
      rfl

theorem line_of_linesTokens {first : Nat} {ls : List (List Char)} {token : Token}
    (h : token ∈ linesTokens first ls) : first ≤ token.line ∧ token.line < first + ls.length := by
  induction ls generalizing first with
  | nil => cases h
  | cons line rest ih =>
    rw [List.length_cons]
    rcases List.mem_append.1 h with h | h
    · have := line_of_mem h
      omega
    · have := ih h
      omega

/-- The line of a token is one of the template. -/
theorem line_of_tokenize {source : String} {token : Token} (h : token ∈ tokenize source) :
    1 ≤ token.line ∧ token.line ≤ lineCount source := by
  have := line_of_linesTokens h
  rw [lineCount]
  omega

/-- The tokens of a text are those of its lines: by induction on its length. -/
theorem reading_linesTokens (number : Nat) (cs : List Char) :
    Reading number cs (linesTokens number (lines cs)) := by
  by_cases none : cs = []
  · subst none
    exact .done
  · obtain ⟨line, rest, whole, is, first⟩ := exists_line none
    have shorter : rest.length < cs.length := by
      have pos := List.length_pos_iff.2 is.filled
      rw [whole, List.length_append]
      omega
    rw [first, whole, linesTokens]
    exact .line is (lineReads number line) (fun _ mem => line_of_mem mem)
      (reading_linesTokens (number + 1) rest)
termination_by cs.length

/-- **Tokenizing is lossless and line-local.**  A text that is empty or ends with a line has its tokens
whatever comes behind, where only the line numbers go on; and the tokens of any text are those of its
lines, each with the number of its line, counted from one. -/
theorem tokenize_lossless :
    (∀ a b : String, a = "" ∨ a.toList.getLast? = some '\n' →
      tokenize (a ++ b) = tokenize a ++ (tokenize b).map (·.shift (lineCount a))) ∧
    ∀ source : String, Reading 1 source.toList (tokenize source) :=
  ⟨fun _ b h => tokenize_append b h, fun source => reading_linesTokens 1 source.toList⟩

set_option maxRecDepth 100000 in
/-- A line of text and a line with a mark behind it. -/
theorem tokenize_two_lines :
    tokenize ("x\n" ++ "y\x7b% z %\x7d") =
        [⟨1, .literal, "x\n"⟩, ⟨2, .literal, "y"⟩, ⟨2, .tag, "z"⟩, ⟨2, .literal, ""⟩] ∧
      Reading 1 ("x\n" ++ "y\x7b% z %\x7d").toList (tokenize ("x\n" ++ "y\x7b% z %\x7d")) := by
  refine ⟨(tokenize_lossless.1 _ _ (.inr rfl)).trans ?_, tokenize_lossless.2 _⟩
  cbv

end TextTemplate.Markup
