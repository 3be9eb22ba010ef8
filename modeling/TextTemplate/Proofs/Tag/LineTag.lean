import TextTemplate.Proofs.Markup.Lossless
import TextTemplate.Proofs.Tag.Lines

/-!
# Tags on a line of their own

A line that starts with `%%` holds the same tag as a mark between braces does.  The line is exactly the
token of the tag, while behind the mark stands an empty literal, which the parser passes over.  So a
template with such a line is parsed as if the mark stood there, up to line numbers
(`line_tag_eq_brace_tag`).
-/

namespace TextTemplate.Tag

open TextTemplate.Markup TextTemplate.Text

/-! ## Lines -/

/-- The text of a tag that can stand on a line and between braces. -/
structure IsTagText (text : List Char) : Prop where
  filled : text ≠ []
  front : ∀ c ∈ text.head?, isWhite c = false
  back : ∀ c ∈ text.getLast?, isWhite c = false
  inner : '\n' ∉ text
  closes : ¬ MarkKind.tag.closing <:+: text

/-- How a line may end. -/
inductive IsLineEnd : List Char → Prop
  | newline : IsLineEnd ['\n']
  | carriageReturn : IsLineEnd ['\r', '\n']
  | endOfInput : IsLineEnd []

/-- Blanks and tabs. -/
def IsBlanks (cs : List Char) : Prop := ∀ c ∈ cs, isBlank c = true

/-- A tag on a line of its own. -/
def lineTag (before between text behind ending : List Char) : List Char :=
  before ++ ("%%".toList ++ (between ++ (text ++ (behind ++ ending))))

/-- A tag between braces. -/
def braceTag (text : List Char) : List Char := Mark.written ⟨.tag, ' ' :: (text ++ [' '])⟩

section Lines

variable {before between text behind ending : List Char}

theorem dropLast_append_self (c : Char) (cs : List Char) : dropLast c (cs ++ [c]) = cs := by
  rw [dropLast, List.reverse_append]
  show (if c = c then cs.reverse.reverse else _) = cs
  rw [if_pos rfl, List.reverse_reverse]

theorem dropLast_of_ne {c : Char} {cs : List Char} (h : ∀ d ∈ cs.getLast?, d ≠ c) :
    dropLast c cs = cs := by
  rw [dropLast]
  cases eq : cs.reverse with
  | nil => exact (List.reverse_eq_nil_iff.1 eq).symm
  | cons last others =>
    have ne : last ≠ c := h last (by rw [List.getLast?_eq_head?_reverse, eq]; rfl)
    exact if_neg ne

/-- A text and blanks behind it end in no part of a line end. -/
theorem getLast?_ne (is : IsTagText text) (blank : IsBlanks behind) {c : Char}
    (white : isWhite c = true) (noBlank : isBlank c = false) :
    ∀ d ∈ (text ++ behind).getLast?, d ≠ c := by
  rintro d mem rfl
  rw [List.getLast?_append] at mem
  cases last : behind.getLast? with
  | some e =>
    rw [last] at mem
    cases mem
    rw [blank d (List.mem_of_getLast? last)] at noBlank
    cases noBlank
  | none =>
    rw [last] at mem
    rw [is.back d mem] at white
    cases white

/-- The line end and the blanks in front of it are no part of the tag. -/
theorem markerText_eq (is : IsTagText text) (blank : IsBlanks behind) (ends : IsLineEnd ending) :
    markerText (text ++ (behind ++ ending)) = text := by
  have bare : dropLast '\r' (dropLast '\n' (text ++ (behind ++ ending))) = text ++ behind := by
    have noReturn := dropLast_of_ne (getLast?_ne is blank (c := '\r') (by decide) (by decide))
    rw [← List.append_assoc]
    cases ends with
    | newline => rw [dropLast_append_self, noReturn]
    | carriageReturn =>
      rw [List.append_cons (text ++ behind), dropLast_append_self, dropLast_append_self]
    | endOfInput =>
      rw [List.append_nil, dropLast_of_ne (getLast?_ne is blank (by decide) (by decide)), noReturn]
  rw [markerText, bare, List.reverse_append,
    List.dropWhile_append_of_pos fun c mem => blank c (List.mem_reverse.1 mem)]
  cases eq : text.reverse with
  | nil => exact absurd (List.reverse_eq_nil_iff.1 eq) is.filled
  | cons last others =>
    have solid : isWhite last = false := is.back last (by
      rw [List.getLast?_eq_head?_reverse, eq]
      rfl)
    have noBlank : ¬ isBlank last = true := by
      intro blank
      rw [isWhite_of_isBlank blank] at solid
      cases solid
    rw [List.dropWhile_cons_of_neg noBlank, ← eq, List.reverse_reverse]

theorem marks_lineTag (is : IsTagText text) (blanks : IsBlanks before) (blanks' : IsBlanks between) :
    Marks "%%" (lineTag before between text behind ending) (text ++ (behind ++ ending)) := by
  obtain ⟨c, rest, rfl⟩ := List.exists_cons_of_ne_nil is.filled
  exact ⟨before, between, c, rest ++ (behind ++ ending), rfl, blanks, blanks', rfl, is.front c rfl⟩

/-- A line with a marker is the token of its tag, and no literal. -/
theorem lineTokens_lineTag (is : IsTagText text) (blanks : IsBlanks before)
    (blanks' : IsBlanks between) (blanks'' : IsBlanks behind) (ends : IsLineEnd ending)
    (number : Nat) :
    lineTokens number (lineTag before between text behind ending) =
      [⟨number, .tag, String.ofList text⟩] := by
  rw [lineTokens, marker?_tag (marks_lineTag is blanks blanks'), markerText_eq is blanks'' ends]

/-- A text without the closing delimiter does not make one with a blank behind it, either. -/
theorem not_closing_of_lt {cs : List Char} (closes : ¬ MarkKind.tag.closing <:+: cs) :
    ∀ n < (cs ++ [' ']).length,
      ¬ MarkKind.tag.closing <+: (cs ++ [' '] ++ MarkKind.tag.closing).drop n := by
  induction cs with
  | nil =>
    intro n lt
    obtain rfl : n = 0 := Nat.lt_one_iff.1 lt
    decide
  | cons c cs ih =>
    rw [List.infix_cons_iff, not_or] at closes
    intro n lt
    cases n with
    | zero =>
      intro start
      obtain ⟨same, others⟩ := List.cons_prefix_cons.1 start
      -- the percent sign is the last character of the text, or its brace is in the text, too
      cases cs with
      | nil => exact absurd others (by decide)
      | cons d cs =>
        have same' := (List.cons_prefix_cons.1 others).1
        refine closes.1 ⟨cs, ?_⟩
        rw [← same, ← same']
        rfl
    | succ n => exact ih closes.2 n (Nat.lt_of_succ_lt_succ lt)

/-- The mark of a tag closes behind the text. -/
theorem closed_of_isTagText (is : IsTagText text) :
    Mark.Closed ⟨.tag, ' ' :: (text ++ [' '])⟩ := by
  have closes : ¬ MarkKind.tag.closing <:+: ' ' :: text := by
    rw [List.infix_cons_iff, not_or]
    exact ⟨fun start => absurd (List.cons_prefix_cons.1 start).1 (by decide), is.closes⟩
  exact not_closing_of_lt closes

/-- Behind the mark of a tag there is an empty literal. -/
theorem lineTokens_braceTag (is : IsTagText text) (number : Nat) :
    lineTokens number (braceTag text) =
      [⟨number, .tag, String.ofList text⟩, ⟨number, .literal, ""⟩] := by
  have noMarker : marker? (braceTag text) = none := rfl
  have found : mark? (braceTag text) = some (⟨.tag, ' ' :: (text ++ [' '])⟩, []) := by
    cases found : mark? (braceTag text) with
    | none => exact absurd ⟨_, List.prefix_refl _⟩ (mark?_eq_none found)
    | some pair =>
      obtain ⟨m, rest⟩ := pair
      obtain ⟨whole, closed⟩ := mark?_eq_some found
      have same : Mark.written ⟨.tag, ' ' :: (text ++ [' '])⟩ ++ [] = m.written ++ rest := by
        rw [List.append_nil]
        exact whole
      obtain ⟨rfl, rfl⟩ := (closed_of_isTagText is).unique closed same
      rfl
  have white : ∀ c ∈ [' '], isWhite c = true := by
    intro c mem
    rw [List.mem_singleton.1 mem]
    rfl
  have trimmed : text = trim (' ' :: (text ++ [' '])) :=
    Trims.eq_trim ⟨[' '], [' '], rfl, white, white, is.front, is.back⟩
  have factored : factor (braceTag text) = ([([], ⟨.tag, ' ' :: (text ++ [' '])⟩)], []) := by
    rw [factor]
    refine (factorFrom_of_mark found).trans ?_
    rw [factorFrom]
    rfl
  rw [lineTokens, noMarker, factored]
  show [Token.mk number .tag (String.ofList (trim (' ' :: (text ++ [' ']))))] ++ _ = _
  rw [← trimmed]
  rfl

theorem newline_not_mem_blanks {cs : List Char} (blank : IsBlanks cs) : '\n' ∉ cs :=
  fun mem => absurd (blank _ mem) (by decide)

/-- A line tag is one line, if its line end is one or nothing is behind. -/
theorem isLine_lineTag (is : IsTagText text) (blanks : IsBlanks before) (blanks' : IsBlanks between)
    (blanks'' : IsBlanks behind) (ends : IsLineEnd ending) {rest : List Char}
    (last : ending = [] → rest = []) :
    IsLine (lineTag before between text behind ending) rest := by
  obtain ⟨bare, whole, inner⟩ : ∃ bare, lineTag before between text behind ending = bare ++ ending ∧
      '\n' ∉ bare := by
    refine ⟨before ++ ("%%".toList ++ (between ++ (text ++ behind))), ?_, ?_⟩
    · simp only [lineTag, List.append_assoc]
    · simp only [List.mem_append, not_or]
      exact ⟨newline_not_mem_blanks blanks, by decide, newline_not_mem_blanks blanks', is.inner,
        newline_not_mem_blanks blanks''⟩
  refine ⟨fun none => absurd none (by simp [lineTag]), ?_, ?_⟩
  · rw [whole]
    cases ends with
    | newline => rwa [List.dropLast_concat]
    | carriageReturn =>
      rw [List.append_cons, List.dropLast_concat, List.mem_append, not_or]
      exact ⟨inner, by decide⟩
    | endOfInput =>
      rw [List.append_nil]
      exact fun mem => inner (List.mem_of_mem_dropLast mem)
  · rw [whole]
    cases ends with
    | newline => exact .inr List.getLast?_concat
    | carriageReturn =>
      rw [List.append_cons]
      exact .inr List.getLast?_concat
    | endOfInput => exact .inl (last rfl)

theorem isLine_braceTag (is : IsTagText text) : IsLine (braceTag text) [] := by
  refine ⟨by simp [braceTag, Mark.written, MarkKind.opening], fun mem => ?_, .inl rfl⟩
  have mem := List.mem_of_mem_dropLast mem
  simp only [braceTag, Mark.written, List.mem_append, List.mem_cons, MarkKind.opening,
    MarkKind.closing] at mem
  simp [is.inner] at mem

end Lines

/-! ## Tokens of a template -/

theorem unlinedTokens_append (first second : List Token) :
    unlinedTokens (first ++ second) = unlinedTokens first ++ unlinedTokens second := by
  rw [unlinedTokens, filled_append, List.map_append]
  rfl

/-- Tokens of later lines differ in lines only. -/
theorem unlinedTokens_shift (tokens : List Token) (count : Nat) :
    unlinedTokens (tokens.map (·.shift count)) = unlinedTokens tokens := by
  rw [unlinedTokens, filled, List.filter_map, List.map_map]
  rfl

/-- The tokens of a template that starts with a line. -/
theorem tokenize_isLine {line rest : List Char} (is : IsLine line rest) :
    tokenize (String.ofList (line ++ rest)) =
      lineTokens 1 line ++ (tokenize (String.ofList rest)).map (·.shift 1) := by
  rw [tokenize, String.toList_ofList, lines_of_isLine is, linesTokens, linesTokens_add, tokenize,
    String.toList_ofList]

section Templates

variable {before between text behind ending : List Char}

/-- **A line tag is the brace tag.**  A line of blanks, `%%`, blanks, the text of a tag, blanks and a line
end is the token of the tag; the text between braces is the same token and an empty literal behind it.
Wherever the line stands in a template, the template is parsed as if the tokens of the mark stood there,
up to line numbers: to the same nodes, or with the same fault.  The macros must not look at lines, as no
standard macro does. -/
theorem line_tag_eq_brace_tag (is : IsTagText text) (blanks : IsBlanks before)
    (blanks' : IsBlanks between) (blanks'' : IsBlanks behind) (ends : IsLineEnd ending) :
    let line := String.ofList (lineTag before between text behind ending)
    let brace := String.ofList (braceTag text)
    tokenize line = [⟨1, .tag, String.ofList text⟩] ∧
      tokenize brace = [⟨1, .tag, String.ofList text⟩, ⟨1, .literal, ""⟩] ∧
      (∀ m ∈ standard, m.IgnoresLines) ∧
      ∀ a b : String, a = "" ∨ a.toList.getLast? = some '\n' → (ending = [] → b = "") →
        ∀ macros : List Macro, (∀ m ∈ macros, m.IgnoresLines) → ∀ (name : String) (lineCount : Nat),
          unlinedResult (parseTemplate macros (a ++ line ++ b) name) =
            unlinedResult (parseTokens macros (tokenize a ++ tokenize brace ++ tokenize b) lineCount
              name) := by
  intro line brace
  have own := lineTokens_lineTag is blanks blanks' blanks'' ends 1
  have braced : tokenize brace = [⟨1, .tag, String.ofList text⟩, ⟨1, .literal, ""⟩] := by
    have tokens := tokenize_isLine (isLine_braceTag is)
    rw [List.append_nil, lineTokens_braceTag is] at tokens
    exact tokens
  refine ⟨?_, braced, ignoresLines_standard, ?_⟩
  · have tokens := tokenize_isLine (isLine_lineTag is blanks blanks' blanks'' ends (fun _ => rfl))
    rw [List.append_nil, own] at tokens
    exact tokens
  · intro a b front last macros ignore name lineCount
    have isLine : IsLine (lineTag before between text behind ending) b.toList := by
      refine isLine_lineTag is blanks blanks' blanks'' ends fun none => ?_
      rw [last none]
      rfl
    have later : tokenize (line ++ b) = ⟨1, .tag, String.ofList text⟩ ::
        (tokenize b).map (·.shift 1) := by
      have tokens := tokenize_isLine isLine
      rw [own, String.ofList_append, String.ofList_toList] at tokens
      exact tokens
    rw [parseTemplate_eq_parseTokens]
    refine parseTokens_unlined ignore ?_ _ _ _
    rw [String.append_assoc, tokenize_append _ front, later, braced, unlinedTokens_append,
      unlinedTokens_shift, List.append_assoc, unlinedTokens_append]
    congr 1
    have solid : ¬ IsEmptyLiteral ⟨1, .tag, String.ofList text⟩ := fun empty => by cases empty.1
    rw [unlinedTokens_cons solid, unlinedTokens_shift, List.cons_append, unlinedTokens_cons solid,
      List.singleton_append, unlinedTokens_empty ⟨rfl, rfl⟩]

end Templates

namespace Conditional

def condition : List Char := "if x".toList

theorem isTagText_condition : IsTagText condition where
  filled := by decide
  front := by
    rintro c ⟨⟩
    rfl
  back := by
    rintro c ⟨⟩
    rfl
  inner := by decide
  closes := by decide

theorem isBlanks_of_mem {cs : List Char} (h : ∀ c ∈ cs, c = ' ' ∨ c = '\t') : IsBlanks cs := by
  intro c mem
  rcases h c mem with rfl | rfl <;> rfl

/-- A condition opens on a line of its own, between text and the line that ends it. -/
theorem line_tag_condition :
    IsTagText condition ∧ IsLineEnd ['\r', '\n'] ∧
      tokenize "\t%%  if x \r\n" = [⟨1, .tag, "if x"⟩] ∧
      unlinedResult (parseTemplate standard ("a\n" ++ "\t%%  if x \r\n" ++ "b\n%% endif") "t") =
        unlinedResult (parseTokens standard
          (tokenize "a\n" ++ tokenize "\x7b% if x %\x7d" ++ tokenize "b\n%% endif") 0 "t") := by
  have blanks : IsBlanks ['\t'] := isBlanks_of_mem (by simp)
  have blanks' : IsBlanks [' ', ' '] := isBlanks_of_mem (by simp)
  have blanks'' : IsBlanks [' '] := isBlanks_of_mem (by simp)
  obtain ⟨line, -, ignore, parsed⟩ := line_tag_eq_brace_tag isTagText_condition blanks blanks' blanks''
    .carriageReturn
  have noEnd : ['\r', '\n'] = [] → "b\n%% endif" = "" := fun none => by cases none
  exact ⟨isTagText_condition, .carriageReturn, line,
    parsed "a\n" "b\n%% endif" (.inr rfl) noEnd standard ignore "t" 0⟩

end Conditional

end TextTemplate.Tag
