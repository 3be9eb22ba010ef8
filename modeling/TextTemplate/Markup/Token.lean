import TextTemplate.Text.CharClass
import TextTemplate.Text.Search

/-!
# Tokens of a template

A template is read line by line.  A line whose first characters but blanks are `%%` or `##` is a
marker line: a tag, or a comment.  Every other line falls into literal text and marks, and a mark
ends at its first closing delimiter.  A literal in front of a mark is a token unless it is empty;
the literal behind the last mark always is one.
-/

namespace TextTemplate.Markup

open TextTemplate.Text

/-- What a token is. -/
inductive TokenKind where
  | literal | expression | tag
deriving DecidableEq

/-- A token with the number of its line, counted from 1. -/
structure Token where
  line : Nat
  kind : TokenKind
  text : String
deriving DecidableEq

/-! ## Lines -/

/-- The lines of a text, each with its line end. -/
def lines : List Char → List (List Char)
  | [] => []
  | c :: cs =>
    if c = '\n' then [c] :: lines cs
    else match lines cs with
      | [] => [[c]]
      | line :: rest => (c :: line) :: rest

/-! ## Marker lines -/

/-- What a marker line holds. -/
inductive Marker where
  | tag (text : List Char)
  | comment
deriving DecidableEq

/-- A text without one given character at its end. -/
def dropLast (c : Char) (cs : List Char) : List Char :=
  match cs.reverse with
  | [] => []
  | last :: before => if last = c then before.reverse else cs

/-- The text of a marker line without its line end and the blanks in front of it. -/
def markerText (cs : List Char) : List Char :=
  ((dropLast '\r' (dropLast '\n' cs)).reverse.dropWhile isBlank).reverse

/-- What follows a marker: blanks, and a first character that is no white space. -/
def markerBody? (cs : List Char) : Option (List Char) :=
  match cs.dropWhile isBlank with
  | [] => none
  | c :: rest => if isWhite c then none else some (markerText (c :: rest))

/-- Reads a marker line. -/
def marker? (line : List Char) : Option Marker :=
  match line.dropWhile isBlank with
  | '%' :: '%' :: rest => (markerBody? rest).map .tag
  | '#' :: '#' :: rest => (markerBody? rest).map fun _ => .comment
  | _ => none

/-! ## Marks inside a line -/

/-- The kinds of marks. -/
inductive MarkKind where
  | comment | expression | tag
deriving DecidableEq

/-- How a mark opens. -/
def MarkKind.opening : MarkKind → List Char
  | .comment => ['\x7b', '#']
  | .expression => ['\x7b', '\x7b']
  | .tag => ['\x7b', '%']

/-- How a mark closes. -/
def MarkKind.closing : MarkKind → List Char
  | .comment => ['#', '\x7d']
  | .expression => ['\x7d', '\x7d']
  | .tag => ['%', '\x7d']

/-- A mark, with all that stands between its delimiters. -/
structure Mark where
  kind : MarkKind
  inside : List Char
deriving DecidableEq

/-- A mark as it is written. -/
def Mark.written (m : Mark) : List Char := m.kind.opening ++ m.inside ++ m.kind.closing

/-- The mark of one kind that a text starts with, and the text behind it. -/
def markOf? (kind : MarkKind) (cs : List Char) : Option (Mark × List Char) :=
  match afterPrefix? kind.opening cs with
  | none => none
  | some rest => (cut? kind.closing rest).map fun (inside, rest) => (⟨kind, inside⟩, rest)

/-- The mark that a text starts with, and the text behind it. -/
def mark? (cs : List Char) : Option (Mark × List Char) :=
  match markOf? .comment cs with
  | some found => some found
  | none => match markOf? .expression cs with
    | some found => some found
    | none => markOf? .tag cs

theorem length_markOf? {kind : MarkKind} {cs rest : List Char} {m : Mark}
    (h : markOf? kind cs = some (m, rest)) : rest.length < cs.length := by
  simp only [markOf?] at h
  split at h
  · cases h
  · rename_i r hr
    obtain ⟨⟨b, t⟩, hc, he⟩ := Option.map_eq_some_iff.1 h
    simp only [Prod.mk.injEq] at he
    obtain ⟨-, rfl⟩ := he
    have h1 := length_afterPrefix? hr
    have h2 := length_cut? hc
    have h3 : 0 < kind.opening.length := by cases kind <;> decide
    omega

theorem length_mark? {cs rest : List Char} {m : Mark} (h : mark? cs = some (m, rest)) :
    rest.length < cs.length := by
  simp only [mark?] at h
  split at h
  · rename_i found hf
    rw [Option.some.inj h] at hf
    exact length_markOf? hf
  · split at h
    · rename_i found hf
      rw [Option.some.inj h] at hf
      exact length_markOf? hf
    · exact length_markOf? h

/-- A line as literals and marks in turn: the marks, each with the literal in front of it, and the
literal behind the last one.  `before` is the literal read so far, last character first. -/
def factorFrom (before : List Char) (cs : List Char) : List (List Char × Mark) × List Char :=
  match cs with
  | [] => ([], before.reverse)
  | c :: rest =>
    match _h : mark? (c :: rest) with
    | some (m, behind) =>
      let (pairs, last) := factorFrom [] behind
      ((before.reverse, m) :: pairs, last)
    | none => factorFrom (c :: before) rest
termination_by cs.length
decreasing_by
  · exact length_mark? _h
  · simp only [List.length_cons]
    omega

/-- A line as literals and marks in turn. -/
def factor (line : List Char) : List (List Char × Mark) × List Char := factorFrom [] line

/-! ## Tokens -/

/-- The token of a mark; a comment has none. -/
def Mark.token? (line : Nat) (m : Mark) : Option Token :=
  match m.kind with
  | .comment => none
  | .expression => some ⟨line, .expression, String.ofList (trim m.inside)⟩
  | .tag => some ⟨line, .tag, String.ofList (trim m.inside)⟩

/-- The token of a literal. -/
def literalToken (line : Nat) (cs : List Char) : Token := ⟨line, .literal, String.ofList cs⟩

/-- The tokens of a literal in front of a mark and of the mark. -/
def pairTokens (line : Nat) (pair : List Char × Mark) : List Token :=
  (if pair.1.isEmpty then [] else [literalToken line pair.1]) ++ (pair.2.token? line).toList

/-- The tokens of one line. -/
def lineTokens (number : Nat) (line : List Char) : List Token :=
  match marker? line with
  | some (.tag text) => [⟨number, .tag, String.ofList text⟩]
  | some .comment => []
  | none =>
    let (pairs, last) := factor line
    pairs.flatMap (pairTokens number) ++ [literalToken number last]

/-- The tokens of consecutive lines, the first of which has a given number. -/
def linesTokens (first : Nat) : List (List Char) → List Token
  | [] => []
  | line :: rest => lineTokens first line ++ linesTokens (first + 1) rest

/-- The tokens of a template. -/
def tokenize (source : String) : List Token := linesTokens 1 (lines source.toList)

/-- The number of lines of a template. -/
def lineCount (source : String) : Nat := (lines source.toList).length

end TextTemplate.Markup
