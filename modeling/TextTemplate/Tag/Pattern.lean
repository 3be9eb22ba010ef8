import TextTemplate.Text.CharClass
import TextTemplate.Text.Search

/-!
# Patterns of tags

A pattern describes the whole text of a tag as words and runs of characters.  Of the ways in which a
text fits, the one counts that gives the first run the length it prefers, then the second one, and so
on.  Captured runs are what a tag is built from.
-/

namespace TextTemplate.Tag

open TextTemplate.Text

/-- Which length of a run is tried first. -/
inductive Preference where
  | shortest | longest
deriving DecidableEq

/-- A part of a pattern. -/
inductive Piece where
  /-- A word as it stands. -/
  | word (text : List Char)
  /-- One character or more, the first and the others of a class each. -/
  | run (first others : Char → Bool) (preference : Preference) (captured : Bool)

/-- A pattern: its pieces in order. -/
abbrev Pattern := List Piece

/-- The texts of the captured runs, in order. -/
abbrev Captures := List String

/-- The text of a captured run; nothing was captured where there is no such run. -/
def Captures.group (captures : Captures) (i : Nat) : String := (captures[i]?).getD ""

/-! ## Kinds of pieces -/

/-- A word. -/
def Piece.ofWord (text : String) : Piece := .word text.toList

/-- White space. -/
def Piece.spaces : Piece := .run isWhite isWhite .longest false

/-- Any text within a line, as short as the rest of the pattern allows. -/
def Piece.text : Piece := .run (· ≠ '\n') (· ≠ '\n') .shortest true

/-- Text without white space. -/
def Piece.solid : Piece := .run (!isWhite ·) (!isWhite ·) .longest true

/-- The name of a block. -/
def Piece.blockName : Piece :=
  .run (fun c => c.isAlpha || c = '_') (fun c => c.isAlphanum || c = '_' || c = '-') .longest true

/-! ## Fitting -/

/-- The length of the longest run at the front of a text. -/
def runLength (first others : Char → Bool) : List Char → Nat
  | [] => 0
  | c :: rest => if first c then (rest.takeWhile others).length + 1 else 0

/-- The lengths from 1 on, in the order in which they are tried. -/
def Preference.lengths (preference : Preference) (most : Nat) : List Nat :=
  match preference with
  | .shortest => (List.range most).map (· + 1)
  | .longest => ((List.range most).map (· + 1)).reverse

/-- Fits a pattern to a whole text. -/
def Pattern.fit? : Pattern → List Char → Option Captures
  | [], [] => some []
  | [], _ :: _ => none
  | .word w :: rest, cs =>
    match afterPrefix? w cs with
    | some behind => fit? rest behind
    | none => none
  | .run first others preference captured :: rest, cs =>
    (preference.lengths (runLength first others cs)).findSome? fun n =>
      (fit? rest (cs.drop n)).map fun captures =>
        if captured then String.ofList (cs.take n) :: captures else captures

/-- Fits the first pattern that fits the text of a tag. -/
def fitAny? (patterns : List Pattern) (tag : String) : Option Captures :=
  patterns.findSome? fun p => Pattern.fit? p tag.toList

end TextTemplate.Tag
