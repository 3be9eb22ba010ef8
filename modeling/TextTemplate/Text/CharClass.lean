import TextTemplate.Text.Table.Letter

/-!
# Classes of characters

White space, letters and numerals by their Unicode properties.  The ASCII part of each class is
written out, so a question about an ASCII character never reaches a table.
-/

namespace TextTemplate.Text

/-- Whether a code point lies in one of the closed ranges. -/
def inRanges (ranges : List (Nat × Nat)) (n : Nat) : Bool :=
  ranges.any fun r => r.1 ≤ n && n ≤ r.2

/-- The property White_Space: 25 characters. -/
def whiteRanges : List (Nat × Nat) :=
  [(0x09, 0x0D), (0x20, 0x20), (0x85, 0x85), (0xA0, 0xA0), (0x1680, 0x1680), (0x2000, 0x200A),
    (0x2028, 0x2029), (0x202F, 0x202F), (0x205F, 0x205F), (0x3000, 0x3000)]

/-- White space: blanks, tabs, line ends and the other spaces of Unicode. -/
def isWhite (c : Char) : Bool := inRanges whiteRanges c.toNat

/-- The blanks of a line: space and tab only. -/
def isBlank (c : Char) : Bool := c = ' ' || c = '\t'

/-- Letters: the property Alphabetic. -/
def isLetter (c : Char) : Bool :=
  c.isAlpha || (0x80 ≤ c.toNat && inRanges Table.alphabetic c.toNat)

/-- Numerals of any script: the general category N. -/
def isNumeral (c : Char) : Bool :=
  c.isDigit || (0x80 ≤ c.toNat && inRanges Table.numeric c.toNat)

/-- What may start a name in an expression. -/
def startsName (c : Char) : Bool := isLetter c || c = '_'

/-- What may continue a name in an expression. -/
def continuesName (c : Char) : Bool := isLetter c || isNumeral c || c = '_'

/-! ## Trimming -/

/-- Drops white space at the front. -/
def trimLeft (cs : List Char) : List Char := cs.dropWhile isWhite

/-- Drops white space at the back. -/
def trimRight (cs : List Char) : List Char := (cs.reverse.dropWhile isWhite).reverse

/-- Drops white space at both ends. -/
def trim (cs : List Char) : List Char := trimRight (trimLeft cs)

/-- The runs of characters between white space, in order. -/
def words (cs : List Char) : List (List Char) :=
  go [] cs
where
  /-- `word` holds the characters of the current run, last one first. -/
  go (word : List Char) : List Char → List (List Char)
    | [] => if word.isEmpty then [] else [word.reverse]
    | c :: rest =>
      if isWhite c then
        if word.isEmpty then go [] rest else word.reverse :: go [] rest
      else go (c :: word) rest

end TextTemplate.Text
