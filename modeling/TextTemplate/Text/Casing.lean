import TextTemplate.Text.CharClass
import TextTemplate.Text.Table.Casing
import TextTemplate.Text.Table.Cased

/-!
# Upper and lower case

A character may have a case mapping of several characters.  One mapping depends on the context: a
capital sigma at the end of a word becomes the final small sigma.  `lower` looks at the context,
`capitalize` maps each character on its own.
-/

namespace TextTemplate.Text

/-- The code point that a list of runs maps `n` to. -/
def mapByRuns (runs : List Table.CaseRun) (n : Nat) : Option Nat :=
  (runs.find? fun r => r.first ≤ n && n ≤ r.last && (n - r.first) % r.step == 0).map
    fun r => ((n : Int) + r.shift).toNat

/-- A case mapping of the characters above ASCII: special cases first, then the runs. -/
def mapByTables (special : List (Nat × List Nat)) (runs : List Table.CaseRun) (c : Char) :
    List Char :=
  match special.lookup c.toNat with
  | some ns => ns.map Char.ofNat
  | none => match mapByRuns runs c.toNat with
    | some n => [Char.ofNat n]
    | none => [c]

/-- The upper-case form of a character. -/
def upperChar (c : Char) : List Char :=
  if c.toNat < 0x80 then [c.toUpper] else mapByTables Table.upperSpecial Table.upperRuns c

/-- The lower-case form of a character outside any context. -/
def lowerChar (c : Char) : List Char :=
  if c.toNat < 0x80 then [c.toLower] else mapByTables Table.lowerSpecial Table.lowerRuns c

/-- Whether the first character that is not case-ignorable is a cased one. -/
def meetsCased (cs : List Char) : Bool :=
  match cs.dropWhile fun c => inRanges Table.caseIgnorable c.toNat with
  | [] => false
  | c :: _ => inRanges Table.cased c.toNat

/-- The upper-case form of a text. -/
def upper (cs : List Char) : List Char := cs.flatMap upperChar

/-- The lower-case form of a text. -/
def lower (cs : List Char) : List Char :=
  go [] cs
where
  /-- `before` is the text in front, last character first. -/
  go (before : List Char) : List Char → List Char
    | [] => []
    | c :: rest =>
      let mapped :=
        if c = 'Σ' then if meetsCased before && !meetsCased rest then ['ς'] else ['σ']
        else lowerChar c
      mapped ++ go (c :: before) rest

/-- The text with its first character in upper case and the others in lower case. -/
def capitalize : List Char → List Char
  | [] => []
  | c :: rest => upperChar c ++ rest.flatMap lowerChar

end TextTemplate.Text
