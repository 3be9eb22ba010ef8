import TextTemplate.Text.CharClass
import TextTemplate.Text.Table.Printable

/-!
# Quoted text in messages

A name or a character that a message quotes is written between quotes, with the quote itself, the
backslash and the common controls behind a backslash.  Characters without a visible form of their
own are written by their code point, as `\u{200b}`.
-/

namespace TextTemplate.Text

/-- Whether a character is shown as it stands: not a control, not a separator other than the space,
not one that is displayed as nothing, not a mark that attaches to what stands before it. -/
def isShown (c : Char) : Bool :=
  if c.toNat < 0x7F then 0x20 ≤ c.toNat
  else !inRanges Table.attaching c.toNat && !inRanges Table.unprintable c.toNat &&
    !inRanges Table.ignorable c.toNat

/-- The lower-case hexadecimal digits of a code point. -/
def hexDigits (n : Nat) : List Char := Nat.toDigits 16 n

/-- One character between quotes. -/
def quotedChar (quote c : Char) : List Char :=
  if c = quote then ['\\', quote]
  else match c with
    | '\x00' => ['\\', '0']
    | '\t' => ['\\', 't']
    | '\r' => ['\\', 'r']
    | '\n' => ['\\', 'n']
    | '\\' => ['\\', '\\']
    | c => if isShown c then [c] else ['\\', 'u', '\x7b'] ++ hexDigits c.toNat ++ ['\x7d']

/-- A text between double quotes. -/
def quoted (s : String) : String :=
  String.ofList ('"' :: s.toList.flatMap (quotedChar '"') ++ ['"'])

/-- A character between single quotes. -/
def quotedSingle (c : Char) : String :=
  String.ofList ('\'' :: quotedChar '\'' c ++ ['\''])

end TextTemplate.Text
