import TextTemplate.Fault
import TextTemplate.Text.Search

/-!
# From text to lexemes

White space separates lexemes and is skipped.  A number may have underscores between its digits.
A point belongs to a number unless a letter follows, so that a number may have attributes.
-/

namespace TextTemplate.Expr

open TextTemplate.Text

/-! ## Numbers -/

/-- What may stand among the digits of a number. -/
def isDigitOrGap (c : Char) : Bool := c.isDigit || c = '_'

/-- Whether a number starts here. -/
def startsNumber : List Char → Bool
  | '.' :: c :: _ => c.isDigit
  | c :: _ => c.isDigit
  | [] => false

/-- The fraction of a number: a point that no name follows, and digits. -/
def fractionPart : List Char → List Char × List Char
  | '.' :: rest =>
    if rest.head?.any startsName then ([], '.' :: rest)
    else ('.' :: rest.takeWhile isDigitOrGap, rest.dropWhile isDigitOrGap)
  | cs => ([], cs)

/-- The sign of an exponent. -/
def exponentSign : List Char → List Char × List Char
  | c :: rest => if c = '+' || c = '-' then ([c], rest) else ([], c :: rest)
  | [] => ([], [])

/-- The exponent of a number: a mark, an optional sign and at least one digit. -/
def exponentPart : List Char → List Char × List Char
  | c :: rest =>
    if c = 'e' || c = 'E' then
      let (sign, rest') := exponentSign rest
      let digits := rest'.takeWhile Char.isDigit
      if digits.isEmpty then ([], c :: rest)
      else (c :: sign ++ digits, rest'.dropWhile Char.isDigit)
    else ([], c :: rest)
  | [] => ([], [])

/-- Reads a number: with a fraction or an exponent a float, else an integer. -/
def scanNumber (cs : List Char) : Except SyntaxFault (Lexeme × List Char) :=
  let whole := cs.takeWhile isDigitOrGap
  let (fraction, rest) := fractionPart (cs.dropWhile isDigitOrGap)
  let (exponent, rest) := exponentPart rest
  let digits := (whole ++ fraction ++ exponent).filter (· ≠ '_')
  if fraction.isEmpty && exponent.isEmpty then
    match Number.readInt? digits with
    | some n => .ok (.int n, rest)
    | none => .error (.largeInt (String.ofList digits))
  else
    match Number.readFloat? digits with
    | some x => .ok (.float x, rest)
    | none => .error (.badNumber (String.ofList digits))

/-! ## Text -/

/-- What a character behind a backslash stands for; an unknown one keeps its backslash. -/
def unescape : Char → List Char
  | 'n' => ['\n']
  | 't' => ['\t']
  | 'r' => ['\r']
  | '0' => ['\x00']
  | '\\' => ['\\']
  | '\'' => ['\'']
  | '"' => ['"']
  | c => ['\\', c]

/-- Reads text up to its closing quote. -/
def scanText (quote : Char) : List Char → Except SyntaxFault (List Char × List Char)
  | [] => .error .openText
  | c :: rest =>
    if c = quote then .ok ([], rest)
    else if c = '\\' then
      match rest with
      | [] => .error .openText
      | e :: rest =>
        (scanText quote rest).map fun (text, rest) => (unescape e ++ text, rest)
    else (scanText quote rest).map fun (text, rest) => (c :: text, rest)

/-! ## Lexemes -/

/-- Reads a punctuation, the longest that fits. -/
def scanPunct (cs : List Char) : Option (Punct × List Char) :=
  Punct.all.findSome? fun p => (afterPrefix? p.text.toList cs).map fun rest => (p, rest)

/-- Reads the lexeme that starts with `c`, which is no white space. -/
def scanLexeme (c : Char) (rest : List Char) : Except SyntaxFault (Lexeme × List Char) :=
  if startsNumber (c :: rest) then scanNumber (c :: rest)
  else if c = '\'' || c = '"' then
    (scanText c rest).map fun (text, rest) => (.text (String.ofList text), rest)
  else if startsName c then
    .ok (.name (String.ofList (c :: rest.takeWhile continuesName)), rest.dropWhile continuesName)
  else
    match scanPunct (c :: rest) with
    | some (p, rest) => .ok (.punct p, rest)
    | none => .error (.badCharacter c)

/-- The lexemes of a text.  Every step takes a character or more, so as many steps as there are
characters are enough. -/
def scanWithin : Nat → List Char → Except SyntaxFault (List Lexeme)
  | _, [] => .ok []
  | 0, _ :: _ => .ok []
  | steps + 1, c :: rest =>
    if isWhite c then scanWithin steps rest
    else do
      let (lexeme, rest) ← scanLexeme c rest
      let lexemes ← scanWithin steps rest
      return lexeme :: lexemes

/-- The lexemes of an expression. -/
def scan (cs : List Char) : Except SyntaxFault (List Lexeme) := scanWithin cs.length cs

end TextTemplate.Expr
