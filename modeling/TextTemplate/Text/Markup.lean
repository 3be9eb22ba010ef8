/-!
# Text inside markup

`escapeMarkup` replaces the five characters that have a meaning in markup by entities, so that text
stays text.  `extension?` gives the suffix of a template name by which a grammar decides whether
the template writes markup.
-/

namespace TextTemplate.Text

/-- One character of text as markup. -/
def escapeMarkupChar : Char → List Char
  | '&' => "&amp;".toList
  | '<' => "&lt;".toList
  | '>' => "&gt;".toList
  | '"' => "&quot;".toList
  | '\'' => "&apos;".toList
  | c => [c]

/-- The text with its markup characters replaced by entities. -/
def escapeMarkup (s : String) : String := String.ofList (s.toList.flatMap escapeMarkupChar)

/-- What follows the last slash of a name. -/
def fileName (cs : List Char) : List Char := (cs.reverse.takeWhile (· ≠ '/')).reverse

/-- The suffix of the file name from its last point on; a point at the very front starts none. -/
def extension? (name : String) : Option String :=
  let file := (fileName name.toList).reverse
  match file.dropWhile (· ≠ '.') with
  | [] | [_] => none
  | _ :: _ => some (String.ofList ('.' :: (file.takeWhile (· ≠ '.')).reverse))

end TextTemplate.Text
