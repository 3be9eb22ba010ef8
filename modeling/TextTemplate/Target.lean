import TextTemplate.Fault
import TextTemplate.Text.Search

/-!
# Binding targets

What `for`, `set` and `with` bind: one name, or several names that take a value apart.
-/

namespace TextTemplate

open TextTemplate.Text

/-- One name for a whole value, or names for its items. -/
inductive Target where
  | name (name : String)
  | unpack (names : List String)
deriving DecidableEq

namespace Target

/-- The names that are bound, in order. -/
def names : Target → List String
  | .name n => [n]
  | .unpack ns => ns

/-- Whether a text is a name: ASCII letters, digits and underscores, with no digit in front. -/
def isName : List Char → Bool
  | [] => false
  | c :: rest => (c.isAlpha || c = '_') && rest.all fun c => c.isAlphanum || c = '_'

/-- A list of names without an empty one at its end. -/
def dropEmptyLast (names : List (List Char)) : List (List Char) :=
  match names.reverse with
  | [] :: before => before.reverse
  | _ => names

/-- Reads names with commas between them, or one name. -/
def parse (source : String) : Except SyntaxFault Target := do
  let cs := trim source.toList
  let target ←
    if ',' ∈ cs then
      let names := dropEmptyLast ((split [','] cs).map trim)
      if names.length < 2 then throw (.fewNames (String.ofList cs))
      pure (Target.unpack (names.map String.ofList))
    else pure (Target.name (String.ofList cs))
  match target.names.find? fun n => !isName n.toList with
  | some n => throw (.badName n)
  | none => return target

end Target

end TextTemplate
