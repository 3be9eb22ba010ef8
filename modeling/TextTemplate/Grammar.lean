import TextTemplate.Tag.Standard
import TextTemplate.Text.Markup
import TextTemplate.Value.Basic

/-!
# Grammars

A grammar compiles templates: it has the tags that they may use, and the functions by which their
output is escaped.  Which function that is depends on the suffix of a template's name.
-/

namespace TextTemplate

/-! ## Entries that are set up for a template -/

/-- The name of the template. -/
def nameKey : String := "__name__"

/-- The function that escapes the output of the template. -/
def escapeKey : String := "__autoescape__"

/-- The loader that compiled the template. -/
def loaderKey : String := "__loader__"

/-- The template of the same name that this one hides. -/
def superKey : String := "__super__"

/-- The name of a template that was given none. -/
def unnamed : String := "__string__"

/-! ## Grammars -/

/-- Tags, and escape functions by suffix. -/
structure Grammar where
  macros : List Tag.Macro
  escapes : Dictionary Function

namespace Grammar

/-- The suffixes of names of markup. -/
def markupSuffixes : List String := [".xml", ".xhtml", ".html", ".htm"]

/-- A grammar of some tags.  Markup is escaped by one function for all its suffixes. -/
def ofMacros (macros : List Tag.Macro) (escaper : Function) : Grammar where
  macros := macros
  escapes := .ofList (markupSuffixes.map fun suffix => (suffix, escaper))

/-- The grammar of the standard tags. -/
def standard (escaper : Function) : Grammar := ofMacros Tag.standard escaper

/-- The grammar with an escape function for one more suffix. -/
def withEscape (g : Grammar) (suffix : String) (f : Function) : Grammar :=
  { g with escapes := g.escapes.insert suffix f }

/-- The grammar without escape functions. -/
def withoutEscapes (g : Grammar) : Grammar := { g with escapes := .empty }

/-- The function that escapes the output of a template of a given name. -/
def escapeFor (g : Grammar) (name : String) : Option Function :=
  (Text.extension? name).bind g.escapes.get?

/-- The entries that are set up for a template: its name and escape function, and on top of them
further ones. -/
def entries (g : Grammar) (name : String) (further : Dictionary Value) : Dictionary Value :=
  let escape : Value := match g.escapeFor name with
    | some f => .function f
    | none => .null
  (Dictionary.ofList [(nameKey, .text name), (escapeKey, escape)]).overlay further

/-- Compiles a template. -/
def compile (g : Grammar) (id : TemplateId) (source name : String)
    (defaults further : Dictionary Value) : Except Fault Template := do
  let body ← Tag.parseTemplate g.macros source name
  return { id, body, defaults, globals := g.entries name further }

end Grammar

/-- A template with its name and the number of its nodes, for inspection. -/
def TemplateOf.inspect {α : Type} (t : TemplateOf α) : String :=
  "Template \x7b name: " ++ Text.quoted t.name ++ ", nodes: " ++ toString t.body.nodes.length ++
    " \x7d"

end TextTemplate
