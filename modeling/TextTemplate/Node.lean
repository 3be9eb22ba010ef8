import TextTemplate.Dictionary
import TextTemplate.Expr.Reader
import TextTemplate.Target

/-!
# Compiled templates

A fragment is what a part of a template was compiled to: nodes in order, each with the line of its
opening token, under the name of the template.
-/

namespace TextTemplate

mutual

/-- Nodes with their lines, and the name of the template they belong to. -/
structure Fragment where
  name : String
  nodes : List (Nat × Node)

/-- What a placeholder, a tag or a run of text was compiled to. -/
inductive Node where
  | text (text : String)
  /-- A placeholder, whose output is escaped. -/
  | output (expression : Expression)
  /-- Output that is never escaped. -/
  | print (expression : Expression)
  | assign (target : Target) (expression : Expression)
  /-- The first clause whose test holds, or else the last body. -/
  | branch (clauses : List (Expression × Fragment)) (orelse : Option Fragment)
  | loop (target : Target) (expression : Expression) (body : Fragment)
  | bind (target : Target) (expression : Expression) (body : Fragment)
  | include (template : Expression)
  | block (name : String) (body : Fragment)
  /-- A parent template, with the blocks that this template declares. -/
  | extend (parent : Expression) (blocks : Dictionary Fragment)
  /-- The body that the current one overrides. -/
  | super

end

/-- Whether a fragment has no nodes. -/
def Fragment.isEmpty (f : Fragment) : Bool := f.nodes.isEmpty

end TextTemplate
