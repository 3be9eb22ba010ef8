import TextTemplate.Eval
import TextTemplate.Grammar

/-!
# Where a render stands

Names have values by the parameters and bindings in force, and behind them by the entries that are
set up for the templates on the way.  A template that extends another one leaves its place and its
blocks behind as an heir, so that its blocks are rendered where it stood.
-/

namespace TextTemplate

/-- How deep templates may be nested by `include` and `extends`. -/
def maxDepth : Nat := 64

/-- The names in force, and the nesting of templates. -/
structure Place where
  scope : Dictionary Value
  globals : Dictionary Value
  depth : Nat

/-- A template that extends the one being rendered: its place, and the blocks it declares. -/
structure Heir where
  place : Place
  blocks : Dictionary Fragment

/-- A body of a block, with what it is rendered in. -/
structure Version where
  place : Place
  heirs : List Heir
  body : Fragment

/-- What a fragment is rendered in. -/
structure Context where
  place : Place
  /-- The templates that extend this one, the nearest first. -/
  heirs : List Heir
  /-- The bodies that the current block overrides, the one that `super` takes first. -/
  overridden : List Version

/-- The value of a name: by the scope, else by the entries of the templates. -/
def Place.lookup? (p : Place) (name : String) : Option Value :=
  match p.scope.get? name with
  | some v => some v
  | none => p.globals.get? name

/-- The place as a place to evaluate expressions in. -/
def Place.environment {σ : Type} (p : Place)
    (host : String → Nat → List Value → σ → Except Fault Value × σ) : Environment σ where
  lookup? := p.lookup?
  host := host

/-- The function that escapes output, if there is one. -/
def Place.escape? (p : Place) : Option Function :=
  match p.lookup? escapeKey with
  | some (.function f) => some f
  | _ => none

/-- The loader that templates are taken from by name, if there is one. -/
def Place.loader? (p : Place) : Option LoaderId :=
  match p.lookup? loaderKey with
  | some (.loader id) => some id
  | _ => none

/-- The context with another scope. -/
def Context.withScope (ctx : Context) (scope : Dictionary Value) : Context :=
  { ctx with place := { ctx.place with scope := scope } }

/-- The place of a template that is entered from another place: its default parameters stand under
the scope, its entries over those of the templates on the way. -/
def TemplateOf.enter (t : Template) (p : Place) : Except Fault Place :=
  if maxDepth ≤ p.depth then .error (.depth maxDepth)
  else .ok {
    scope := t.defaults.overlay p.scope
    globals := p.globals.overlay t.globals
    depth := p.depth + 1 }

/-! ## Blocks -/

/-- The bodies that heirs declare for a block, the nearest heir's first. -/
def declaredBy (name : String) : List Heir → List Version
  | [] => []
  | heir :: farther =>
    match heir.blocks.get? name with
    | some body => ⟨heir.place, farther, body⟩ :: declaredBy name farther
    | none => declaredBy name farther

/-- All bodies of a block, the most derived first, its own body last. -/
def Context.versions (ctx : Context) (name : String) (body : Fragment) : List Version :=
  (declaredBy name ctx.heirs).reverse ++ [⟨ctx.place, ctx.heirs, body⟩]

/-- What a body is rendered in, before those that it overrides. -/
def Version.context (v : Version) (overridden : List Version) : Context where
  place := v.place
  heirs := v.heirs
  overridden := overridden

end TextTemplate
