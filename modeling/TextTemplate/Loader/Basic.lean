import TextTemplate.Grammar
import TextTemplate.Loader.Source

/-!
# Loading templates by name

A loader asks its sources for a name from the last one to the first, and compiles what it finds; each
template can reach the one found before it, which it hides.  The template of the first source is the
one that is loaded, and kept if the loader has a cache.  Nothing is kept of a load that fails.
-/

namespace TextTemplate

/-- A loader. -/
structure Loader where
  id : LoaderId
  /-- The sources, the one that hides all others first. -/
  sources : List Loader.Source
  grammar : Grammar
  /-- The templates loaded so far, if they are kept. -/
  cache : Option (Dictionary Template)
  /-- The number of templates compiled so far. -/
  compiled : Nat
  /-- Which source was asked for which name, the latest first. -/
  asked : List (Nat × String)

namespace Loader

/-- A step of loading. -/
abbrev Loading := EStateM Fault Loader

/-- A new loader. -/
def new (id : LoaderId) (sources : List Source) (grammar : Grammar) (caching : Bool) : Loader where
  id := id
  sources := sources
  grammar := grammar
  cache := if caching then some .empty else none
  compiled := 0
  asked := []

/-- The number of templates that are kept. -/
def cacheSize (l : Loader) : Nat :=
  match l.cache with
  | some kept => kept.size
  | none => 0

/-- The template kept for a name. -/
def cached? (l : Loader) (name : String) : Option Template := l.cache.bind (·.get? name)

/-- The loader without the templates it keeps. -/
def clear (l : Loader) : Loader := { l with cache := l.cache.map fun _ => .empty }

/-- The loader as text, for inspection. -/
def inspect (l : Loader) : String :=
  "Loader \x7b sources: [" ++ ", ".intercalate (l.sources.map fun s => Text.quoted s.display) ++
    "], cached: " ++ toString l.cacheSize ++ " \x7d"

/-- Compiles a template that can take further ones from this loader. -/
def compileWith (source name : String) (defaults further : Dictionary Value) :
    Loading Template := do
  let l ← get
  set { l with compiled := l.compiled + 1 }
  let entries := (Dictionary.empty.insert loaderKey (.loader l.id)).overlay further
  match l.grammar.compile ⟨some l.id, l.compiled⟩ source name defaults entries with
  | .ok t => return t
  | .error fault => throw fault

/-- Compiles a template without a name. -/
def compile (source : String) : Loading Template := compileWith source unnamed .empty .empty

/-- The text that a source has for a name. -/
def ask (index : Nat) (source : Source) (name : String) : Loading (Option String) := do
  modify fun l => { l with asked := (index, name) :: l.asked }
  match source.read name with
  | .ok text => return text
  | .error fault => throw fault

/-- Compiles a name from every source that has it, the last one first; each template holds the one
before it. -/
def loadFrom (name : String) : Nat → List Source → Loading (Option Template)
  | _, [] => return none
  | index, source :: rest => do
    let hidden ← loadFrom name (index + 1) rest
    match ← ask index source name with
    | none => return hidden
    | some text =>
      let entry : Value := match hidden with
        | some t => .template t
        | none => .null
      return some (← compileWith text name .empty (Dictionary.empty.insert superKey entry))

/-- Keeps a template, if the loader keeps any. -/
def keep (name : String) (t : Template) : Loading Unit :=
  modify fun l => { l with cache := l.cache.map (·.insert name t) }

/-- The template of a name, if a source has it. -/
def find? (name : String) : Loading (Option Template) := do
  match (← get).cached? name with
  | some t => return some t
  | none =>
    match ← loadFrom name 0 (← get).sources with
    | none => return none
    | some t =>
      keep name t
      return some t

/-- The first template that one of some names has; `all` are the names that a fault lists. -/
def findFirst (all : List String) : List String → Loading Template
  | [] => do throw (.notFound all ((← get).sources.map (·.display)))
  | name :: rest => do
    match ← find? name with
    | some t => return t
    | none => findFirst all rest

/-- Loads the first of some names that a source has. -/
def loadAny (names : List String) : Loading Template :=
  if names.isEmpty then throw (.value .noNames) else findFirst names names

/-- Loads a template by its name. -/
def load (name : String) : Loading Template := loadAny [name]

end Loader

end TextTemplate
