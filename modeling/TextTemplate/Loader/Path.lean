import TextTemplate.Text.Search

/-!
# Paths

A path is a text with slashes between its segments.  Empty segments count for nothing, nor does a
single point but at the very front.  A name is local if it leads nowhere but downward; that is decided
on its components, while what is opened is the text of the joined path.
-/

namespace TextTemplate.Loader

open TextTemplate.Text

/-- A step of a path. -/
inductive Component where
  | root
  | current
  | parent
  | name (name : List Char)
deriving DecidableEq

/-- The texts between the slashes of a path. -/
def segments (path : List Char) : List (List Char) := split ['/'] path

/-- The component of a segment that is not the first one of its path. -/
def component? (segment : List Char) : Option Component :=
  if segment = [] ∨ segment = ['.'] then none
  else if segment = ['.', '.'] then some .parent
  else some (.name segment)

/-- What a path starts with: the root behind a slash in front, or a single point. -/
def leading : List (List Char) → List Component
  | [] :: _ :: _ => [.root]
  | ['.'] :: _ => [.current]
  | _ => []

/-- The components of a path, in order. -/
def components (path : List Char) : List Component :=
  leading (segments path) ++ (segments path).filterMap component?

/-- Whether a component leads nowhere but downward. -/
def Component.isLocal : Component → Bool
  | .current | .name _ => true
  | .root | .parent => false

/-- Whether a name leads nowhere but downward. -/
def isLocal (name : List Char) : Bool := (components name).all Component.isLocal

/-- A path below another one; a path from the root stands for itself. -/
def join (root name : List Char) : List Char :=
  if startsWith name ['/'] then name
  else if root.isEmpty || endsWith root ['/'] then root ++ name
  else root ++ '/' :: name

end TextTemplate.Loader
