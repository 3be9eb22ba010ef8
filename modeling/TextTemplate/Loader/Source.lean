import TextTemplate.Dictionary
import TextTemplate.Fault
import TextTemplate.Loader.Disk

/-!
# Sources of templates

A source gives the text of a template by its name, or does not have it.
-/

namespace TextTemplate.Loader

/-- A place that templates come from. -/
structure Source where
  /-- How messages refer to the source. -/
  display : String
  read : String → Except Fault (Option String)

namespace Source

/-- Texts held in memory. -/
def memory (texts : Dictionary String) : Source where
  display := "<memory>"
  read name := .ok (texts.get? name)

/-- The text of a file, which has to be UTF-8. -/
def decode (content : ByteArray) : Except Fault String :=
  match String.fromUTF8? content with
  | some text => .ok text
  | none => .error (.io "stream did not contain valid UTF-8")

/-- The path that a directory source opens for a name; a name that is not local has none. -/
def path? (root name : List Char) : Option (List Char) :=
  if isLocal name then some (join root name) else none

/-- The text of a file, if there is one. -/
def text? : Option ByteArray → Except Fault (Option String)
  | none => .ok none
  | some content => (decode content).map some

/-- The files below a root, where the text of a path leads to the content of a file, or to none. -/
def below (file? : List Char → Option ByteArray) (root : String) : Source where
  display := root
  read name :=
    match path? root.toList name.toList with
    | none => .ok none
    | some path => text? (file? path)

/-- The files below a directory. -/
def directory (disk : Disk) (root : String) : Source := below disk.file? root

end Source

end TextTemplate.Loader
