import TextTemplate.Loader.Path

/-!
# Files

The files and directories below a working directory.  Every step of a path but the last has to be a
directory; so a slash or a point behind the name of a file leads nowhere.  Writing a file makes the
directories that its path goes through, also those that it leaves again.
-/

namespace TextTemplate.Loader

/-- Directories and files with the names that lead to them from the working directory. -/
structure Disk where
  directories : List (List (List Char))
  files : List (List (List Char) × ByteArray)

namespace Disk

/-- No files, and no directory but the working one. -/
def empty : Disk := ⟨[], []⟩

/-- Whether some names lead to a directory. -/
def isDirectory (d : Disk) (names : List (List Char)) : Bool :=
  names.isEmpty || d.directories.contains names

/-- Where the segments of a path lead from a directory. -/
def walk? (d : Disk) (dir : List (List Char)) : List (List Char) → Option (List (List Char))
  | [] => some dir
  | segment :: rest =>
    if !d.isDirectory dir then none
    else if segment = [] ∨ segment = ['.'] then d.walk? dir rest
    else if segment = ['.', '.'] then d.walk? dir.dropLast rest
    else d.walk? (dir ++ [segment]) rest

/-- The content of the file that a path leads to. -/
def file? (d : Disk) (path : List Char) : Option ByteArray :=
  if Text.startsWith path ['/'] then none
  else (d.walk? [] (segments path)).bind fun names => d.files.lookup names

/-- The names that lead one component further. -/
def follow (names : List (List Char)) : Component → List (List Char)
  | .root => []
  | .current => names
  | .parent => names.dropLast
  | .name n => names ++ [n]

/-- The directories that components go through from some names, and the names that they end at. -/
def route (names : List (List Char)) : List Component → List (List (List Char)) × List (List Char)
  | [] => ([], names)
  | [c] => ([], follow names c)
  | c :: rest =>
    let (through, last) := route (follow names c) rest
    (follow names c :: through, last)

/-- The disk with one more file, in place of one of the same path, and the directories on its way. -/
def write (d : Disk) (path : List Char) (content : ByteArray) : Disk :=
  let (through, last) := route [] (components path)
  { directories := through ++ d.directories
    files := (last, content) :: d.files.filter fun f => f.1 ≠ last }

end Disk

end TextTemplate.Loader
