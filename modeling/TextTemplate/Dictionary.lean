/-!
# Dictionaries

A dictionary maps names to values.  Its entries stand in ascending order of their names, each name
once, whatever the order in which they were put in; so two dictionaries with the same content are
the same list, and everything that walks a dictionary meets the names in that order.
-/

namespace TextTemplate

/-- Names with their values, in ascending order of the names. -/
structure Dictionary (α : Type) where
  entries : List (String × α)

namespace Dictionary

variable {α : Type}

/-- The dictionary without entries. -/
def empty : Dictionary α := ⟨[]⟩

/-- The value of a name. -/
def get? (d : Dictionary α) (name : String) : Option α := d.entries.lookup name

/-- Whether a name has a value. -/
def contains (d : Dictionary α) (name : String) : Bool := (d.get? name).isSome

/-- The names, in ascending order. -/
def keys (d : Dictionary α) : List String := d.entries.map Prod.fst

/-- The values, in the order of their names. -/
def values (d : Dictionary α) : List α := d.entries.map Prod.snd

/-- The number of entries. -/
def size (d : Dictionary α) : Nat := d.entries.length

/-- Whether there is no entry. -/
def isEmpty (d : Dictionary α) : Bool := d.entries.isEmpty

/-- Puts an entry in its place among ascending ones, in place of one of the same name. -/
def insertEntry (name : String) (value : α) : List (String × α) → List (String × α)
  | [] => [(name, value)]
  | (n, v) :: rest =>
    if name < n then (name, value) :: (n, v) :: rest
    else if name = n then (name, value) :: rest
    else (n, v) :: insertEntry name value rest

/-- The dictionary with one more entry, which replaces one of the same name. -/
def insert (d : Dictionary α) (name : String) (value : α) : Dictionary α :=
  ⟨insertEntry name value d.entries⟩

/-- The dictionary of some entries; of several for one name the last one counts. -/
def ofList (entries : List (String × α)) : Dictionary α :=
  entries.foldl (fun d e => d.insert e.1 e.2) empty

/-- The entries of both dictionaries; `upper` decides where both have a name. -/
def overlay (lower upper : Dictionary α) : Dictionary α :=
  upper.entries.foldl (fun d e => d.insert e.1 e.2) lower

/-- The dictionary without a name. -/
def erase (d : Dictionary α) (name : String) : Dictionary α :=
  ⟨d.entries.filter (·.1 ≠ name)⟩

end Dictionary

end TextTemplate
