import TextTemplate.Value.Basic

/-!
# Binding names to values

One name takes a value as a whole, several names take its items one each.  `Target.bind` gives the
scope that results; `Target.bindInPlace` changes the scope it works in, name by name.
-/

namespace TextTemplate

/-- Gives each name the item in its place; of two items for one name the later one counts. -/
def bindItems (names : List String) (items : List Value) (scope : Dictionary Value) :
    Dictionary Value :=
  (names.zip items).foldl (fun scope (name, v) => scope.insert name v) scope

/-- The scope with the names of a target bound to a value. -/
def Target.bind (target : Target) (v : Value) (scope : Dictionary Value) :
    Except Fault (Dictionary Value) :=
  match target with
  | .name n => .ok (scope.insert n v)
  | .unpack names =>
    match v.iterate with
    | .error cause => .error (.eval cause)
    | .ok items =>
      if items.length < names.length then
        .error (.unpack (.tooFew names.length items.length))
      else if names.length < items.length then .error (.unpack (.tooMany names.length))
      else .ok (bindItems names items scope)

/-! ## In place -/

/-- A step that changes the scope it works in, and may fail on the way. -/
abbrev ScopeStep := EStateM Fault (Dictionary Value)

/-- Gives a name a value. -/
def setName (name : String) (v : Value) : ScopeStep Unit :=
  modify fun scope => scope.insert name v

/-- Gives names the items in their places, one after the other. -/
def setNames : List String → List Value → ScopeStep Unit
  | name :: names, v :: items => do
    setName name v
    setNames names items
  | _, _ => return ()

/-- Binds a target in the scope in force.  Whether there is one item for each name is found out before
any name is given one. -/
def Target.bindInPlace (target : Target) (v : Value) : ScopeStep Unit :=
  match target with
  | .name n => setName n v
  | .unpack names =>
    match v.iterate with
    | .error cause => throw (.eval cause)
    | .ok items => do
      if items.length < names.length then throw (.unpack (.tooFew names.length items.length))
      if names.length < items.length then throw (.unpack (.tooMany names.length))
      setNames names items

end TextTemplate
