import TextTemplate.Loader.Basic
import TextTemplate.Render.Whole

/-!
# All loaders

A template knows the loader that compiled it only by its number, and outlives it: once a loader has
been dropped, nothing can be loaded through it any more.

With the loaders the library is complete, but for what has no part in what is compiled, rendered or
loaded: what is written to a log, how functions, macros and expressions look in an inspection, the
texts of faults in patterns, and several threads that use one loader at the same time.
-/

namespace TextTemplate

/-- The loaders that have not been dropped. -/
structure Loaders where
  live : List Loader

namespace Loaders

/-- No loaders. -/
def empty : Loaders := ⟨[]⟩

/-- The loader of a number. -/
def get? (ls : Loaders) (id : LoaderId) : Option Loader := ls.live.find? fun l => l.id = id

/-- Puts a loader in place of the one of the same number. -/
def set (ls : Loaders) (l : Loader) : Loaders :=
  ⟨ls.live.map fun k => if k.id = l.id then l else k⟩

/-- The loaders with one more. -/
def add (ls : Loaders) (l : Loader) : Loaders := ⟨l :: ls.live⟩

/-- The loaders without one. -/
def drop (ls : Loaders) (id : LoaderId) : Loaders := ⟨ls.live.filter fun l => l.id ≠ id⟩

/-- Runs a step of one loader. -/
def run {α : Type} (ls : Loaders) (l : Loader) (step : Loader.Loading α) :
    Except Fault α × Loaders :=
  match step.run l with
  | .ok a l => (.ok a, ls.set l)
  | .error fault l => (.error fault, ls.set l)

/-- Loads a template from the loader of a number. -/
def load (id : LoaderId) (name : String) (ls : Loaders) : Except Fault Template × Loaders :=
  match ls.get? id with
  | none => (.error (.eval (.lostLoader name)), ls)
  | some l => ls.run l (Loader.load name)

end Loaders

/-- What renders can change outside: the loaders, and what the functions of the program keep. -/
structure World (τ : Type) where
  loaders : Loaders
  state : τ

variable {τ : Type}

/-- A change of the loaders alone. -/
def World.onLoaders {α : Type} (step : Loaders → Except Fault α × Loaders) (w : World τ) :
    Except Fault α × World τ :=
  ((step w.loaders).1, { w with loaders := (step w.loaders).2 })

/-- A change of what functions keep alone. -/
def World.onState {α : Type} (step : τ → Except Fault α × τ) (w : World τ) :
    Except Fault α × World τ :=
  ((step w.state).1, { w with state := (step w.state).2 })

/-- What a render needs, with the given functions and all loaders. -/
def Loaders.host (call : String → Nat → List Value → τ → Except Fault Value × τ) :
    Host (World τ) where
  call name serial args := World.onState (call name serial args)
  load id name := World.onLoaders (Loaders.load id name)

end TextTemplate
