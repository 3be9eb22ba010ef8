import TextTemplate.Render.Context
import TextTemplate.Value.Binding

/-!
# Rendering

A fragment is rendered node by node; what one node assigns, the next ones see.  A fault is located at
the node it arises in.  Bodies and templates are rendered by the same function with one step less,
and running out of steps is told apart from every fault.  As every render ends, no number of steps
has to be given in the end: see `TextTemplate.Render.Whole`.
-/

namespace TextTemplate

/-- What rendering needs from outside: functions, and templates by name.  Both may change what is
kept outside, and what they give may depend on it. -/
structure Host (σ : Type) where
  call : String → Nat → List Value → σ → Except Fault Value × σ
  load : LoaderId → String → σ → Except Fault Template × σ

/-- Why a render ended early. -/
inductive Stop where
  | fault (fault : Fault)
  | outOfSteps

/-- The output so far, and what evaluating and loading have changed. -/
structure Progress (σ : Type) where
  output : String
  memory : Memory σ

/-- The same output with another memory. -/
def Progress.withMemory {σ : Type} (p : Progress σ) (m : Memory σ) : Progress σ :=
  { p with memory := m }

/-- A step of rendering. -/
abbrev Render (σ : Type) := EStateM Stop (Progress σ)

namespace Render

variable {σ : Type}

/-- Ends the render with a fault. -/
def fail {α : Type} (fault : Fault) : Render σ α := throw (.fault fault)

/-- A result that may be a fault. -/
def ofExcept {α : Type} : Except Fault α → Render σ α
  | .ok a => return a
  | .error fault => fail fault

/-- Writes text behind the output. -/
def write (text : String) : Render σ Unit :=
  modify fun p => { p with output := p.output ++ text }

/-- Locates a fault of a step at a line of a template. -/
def atLine {α : Type} (template : String) (line : Nat) (step : Render σ α) : Render σ α := fun p =>
  match step p with
  | .error (.fault fault) p => .error (.fault (fault.atRender template line)) p
  | result => result

/-- Evaluates in the middle of a render. -/
def evaluate {α : Type} (step : Evaluation σ α) : Render σ α := fun p =>
  match step p.memory with
  | .ok a m => .ok a (p.withMemory m)
  | .error fault m => .error (.fault fault) (p.withMemory m)

/-- Takes a template by name from a loader. -/
def load (host : Host σ) (loader : LoaderId) (name : String) : Render σ Template :=
  evaluate (.onStore (host.load loader name))

/-- The value that an expression has at a place. -/
def value (host : Host σ) (p : Place) (e : Expression) : Evaluation σ Value :=
  e.eval (p.environment host.call)

/-- Evaluates an expression. -/
def eval (host : Host σ) (p : Place) (e : Expression) : Render σ Value := evaluate (value host p e)

/-- The template that a value stands for: itself, or the name of one. -/
def resolve (host : Host σ) (p : Place) : Value → Render σ Template
  | .template t => return t
  | .text name =>
    match p.loader? with
    | some loader => load host loader name
    | none => fail (.eval (.noLoader name))
  | v => fail (.eval (.noTemplate v.kind))

/-- Writes a value, through the escape function if there is one. -/
def writeEscaped (host : Host σ) (p : Place) (v : Value) : Render σ Unit :=
  match p.escape? with
  | none => write v.display
  | some f => do
    let escaped ← evaluate (f.call (p.environment host.call) [.text v.display])
    write escaped.display

/-! ## Nodes -/

/-- How a fragment is rendered in a context.  The result is the scope it leaves. -/
abbrev Renderer (σ : Type) := Context → Fragment → Render σ (Dictionary Value)

/-- Renders a body of a block with those that it overrides; nothing where there is none. -/
def version (render : Renderer σ) : List Version → Render σ Unit
  | [] => return ()
  | v :: overridden => do
    let _ ← render (v.context overridden) v.body

/-- Renders the body of the first clause whose test holds. -/
def branch (host : Host σ) (render : Renderer σ) (ctx : Context) (orelse : Option Fragment) :
    List (Expression × Fragment) → Render σ (Dictionary Value)
  | [] =>
    match orelse with
    | some body => render ctx body
    | none => return ctx.place.scope
  | (test, body) :: rest => do
    let t ← eval host ctx.place test
    if t.isTruthy then render ctx body else branch host render ctx orelse rest

/-- Renders a body with a target bound to a value; nothing of it is left in the scope. -/
def bound (render : Renderer σ) (ctx : Context) (target : Target) (body : Fragment) (v : Value) :
    Render σ Unit := do
  let scope ← ofExcept (target.bind v ctx.place.scope)
  let _ ← render (ctx.withScope scope) body

/-- Renders a body once for each value. -/
def each (render : Renderer σ) (ctx : Context) (target : Target) (body : Fragment) :
    List Value → Render σ Unit
  | [] => return ()
  | v :: rest => do
    bound render ctx target body v
    each render ctx target body rest

/-- The items of a value. -/
def items (v : Value) : Render σ (List Value) := evaluate (.operate v.iterate)

/-- Renders a node.  The result is the scope behind it. -/
def node (host : Host σ) (render : Renderer σ) (ctx : Context) :
    Node → Render σ (Dictionary Value)
  | .text text => do
    write text
    return ctx.place.scope
  | .output e => do
    let v ← eval host ctx.place e
    writeEscaped host ctx.place v
    return ctx.place.scope
  | .print e => do
    let v ← eval host ctx.place e
    write v.display
    return ctx.place.scope
  | .assign target e => do
    let v ← eval host ctx.place e
    ofExcept (target.bind v ctx.place.scope)
  | .branch clauses orelse => branch host render ctx orelse clauses
  | .loop target e body => do
    let v ← eval host ctx.place e
    each render ctx target body (← items v)
    return ctx.place.scope
  | .bind target e body => do
    let v ← eval host ctx.place e
    bound render ctx target body v
    return ctx.place.scope
  | .include e => do
    let v ← eval host ctx.place e
    let t ← resolve host ctx.place v
    let place ← ofExcept (t.enter ctx.place)
    let _ ← render { ctx with place := place } t.body
    return ctx.place.scope
  | .block name body => do
    version render (ctx.versions name body)
    return ctx.place.scope
  | .extend parent blocks => do
    let v ← eval host ctx.place parent
    let t ← resolve host ctx.place v
    let place ← ofExcept (t.enter ctx.place)
    let heirs := ⟨ctx.place, blocks⟩ :: ctx.heirs
    let _ ← render { ctx with place := place, heirs := heirs } t.body
    return ctx.place.scope
  | .super => do
    version render ctx.overridden
    return ctx.place.scope

/-- Renders nodes in order.  The result is the scope behind the last one. -/
def nodes (host : Host σ) (render : Renderer σ) (template : String) (ctx : Context) :
    List (Nat × Node) → Render σ (Dictionary Value)
  | [] => return ctx.place.scope
  | (line, n) :: rest => do
    let scope ← atLine template line (node host render ctx n)
    nodes host render template (ctx.withScope scope) rest

/-- Renders a fragment with a number of steps for the fragments inside one another. -/
def fragment (host : Host σ) : Nat → Renderer σ
  | 0, _, _ => throw .outOfSteps
  | steps + 1, ctx, f => nodes host (fragment host steps) f.name ctx f.nodes

end Render

/-! ## Templates -/

/-- Parameters of a render: the names in a map, or none. -/
def parameters : Value → Except Fault (Dictionary Value)
  | .map entries => .ok entries
  | .null => .ok .empty
  | v => .error (.value (.parameters v.kind))

/-- What a template is rendered in with some parameters. -/
def TemplateOf.context (t : Template) (params : Dictionary Value) : Context where
  place := { scope := t.defaults.overlay params, globals := t.globals, depth := 0 }
  heirs := []
  overridden := []

/-- What a render gives: the output or why it ended early, and what it has changed. -/
def Render.outcome {σ α : Type} :
    EStateM.Result Stop (Progress σ) α → Except Stop String × Memory σ
  | .ok _ p => (.ok p.output, p.memory)
  | .error stop p => (.error stop, p.memory)

/-- Renders a template with a renderer for its body. -/
def TemplateOf.renderWith {σ : Type} (render : Render.Renderer σ) (t : Template) (params : Value)
    (memory : Memory σ) : Except Stop String × Memory σ :=
  match parameters params with
  | .error fault => (.error (.fault fault), memory)
  | .ok params => Render.outcome (render (t.context params) t.body ⟨"", memory⟩)

/-- Renders a template within a number of steps. -/
def TemplateOf.renderWithin {σ : Type} (host : Host σ) (steps : Nat) (t : Template) (params : Value)
    (memory : Memory σ) : Except Stop String × Memory σ :=
  t.renderWith (Render.fragment host steps) params memory

end TextTemplate
