import Mathlib.Data.Set.Finite.Lattice
import TextTemplate.Render.Whole

/-!
# The moments of a render

At a moment of a render one fragment is being rendered, and around it nodes are open: begun, and not
finished.  `Open` says which nodes and fragments these can be.  As every render ends, a render has
finitely many moments (`moments_finite`), and all of them are over after some number of steps
(`render_ends`).
-/

namespace TextTemplate

variable {σ : Type}

/-- The frame that a render of a template starts with. -/
def TemplateOf.start (t : Template) (params : Dictionary Value) (memory : Memory σ) : Frame σ :=
  ⟨t.context params, t.body, ⟨"", memory⟩⟩

/-- A template can be entered as long as the depth allows; its place follows from the one before. -/
theorem TemplateOf.enter_eq_ok {t : Template} {p place : Place} :
    t.enter p = .ok place ↔ p.depth < maxDepth ∧ place = {
      scope := t.defaults.overlay p.scope
      globals := p.globals.overlay t.globals
      depth := p.depth + 1 } := by
  unfold enter
  constructor
  · intro h
    split at h
    · cases h
    · cases h
      exact ⟨by omega, rfl⟩
  · rintro ⟨less, rfl⟩
    rw [if_neg (by omega)]

/-- A host without functions and without loaders. -/
def bareHost : Host Unit where
  call name _ _ store := (.error (.eval (.undefined name)), store)
  load _ name store := (.error (.eval (.noLoader name)), store)

/-- The memory before the first render. -/
def blank : Memory Unit := ⟨0, ()⟩

/-- A node that is open: with the context it was begun in, the template that it entered if it did,
and the context of what it opened. -/
structure Pending where
  node : Node
  context : Context
  template : Option Template
  inside : Context

namespace Render

variable (host : Host σ)

/-! ## Templates that are entered -/

/-- The frame of the template that a node enters. -/
inductive EntersAt (ctx : Context) (p : Progress σ) : Node → Template → Frame σ → Prop
  | include {e : Expression} {t : Template} {fr : Frame σ} :
      Enters host ctx p e ctx.including t fr → EntersAt ctx p (.include e) t fr
  | extend {parent : Expression} {blocks : Dictionary Fragment} {t : Template} {fr : Frame σ} :
      Enters host ctx p parent (ctx.extending blocks) t fr →
      EntersAt ctx p (.extend parent blocks) t fr

/-- The template that an expression stands for. -/
def resolved? (ctx : Context) (p : Progress σ) (e : Expression) : Option Template :=
  match value host ctx.place e p.memory with
  | .error _ _ => none
  | .ok v m =>
    match resolve host ctx.place v (p.withMemory m) with
    | .ok t _ => some t
    | .error _ _ => none

/-- The template that a node is to enter. -/
def entered? (ctx : Context) (p : Progress σ) : Node → Option Template
  | .include e => resolved? host ctx p e
  | .extend parent _ => resolved? host ctx p parent
  | _ => none

variable {host} in
theorem resolved?_of_resolve {ctx : Context} {p q : Progress σ} {e : Expression} {v : Value}
    {m : Memory σ} {t : Template} (hv : value host ctx.place e p.memory = .ok v m)
    (hr : resolve host ctx.place v (p.withMemory m) = .ok t q) : resolved? host ctx p e = some t := by
  simp only [resolved?, hv, hr]

variable {host} in
theorem Enters.resolved?_eq {ctx : Context} {p : Progress σ} {e : Expression}
    {inside : Place → Context} {t : Template} {fr : Frame σ}
    (h : Enters host ctx p e inside t fr) : resolved? host ctx p e = some t := by
  cases h with
  | intro hv hr _ => exact resolved?_of_resolve hv hr

variable {host} in
theorem EntersAt.entered?_eq {ctx : Context} {p : Progress σ} {n : Node} {t : Template}
    {fr : Frame σ} (h : EntersAt host ctx p n t fr) : entered? host ctx p n = some t := by
  cases h with
  | «include» h => exact h.resolved?_eq
  | extend h => exact h.resolved?_eq

variable {host} in
theorem EntersAt.enter {ctx : Context} {p : Progress σ} {n : Node} {t : Template} {fr : Frame σ}
    (h : EntersAt host ctx p n t fr) :
    t.enter ctx.place = .ok fr.context.place ∧ fr.fragment = t.body := by
  cases h with
  | «include» h => cases h with | intro _ _ h => exact ⟨h, rfl⟩
  | extend h => cases h with | intro _ _ h => exact ⟨h, rfl⟩

variable {host} in
theorem Enters.unique {ctx : Context} {p : Progress σ} {e : Expression} {inside : Place → Context}
    {t t' : Template} {fr fr' : Frame σ} (h : Enters host ctx p e inside t fr)
    (h' : Enters host ctx p e inside t' fr') : fr = fr' := by
  cases h with
  | intro hv hr he =>
    cases h' with
    | intro hv' hr' he' =>
      rw [hv] at hv'; cases hv'
      rw [hr] at hr'; cases hr'
      rw [he] at he'; cases he'
      rfl

variable {host} in
/-- What an entering node opens is the template. -/
theorem EntersAt.unique {render : Renderer σ} {ctx : Context} {p : Progress σ} {n : Node}
    {t : Template} {fr fr' : Frame σ} (h : EntersAt host ctx p n t fr)
    (opens : Opens host render ctx p n fr') : fr = fr' := by
  cases h with
  | «include» h => cases opens with | «include» h' => exact h.unique h'
  | extend h => cases opens with | extend h' => exact h.unique h'

/-! ## Moments -/

/-- A frame opens another one at a node of its fragment. -/
def Opened (fr : Frame σ) (e : Pending) (fr' : Frame σ) : Prop :=
  ∃ line p,
    Begins host (whole host) fr.context fr.fragment.nodes fr.progress line e.node e.context p ∧
    Opens host (whole host) e.context p e.node fr' ∧
    e.template = entered? host e.context p e.node ∧ e.inside = fr'.context

/-- The moments of a render: the nodes that are open, the innermost first, and the frame that is
being rendered inside of them. -/
inductive Open (root : Frame σ) : List Pending → Frame σ → Prop
  | root : Open root [] root
  | inside {stack : List Pending} {fr fr' : Frame σ} {e : Pending} :
      Open root stack fr → Opened host fr e fr' → Open root (e :: stack) fr'

variable {host}

/-- A moment is the start, or it is inside a frame that is opened at the start. -/
theorem Open.start_or_under {root fr : Frame σ} {stack : List Pending}
    (moment : Open host root stack fr) :
    (stack = [] ∧ fr = root) ∨ ∃ e first inner, Opened host root e first ∧
      Open host first inner fr ∧ stack = inner ++ [e] := by
  induction moment with
  | root => exact .inl ⟨rfl, rfl⟩
  | @inside stack fr fr' e _ next ih =>
    right
    rcases ih with ⟨rfl, rfl⟩ | ⟨e', first, inner, opened, moment, rfl⟩
    · exact ⟨e, fr', [], next, .root, rfl⟩
    · exact ⟨e', first, e :: inner, opened, .inside moment next, rfl⟩

/-! ## Their number -/

variable (host) (render : Renderer σ)

theorem begins_finite (ctx : Context) (list : List (Nat × Node)) (p : Progress σ) :
    {x : Node × Context × Progress σ |
      ∃ line, Begins host render ctx list p line x.1 x.2.1 x.2.2}.Finite := by
  induction list generalizing ctx p with
  | nil =>
    refine Set.finite_empty.subset ?_
    rintro _ ⟨_, begins⟩
    cases begins
  | cons first rest ih =>
    obtain ⟨line, n⟩ := first
    cases hn : node host render ctx n p with
    | error stop q =>
      refine (Set.finite_singleton (n, ctx, p)).subset ?_
      rintro _ ⟨_, begins⟩
      cases begins with
      | head => rfl
      | tail h _ => rw [hn] at h; cases h
    | ok scope q =>
      refine ((ih (ctx.withScope scope) q).insert (n, ctx, p)).subset ?_
      rintro _ ⟨line', begins⟩
      cases begins with
      | head => exact .inl rfl
      | tail h later =>
        rw [hn] at h; cases h
        exact .inr ⟨line', later⟩

theorem iterates_finite (ctx : Context) (target : Target) (body : Fragment) (items : List Value)
    (p : Progress σ) :
    {fr | Iterates render ctx target body items p fr}.Finite := by
  induction items generalizing p with
  | nil =>
    refine Set.finite_empty.subset ?_
    rintro _ iterates
    cases iterates
  | cons v rest ih =>
    -- the frame of the first item, and those of the rest behind its output
    have first : {fr | ∃ scope, target.bind v ctx.place.scope = .ok scope ∧
        fr = (⟨ctx.withScope scope, body, p⟩ : Frame σ)}.Finite := by
      refine Set.Subsingleton.finite ?_
      rintro _ ⟨scope, h, rfl⟩ _ ⟨scope', h', rfl⟩
      rw [h] at h'; cases h'
      rfl
    have later : {fr | ∃ q, bound render ctx target body v p = .ok () q ∧
        Iterates render ctx target body rest q fr}.Finite := by
      cases hq : bound render ctx target body v p with
      | error stop q =>
        refine Set.finite_empty.subset ?_
        rintro _ ⟨_, h, _⟩
        cases h
      | ok u q =>
        refine (ih q).subset ?_
        rintro _ ⟨_, h, iterates⟩
        cases h
        exact iterates
    refine (first.union later).subset ?_
    rintro _ (h | ⟨h, iterates⟩)
    · exact .inl ⟨_, h, rfl⟩
    · exact .inr ⟨_, h, iterates⟩

theorem opens_finite (ctx : Context) (p : Progress σ) (n : Node) :
    {fr | Opens host render ctx p n fr}.Finite := by
  cases node_course host ctx p n with
  | ends _ _ _ none =>
    refine Set.finite_empty.subset fun fr opened => ?_
    exact none render fr opened
  | enters fr own _ opens =>
    refine (Set.finite_singleton fr).subset fun fr' opened => ?_
    exact (opens render fr').1 opened
  | repeats target body items q _ opens =>
    refine (iterates_finite render ctx target body items q).subset fun fr opened => ?_
    exact (opens render fr).1 opened

theorem opened_finite (fr : Frame σ) :
    {x : Pending × Frame σ | Opened host fr x.1 x.2}.Finite := by
  have begun := begins_finite host (whole host) fr.context fr.fragment.nodes fr.progress
  have opened := fun (x : Node × Context × Progress σ) =>
    (opens_finite host (whole host) x.2.1 x.2.2 x.1).image
      fun fr' => ((⟨x.1, x.2.1, entered? host x.2.1 x.2.2 x.1, fr'.context⟩ : Pending), fr')
  refine (begun.biUnion fun x _ => opened x).subset ?_
  rintro ⟨⟨n, ctx, template, inside⟩, fr'⟩ ⟨line, p, begins, opens, entered, same⟩
  obtain rfl : inside = fr'.context := same
  obtain rfl : template = entered? host ctx p n := entered
  exact Set.mem_biUnion (x := (n, ctx, p)) ⟨line, begins⟩ ⟨fr', opens, rfl⟩

/-- The moments of a render that starts with a frame. -/
def moments (root : Frame σ) : Set (List Pending × Frame σ) := {m | Open host root m.1 m.2}

variable {host}

/-- The moments of a frame are the start and those of the frames that it opens. -/
theorem moments_finite_of_opened {root : Frame σ}
    (h : ∀ e fr, Opened host root e fr → (moments host fr).Finite) :
    (moments host root).Finite := by
  have under := fun (x : Pending × Frame σ) (hx : Opened host root x.1 x.2) =>
    (h x.1 x.2 hx).image fun m => (m.1 ++ [x.1], m.2)
  refine (((opened_finite host root).biUnion under).insert ([], root)).subset ?_
  rintro ⟨stack, fr⟩ moment
  rcases Open.start_or_under moment with ⟨rfl, rfl⟩ | ⟨e, first, inner, opened, moment, rfl⟩
  · exact .inl rfl
  · exact .inr (Set.mem_biUnion (x := (e, first)) opened ⟨(inner, fr), moment, rfl⟩)

/-- **A render has finitely many moments.** -/
theorem moments_finite (root : Frame σ) : (moments host root).Finite := by
  have all : ∀ q, (moments host ⟨root.context, root.fragment, q⟩).Finite := by
    refine opens_induction host (whole host)
      (motive := fun ctx f => ∀ q, (moments host ⟨ctx, f, q⟩).Finite)
      (fun ctx f h q => ?_) root.context root.fragment
    refine moments_finite_of_opened fun e fr opened => ?_
    obtain ⟨line, p, begins, opens, _⟩ := opened
    exact h q line e.node e.context p fr begins opens fr.progress
  exact all root.progress

/-! ## The end -/

/-- Renderers that end the body in the end as another one does end the template as it does. -/
theorem renderWith_eventually {render : Nat → Renderer σ} {final : Renderer σ} {t : Template}
    {memory : Memory σ} (h : ∀ entries,
      Eventually (fun steps => resume (render steps) (t.start entries memory))
        (resume final (t.start entries memory))) (params : Value) :
    Eventually (fun steps => t.renderWith (render steps) params memory)
      (t.renderWith final params memory) := by
  unfold TemplateOf.renderWith
  cases parameters params with
  | error fault => exact eventually_const _
  | ok entries =>
    exact (h entries).map outcome

/-- A renderer that finishes the body finishes the template: with a text or with a fault. -/
theorem renderWith_finished {render : Renderer σ} {t : Template} {params : Value} {memory : Memory σ}
    (h : ∀ entries, Finished (resume render (t.start entries memory))) :
    (∃ text, (t.renderWith render params memory).1 = .ok text) ∨
      ∃ fault, (t.renderWith render params memory).1 = .error (.fault fault) := by
  unfold TemplateOf.renderWith
  cases parameters params with
  | error fault => exact .inr ⟨fault, rfl⟩
  | ok entries =>
    have finished : Finished (render (t.context entries) t.body ⟨"", memory⟩) := h entries
    dsimp only
    cases hr : render (t.context entries) t.body ⟨"", memory⟩ with
    | ok _ p => exact .inl ⟨p.output, rfl⟩
    | error stop p =>
      cases stop with
      | fault fault => exact .inr ⟨fault, rfl⟩
      | outOfSteps => exact absurd hr (finished p)

/-- **Every render ends.**  Whatever the templates, the parameters and the host are, a render gives a
text or a fault; it has finitely many moments, and any number of steps from some number on gives the
same. -/
theorem render_ends (host : Host σ) (t : Template) (params : Value) (memory : Memory σ) :
    ((∃ text, (t.render host params memory).1 = .ok text) ∨
      ∃ fault, (t.render host params memory).1 = .error (.fault fault)) ∧
    (∀ entries, (moments host (t.start entries memory)).Finite) ∧
    Eventually (fun steps => t.renderWithin host steps params memory)
      (t.render host params memory) := by
  refine ⟨?_, fun entries => moments_finite _, ?_⟩
  · exact renderWith_finished fun entries => finished_resume (whole_finished host _ _ _)
  · refine renderWith_eventually (fun entries => ?_) params
    exact eventually_resume (fragment_eventually host _ _ _)

/-! ## Faults -/

theorem atRender_of_isLocated {fault : Fault} (located : fault.isLocated) (template : String)
    (line : Nat) : fault.atRender template line = fault := if_pos located

/-- A fault of a node that is begun is the fault of its frame, located at the node. -/
theorem resume_error_of_begins {fr : Frame σ} {line : Nat} {n : Node} {ctx : Context}
    {p q : Progress σ} {fault : Fault}
    (begins : Begins host (whole host) fr.context fr.fragment.nodes fr.progress line n ctx p)
    (h : node host (whole host) ctx n p = .error (.fault fault) q) :
    resume (whole host) fr = .error (.fault (fault.atRender fr.fragment.name line)) q := by
  rw [resume, whole_eq]
  exact nodes_error_of_begins fr.fragment.name begins h

/-- A located fault at a moment is the fault of the whole render. -/
theorem Open.resume_error {root fr : Frame σ} {stack : List Pending}
    (moment : Open host root stack fr) {fault : Fault} (located : fault.isLocated) {q : Progress σ}
    (h : resume (whole host) fr = .error (.fault fault) q) :
    resume (whole host) root = .error (.fault fault) q := by
  induction moment with
  | root => exact h
  | inside _ opened ih =>
    obtain ⟨line, p, begins, opens, _⟩ := opened
    have outer := resume_error_of_begins begins (node_error_of_opens opens h)
    rw [atRender_of_isLocated located] at outer
    exact ih outer

/-- What a frame gives within a number of steps, it gives without counting them. -/
theorem resume_whole {host : Host σ} {steps : Nat} {fr : Frame σ}
    {result : EStateM.Result Stop (Progress σ) (Dictionary Value)}
    (h : resume (fragment host steps) fr = result) (finished : Finished result) :
    resume (whole host) fr = result := by
  rw [resume] at h ⊢
  have ends : Finished (fragment host steps fr.context fr.fragment fr.progress) := by
    rw [h]
    exact finished
  rw [whole_of_finished host ends, h]

/-- With a map, a template is rendered from its start on. -/
theorem renderWith_map (t : Template) (render : Renderer σ) (params : Dictionary Value) (memory : Memory σ) :
    t.renderWith render (.map params) memory = outcome (resume render (t.start params memory)) := rfl

theorem renderWith_error {render : Renderer σ} {t : Template} {params : Dictionary Value}
    {memory : Memory σ} {fault : Fault} {q : Progress σ}
    (h : resume render (t.start params memory) = .error (.fault fault) q) :
    t.renderWith render (.map params) memory = (.error (.fault fault), q.memory) := by
  rw [renderWith_map, h]
  rfl

end Render

end TextTemplate
