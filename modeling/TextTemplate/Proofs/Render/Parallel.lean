import TextTemplate.Proofs.Render.Attribution
import TextTemplate.Proofs.Value.Variables

/-!
# Renders side by side

Two renders of one fragment, with hosts and in contexts that need not be the same.  They keep in
step if every expression has the same value in both, both write what they write behind related
outputs, and whatever they open keeps in step as well (`node_abreast`, `nodes_abreast`).  What has
to hold of two hosts is said once (`Abreast`), and what has to hold where a node is begun in one
list of fields (`Meets`); which relations between scopes, between memories and between outputs these
are is left open.
-/

namespace TextTemplate

/-- The expressions that a node evaluates itself, not inside of what it opens. -/
def Node.expressions : Node → List Expression
  | .text _ | .block .. | .super => []
  | .output e | .print e | .assign _ e | .loop _ e _ | .bind _ e _ | .include e | .extend e _ => [e]
  | .branch clauses _ => clauses.map (·.1)

namespace Render

variable {σ τ : Type}

/-- Relations between the scopes, the memories and the progress of two renders that binding, writing
and calling functions keep. -/
structure Abreast (host : Host σ) (host' : Host τ) (rs : Dictionary Value → Dictionary Value → Prop)
    (rm : Memory σ → Memory τ → Prop) (rp : Progress σ → Progress τ → Prop) : Prop where
  call (f : Function) (args : List Value) (place place' : Place) :
    Lockstep rm (· = ·) (f.call (place.environment host.call) args)
      (f.call (place'.environment host'.call) args)
  bind : ∀ scope scope', rs scope scope' → ∀ (target : Target) (v : Value),
    Ends rs (target.bind v scope) (target.bind v scope')
  write : ∀ p p', rp p p' → ∀ text,
    rp { p with output := p.output ++ text } { p' with output := p'.output ++ text }
  memory : ∀ p p', rp p p' → rm p.memory p'.memory
  withMemory : ∀ p p', rp p p' → ∀ m m', rm m m' → rp (p.withMemory m) (p'.withMemory m')

variable {host : Host σ} {host' : Host τ} {rs : Dictionary Value → Dictionary Value → Prop}
  {rm : Memory σ → Memory τ → Prop} {rp : Progress σ → Progress τ → Prop}

/-! ## Steps -/

/-- A function gives the same at all places. -/
theorem call_place (host : Host σ) (f : Function) (args : List Value) (place place' : Place) :
    f.call (place.environment host.call) args = f.call (place'.environment host.call) args := by
  cases f <;> rfl

theorem ofExcept_ends {α α' : Type} {r : α → α' → Prop} {x : Except Fault α} {x' : Except Fault α'}
    (h : Ends r x x') {p : Progress σ} {p' : Progress τ} (behind : rp p p') :
    EndsIn rp r ((ofExcept x : Render σ α) p) ((ofExcept x' : Render τ α') p') := by
  rw [ofExcept_apply, ofExcept_apply]
  cases h with
  | ok h => exact .ok h behind
  | error fault => exact .error _ behind

/-- A result that both renders compute. -/
theorem items_same (v : Value) {p : Progress σ} {p' : Progress τ} (behind : rp p p') :
    EndsIn rp (· = ·) ((items v : Render σ (List Value)) p)
      ((items v : Render τ (List Value)) p') := by
  rw [items_apply, items_apply]
  cases v.iterate with
  | ok vs => exact .ok rfl behind
  | error cause => exact .error _ behind

section

variable (abreast : Abreast host host' rs rm rp) {p : Progress σ} {p' : Progress τ}
  (behind : rp p p')
include abreast behind

theorem evaluate_abreast {α α' : Type} {r : α → α' → Prop} {step : Evaluation σ α}
    {step' : Evaluation τ α'} (steps : Lockstep rm r step step') :
    EndsIn rp r (evaluate step p) (evaluate step' p') := by
  have ends := steps _ _ (abreast.memory p p' behind)
  rw [evaluate_apply, evaluate_apply]
  generalize step p.memory = x, step' p'.memory = y at ends ⊢
  cases ends with
  | ok h memories => exact .ok h (abreast.withMemory p p' behind _ _ memories)
  | error fault memories => exact .error _ (abreast.withMemory p p' behind _ _ memories)

theorem write_abreast (text : String) :
    EndsIn rp (fun _ _ => True) ((write text : Render σ Unit) p)
      ((write text : Render τ Unit) p') :=
  .ok trivial (abreast.write p p' behind text)

theorem writeEscaped_abreast {place place' : Place} (escape : place.escape? = place'.escape?)
    (v : Value) :
    EndsIn rp (fun _ _ => True) (writeEscaped host place v p) (writeEscaped host' place' v p') := by
  unfold writeEscaped
  rw [← escape]
  cases place.escape? with
  | none => exact write_abreast abreast behind _
  | some f =>
    have escapes := evaluate_abreast abreast behind
      (abreast.call f [.text v.display] place place')
    refine EndsIn.bind escapes fun escaped _ _ _ _ _ same behind => ?_
    cases same
    exact write_abreast abreast behind _

end

/-! ## Nodes -/

section Nodes

variable {render : Renderer σ} {render' : Renderer τ} {ctx ctx' : Context} {p : Progress σ}
  {p' : Progress τ}

/-- A node that ends in its own scope. -/
theorem own_scope_abreast {α α' : Type} {r : α → α' → Prop}
    (scopes : rs ctx.place.scope ctx'.place.scope)
    {m : Render σ α} {m' : Render τ α'} (h : EndsIn rp r (m p) (m' p')) :
    EndsIn rp rs ((m >>= fun _ => pure ctx.place.scope) p)
      ((m' >>= fun _ => pure ctx'.place.scope) p') :=
  EndsIn.bind h fun _ _ _ _ _ _ _ behind => .ok scopes behind

theorem chosen_lockstep {place place' : Place} (orelse : Option Fragment)
    (clauses : List (Expression × Fragment))
    (values : ∀ clause ∈ clauses,
      Lockstep rm (· = ·) (value host place clause.1) (value host' place' clause.1)) :
    Lockstep rm (· = ·) (chosen host place orelse clauses) (chosen host' place' orelse clauses) := by
  induction clauses with
  | nil => exact .pure rfl
  | cons clause rest ih =>
    obtain ⟨test, body⟩ := clause
    refine Lockstep.bind (values _ (.head _)) fun t _ same => ?_
    cases same
    split
    · exact .pure rfl
    · exact ih fun clause mem => values clause (.tail _ mem)

variable (host host' rs rm rp render render' ctx ctx' p p') in
/-- What two renders find where they begin a node: related scopes, the same values, and fragments to
open in which they keep in step. -/
structure Meets (n : Node) : Prop where
  scope : rs ctx.place.scope ctx'.place.scope
  values : ∀ e ∈ n.expressions,
    Lockstep rm (· = ·) (value host ctx.place e) (value host' ctx'.place e)
  escape : ctx.place.escape? = ctx'.place.escape?
  /-- The bodies of branches, loops and bindings. -/
  bodies : ∀ scope scope' body q q', n.Holds body → (∀ name inner, n ≠ .block name inner) →
    Opens host render ctx p n ⟨ctx.withScope scope, body, q⟩ → rs scope scope' → rp q q' →
    EndsIn rp rs (render (ctx.withScope scope) body q) (render' (ctx'.withScope scope') body q')
  included : ∀ e, n = .include e → EndsIn rp rs (entering host ctx render e ctx.including p)
    (entering host' ctx' render' e ctx'.including p')
  extended : ∀ parent blocks, n = .extend parent blocks →
    EndsIn rp rs (entering host ctx render parent (ctx.extending blocks) p)
      (entering host' ctx' render' parent (ctx'.extending blocks) p')
  versions : ∀ name body, n = .block name body →
    EndsIn rp (fun _ _ => True) (version render (ctx.versions name body) p)
      (version render' (ctx'.versions name body) p')
  overridden : n = .super →
    EndsIn rp (fun _ _ => True) (version render ctx.overridden p)
      (version render' ctx'.overridden p')

theorem bound_abreast (abreast : Abreast host host' rs rm rp) (behind : rp p p')
    (scopes : rs ctx.place.scope ctx'.place.scope) {target : Target} {body : Fragment} {v : Value}
    (inside : ∀ scope scope', target.bind v ctx.place.scope = .ok scope → rs scope scope' →
      EndsIn rp rs (render (ctx.withScope scope) body p)
        (render' (ctx'.withScope scope') body p')) :
    EndsIn rp (fun _ _ => True) (bound render ctx target body v p)
      (bound render' ctx' target body v p') := by
  have bound := ofExcept_ends (abreast.bind _ _ scopes target v) behind
  refine EndsIn.bind bound fun scope scope' q q' left right same _ => ?_
  obtain ⟨bound, rfl⟩ := ofExcept_eq_ok.1 left
  obtain ⟨_, rfl⟩ := ofExcept_eq_ok.1 right
  exact EndsIn.bind (inside scope scope' bound same) fun _ _ _ _ _ _ _ behind => .ok trivial behind

theorem each_abreast (abreast : Abreast host host' rs rm rp) (behind : rp p p')
    (scopes : rs ctx.place.scope ctx'.place.scope) {target : Target} {body : Fragment}
    {vs : List Value}
    (inside : ∀ scope scope' q q',
      Iterates render ctx target body vs p ⟨ctx.withScope scope, body, q⟩ →
      rs scope scope' → rp q q' →
      EndsIn rp rs (render (ctx.withScope scope) body q)
        (render' (ctx'.withScope scope') body q')) :
    EndsIn rp (fun _ _ => True) (each render ctx target body vs p)
      (each render' ctx' target body vs p') := by
  induction vs generalizing p p' with
  | nil => exact .ok trivial behind
  | cons v rest ih =>
    have now := bound_abreast abreast behind scopes (v := v)
      fun scope scope' bound same => inside scope scope' p p' (.head bound) same behind
    refine EndsIn.bind now fun _ _ q q' left _ _ behind => ?_
    exact ih behind fun scope scope' q q' iterates => inside scope scope' q q' (.tail left iterates)

/-- **Two renders of a node keep in step** where they meet. -/
theorem node_abreast (abreast : Abreast host host' rs rm rp) (behind : rp p p') (n : Node)
    (meets : Meets host host' rs rm rp render render' ctx ctx' p p' n) :
    EndsIn rp rs (node host render ctx n p) (node host' render' ctx' n p') := by
  have scopes := meets.scope
  -- the one expression of a node
  have evaluates {e : Expression} (mem : e ∈ n.expressions) :
      EndsIn rp (· = ·) (eval host ctx.place e p) (eval host' ctx'.place e p') :=
    evaluate_abreast abreast behind (meets.values e mem)
  cases n with
  | text text => exact own_scope_abreast scopes (write_abreast abreast behind text)
  | output e =>
    refine EndsIn.bind (evaluates (.head _)) fun v _ _ _ _ _ same behind => ?_
    cases same
    exact own_scope_abreast scopes (writeEscaped_abreast abreast behind meets.escape v)
  | print e =>
    refine EndsIn.bind (evaluates (.head _)) fun v _ _ _ _ _ same behind => ?_
    cases same
    exact own_scope_abreast scopes (write_abreast abreast behind v.display)
  | assign target e =>
    refine EndsIn.bind (evaluates (.head _)) fun v _ _ _ _ _ same behind => ?_
    cases same
    exact ofExcept_ends (abreast.bind _ _ scopes target v) behind
  | branch clauses orelse =>
    show EndsIn _ _ (branch host render ctx orelse clauses p)
      (branch host' render' ctx' orelse clauses p')
    have choose := chosen_lockstep orelse clauses
      (fun clause mem => meets.values _ (List.mem_map_of_mem mem)) _ _ (abreast.memory p p' behind)
    rw [branch_apply, branch_apply]
    generalize hc : chosen host ctx.place orelse clauses p.memory = x,
      chosen host' ctx'.place orelse clauses p'.memory = y at choose ⊢
    cases choose with
    | error fault memories => exact .error _ (abreast.withMemory p p' behind _ _ memories)
    | @ok found _ m m' same memories =>
      cases same
      have behind := abreast.withMemory p p' behind _ _ memories
      cases found with
      | none => exact .ok scopes behind
      | some body =>
        exact meets.bodies _ _ body _ _ (chosen_holds hc) nofun (.branch hc) scopes behind
  | loop target e body =>
    refine EndsIn.bind (evaluates (.head _)) fun v _ _ _ got _ same behind => ?_
    cases same
    obtain ⟨m, hv, rfl⟩ := evaluate_eq_ok.1 got
    refine EndsIn.bind (items_same v behind) fun vs _ _ _ taken _ same behind => ?_
    cases same
    obtain ⟨hi, rfl⟩ := items_eq_ok.1 taken
    refine own_scope_abreast scopes (each_abreast abreast behind scopes ?_)
    intro scope scope' q q' iterates
    exact meets.bodies scope scope' body q q' .loop nofun (.loop hv hi iterates)
  | bind target e body =>
    refine EndsIn.bind (evaluates (.head _)) fun v _ _ _ got _ same behind => ?_
    cases same
    obtain ⟨m, hv, rfl⟩ := evaluate_eq_ok.1 got
    refine own_scope_abreast scopes (bound_abreast abreast behind scopes ?_)
    intro scope scope' bound same
    exact meets.bodies scope scope' body _ _ .bind nofun (.bind hv bound) same behind
  | «include» e => exact meets.included e rfl
  | block name body => exact own_scope_abreast scopes (meets.versions name body rfl)
  | extend parent blocks => exact meets.extended parent blocks rfl
  | super => exact own_scope_abreast scopes (meets.overridden rfl)

/-- **Two renders of a list of nodes keep in step** if they do so wherever one begins a node. -/
theorem nodes_abreast (abreast : Abreast host host' rs rm rp) (template : String)
    {list : List (Nat × Node)} (scopes : rs ctx.place.scope ctx'.place.scope) (behind : rp p p')
    (meets : ∀ line n scope scope' q q',
      Begins host render ctx list p line n (ctx.withScope scope) q → rs scope scope' → rp q q' →
      Meets host host' rs rm rp render render' (ctx.withScope scope) (ctx'.withScope scope') q q' n) :
    EndsIn rp rs (nodes host render template ctx list p)
      (nodes host' render' template ctx' list p') := by
  induction list generalizing ctx ctx' p p' with
  | nil => exact .ok scopes behind
  | cons first rest ih =>
    obtain ⟨line, n⟩ := first
    have now : EndsIn rp rs (node host render ctx n p) (node host' render' ctx' n p') :=
      node_abreast abreast behind n (meets line n _ _ p p' .head scopes behind)
    rw [nodes_cons_apply, nodes_cons_apply]
    cases hn : node host render ctx n p with
    | error stop q =>
      rw [hn] at now
      generalize node host' render' ctx' n p' = y at now ⊢
      cases now with
      | error _ behind => cases stop <;> exact .error _ behind
    | ok scope q =>
      rw [hn] at now
      generalize node host' render' ctx' n p' = y at now ⊢
      cases now with
      | ok same behind =>
        exact ih same behind fun line n scope scope' q q' begins =>
          meets line n scope scope' q q' (.tail hn begins)

end Nodes

/-! ## What is entered, and bodies of blocks -/

/-- Two renders that enter the same template in places where they keep in step. -/
theorem entering_abreast (abreast : Abreast host host' rs rm rp) {render : Renderer σ}
    {render' : Renderer τ} {ctx ctx' : Context} {p : Progress σ} {p' : Progress τ} {e : Expression}
    {inside inside' : Place → Context} (scopes : rs ctx.place.scope ctx'.place.scope)
    (values : Lockstep rm (· = ·) (value host ctx.place e) (value host' ctx'.place e))
    (behind : rp p p')
    (resolves : ∀ v q q', rp q q' →
      EndsIn rp (· = ·) (resolve host ctx.place v q) (resolve host' ctx'.place v q'))
    (enters : ∀ v m t q q', value host ctx.place e p.memory = .ok v m →
      resolve host ctx.place v (p.withMemory m) = .ok t q → rp q q' →
      Ends (fun place place' => EndsIn rp rs (render (inside place) t.body q)
        (render' (inside' place') t.body q')) (t.enter ctx.place) (t.enter ctx'.place)) :
    EndsIn rp rs (entering host ctx render e inside p)
      (entering host' ctx' render' e inside' p') := by
  unfold entering
  refine EndsIn.bind (evaluate_abreast abreast behind values) fun v _ _ _ got _ same behind => ?_
  cases same
  obtain ⟨m, hv, rfl⟩ := evaluate_eq_ok.1 got
  refine EndsIn.bind (resolves v _ _ behind) fun t _ q q' resolved _ same behind => ?_
  cases same
  have entered := ofExcept_ends (enters v m t q q' hv resolved behind) behind
  refine EndsIn.bind entered fun place place' _ _ got got' inner _ => ?_
  obtain ⟨-, rfl⟩ := ofExcept_eq_ok.1 got
  obtain ⟨-, rfl⟩ := ofExcept_eq_ok.1 got'
  exact own_scope_abreast scopes inner

/-- Two renders that take the first of some bodies keep in step if they do so in this one. -/
theorem version_abreast (rs : Dictionary Value → Dictionary Value → Prop) {render : Renderer σ}
    {render' : Renderer τ} {p : Progress σ} {p' : Progress τ} {R : Version → Version → Prop}
    {versions versions' : List Version}
    (related : List.Forall₂ R versions versions') (behind : rp p p')
    (inside : ∀ v v' overridden overridden', versions = v :: overridden → R v v' →
      List.Forall₂ R overridden overridden' →
      EndsIn rp rs (render (v.context overridden) v.body p)
        (render' (v'.context overridden') v'.body p')) :
    EndsIn rp (fun _ _ => True) (version render versions p) (version render' versions' p') := by
  cases related with
  | nil => exact .ok trivial behind
  | @cons v v' overridden overridden' first rest =>
    have inner := inside v v' overridden overridden' rfl first rest
    exact EndsIn.bind inner fun _ _ _ _ _ _ _ behind => .ok trivial behind

end Render

end TextTemplate
