import Mathlib
import TextTemplate.Proofs.Grammar
import TextTemplate.Proofs.Render.Saved

/-!
# How deep templates are nested

The depth of a place counts the templates that were entered on the way to it, and `include` and
`extends` go no deeper than `maxDepth`.  But the body of an heir's block, and the body that `super`
takes, are rendered in the place where they were saved, with the depth that it had.  So the number of
templates that are open at a moment (`levels`) is not the depth of the place: it is the depth and all
the levels by which the open nodes stepped back (`levels_eq`).  At most `maxDepth` templates are open
exactly where these two come to no more than that (`nesting_limit`); more are open in a render of
three small templates (`Climbing.exists_open`).
-/

namespace TextTemplate

variable {σ : Type}

/-- Whether a node renders a template inside of another one. -/
def Node.isEntry : Node → Bool
  | .include _ | .extend .. => true
  | _ => false

/-- How far the depth goes back where an open node renders a body that was saved; below zero where it
goes forward again. -/
def Pending.stepsBack (e : Pending) : Int :=
  match e.node with
  | .block .. | .super => e.context.place.depth - e.inside.place.depth
  | _ => 0

/-- The number of templates that are entered at open nodes, one inside the other. -/
def levels (stack : List Pending) : Nat := stack.countP (·.node.isEntry)

/-- How far the depth went back at open nodes. -/
def stepsBack (stack : List Pending) : Int := (stack.map Pending.stepsBack).sum

theorem levels_cons (e : Pending) (stack : List Pending) :
    levels (e :: stack) = levels stack + if e.node.isEntry then 1 else 0 := List.countP_cons ..

theorem stepsBack_cons (e : Pending) (stack : List Pending) :
    stepsBack (e :: stack) = e.stepsBack + stepsBack stack := rfl

theorem depth_of_enter {t : Template} {p place : Place} (h : t.enter p = .ok place) :
    place.depth = p.depth + 1 ∧ place.depth ≤ maxDepth := by
  unfold TemplateOf.enter at h
  split at h
  · cases h
  · cases h
    dsimp only
    omega

namespace Render

variable {host : Host σ}

/-- The depth inside an open node: one more in a template that is entered, what it was at a body that
was saved, and else the same. -/
theorem Opened.depth {fr fr' : Frame σ} {e : Pending} (opened : Opened host fr e fr') :
    (fr'.context.place.depth : Int) =
      fr.context.place.depth + (if e.node.isEntry then 1 else 0) - e.stepsBack := by
  obtain ⟨n, ctx, template, inside⟩ := e
  obtain ⟨line, p, begins, opens, -, same⟩ := opened
  obtain rfl : inside = fr'.context := same
  obtain ⟨scope, hc⟩ := begins.exists_scope
  have depth : ctx.place.depth = fr.context.place.depth := congrArg (·.place.depth) hc
  rw [← depth]
  dsimp only at opens
  cases opens with
  | branch _ => simp [Node.isEntry, Pending.stepsBack]
  | loop _ _ iterates =>
    obtain ⟨_, scope, hc⟩ := iterates.exists_scope
    simp [Node.isEntry, Pending.stepsBack, hc, Context.withScope]
  | bind _ _ => simp [Node.isEntry, Pending.stepsBack, Context.withScope]
  | «include» enters =>
    have := (depth_of_enter (EntersAt.include enters).enter.1).1
    simp [Node.isEntry, Pending.stepsBack, this]
  | extend enters =>
    have := (depth_of_enter (EntersAt.extend enters).enter.1).1
    simp [Node.isEntry, Pending.stepsBack, this]
  | block _ => simp [Node.isEntry, Pending.stepsBack]
  | super _ => simp [Node.isEntry, Pending.stepsBack]

/-- **The templates that are open** are the levels of the place and those stepped back by. -/
theorem levels_eq {root fr : Frame σ} {stack : List Pending} (moment : Open host root stack fr) :
    (levels stack : Int) + root.context.place.depth =
      fr.context.place.depth + stepsBack stack := by
  induction moment with
  | root => simp [levels, stepsBack]
  | @inside stack fr fr' e _ opened ih =>
    have step := opened.depth
    rw [levels_cons, stepsBack_cons]
    by_cases entry : e.node.isEntry
    · simp only [entry, if_true] at step ⊢
      omega
    · simp only [entry, Bool.false_eq_true, if_false] at step ⊢
      omega

/-- The depth of no place passes the limit. -/
theorem depth_le_maxDepth {t : Template} {params : Dictionary Value} {memory : Memory σ} {fr : Frame σ}
    {stack : List Pending} (moment : Open host (t.start params memory) stack fr) :
    fr.context.place.depth ≤ maxDepth := by
  have start : (t.start params memory).Keeps fun place _ _ => place.depth ≤ maxDepth :=
    TemplateOf.start_keeps (Nat.zero_le _)
  refine (open_keeps start ?_ ?_ moment fun _ _ => trivial).here
  · intro _ here _ _ _ _ begins _ _ _ _
    obtain ⟨_, rfl⟩ := begins.exists_scope
    exact here
  · intro _ _ _ _ _ _ _ _ _ enters _
    exact (depth_of_enter enters.enter.1).2

/-! ## Going one deeper -/

/-- The template that an entering node resolves to. -/
inductive Resolves (host : Host σ) (ctx : Context) (p : Progress σ) :
    Node → Template → Progress σ → Prop
  | include {e : Expression} {v : Value} {m : Memory σ} {t : Template} {q : Progress σ} :
      value host ctx.place e p.memory = .ok v m →
      resolve host ctx.place v (p.withMemory m) = .ok t q →
      Resolves host ctx p (.include e) t q
  | extend {parent : Expression} {blocks : Dictionary Fragment} {v : Value} {m : Memory σ}
      {t : Template} {q : Progress σ} :
      value host ctx.place parent p.memory = .ok v m →
      resolve host ctx.place v (p.withMemory m) = .ok t q →
      Resolves host ctx p (.extend parent blocks) t q

variable {ctx : Context} {p q : Progress σ} {n : Node} {t : Template}

/-- At the limit no template is entered. -/
theorem Resolves.node_error (h : Resolves host ctx p n t q) (limit : maxDepth ≤ ctx.place.depth)
    (render : Renderer σ) :
    node host render ctx n p = .error (.fault (.depth maxDepth)) q := by
  have full : t.enter ctx.place = .error (.depth maxDepth) := if_pos limit
  cases h with
  | «include» hv hr =>
    simp only [node, bind_apply, eval_apply, ofExcept_apply, hv, hr, full]
  | extend hv hr =>
    simp only [node, bind_apply, eval_apply, ofExcept_apply, hv, hr, full]

/-- Below the limit every template is entered. -/
theorem Resolves.entersAt (h : Resolves host ctx p n t q) (below : ctx.place.depth < maxDepth) :
    ∃ fr, EntersAt host ctx p n t fr := by
  have free : t.enter ctx.place = .ok {
      scope := t.defaults.overlay ctx.place.scope
      globals := ctx.place.globals.overlay t.globals
      depth := ctx.place.depth + 1 } := if_neg (Nat.not_le_of_lt below)
  cases h with
  | «include» hv hr => exact ⟨_, .include (.intro hv hr free)⟩
  | extend hv hr => exact ⟨_, .extend (.intro hv hr free)⟩

/-- A render that would enter a template at the limit fails with the depth, located at the node. -/
theorem render_eq_depth_fault {params : Dictionary Value} {memory : Memory σ} {stack : List Pending}
    {fr : Frame σ} {line : Nat} (moment : Open host (t.start params memory) stack fr)
    {t' : Template}
    (begins : Begins host (whole host) fr.context fr.fragment.nodes fr.progress line n ctx p)
    (h : Resolves host ctx p n t' q) (limit : maxDepth ≤ ctx.place.depth) :
    t.render host (.map params) memory =
      (.error (.fault ((Fault.depth maxDepth).atRender fr.fragment.name line)), q.memory) := by
  have here := resume_error_of_begins begins (h.node_error limit (whole host))
  exact renderWith_error (moment.resume_error rfl here)

/-- **How many templates may be open.**  At a moment of a render at most `maxDepth` templates are
open exactly if the depth and the levels stepped back by come to no more.  One level deeper the render
fails exactly if the open templates are `maxDepth` and those levels. -/
theorem nesting_limit (host : Host σ) (t : Template) (params : Dictionary Value) (memory : Memory σ)
    {stack : List Pending} {fr : Frame σ} (moment : Open host (t.start params memory) stack fr) :
    (levels stack ≤ maxDepth ↔ fr.context.place.depth + stepsBack stack ≤ maxDepth) ∧
    ∀ line n ctx p t' q,
      Begins host (whole host) fr.context fr.fragment.nodes fr.progress line n ctx p →
      Resolves host ctx p n t' q →
      if (levels stack : Int) = maxDepth + stepsBack stack then
        t.render host (.map params) memory =
          (.error (.fault ((Fault.depth maxDepth).atRender fr.fragment.name line)), q.memory)
      else ∃ fr', EntersAt host ctx p n t' fr' := by
  have count : (levels stack : Int) = fr.context.place.depth + stepsBack stack := by
    have sum := levels_eq moment
    have root : (t.start params memory).context.place.depth = 0 := rfl
    omega
  constructor
  · omega
  · intro line n ctx p t' q begins resolves
    obtain ⟨scope, hc⟩ := begins.exists_scope
    have depth : ctx.place.depth = fr.context.place.depth := congrArg (·.place.depth) hc
    have most := depth_le_maxDepth moment
    split
    · exact render_eq_depth_fault moment begins resolves (by omega)
    · exact resolves.entersAt (by omega)

/-! ## Three templates that go deeper -/

namespace Climbing

/-- Includes itself until `n` has come down to zero, and goes on with `super` there. -/
def climber : String :=
  "\x7b% if n %\x7d\x7b% with n - 1 as n %\x7d\x7b% include s %\x7d\x7b% endwith %\x7d" ++
    "\x7b% else %\x7d\x7b% super %\x7d\x7b% endif %\x7d"

/-- Declares a block that includes the climber. -/
def base : String := "\x7b% block x %\x7d\x7b% include s %\x7d\x7b% endblock %\x7d"

/-- Extends the base with a block of the same name that includes the climber, too. -/
def derived : String := "\x7b% extends b %\x7d" ++ base

/-- A name as an expression. -/
def named (name : String) : Expression := ⟨name, .name name⟩

def includes : Fragment := ⟨unnamed, [(1, .include (named "s"))]⟩

def lower : Fragment :=
  ⟨unnamed, [(1, .bind (.name "n") ⟨"n - 1", .arithmetic .sub (.name "n") (.literal (.int 1))⟩
    includes)]⟩

def climberBody : Fragment :=
  ⟨unnamed, [(1, .branch [(named "n", lower)] (some ⟨unnamed, [(1, .super)]⟩))]⟩

def baseBody : Fragment := ⟨unnamed, [(1, .block "x" includes)]⟩

def derivedBody : Fragment := ⟨unnamed, [(1, .extend (named "b") ⟨[("x", includes)]⟩)]⟩

/-- Compiles a template with the standard tags. -/
def compile (serial : Nat) (source : String) : Except Fault Template :=
  (Grammar.standard (.escaper 0)).compile ⟨none, serial⟩ source unnamed .empty .empty

/-- The template of a body. -/
def ofBody (serial : Nat) (body : Fragment) : Template :=
  ⟨⟨none, serial⟩, body, .empty, (Grammar.standard (.escaper 0)).entries unnamed .empty⟩

set_option maxRecDepth 100000 in
theorem compile_climber : compile 0 climber = .ok (ofBody 0 climberBody) := by
  refine Grammar.compile_of_parse _ _ _ ?_
  show Tag.parseTemplate Tag.standard climber unnamed = .ok climberBody
  cbv

set_option maxRecDepth 100000 in
theorem compile_base : compile 1 base = .ok (ofBody 1 baseBody) := by
  refine Grammar.compile_of_parse _ _ _ ?_
  show Tag.parseTemplate Tag.standard base unnamed = .ok baseBody
  cbv

set_option maxRecDepth 100000 in
theorem compile_derived : compile 2 derived = .ok (ofBody 2 derivedBody) := by
  refine Grammar.compile_of_parse _ _ _ ?_
  show Tag.parseTemplate Tag.standard derived unnamed = .ok derivedBody
  cbv

/-- The scope in which the climber has some levels before it. -/
def scope (n : Nat) : Dictionary Value :=
  ⟨[("b", .template (ofBody 1 baseBody)), ("n", .int (.ofNat n)),
    ("s", .template (ofBody 0 climberBody))]⟩

/-- The climber, about to be rendered. -/
def frame (n : Nat) (globals : Dictionary Value) (depth : Nat) (heirs : List Heir)
    (overridden : List Version) (p : Progress σ) : Frame σ :=
  ⟨⟨⟨scope n, globals, depth⟩, heirs, overridden⟩, climberBody, p⟩

variable {root : Frame σ} {stack : List Pending} {globals : Dictionary Value} {depth : Nat}
  {heirs : List Heir} {overridden : List Version}

theorem open_head {ctx : Context} {name : String} {line : Nat} {n : Node}
    {rest : List (Nat × Node)} {p : Progress σ} {fr : Frame σ}
    (moment : Open host root stack ⟨ctx, ⟨name, (line, n) :: rest⟩, p⟩)
    (opens : Opens host (whole host) ctx p n fr) :
    Open host root (⟨n, ctx, entered? host ctx p n, fr.context⟩ :: stack) fr :=
  .inside moment ⟨line, p, .head, opens, rfl, rfl⟩

theorem overlay_scope (n : Nat) : Dictionary.overlay .empty (scope n) = scope n := by cbv

theorem enter_ofBody (n serial : Nat) (body : Fragment) (globals : Dictionary Value)
    (room : depth < maxDepth) : (ofBody serial body).enter ⟨scope n, globals, depth⟩ =
      .ok ⟨scope n, globals.overlay (ofBody serial body).globals, depth + 1⟩ := by
  rw [TemplateOf.enter, if_neg (Nat.not_le_of_lt room)]
  dsimp only [ofBody]
  rw [overlay_scope]

theorem value_pred {n : Nat} (h : n < 40) : value host ⟨scope (n + 1), globals, depth⟩
    ⟨"n - 1", .arithmetic .sub (.name "n") (.literal (.int 1))⟩ =
      (pure (.int (.ofNat n)) : Evaluation σ Value) := by
  have exact : ∀ m, m < 40 → Number.int64? ((Int64.ofNat (m + 1)).toInt - (1 : Int64).toInt) =
      some (.ofNat m) := by decide
  show Evaluation.operate (Value.ofInt ((Int64.ofNat (n + 1)).toInt - (1 : Int64).toInt)) = _
  rw [Value.ofInt, exact n h]
  rfl

/-- Where the climber is included, one more template is open. -/
theorem open_included {n : Nat} (room : depth < maxDepth)
    (moment : Open host root stack
      ⟨⟨⟨scope n, globals, depth⟩, heirs, overridden⟩, includes, p⟩) :
    ∃ stack' inner, Open host root stack' (frame n inner (depth + 1) heirs overridden p) ∧
      levels stack' = levels stack + 1 := by
  have enters : Enters host ⟨⟨scope n, globals, depth⟩, heirs, overridden⟩ p (named "s")
      (Context.including ⟨⟨scope n, globals, depth⟩, heirs, overridden⟩) (ofBody 0 climberBody)
      (frame n _ (depth + 1) heirs overridden p) :=
    .intro rfl rfl (enter_ofBody n 0 climberBody globals room)
  exact ⟨_, _, open_head moment (.include enters), levels_cons ..⟩

/-- The climber goes one level deeper. -/
theorem open_lower {n : Nat} (h : n < 40) (room : depth < maxDepth)
    (moment : Open host root stack (frame (n + 1) globals depth heirs overridden p)) :
    ∃ stack' inner, Open host root stack' (frame n inner (depth + 1) heirs overridden p) ∧
      levels stack' = levels stack + 1 := by
  have truthy : ∀ m, m < 40 → (Value.int (.ofNat (m + 1))).isTruthy = true := by decide
  have taken : chosen host ⟨scope (n + 1), globals, depth⟩ (some ⟨unnamed, [(1, .super)]⟩)
      [(named "n", lower)] p.memory = .ok (some lower) p.memory := by
    show (if (Value.int (.ofNat (n + 1))).isTruthy then _ else _ : Evaluation σ _) p.memory = _
    rw [truthy n h]
    rfl
  have bound : (Target.name "n").bind (.int (.ofNat n)) (scope (n + 1)) = .ok (scope n) := rfl
  have branch := open_head moment (.branch taken)
  have bind := open_head branch (.bind (congrFun (value_pred h) p.memory) bound)
  obtain ⟨stack', inner, moment', count⟩ := open_included room bind
  exact ⟨stack', inner, moment', count⟩

/-- The climber goes down until `n` is zero. -/
theorem open_bottom {n : Nat} (h : n ≤ 40) (room : depth + n ≤ maxDepth)
    (moment : Open host root stack (frame n globals depth heirs overridden p)) :
    ∃ stack' inner, Open host root stack' (frame 0 inner (depth + n) heirs overridden p) ∧
      levels stack' = levels stack + n := by
  induction n generalizing depth globals stack with
  | zero => exact ⟨stack, globals, moment, rfl⟩
  | succ n ih =>
    obtain ⟨stack', inner, moment', count⟩ := open_lower (by omega) (by omega) moment
    obtain ⟨stack'', inner', moment'', count'⟩ := ih (by omega) (by omega) moment'
    refine ⟨stack'', inner', ?_, by omega⟩
    rwa [show depth + (n + 1) = depth + 1 + n by omega]

/-- The climber goes on with the body that the current one overrides. -/
theorem open_super {v : Version} (moment : Open host root stack
    (frame 0 globals depth heirs (v :: overridden) p)) :
    ∃ stack', Open host root stack' ⟨v.context overridden, v.body, p⟩ ∧
      levels stack' = levels stack := by
  have taken : chosen host ⟨scope 0, globals, depth⟩ (some ⟨unnamed, [(1, .super)]⟩)
      [(named "n", lower)] p.memory = .ok (some ⟨unnamed, [(1, .super)]⟩) p.memory := rfl
  have branch := open_head moment (.branch taken)
  exact ⟨_, open_head branch (.super (.head v overridden)), rfl⟩

/-- The derived template is rendered with both others and `n` as 40: the climber goes down in the body
that the derived one declares, and with `super` again in the body of the base. -/
theorem exists_open (host : Host σ) (memory : Memory σ) : ∃ stack fr,
    Open host ((ofBody 2 derivedBody).start (scope 40) memory) stack fr ∧ levels stack = 83 := by
  have extended : Enters host ((ofBody 2 derivedBody).context (scope 40)) ⟨"", memory⟩ (named "b")
      (((ofBody 2 derivedBody).context (scope 40)).extending ⟨[("x", includes)]⟩)
      (ofBody 1 baseBody) _ :=
    .intro rfl rfl (enter_ofBody 40 1 baseBody _ (by decide))
  have start : Open host ((ofBody 2 derivedBody).start (scope 40) memory) []
      ⟨(ofBody 2 derivedBody).context (scope 40), derivedBody, ⟨"", memory⟩⟩ := .root
  have extend := open_head start (.extend extended)
  have block := open_head extend (.block (.head _ _))
  obtain ⟨stack, inner, moment, first⟩ := open_included (by decide) block
  obtain ⟨stack, inner, moment, down⟩ := open_bottom (Nat.le_refl 40) (by decide) moment
  obtain ⟨stack, moment, back⟩ := open_super moment
  obtain ⟨stack, inner, moment, next⟩ := open_included (by decide) moment
  obtain ⟨stack, inner, moment, again⟩ := open_bottom (Nat.le_refl 40) (by decide) moment
  refine ⟨stack, _, moment, ?_⟩
  rw [again, next, back, down, first]
  rfl

/-- More templates than the limit are open in a render of the three. -/
theorem climbing_levels : ∃ low high climb : Template,
    compile 0 climber = .ok climb ∧ compile 1 base = .ok low ∧ compile 2 derived = .ok high ∧
    ∃ stack fr, Open bareHost
      (high.start ⟨[("b", .template low), ("n", .int 40), ("s", .template climb)]⟩ blank)
        stack fr ∧
      maxDepth < levels stack := by
  obtain ⟨stack, fr, moment, count⟩ := exists_open bareHost blank
  refine ⟨_, _, _, compile_climber, compile_base, compile_derived, stack, fr, moment, ?_⟩
  rw [count]
  decide

/-- What is open there beyond the limit was stepped back by. -/
theorem climbing_nesting_limit : ∃ stack fr,
    Open bareHost ((ofBody 2 derivedBody).start (scope 40) blank) stack fr ∧
      ¬ fr.context.place.depth + stepsBack stack ≤ maxDepth := by
  obtain ⟨stack, fr, moment, count⟩ := exists_open bareHost blank
  refine ⟨stack, fr, moment, fun within => ?_⟩
  have limited := (nesting_limit bareHost _ _ _ moment).1.2 within
  rw [count] at limited
  exact absurd limited (by decide)

end Climbing

end Render

end TextTemplate
