import Mathlib
import TextTemplate.Proofs.Render.Moment

/-!
# Where a fault of a render comes from

A node breaks if a step of its own fails: an expression is not evaluated, a value is not bound, a
template is not found or one too many.  If a node fails and does not break, then a fragment fails that
it opens (`node_error`).  So a render that fails leads down from moment to moment to a node that
breaks, which is the innermost one (`exists_breaks`); and on the way back a fault is located once, at
that node.  A fault that comes with a place already is not located again (`fault_of_innermost`).
-/

namespace TextTemplate

variable {σ : Type}

/-- The expression that a node evaluates first. -/
def Node.operand? : Node → Option Expression
  | .output e | .print e | .assign _ e | .loop _ e _ | .bind _ e _ | .include e | .extend e _ => some e
  | .text _ | .branch .. | .block .. | .super => none

/-- The expression for the template that a node enters. -/
def Node.source? : Node → Option Expression
  | .include e | .extend e _ => some e
  | _ => none

namespace Render

/-! ## A step that fails -/

/-- The tests of clauses are evaluated in order, and none of them holds. -/
inductive Refuses (host : Host σ) (place : Place) :
    List (Expression × Fragment) → Memory σ → Memory σ → Prop
  | nil {m : Memory σ} : Refuses host place [] m m
  | cons {test : Expression} {body : Fragment} {rest : List (Expression × Fragment)} {v : Value}
      {m m' last : Memory σ} :
      value host place test m = .ok v m' → v.isTruthy = false → Refuses host place rest m' last →
      Refuses host place ((test, body) :: rest) m last

/-- A step of a node itself fails with a cause: one that is not inside of a fragment that it opens. -/
inductive Breaks (host : Host σ) (render : Renderer σ) (ctx : Context) (p : Progress σ) :
    Node → Fault → Progress σ → Prop
  /-- Its expression is not evaluated. -/
  | operand {n : Node} {e : Expression} {cause : Fault} {m : Memory σ} :
      n.operand? = some e → value host ctx.place e p.memory = .error cause m →
      Breaks host render ctx p n cause (p.withMemory m)
  /-- The tests of the first clauses do not hold, and the next one is not evaluated. -/
  | test {before after : List (Expression × Fragment)} {test : Expression} {body : Fragment}
      {orelse : Option Fragment} {cause : Fault} {m m' : Memory σ} :
      Refuses host ctx.place before p.memory m → value host ctx.place test m = .error cause m' →
      Breaks host render ctx p (.branch (before ++ (test, body) :: after) orelse) cause
        (p.withMemory m')
  /-- The escape function fails. -/
  | escape {e : Expression} {v : Value} {f : Function} {cause : Fault} {m m' : Memory σ} :
      value host ctx.place e p.memory = .ok v m → ctx.place.escape? = some f →
      f.call (ctx.place.environment host.call) [.text v.display] m = .error cause m' →
      Breaks host render ctx p (.output e) cause (p.withMemory m')
  | assign {target : Target} {e : Expression} {v : Value} {cause : Fault} {m : Memory σ} :
      value host ctx.place e p.memory = .ok v m → target.bind v ctx.place.scope = .error cause →
      Breaks host render ctx p (.assign target e) cause (p.withMemory m)
  | bind {target : Target} {e : Expression} {body : Fragment} {v : Value} {cause : Fault}
      {m : Memory σ} :
      value host ctx.place e p.memory = .ok v m → target.bind v ctx.place.scope = .error cause →
      Breaks host render ctx p (.bind target e body) cause (p.withMemory m)
  /-- There are no items to go through. -/
  | items {target : Target} {e : Expression} {body : Fragment} {v : Value} {cause : EvalFault}
      {m : Memory σ} :
      value host ctx.place e p.memory = .ok v m → v.iterate = .error cause →
      Breaks host render ctx p (.loop target e body) (.eval cause) (p.withMemory m)
  /-- An item is not bound, behind the iterations for those before it. -/
  | item {target : Target} {e : Expression} {body : Fragment} {v item : Value} {m : Memory σ}
      {before after : List Value} {cause : Fault} {q : Progress σ} :
      value host ctx.place e p.memory = .ok v m → v.iterate = .ok (before ++ item :: after) →
      each render ctx target body before (p.withMemory m) = .ok () q →
      target.bind item ctx.place.scope = .error cause →
      Breaks host render ctx p (.loop target e body) cause q
  /-- There is no template to enter. -/
  | resolve {n : Node} {e : Expression} {v : Value} {m : Memory σ} {cause : Fault}
      {q : Progress σ} :
      n.source? = some e → value host ctx.place e p.memory = .ok v m →
      resolve host ctx.place v (p.withMemory m) = .error (.fault cause) q →
      Breaks host render ctx p n cause q
  /-- The template is not entered. -/
  | enter {n : Node} {e : Expression} {v : Value} {m : Memory σ} {t : Template} {cause : Fault}
      {q : Progress σ} :
      n.source? = some e → value host ctx.place e p.memory = .ok v m →
      Render.resolve host ctx.place v (p.withMemory m) = .ok t q →
      t.enter ctx.place = .error cause → Breaks host render ctx p n cause q

variable {host : Host σ} {render : Renderer σ} {ctx : Context} {p q : Progress σ}

section Bodies

variable {target : Target} {body : Fragment}

/-- A body fails for a value that is not bound, or inside. -/
theorem bound_error {v : Value} {stop : Stop} (h : bound render ctx target body v p = .error stop q) :
    (∃ cause, stop = .fault cause ∧ target.bind v ctx.place.scope = .error cause ∧ p = q) ∨
      ∃ scope, target.bind v ctx.place.scope = .ok scope ∧
        resume render ⟨ctx.withScope scope, body, p⟩ = .error stop q := by
  rw [bound_apply] at h
  cases hb : target.bind v ctx.place.scope with
  | error cause =>
    rw [hb] at h
    cases h
    exact .inl ⟨cause, rfl, rfl, rfl⟩
  | ok scope =>
    rw [hb] at h
    refine .inr ⟨scope, rfl, ?_⟩
    dsimp only at h
    rw [resume]
    dsimp only
    cases hr : render (ctx.withScope scope) body p with
    | ok _ _ => rw [hr] at h; cases h
    | error _ _ => rw [hr] at h; cases h; rfl

theorem each_append {before after : List Value} (h : each render ctx target body before p = .ok () q) :
    each render ctx target body (before ++ after) p = each render ctx target body after q := by
  induction before generalizing p with
  | nil => cases h; rfl
  | cons v rest ih =>
    rw [each_cons_apply] at h
    rw [List.cons_append, each_cons_apply]
    cases hq : bound render ctx target body v p with
    | error _ _ => rw [hq] at h; cases h
    | ok _ r =>
      rw [hq] at h
      exact ih h

/-- Going through values fails at one that is not bound, or inside of an iteration. -/
theorem each_error {values : List Value} {stop : Stop}
    (h : each render ctx target body values p = .error stop q) :
    (∃ cause before v after, stop = .fault cause ∧ values = before ++ v :: after ∧
        each render ctx target body before p = .ok () q ∧
        target.bind v ctx.place.scope = .error cause) ∨
      ∃ fr, Iterates render ctx target body values p fr ∧ resume render fr = .error stop q := by
  induction values generalizing p with
  | nil => cases h
  | cons v rest ih =>
    rw [each_cons_apply] at h
    cases hq : bound render ctx target body v p with
    | error stop' r =>
      rw [hq] at h
      cases h
      rcases bound_error hq with ⟨cause, rfl, unbound, rfl⟩ | ⟨scope, bound, inside⟩
      · exact .inl ⟨cause, [], v, rest, rfl, rfl, rfl, unbound⟩
      · exact .inr ⟨_, .head bound, inside⟩
    | ok _ r =>
      rw [hq] at h
      rcases ih h with ⟨cause, before, v', after, rfl, rfl, run, unbound⟩ | ⟨fr, iterates, inside⟩
      · refine .inl ⟨cause, v :: before, v', after, rfl, rfl, ?_, unbound⟩
        rw [each_cons_apply, hq]
        exact run
      · exact .inr ⟨fr, .tail hq iterates, inside⟩

end Bodies

/-- No clause is chosen if a test is not evaluated, behind tests that do not hold. -/
theorem chosen_error_iff {place : Place} {orelse : Option Fragment}
    {clauses : List (Expression × Fragment)} {cause : Fault} {m m' : Memory σ} :
    chosen host place orelse clauses m = .error cause m' ↔
      ∃ before test body after mid, clauses = before ++ (test, body) :: after ∧
        Refuses host place before m mid ∧ value host place test mid = .error cause m' := by
  induction clauses generalizing m with
  | nil =>
    constructor
    · intro h
      cases h
    · rintro ⟨before, test, body, after, mid, same, -⟩
      cases before <;> cases same
  | cons clause rest ih =>
    obtain ⟨first, inner⟩ := clause
    rw [chosen_cons_apply]
    constructor
    · intro h
      cases hv : value host place first m with
      | error fault _ =>
        rw [hv] at h
        cases h
        exact ⟨[], first, inner, rest, m, rfl, .nil, hv⟩
      | ok v _ =>
        rw [hv] at h
        dsimp only at h
        cases ht : v.isTruthy with
        | true => rw [ht, if_pos rfl] at h; cases h
        | false =>
          rw [ht, if_neg Bool.false_ne_true] at h
          obtain ⟨before, test, body, after, mid, rfl, refuses, fails⟩ := ih.1 h
          exact ⟨(first, inner) :: before, test, body, after, mid, rfl, .cons hv ht refuses, fails⟩
    · rintro ⟨before, test, body, after, mid, same, refuses, fails⟩
      cases refuses with
      | nil =>
        cases same
        rw [fails]
      | cons hv ht refuses =>
        cases same
        rw [hv]
        dsimp only
        rw [ht, if_neg Bool.false_ne_true]
        exact ih.2 ⟨_, test, body, after, mid, rfl, refuses, fails⟩

/-! ## The step of a node -/

/-- A template is not entered for its expression, for its name, for its depth, or it fails inside. -/
theorem entering_error {e : Expression} {inside : Place → Context} {stop : Stop}
    (h : entering host ctx render e inside p = .error stop q) :
    (∃ cause, stop = .fault cause ∧ ∀ n : Node, n.operand? = some e → n.source? = some e →
        Breaks host render ctx p n cause q) ∨
      ∃ t fr, Enters host ctx p e inside t fr ∧ resume render fr = .error stop q := by
  unfold entering at h
  rcases bind_eq_error.1 h with h | ⟨v, r, evaluated, h⟩
  · obtain ⟨cause, m, hv, rfl, rfl⟩ := evaluate_eq_error.1 h
    exact .inl ⟨cause, rfl, fun n operand _ => .operand operand hv⟩
  obtain ⟨m, hv, rfl⟩ := evaluate_eq_ok.1 evaluated
  rcases bind_eq_error.1 h with h | ⟨t, r, ht, h⟩
  · cases stop with
    | outOfSteps => exact absurd h (resolve_finished host ctx.place v _ q)
    | fault cause => exact .inl ⟨cause, rfl, fun n _ source => .resolve source hv h⟩
  rcases bind_eq_error.1 h with h | ⟨place, r, entered, h⟩
  · obtain ⟨cause, hp, rfl, rfl⟩ := ofExcept_eq_error.1 h
    exact .inl ⟨cause, rfl, fun n _ source => .enter source hv ht hp⟩
  obtain ⟨hp, rfl⟩ := ofExcept_eq_ok.1 entered
  rcases bind_eq_error.1 h with h | ⟨_, _, _, h⟩
  · exact .inr ⟨t, _, .intro hv ht hp, h⟩
  · cases h

theorem taking_error {versions : List Version} {stop : Stop}
    (h : taking ctx render versions p = .error stop q) :
    ∃ fr, Takes p versions fr ∧ resume render fr = .error stop q := by
  cases versions with
  | nil => cases h
  | cons v overridden =>
    rcases bind_eq_error.1 h with h | ⟨_, _, _, h⟩
    · rcases bind_eq_error.1 h with h | ⟨_, _, _, h⟩
      · exact ⟨_, .head v overridden, h⟩
      · cases h
    · cases h

/-- A node fails for a step of its own, or for a fragment that it opens. -/
theorem node_error {n : Node} {stop : Stop} (h : node host render ctx n p = .error stop q) :
    (∃ cause, stop = .fault cause ∧ Breaks host render ctx p n cause q) ∨
      ∃ fr, Opens host render ctx p n fr ∧ resume render fr = .error stop q := by
  -- what is left to do in the order of the node's steps, its expression first
  have operand {α : Type} {e : Expression} {next : Value → Render σ α} (own : n.operand? = some e)
      (h : (eval host ctx.place e >>= next) p = .error stop q) :
      (∃ cause, stop = .fault cause ∧ Breaks host render ctx p n cause q) ∨
        ∃ v m, value host ctx.place e p.memory = .ok v m ∧
          next v (p.withMemory m) = .error stop q := by
    rcases bind_eq_error.1 h with h | ⟨v, r, evaluated, h⟩
    · obtain ⟨cause, m, hv, rfl, rfl⟩ := evaluate_eq_error.1 h
      exact .inl ⟨cause, rfl, .operand own hv⟩
    · obtain ⟨m, hv, rfl⟩ := evaluate_eq_ok.1 evaluated
      exact .inr ⟨v, m, hv, h⟩
  cases n with
  | text text => cases h
  | output e =>
    rcases operand rfl h with broken | ⟨v, m, hv, h⟩
    · exact .inl broken
    rcases bind_eq_error.1 h with h | ⟨_, _, _, h⟩
    · unfold writeEscaped at h
      cases hf : ctx.place.escape? with
      | none => rw [hf] at h; cases h
      | some f =>
        rw [hf] at h
        rcases bind_eq_error.1 h with h | ⟨_, _, _, h⟩
        · obtain ⟨cause, m', hc, rfl, rfl⟩ := evaluate_eq_error.1 h
          exact .inl ⟨cause, rfl, .escape hv hf hc⟩
        · cases h
    · cases h
  | print e =>
    rcases operand rfl h with broken | ⟨v, m, hv, h⟩
    · exact .inl broken
    · cases h
  | assign target e =>
    rcases operand rfl h with broken | ⟨v, m, hv, h⟩
    · exact .inl broken
    · obtain ⟨cause, hb, rfl, rfl⟩ := ofExcept_eq_error.1 h
      exact .inl ⟨cause, rfl, .assign hv hb⟩
  | branch clauses orelse =>
    have run : branch host render ctx orelse clauses p = .error stop q := h
    rw [branch_apply] at run
    cases hc : chosen host ctx.place orelse clauses p.memory with
    | error cause m =>
      rw [hc] at run
      cases run
      obtain ⟨before, test, body, after, mid, rfl, refuses, fails⟩ := chosen_error_iff.1 hc
      exact .inl ⟨cause, rfl, .test refuses fails⟩
    | ok found m =>
      rw [hc] at run
      cases found with
      | none => cases run
      | some body => exact .inr ⟨_, .branch hc, run⟩
  | loop target e body =>
    rcases operand rfl h with broken | ⟨v, m, hv, h⟩
    · exact .inl broken
    rcases bind_eq_error.1 h with h | ⟨values, r, listed, h⟩
    · obtain ⟨cause, hi, rfl, rfl⟩ := items_eq_error.1 h
      exact .inl ⟨_, rfl, .items hv hi⟩
    obtain ⟨hi, rfl⟩ := items_eq_ok.1 listed
    rcases bind_eq_error.1 h with h | ⟨_, _, _, h⟩
    · rcases each_error h with ⟨cause, before, v', after, rfl, rfl, run, unbound⟩ | ⟨fr, iterates, inside⟩
      · exact .inl ⟨cause, rfl, .item hv hi run unbound⟩
      · exact .inr ⟨fr, .loop hv hi iterates, inside⟩
    · cases h
  | bind target e body =>
    rcases operand rfl h with broken | ⟨v, m, hv, h⟩
    · exact .inl broken
    rcases bind_eq_error.1 h with h | ⟨_, _, _, h⟩
    · rcases bound_error h with ⟨cause, rfl, unbound, rfl⟩ | ⟨scope, bound, inside⟩
      · exact .inl ⟨cause, rfl, .bind hv unbound⟩
      · exact .inr ⟨_, .bind hv bound, inside⟩
    · cases h
  | «include» e =>
    rcases entering_error h with ⟨cause, rfl, broken⟩ | ⟨t, fr, enters, inside⟩
    · exact .inl ⟨cause, rfl, broken _ rfl rfl⟩
    · exact .inr ⟨fr, .include enters, inside⟩
  | extend parent blocks =>
    rcases entering_error h with ⟨cause, rfl, broken⟩ | ⟨t, fr, enters, inside⟩
    · exact .inl ⟨cause, rfl, broken _ rfl rfl⟩
    · exact .inr ⟨fr, .extend enters, inside⟩
  | block name body =>
    obtain ⟨fr, takes, inside⟩ := taking_error h
    exact .inr ⟨fr, .block takes, inside⟩
  | super =>
    obtain ⟨fr, takes, inside⟩ := taking_error h
    exact .inr ⟨fr, .super takes, inside⟩

/-- A node that breaks fails with the cause. -/
theorem Breaks.node_error {n : Node} {cause : Fault} (breaks : Breaks host render ctx p n cause q) :
    node host render ctx n p = .error (.fault cause) q := by
  have operand {e : Expression} {v : Value} {m : Memory σ}
      (hv : value host ctx.place e p.memory = .ok v m) :
      (eval host ctx.place e : Render σ Value) p = .ok v (p.withMemory m) :=
    evaluate_eq_ok.2 ⟨m, hv, rfl⟩
  have fails {α : Type} {x : Except Fault α} {r : Progress σ} (h : x = .error cause) :
      (ofExcept x : Render σ α) r = .error (.fault cause) r := ofExcept_eq_error.2 ⟨cause, h, rfl, rfl⟩
  cases breaks with
  | operand own hv =>
    have first := evaluate_eq_error.2 ⟨cause, _, hv, rfl, rfl⟩
    cases n <;> cases own <;> exact bind_eq_error.2 (.inl first)
  | test refuses hv =>
    show branch host render ctx _ _ p = _
    rw [branch_apply, chosen_error_iff.2 ⟨_, _, _, _, _, rfl, refuses, hv⟩]
  | escape hv hf hc =>
    refine bind_eq_error.2 (.inr ⟨_, _, operand hv, bind_eq_error.2 (.inl ?_)⟩)
    unfold writeEscaped
    rw [hf]
    exact bind_eq_error.2 (.inl (evaluate_eq_error.2 ⟨cause, _, hc, rfl, rfl⟩))
  | assign hv hb => exact bind_eq_error.2 (.inr ⟨_, _, operand hv, fails hb⟩)
  | bind hv hb =>
    refine bind_eq_error.2 (.inr ⟨_, _, operand hv, bind_eq_error.2 (.inl ?_)⟩)
    rw [bound_apply, hb]
  | items hv hi =>
    exact bind_eq_error.2 (.inr ⟨_, _, operand hv, bind_eq_error.2 (.inl
      (items_eq_error.2 ⟨_, hi, rfl, rfl⟩))⟩)
  | item hv hi run hb =>
    refine bind_eq_error.2 (.inr ⟨_, _, operand hv, ?_⟩)
    refine bind_eq_error.2 (.inr ⟨_, _, items_eq_ok.2 ⟨hi, rfl⟩, bind_eq_error.2 (.inl ?_)⟩)
    rw [each_append run, each_cons_apply, bound_apply, hb]
  | resolve own hv hr =>
    cases n <;> cases own <;>
      exact bind_eq_error.2 (.inr ⟨_, _, operand hv, bind_eq_error.2 (.inl hr)⟩)
  | enter own hv hr he =>
    cases n <;> cases own <;>
      exact bind_eq_error.2 (.inr ⟨_, _, operand hv, bind_eq_error.2
        (.inr ⟨_, _, hr, bind_eq_error.2 (.inl (fails he))⟩)⟩)

/-! ## The innermost node -/

/-- A list of nodes fails at a node that is begun. -/
theorem nodes_error {template : String} {list : List (Nat × Node)} {stop : Stop}
    (h : nodes host render template ctx list p = .error stop q) :
    ∃ line n ctx' p' stop', Begins host render ctx list p line n ctx' p' ∧
      node host render ctx' n p' = .error stop' q ∧ stop = locate template line stop' := by
  induction list generalizing ctx p with
  | nil => cases h
  | cons first rest ih =>
    obtain ⟨line, n⟩ := first
    rw [nodes_cons_apply] at h
    cases hn : node host render ctx n p with
    | ok scope r =>
      rw [hn] at h
      obtain ⟨line', n', ctx', p', stop', begins, fails, located⟩ := ih h
      exact ⟨line', n', ctx', p', stop', .tail hn begins, fails, located⟩
    | error stop' r =>
      rw [hn] at h
      cases stop' <;> cases h <;> exact ⟨line, n, ctx, p, _, .head, hn, rfl⟩

/-- At a moment inside of a root a node breaks: one of the frame, at its line. -/
def BreaksAt (host : Host σ) (root fr : Frame σ) (line : Nat) (cause : Fault) (q : Progress σ) :
    Prop :=
  ∃ stack n ctx p, Open host root stack fr ∧
    Begins host (whole host) fr.context fr.fragment.nodes fr.progress line n ctx p ∧
    Breaks host (whole host) ctx p n cause q

theorem Open.under {root first fr : Frame σ} {e : Pending} {stack : List Pending}
    (opened : Opened host root e first) (moment : Open host first stack fr) :
    Open host root (stack ++ [e]) fr := by
  induction moment with
  | root => exact .inside .root opened
  | inside _ next ih => exact .inside ih next

theorem isLocated_atRender (fault : Fault) (template : String) (line : Nat) :
    (fault.atRender template line).isLocated = true := by
  unfold Fault.atRender
  by_cases located : fault.isLocated = true
  · rw [if_pos located]
    exact located
  · rw [if_neg located]
    rfl

/-- A frame that fails leads to a node that breaks, and its stop is the cause, located there. -/
theorem exists_breaks (root : Frame σ) {stop : Stop} (h : resume (whole host) root = .error stop q) :
    ∃ fr line cause, BreaksAt host root fr line cause q ∧
      stop = .fault (cause.atRender fr.fragment.name line) := by
  suffices ∀ p stop, resume (whole host) ⟨root.context, root.fragment, p⟩ = .error stop q →
      ∃ fr line cause, BreaksAt host ⟨root.context, root.fragment, p⟩ fr line cause q ∧
        stop = .fault (cause.atRender fr.fragment.name line) from this root.progress stop h
  refine opens_induction host (whole host)
    (motive := fun ctx f => ∀ p stop, resume (whole host) ⟨ctx, f, p⟩ = .error stop q →
      ∃ fr line cause, BreaksAt host ⟨ctx, f, p⟩ fr line cause q ∧
        stop = .fault (cause.atRender fr.fragment.name line))
    (fun ctx f inner p stop h => ?_) root.context root.fragment
  rw [resume, whole_eq] at h
  obtain ⟨line, n, ctx', p', stop', begins, fails, rfl⟩ := nodes_error h
  rcases node_error fails with ⟨cause, rfl, breaks⟩ | ⟨first, opens, inside⟩
  · exact ⟨⟨ctx, f, p⟩, line, cause, ⟨[], n, ctx', p', .root, begins, breaks⟩, rfl⟩
  · obtain ⟨fr, line', cause, ⟨stack, n', ctx'', p'', moment, begins', breaks⟩, rfl⟩ :=
      inner p line n ctx' p' first begins opens first.progress stop' inside
    have opened : Opened host ⟨ctx, f, p⟩ ⟨n, ctx', entered? host ctx' p' n, first.context⟩ first :=
      ⟨line, p', begins, opens, rfl, rfl⟩
    refine ⟨fr, line', cause, ⟨_, n', ctx'', p'', moment.under opened, begins', breaks⟩, ?_⟩
    -- on the way out the fault has its place
    exact congrArg Stop.fault (atRender_of_isLocated (isLocated_atRender ..) _ _)

/-- Where a node breaks, everything around it fails with the cause as it is located there. -/
theorem BreaksAt.resume_error {root fr : Frame σ} {line : Nat} {cause : Fault}
    (breaks : BreaksAt host root fr line cause q) :
    resume (whole host) root = .error (.fault (cause.atRender fr.fragment.name line)) q := by
  obtain ⟨_, _, _, _, moment, begins, breaks⟩ := breaks
  exact moment.resume_error (isLocated_atRender ..) (resume_error_of_begins begins breaks.node_error)

theorem parameters_eq_error {params : Value} {fault : Fault} :
    parameters params = .error fault ↔ (∀ entries, params ≠ .map entries) ∧ params ≠ .null ∧
      fault = .value (.parameters params.kind) := by
  constructor
  · intro h
    cases params <;> cases h <;> exact ⟨(fun _ h => nomatch h), (fun h => nomatch h), rfl⟩
  · rintro ⟨noMap, notNull, rfl⟩
    cases params <;> first | rfl | exact absurd rfl (noMap _) | exact absurd rfl notNull

/-- A template fails for its parameters, or where its body does. -/
theorem renderWith_eq_error {t : Template} {params : Value} {memory after : Memory σ} {stop : Stop} :
    t.renderWith render params memory = (.error stop, after) ↔
      (∃ fault, parameters params = .error fault ∧ stop = .fault fault ∧ after = memory) ∨
      ∃ entries q, parameters params = .ok entries ∧
        resume render (t.start entries memory) = .error stop q ∧ q.memory = after := by
  unfold TemplateOf.renderWith resume
  constructor
  · intro h
    cases hp : parameters params with
    | error fault =>
      rw [hp] at h
      cases h
      exact .inl ⟨fault, rfl, rfl, rfl⟩
    | ok entries =>
      rw [hp] at h
      have run : outcome (render (t.context entries) t.body ⟨"", memory⟩) = (.error stop, after) := h
      cases hr : render (t.context entries) t.body ⟨"", memory⟩ with
      | ok _ _ => rw [hr] at run; cases run
      | error stop' q =>
        rw [hr] at run
        cases run
        exact .inr ⟨entries, q, rfl, hr, rfl⟩
  · rintro (⟨fault, hp, rfl, rfl⟩ | ⟨entries, q, hp, run, rfl⟩)
    · rw [hp]
    · have run : render (t.context entries) t.body ⟨"", memory⟩ = .error stop q := run
      rw [hp]
      dsimp only
      rw [run]
      rfl

/-- A located fault is the cause itself, or has its message and the place. -/
theorem atRender_eq_iff {cause fault : Fault} {template : String} {line : Nat} :
    cause.atRender template line = fault ↔
      cause.isLocated = true ∧ fault = cause ∨
        cause.isLocated = false ∧ fault = .render cause.message template line := by
  unfold Fault.atRender
  cases cause.isLocated with
  | true =>
    simp only [if_true, true_and, Bool.true_eq_false, false_and, or_false]
    exact eq_comm
  | false =>
    simp only [Bool.false_eq_true, if_false, false_and, true_and, false_or]
    exact eq_comm

/-- **Faults are located once, at the innermost node.**  A render fails for parameters that are no
map, or for a node that breaks at a moment of it.  The fault is what broke the node, if this has a
place already, and else its message with the name of the node's fragment and the node's line. -/
theorem fault_of_innermost (host : Host σ) (t : Template) (params : Value) (memory after : Memory σ)
    (stop : Stop) :
    t.render host params memory = (.error stop, after) ↔
      ((∀ entries, params ≠ .map entries) ∧ params ≠ .null ∧
        stop = .fault (.value (.parameters params.kind)) ∧ after = memory) ∨
      ∃ entries fr line cause q fault, parameters params = .ok entries ∧
        BreaksAt host (t.start entries memory) fr line cause q ∧ q.memory = after ∧
        stop = .fault fault ∧ fault.isLocated = true ∧
        (cause.isLocated = true ∧ fault = cause ∨
          cause.isLocated = false ∧ fault = .render cause.message fr.fragment.name line) := by
  refine renderWith_eq_error.trans (or_congr ?_ ?_)
  · constructor
    · rintro ⟨fault, given, rfl, rfl⟩
      obtain ⟨noMap, notNull, rfl⟩ := parameters_eq_error.1 given
      exact ⟨noMap, notNull, rfl, rfl⟩
    · rintro ⟨noMap, notNull, rfl, rfl⟩
      exact ⟨_, parameters_eq_error.2 ⟨noMap, notNull, rfl⟩, rfl, rfl⟩
  · constructor
    · rintro ⟨entries, q, given, run, rfl⟩
      obtain ⟨fr, line, cause, breaks, rfl⟩ := exists_breaks _ run
      exact ⟨entries, fr, line, cause, q, _, given, breaks, rfl, rfl, isLocated_atRender ..,
        atRender_eq_iff.1 rfl⟩
    · rintro ⟨entries, fr, line, cause, q, fault, given, breaks, rfl, rfl, -, located⟩
      refine ⟨entries, q, given, ?_, rfl⟩
      rw [← atRender_eq_iff.2 located]
      exact breaks.resume_error

end Render

end TextTemplate
