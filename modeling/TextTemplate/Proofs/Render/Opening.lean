import TextTemplate.Proofs.Steps
import TextTemplate.Render.Basic

/-!
# The fragments that a node opens

A node renders further fragments: bodies, and templates that it enters.  `Opens` says which ones, in
which context and behind which output; `Begins` says the same of the nodes of a list.  Both follow
the definitions of `Render.node` and `Render.nodes`, and three pairs of theorems tie them to these:

* no render is left out: what a node does depends on nothing but the renders that it opens
  (`node_eventually`, `nodes_eventually`);
* none is invented: where an opened render ends early, so does the node (`node_error_of_opens`,
  `nodes_error_of_opens`);
* a node runs out of steps only inside a fragment that it opens (`node_outOfSteps`,
  `nodes_outOfSteps`).
-/

namespace TextTemplate

/-- A fragment that is about to be rendered: in a context, behind the output so far. -/
structure Frame (σ : Type) where
  context : Context
  fragment : Fragment
  progress : Progress σ

/-- The context of a template that is included. -/
def Context.including (ctx : Context) (place : Place) : Context :=
  { ctx with place := place }

/-- The context of a template that is extended by one with some blocks. -/
def Context.extending (ctx : Context) (blocks : Dictionary Fragment)
    (place : Place) : Context :=
  { ctx with place := place, heirs := ⟨ctx.place, blocks⟩ :: ctx.heirs }

namespace Render

variable {σ : Type}

/-- An end that is not for want of steps. -/
def Finished {α : Type} (result : EStateM.Result Stop (Progress σ) α) : Prop :=
  ∀ p, result ≠ .error .outOfSteps p

/-- Renders the fragment of a frame. -/
def resume (render : Renderer σ) (fr : Frame σ) :
    EStateM.Result Stop (Progress σ) (Dictionary Value) :=
  render fr.context fr.fragment fr.progress

theorem finished_resume {render : Renderer σ} {fr : Frame σ}
    (h : Finished (render fr.context fr.fragment fr.progress)) : Finished (resume render fr) := h

/-! ## Steps -/

theorem ofExcept_apply {α : Type} (x : Except Fault α) (p : Progress σ) :
    (ofExcept x : Render σ α) p = match x with
      | .ok a => .ok a p
      | .error fault => .error (.fault fault) p := by
  cases x <;> rfl

@[simp] theorem withMemory_memory (p : Progress σ) (m : Memory σ) : (p.withMemory m).memory = m := rfl

@[simp] theorem withMemory_output (p : Progress σ) (m : Memory σ) :
    (p.withMemory m).output = p.output := rfl

@[simp] theorem withMemory_self (p : Progress σ) : p.withMemory p.memory = p := rfl

@[simp] theorem withMemory_withMemory (p : Progress σ) (m m' : Memory σ) :
    (p.withMemory m).withMemory m' = p.withMemory m' := rfl

theorem evaluate_apply {α : Type} (step : Evaluation σ α) (p : Progress σ) :
    evaluate step p = match step p.memory with
      | .ok a m => .ok a (p.withMemory m)
      | .error fault m => .error (.fault fault) (p.withMemory m) := rfl

theorem eval_apply (host : Host σ) (place : Place) (e : Expression) (p : Progress σ) :
    eval host place e p = match value host place e p.memory with
      | .ok v m => .ok v (p.withMemory m)
      | .error fault m => .error (.fault fault) (p.withMemory m) := by
  rw [eval, evaluate_apply]
  cases value host place e p.memory <;> rfl

theorem evaluate_eq_ok {α : Type} {step : Evaluation σ α} {p q : Progress σ} {a : α} :
    evaluate step p = .ok a q ↔ ∃ m, step p.memory = .ok a m ∧ q = p.withMemory m := by
  rw [evaluate_apply]
  constructor
  · intro h
    cases hs : step p.memory with
    | ok b m =>
      rw [hs] at h
      cases h
      exact ⟨m, rfl, rfl⟩
    | error fault m =>
      rw [hs] at h
      cases h
  · rintro ⟨m, h, rfl⟩
    rw [h]

theorem evaluate_eq_error {α : Type} {step : Evaluation σ α} {p q : Progress σ} {stop : Stop} :
    evaluate step p = .error stop q ↔
      ∃ cause m, step p.memory = .error cause m ∧ stop = .fault cause ∧ q = p.withMemory m := by
  rw [evaluate_apply]
  constructor
  · intro h
    cases hs : step p.memory with
    | ok b m =>
      rw [hs] at h
      cases h
    | error fault m =>
      rw [hs] at h
      cases h
      exact ⟨fault, m, rfl, rfl, rfl⟩
  · rintro ⟨cause, m, h, rfl, rfl⟩
    rw [h]

/-- Evaluating needs no steps. -/
theorem evaluate_finished {α : Type} (step : Evaluation σ α) (p : Progress σ) :
    Finished (evaluate step p) := by
  intro q h
  obtain ⟨_, _, _, fault, _⟩ := evaluate_eq_error.1 h
  cases fault

/-- What a rule for escaping makes of a text: without a function the text as it is, else what the
function gives for it, as text. -/
def escapedBy (host : Host σ) (place : Place) (rule : Option Function) (text : String) :
    Evaluation σ String :=
  match rule with
  | none => return text
  | some f => do
    let v ← f.call (place.environment host.call) [.text text]
    return v.display

theorem writeEscaped_apply (host : Host σ) (place : Place) (v : Value) (p : Progress σ) :
    writeEscaped host place v p = match escapedBy host place place.escape? v.display p.memory with
      | .ok text m => .ok () ⟨p.output ++ text, m⟩
      | .error fault m => .error (.fault fault) (p.withMemory m) := by
  unfold writeEscaped escapedBy
  cases place.escape? with
  | none => rfl
  | some f =>
    simp only [bind_apply, evaluate_apply]
    cases f.call (place.environment host.call) [.text v.display] p.memory <;> rfl

theorem items_apply (v : Value) (p : Progress σ) :
    items v p = match v.iterate with
      | .ok vs => .ok vs p
      | .error cause => .error (.fault (.eval cause)) p := by
  unfold items
  cases v.iterate <;> rfl

theorem ofExcept_eq_ok {α : Type} {p q : Progress σ} {x : Except Fault α} {a : α} :
    (ofExcept x : Render σ α) p = .ok a q ↔ x = .ok a ∧ p = q := by
  rw [ofExcept_apply]
  cases x with
  | ok a' => simp only [EStateM.Result.ok.injEq, Except.ok.injEq]
  | error fault => exact ⟨(fun h => nomatch h), (fun ⟨h, _⟩ => nomatch h)⟩

theorem ofExcept_eq_error {α : Type} {p q : Progress σ} {x : Except Fault α} {stop : Stop} :
    (ofExcept x : Render σ α) p = .error stop q ↔
      ∃ cause, x = .error cause ∧ stop = .fault cause ∧ p = q := by
  rw [ofExcept_apply]
  constructor
  · intro h
    cases x with
    | ok a => cases h
    | error cause =>
      cases h
      exact ⟨cause, rfl, rfl, rfl⟩
  · rintro ⟨cause, rfl, rfl, rfl⟩
    rfl

theorem items_eq_ok {p q : Progress σ} {v : Value} {values : List Value} :
    (items v : Render σ (List Value)) p = .ok values q ↔ v.iterate = .ok values ∧ p = q := by
  rw [items_apply]
  cases v.iterate with
  | ok _ => simp only [EStateM.Result.ok.injEq, Except.ok.injEq]
  | error _ => exact ⟨nofun, fun ⟨h, _⟩ => nomatch h⟩

theorem items_eq_error {p q : Progress σ} {v : Value} {stop : Stop} :
    (items v : Render σ (List Value)) p = .error stop q ↔
      ∃ cause, v.iterate = .error cause ∧ stop = .fault (.eval cause) ∧ p = q := by
  rw [items_apply]
  constructor
  · intro h
    cases hi : v.iterate with
    | ok _ =>
      rw [hi] at h
      cases h
    | error cause =>
      rw [hi] at h
      cases h
      exact ⟨cause, rfl, rfl, rfl⟩
  · rintro ⟨cause, h, rfl, rfl⟩
    rw [h]

/-- The body that a conditional renders: of the first clause whose test holds, or else the last. -/
def chosen (host : Host σ) (place : Place) (orelse : Option Fragment) :
    List (Expression × Fragment) → Evaluation σ (Option Fragment)
  | [] => return orelse
  | (test, body) :: rest => do
    let t ← value host place test
    if t.isTruthy then return some body else chosen host place orelse rest

theorem chosen_cons_apply (host : Host σ) (place : Place) (orelse : Option Fragment)
    (test : Expression) (body : Fragment) (rest : List (Expression × Fragment)) (m : Memory σ) :
    chosen host place orelse ((test, body) :: rest) m = match value host place test m with
      | .ok t m => if t.isTruthy then .ok (some body) m else chosen host place orelse rest m
      | .error fault m => .error fault m := by
  rw [chosen, bind_apply]
  cases value host place test m with
  | ok t m =>
    dsimp only
    split <;> rfl
  | error fault m => rfl

theorem branch_apply (host : Host σ) (render : Renderer σ) (ctx : Context) (orelse : Option Fragment)
    (clauses : List (Expression × Fragment)) (p : Progress σ) :
    branch host render ctx orelse clauses p =
      match chosen host ctx.place orelse clauses p.memory with
      | .ok (some body) m => render ctx body (p.withMemory m)
      | .ok none m => .ok ctx.place.scope (p.withMemory m)
      | .error fault m => .error (.fault fault) (p.withMemory m) := by
  induction clauses generalizing p with
  | nil => cases orelse <;> rfl
  | cons clause rest ih =>
    obtain ⟨test, body⟩ := clause
    rw [branch, bind_apply, eval_apply, chosen_cons_apply]
    cases value host ctx.place test p.memory with
    | error fault m => rfl
    | ok t m =>
      by_cases htrue : t.isTruthy
      · simp only [htrue, if_true]
      · simp only [htrue, Bool.false_eq_true, if_false]
        exact ih (p.withMemory m)

/-- An end without the scope that comes with it. -/
def forget : EStateM.Result Stop (Progress σ) (Dictionary Value) →
    EStateM.Result Stop (Progress σ) Unit
  | .ok _ p => .ok () p
  | .error stop p => .error stop p

theorem bound_apply (render : Renderer σ) (ctx : Context) (target : Target) (body : Fragment)
    (v : Value) (p : Progress σ) :
    bound render ctx target body v p = match target.bind v ctx.place.scope with
      | .error fault => .error (.fault fault) p
      | .ok scope => forget (render (ctx.withScope scope) body p) := by
  rw [bound, bind_apply, ofExcept_apply]
  cases target.bind v ctx.place.scope with
  | error fault => rfl
  | ok scope =>
    dsimp only
    rw [bind_apply]
    cases render (ctx.withScope scope) body p <;> rfl

theorem each_cons_apply (render : Renderer σ) (ctx : Context) (target : Target) (body : Fragment)
    (v : Value) (rest : List Value) (p : Progress σ) :
    each render ctx target body (v :: rest) p = match bound render ctx target body v p with
      | .ok _ q => each render ctx target body rest q
      | .error stop q => .error stop q := by
  rw [each, bind_apply]
  cases bound render ctx target body v p <;> rfl

theorem atLine_apply {α : Type} (template : String) (line : Nat) (step : Render σ α)
    (p : Progress σ) :
    atLine template line step p = match step p with
      | .error (.fault fault) q => .error (.fault (fault.atRender template line)) q
      | result => result := rfl

/-- A name that cannot be resolved is a fault. -/
theorem resolve_finished (host : Host σ) (place : Place) (v : Value) (p : Progress σ) :
    Finished (resolve host place v p) := by
  intro q h
  cases v <;> try cases h
  case text name =>
    unfold resolve at h
    cases hl : place.loader? with
    | none => rw [hl] at h; cases h
    | some loader =>
      rw [hl] at h
      exact evaluate_finished _ p q h

/-- Writing a value needs no steps. -/
theorem writeEscaped_finished (host : Host σ) (place : Place) (v : Value) (p : Progress σ) :
    Finished (writeEscaped host place v p) := by
  intro q h
  unfold writeEscaped at h
  cases hf : place.escape? with
  | none => rw [hf] at h; cases h
  | some f =>
    rw [hf] at h
    simp only [bind_apply] at h
    cases hc : evaluate (f.call (place.environment host.call) [.text v.display]) p with
    | error stop q' =>
      rw [hc] at h
      cases h
      exact evaluate_finished _ p q hc
    | ok escaped q' => rw [hc] at h; cases h

/-! ## What is opened -/

/-- The frames in which a body is rendered for values, one after the other. -/
inductive Iterates (render : Renderer σ) (ctx : Context) (target : Target) (body : Fragment) :
    List Value → Progress σ → Frame σ → Prop
  | head {v : Value} {rest : List Value} {p : Progress σ} {scope : Dictionary Value} :
      target.bind v ctx.place.scope = .ok scope →
      Iterates render ctx target body (v :: rest) p ⟨ctx.withScope scope, body, p⟩
  | tail {v : Value} {rest : List Value} {p q : Progress σ} {fr : Frame σ} :
      bound render ctx target body v p = .ok () q →
      Iterates render ctx target body rest q fr →
      Iterates render ctx target body (v :: rest) p fr

/-- The frame of the template that an expression stands for, entered from a context. -/
inductive Enters (host : Host σ) (ctx : Context) (p : Progress σ) (e : Expression)
    (inside : Place → Context) (t : Template) : Frame σ → Prop
  | intro {v : Value} {m : Memory σ} {place : Place} {q : Progress σ} :
      value host ctx.place e p.memory = .ok v m →
      resolve host ctx.place v (p.withMemory m) = .ok t q →
      t.enter ctx.place = .ok place → Enters host ctx p e inside t ⟨inside place, t.body, q⟩

/-- The frame of the first of some bodies of a block. -/
inductive Takes (p : Progress σ) : List Version → Frame σ → Prop
  | head (v : Version) (overridden : List Version) :
      Takes p (v :: overridden) ⟨v.context overridden, v.body, p⟩

/-- The frames that rendering a node opens itself, not inside of another one.  Renders that come
before the opened one are done by `render`. -/
inductive Opens (host : Host σ) (render : Renderer σ) (ctx : Context) (p : Progress σ) :
    Node → Frame σ → Prop
  | branch {clauses : List (Expression × Fragment)} {orelse : Option Fragment} {body : Fragment}
      {m : Memory σ} :
      chosen host ctx.place orelse clauses p.memory = .ok (some body) m →
      Opens host render ctx p (.branch clauses orelse) ⟨ctx, body, p.withMemory m⟩
  | loop {target : Target} {e : Expression} {body : Fragment} {v : Value} {m : Memory σ}
      {items : List Value} {fr : Frame σ} :
      value host ctx.place e p.memory = .ok v m → v.iterate = .ok items →
      Iterates render ctx target body items (p.withMemory m) fr →
      Opens host render ctx p (.loop target e body) fr
  | bind {target : Target} {e : Expression} {body : Fragment} {v : Value} {m : Memory σ}
      {scope : Dictionary Value} :
      value host ctx.place e p.memory = .ok v m → target.bind v ctx.place.scope = .ok scope →
      Opens host render ctx p (.bind target e body) ⟨ctx.withScope scope, body, p.withMemory m⟩
  | include {e : Expression} {t : Template} {fr : Frame σ} :
      Enters host ctx p e ctx.including t fr → Opens host render ctx p (.include e) fr
  | block {name : String} {body : Fragment} {fr : Frame σ} :
      Takes p (ctx.versions name body) fr → Opens host render ctx p (.block name body) fr
  | extend {parent : Expression} {blocks : Dictionary Fragment} {t : Template} {fr : Frame σ} :
      Enters host ctx p parent (ctx.extending blocks) t fr →
      Opens host render ctx p (.extend parent blocks) fr
  | super {fr : Frame σ} : Takes p ctx.overridden fr → Opens host render ctx p .super fr

/-- The nodes of a list that are begun, with their lines, each in the context and behind the output
that the nodes before it leave. -/
inductive Begins (host : Host σ) (render : Renderer σ) :
    Context → List (Nat × Node) → Progress σ → Nat → Node → Context → Progress σ → Prop
  | head {ctx : Context} {line : Nat} {n : Node} {rest : List (Nat × Node)} {p : Progress σ} :
      Begins host render ctx ((line, n) :: rest) p line n ctx p
  | tail {ctx ctx' : Context} {line line' : Nat} {n n' : Node} {rest : List (Nat × Node)}
      {p q p' : Progress σ} {scope : Dictionary Value} :
      node host render ctx n p = .ok scope q →
      Begins host render (ctx.withScope scope) rest q line' n' ctx' p' →
      Begins host render ctx ((line, n) :: rest) p line' n' ctx' p'

/-! ## One node -/

/-- How a node ends after the one fragment that it opens: with its own scope, or with the scope that
the fragment leaves. -/
def leave (own : Option (Dictionary Value)) :
    EStateM.Result Stop (Progress σ) (Dictionary Value) →
    EStateM.Result Stop (Progress σ) (Dictionary Value)
  | .ok scope p => .ok (own.getD scope) p
  | .error stop p => .error stop p

/-- How a loop ends after its last iteration. -/
def leaveLoop (scope : Dictionary Value) :
    EStateM.Result Stop (Progress σ) Unit → EStateM.Result Stop (Progress σ) (Dictionary Value)
  | .ok () p => .ok scope p
  | .error stop p => .error stop p

/-- What a step does that renders further fragments, told by what it opens. -/
inductive Course (ctx : Context) (p : Progress σ)
    (step : Renderer σ → EStateM.Result Stop (Progress σ) (Dictionary Value))
    (opens : Renderer σ → Frame σ → Prop) : Prop
  /-- It opens nothing, and ends in the same way whatever the renderer. -/
  | ends (result : EStateM.Result Stop (Progress σ) (Dictionary Value)) :
      Finished result → (∀ render, step render = result) →
      (∀ render fr, ¬ opens render fr) → Course ctx p step opens
  /-- It opens one fragment. -/
  | enters (fr : Frame σ) (own : Option (Dictionary Value)) :
      (∀ render, step render = leave own (resume render fr)) →
      (∀ render fr', opens render fr' ↔ fr' = fr) → Course ctx p step opens
  /-- It opens a body for each of some items. -/
  | repeats (target : Target) (body : Fragment) (items : List Value) (q : Progress σ) :
      (∀ render, step render =
        leaveLoop ctx.place.scope (each render ctx target body items q)) →
      (∀ render fr, opens render fr ↔ Iterates render ctx target body items q fr) →
      Course ctx p step opens

variable (host : Host σ) (ctx : Context) (p : Progress σ)

theorem branch_course (clauses : List (Expression × Fragment)) (orelse : Option Fragment) :
    Course ctx p (fun render => node host render ctx (.branch clauses orelse) p)
      (fun render => Opens host render ctx p (.branch clauses orelse)) := by
  have run : ∀ render, node host render ctx (.branch clauses orelse) p =
      branch host render ctx orelse clauses p := fun _ => rfl
  cases hc : chosen host ctx.place orelse clauses p.memory with
  | error fault m =>
    refine .ends (.error (.fault fault) (p.withMemory m)) (fun _ h => by cases h)
      (fun render => ?_) ?_
    · rw [run, branch_apply, hc]
    · intro render fr h
      cases h with | branch h => rw [hc] at h; cases h
  | ok found m =>
    cases found with
    | none =>
      refine .ends (.ok ctx.place.scope (p.withMemory m)) (fun _ h => by cases h)
        (fun render => ?_) ?_
      · rw [run, branch_apply, hc]
      · intro render fr h
        cases h with | branch h => rw [hc] at h; cases h
    | some body =>
      refine .enters ⟨ctx, body, p.withMemory m⟩ none (fun render => ?_)
        fun render fr' => ⟨fun h => ?_, ?_⟩
      · rw [run, branch_apply, hc]
        show render ctx body (p.withMemory m) = leave none (render ctx body (p.withMemory m))
        cases render ctx body (p.withMemory m) <;> rfl
      · cases h with | branch h => rw [hc] at h; cases h; rfl
      · rintro rfl
        exact .branch hc

theorem loop_course (target : Target) (e : Expression) (body : Fragment) :
    Course ctx p (fun render => node host render ctx (.loop target e body) p)
      (fun render => Opens host render ctx p (.loop target e body)) := by
  cases hv : value host ctx.place e p.memory with
  | error fault m =>
    refine .ends (.error (.fault fault) (p.withMemory m)) (fun _ h => by cases h)
      (fun render => ?_) ?_
    · simp only [node, bind_apply, eval_apply, hv]
    · intro render fr h
      cases h with | loop h => rw [hv] at h; cases h
  | ok v m =>
    cases hi : v.iterate with
    | error cause =>
      refine .ends (.error (.fault (.eval cause)) (p.withMemory m)) (fun _ h => by cases h)
        (fun render => ?_) ?_
      · simp only [node, bind_apply, eval_apply, hv, items_apply, hi]
      · intro render fr h
        cases h with | loop h hi' => rw [hv] at h; cases h; rw [hi] at hi'; cases hi'
    | ok vs =>
      refine .repeats target body vs (p.withMemory m) (fun render => ?_)
        fun render fr => ⟨fun h => ?_, ?_⟩
      · simp only [node, bind_apply, eval_apply, hv, items_apply, hi, pure_apply]
        cases each render ctx target body vs (p.withMemory m) <;> rfl
      · cases h with
        | loop h hi' iterates =>
          rw [hv] at h; cases h; rw [hi] at hi'; cases hi'
          exact iterates
      · exact .loop hv hi

theorem bind_course (target : Target) (e : Expression) (body : Fragment) :
    Course ctx p (fun render => node host render ctx (.bind target e body) p)
      (fun render => Opens host render ctx p (.bind target e body)) := by
  cases hv : value host ctx.place e p.memory with
  | error fault m =>
    refine .ends (.error (.fault fault) (p.withMemory m)) (fun _ h => by cases h)
      (fun render => ?_) ?_
    · simp only [node, bind_apply, eval_apply, hv]
    · intro render fr h
      cases h with | bind h => rw [hv] at h; cases h
  | ok v m =>
    cases hb : target.bind v ctx.place.scope with
    | error fault =>
      refine .ends (.error (.fault fault) (p.withMemory m)) (fun _ h => by cases h)
        (fun render => ?_) ?_
      · simp only [node, bind_apply, eval_apply, hv, bound_apply, hb]
      · intro render fr h
        cases h with | bind h hb' => rw [hv] at h; cases h; rw [hb] at hb'; cases hb'
    | ok scope =>
      refine .enters ⟨ctx.withScope scope, body, p.withMemory m⟩ (some ctx.place.scope)
        (fun render => ?_) fun render fr' => ⟨fun h => ?_, ?_⟩
      · simp only [node, bind_apply, eval_apply, hv, bound_apply, hb, resume, pure_apply]
        cases render (ctx.withScope scope) body (p.withMemory m) <;> rfl
      · cases h with
        | bind h hb' => rw [hv] at h; cases h; rw [hb] at hb'; cases hb'; rfl
      · rintro rfl
        exact .bind hv hb

/-- Renders the template that an expression stands for; `inside` is the context of its place. -/
def entering (render : Renderer σ) (e : Expression) (inside : Place → Context) :
    Render σ (Dictionary Value) := do
  let v ← eval host ctx.place e
  let t ← resolve host ctx.place v
  let place ← ofExcept (t.enter ctx.place)
  let _ ← render (inside place) t.body
  return ctx.place.scope

theorem entering_course (e : Expression) (inside : Place → Context) :
    Course ctx p (fun render => entering host ctx render e inside p)
      (fun _ fr => ∃ t, Enters host ctx p e inside t fr) := by
  cases hv : value host ctx.place e p.memory with
  | error fault m =>
    refine .ends (.error (.fault fault) (p.withMemory m)) (fun _ h => by cases h)
      (fun render => ?_) ?_
    · simp only [entering, bind_apply, eval_apply, hv]
    · rintro _ fr ⟨t, h⟩
      cases h with | intro h => rw [hv] at h; cases h
  | ok v m =>
    cases ht : resolve host ctx.place v (p.withMemory m) with
    | error stop q =>
      refine .ends (.error stop q) (fun q' h => ?_) (fun render => ?_) ?_
      · cases h
        exact resolve_finished host ctx.place v (p.withMemory m) q ht
      · simp only [entering, bind_apply, eval_apply, hv, ht]
      · rintro _ fr ⟨t, h⟩
        cases h with | intro h ht' => rw [hv] at h; cases h; rw [ht] at ht'; cases ht'
    | ok t q =>
      cases hp : t.enter ctx.place with
      | error fault =>
        refine .ends (.error (.fault fault) q) (fun _ h => by cases h) (fun render => ?_) ?_
        · simp only [entering, bind_apply, eval_apply, ofExcept_apply, hv, ht, hp]
        · rintro _ fr ⟨t', h⟩
          cases h with
          | intro h ht' hp' =>
            rw [hv] at h; cases h; rw [ht] at ht'; cases ht'; rw [hp] at hp'; cases hp'
      | ok place =>
        refine .enters ⟨inside place, t.body, q⟩ (some ctx.place.scope) (fun render => ?_)
          fun _ fr => ⟨?_, ?_⟩
        · simp only [entering, bind_apply, eval_apply, ofExcept_apply, hv, ht, hp, resume, pure_apply]
          cases render (inside place) t.body q <;> rfl
        · rintro ⟨t', h⟩
          cases h with
          | intro h ht' hp' =>
            rw [hv] at h; cases h; rw [ht] at ht'; cases ht'; rw [hp] at hp'; cases hp'
            rfl
        · rintro rfl
          exact ⟨t, .intro hv ht hp⟩

/-- Renders the first of some bodies of a block. -/
def taking (render : Renderer σ) (versions : List Version) : Render σ (Dictionary Value) := do
  version render versions
  return ctx.place.scope

theorem taking_course (versions : List Version) :
    Course ctx p (fun render => taking ctx render versions p) (fun _ => Takes p versions) := by
  cases versions with
  | nil =>
    exact .ends (.ok ctx.place.scope p) (fun _ h => by cases h) (fun _ => rfl)
      (fun _ _ h => by cases h)
  | cons v overridden =>
    refine .enters ⟨v.context overridden, v.body, p⟩ (some ctx.place.scope) (fun render => ?_)
      fun _ fr => ⟨fun h => ?_, ?_⟩
    · simp only [taking, version, bind_apply, resume, pure_apply]
      cases render (v.context overridden) v.body p <;> rfl
    · cases h; rfl
    · rintro rfl
      exact .head v overridden

theorem Course.congr_opens {step : Renderer σ → EStateM.Result Stop (Progress σ) (Dictionary Value)}
    {opens opens' : Renderer σ → Frame σ → Prop} (course : Course ctx p step opens)
    (h : ∀ render fr, opens' render fr ↔ opens render fr) : Course ctx p step opens' := by
  have : opens' = opens := funext fun render => funext fun fr => propext (h render fr)
  rwa [this]

/-- What a node does, told by what it opens. -/
theorem node_course (n : Node) :
    Course ctx p (fun render => node host render ctx n p)
      (fun render => Opens host render ctx p n) := by
  cases n with
  | text s =>
    exact .ends _ (fun _ h => by cases h) (fun _ => rfl) (fun _ _ h => by cases h)
  | output e =>
    refine .ends ((do
      let v ← eval host ctx.place e
      writeEscaped host ctx.place v
      return ctx.place.scope : Render σ (Dictionary Value)) p) (fun q h => ?_) (fun _ => rfl)
      (fun _ _ h => by cases h)
    simp only [bind_apply, eval_apply, pure_apply] at h
    cases hv : value host ctx.place e p.memory with
    | error fault m => rw [hv] at h; cases h
    | ok v m =>
      rw [hv] at h
      dsimp only at h
      cases hw : writeEscaped host ctx.place v (p.withMemory m) with
      | ok _ _ => rw [hw] at h; cases h
      | error stop q' =>
        rw [hw] at h; cases h
        exact writeEscaped_finished host ctx.place v (p.withMemory m) q hw
  | print e =>
    refine .ends ((do
      let v ← eval host ctx.place e
      write v.display
      return ctx.place.scope : Render σ (Dictionary Value)) p) (fun q h => ?_) (fun _ => rfl)
      (fun _ _ h => by cases h)
    simp only [bind_apply, eval_apply] at h
    cases hv : value host ctx.place e p.memory <;> rw [hv] at h <;> cases h
  | assign target e =>
    refine .ends ((do
      let v ← eval host ctx.place e
      ofExcept (target.bind v ctx.place.scope) : Render σ (Dictionary Value)) p) (fun q h => ?_)
      (fun _ => rfl) (fun _ _ h => by cases h)
    simp only [bind_apply, eval_apply, ofExcept_apply] at h
    cases hv : value host ctx.place e p.memory with
    | error fault m => rw [hv] at h; cases h
    | ok v m =>
      rw [hv] at h
      dsimp only at h
      cases hb : target.bind v ctx.place.scope <;> rw [hb] at h <;> cases h
  | branch clauses orelse => exact branch_course host ctx p clauses orelse
  | loop target e body => exact loop_course host ctx p target e body
  | bind target e body => exact bind_course host ctx p target e body
  | «include» e =>
    exact (entering_course host ctx p e ctx.including).congr_opens ctx p fun render fr =>
      ⟨fun h => by cases h with | «include» h => exact ⟨_, h⟩, fun ⟨_, h⟩ => .include h⟩
  | block name body =>
    exact (taking_course ctx p (ctx.versions name body)).congr_opens ctx p fun render fr =>
      ⟨fun h => by cases h with | block h => exact h, .block⟩
  | extend parent blocks =>
    exact (entering_course host ctx p parent (ctx.extending blocks)).congr_opens ctx p fun render fr =>
      ⟨fun h => by cases h with | extend h => exact ⟨_, h⟩, fun ⟨_, h⟩ => .extend h⟩
  | super =>
    exact (taking_course ctx p ctx.overridden).congr_opens ctx p fun render fr =>
      ⟨fun h => by cases h with | super h => exact h, .super⟩

/-! ## The renders that a node depends on -/

variable {host ctx p}

/-- From some number of steps on, a family of results is the final one. -/
def Eventually {α : Type} (results : Nat → α) (final : α) : Prop :=
  ∃ least, ∀ steps, least ≤ steps → results steps = final

theorem Eventually.map {α β : Type} {results : Nat → α} {final : α} (h : Eventually results final)
    (f : α → β) : Eventually (fun steps => f (results steps)) (f final) := by
  obtain ⟨least, h⟩ := h
  exact ⟨least, fun steps le => congrArg f (h steps le)⟩

theorem eventually_const {α : Type} (a : α) : Eventually (fun _ => a) a := ⟨0, fun _ _ => rfl⟩

theorem eventually_resume {render : Nat → Renderer σ} {final : Renderer σ} {fr : Frame σ}
    (h : Eventually (fun steps => render steps fr.context fr.fragment fr.progress)
      (final fr.context fr.fragment fr.progress)) :
    Eventually (fun steps => resume (render steps) fr) (resume final fr) := h

theorem each_eventually {render : Nat → Renderer σ} {final : Renderer σ} {target : Target}
    {body : Fragment} {items : List Value}
    (h : ∀ fr, Iterates final ctx target body items p fr →
      Eventually (fun steps => resume (render steps) fr) (resume final fr)) :
    Eventually (fun steps => each (render steps) ctx target body items p)
      (each final ctx target body items p) := by
  induction items generalizing p with
  | nil => exact eventually_const _
  | cons v rest ih =>
    -- the body for the first item, from some number of steps on
    have first : Eventually (fun steps => bound (render steps) ctx target body v p)
        (bound final ctx target body v p) := by
      cases hb : target.bind v ctx.place.scope with
      | error fault =>
        simp only [bound_apply, hb]
        exact eventually_const _
      | ok scope =>
        simp only [bound_apply, hb]
        exact (h _ (.head hb)).map forget
    obtain ⟨least, first⟩ := first
    cases hq : bound final ctx target body v p with
    | error stop q =>
      refine ⟨least, fun steps le => ?_⟩
      show each (render steps) ctx target body (v :: rest) p = _
      rw [each_cons_apply, each_cons_apply, show bound (render steps) ctx target body v p = _ from
        first steps le, hq]
    | ok _ q =>
      obtain ⟨least', later⟩ := ih fun fr iterates => h fr (.tail hq iterates)
      refine ⟨max least least', fun steps le => ?_⟩
      show each (render steps) ctx target body (v :: rest) p = _
      rw [each_cons_apply, each_cons_apply, show bound (render steps) ctx target body v p = _ from
        first steps (by omega), hq]
      exact later steps (by omega)

theorem each_error_of_iterates {render : Renderer σ} {target : Target} {body : Fragment}
    {items : List Value} {fr : Frame σ} {stop : Stop} {q : Progress σ}
    (iterates : Iterates render ctx target body items p fr)
    (h : resume render fr = .error stop q) :
    each render ctx target body items p = .error stop q := by
  induction iterates with
  | head hb =>
    unfold resume at h
    rw [each_cons_apply, bound_apply, hb]
    dsimp only at h ⊢
    rw [h]
    rfl
  | tail hq _ ih =>
    rw [each_cons_apply, hq]
    exact ih h

theorem each_outOfSteps {render : Renderer σ} {target : Target} {body : Fragment}
    {items : List Value} {q : Progress σ}
    (h : each render ctx target body items p = .error .outOfSteps q) :
    ∃ fr, Iterates render ctx target body items p fr ∧ resume render fr = .error .outOfSteps q := by
  induction items generalizing p with
  | nil => cases h
  | cons v rest ih =>
    rw [each_cons_apply] at h
    cases hq : bound render ctx target body v p with
    | ok _ p' =>
      rw [hq] at h
      obtain ⟨fr, iterates, hfr⟩ := ih h
      exact ⟨fr, .tail hq iterates, hfr⟩
    | error stop p' =>
      rw [hq] at h
      cases h
      rw [bound_apply] at hq
      cases hb : target.bind v ctx.place.scope with
      | error fault => rw [hb] at hq; cases hq
      | ok scope =>
        rw [hb] at hq
        dsimp only at hq
        cases hr : render (ctx.withScope scope) body p with
        | ok _ _ => rw [hr] at hq; cases hq
        | error stop p' =>
          rw [hr] at hq
          cases hq
          exact ⟨_, .head hb, hr⟩

/-- A node ends as with a final renderer as soon as all that it opens does. -/
theorem node_eventually {render : Nat → Renderer σ} {final : Renderer σ} {n : Node}
    (h : ∀ fr, Opens host final ctx p n fr →
      Eventually (fun steps => resume (render steps) fr) (resume final fr)) :
    Eventually (fun steps => node host (render steps) ctx n p) (node host final ctx n p) := by
  cases node_course host ctx p n with
  | ends result _ run _ =>
    simp only [run]
    exact eventually_const _
  | enters fr own run opens =>
    simp only [run]
    exact (h fr ((opens final fr).2 rfl)).map (leave own)
  | repeats target body items start run opens =>
    simp only [run]
    exact (each_eventually fun fr iterates => h fr ((opens final fr).2 iterates)).map
      (leaveLoop ctx.place.scope)

/-- Where a fragment that a node opens ends early, the node ends in the same way. -/
theorem node_error_of_opens {render : Renderer σ} {n : Node} {fr : Frame σ} {stop : Stop}
    {q : Progress σ} (opened : Opens host render ctx p n fr)
    (h : resume render fr = .error stop q) : node host render ctx n p = .error stop q := by
  cases node_course host ctx p n with
  | ends result _ _ none => exact absurd opened (none render fr)
  | enters fr' own run opens =>
    cases (opens render fr).1 opened
    rw [run, h]
    rfl
  | repeats target body items start run opens =>
    rw [run, each_error_of_iterates ((opens render fr).1 opened) h]
    rfl

/-- A node runs out of steps only in a fragment that it opens. -/
theorem node_outOfSteps {render : Renderer σ} {n : Node} {q : Progress σ}
    (h : node host render ctx n p = .error .outOfSteps q) :
    ∃ fr, Opens host render ctx p n fr ∧ resume render fr = .error .outOfSteps q := by
  cases node_course host ctx p n with
  | ends result stays run _ => exact absurd ((run render).symm.trans h) (stays q)
  | enters fr own run opens =>
    refine ⟨fr, (opens render fr).2 rfl, ?_⟩
    rw [run] at h
    cases hr : resume render fr with
    | ok _ _ => rw [hr] at h; cases h
    | error stop q' => rw [hr] at h; cases h; rfl
  | repeats target body items start run opens =>
    rw [run] at h
    cases he : each render ctx target body items start with
    | ok _ _ => rw [he] at h; cases h
    | error stop q' =>
      rw [he] at h
      cases h
      obtain ⟨fr, iterates, hfr⟩ := each_outOfSteps he
      exact ⟨fr, (opens render fr).2 iterates, hfr⟩

/-! ## A list of nodes -/

theorem nodes_cons_apply (render : Renderer σ) (template : String) (line : Nat) (n : Node)
    (rest : List (Nat × Node)) :
    nodes host render template ctx ((line, n) :: rest) p = match node host render ctx n p with
      | .ok scope q => nodes host render template (ctx.withScope scope) rest q
      | .error (.fault fault) q => .error (.fault (fault.atRender template line)) q
      | .error .outOfSteps q => .error .outOfSteps q := by
  rw [nodes, bind_apply, atLine_apply]
  cases node host render ctx n p with
  | ok _ _ => rfl
  | error stop _ => cases stop <;> rfl

/-- A list of nodes ends as with a final renderer as soon as all that its nodes open does. -/
theorem nodes_eventually {render : Nat → Renderer σ} {final : Renderer σ} (template : String)
    {list : List (Nat × Node)}
    (h : ∀ line n ctx' p' fr, Begins host final ctx list p line n ctx' p' →
      Opens host final ctx' p' n fr →
      Eventually (fun steps => resume (render steps) fr) (resume final fr)) :
    Eventually (fun steps => nodes host (render steps) template ctx list p)
      (nodes host final template ctx list p) := by
  induction list generalizing ctx p with
  | nil => exact eventually_const _
  | cons first rest ih =>
    obtain ⟨line, n⟩ := first
    obtain ⟨least, now⟩ := node_eventually fun fr opened => h line n ctx p fr .head opened
    cases hn : node host final ctx n p with
    | error stop q =>
      refine ⟨least, fun steps le => ?_⟩
      show nodes host (render steps) template ctx ((line, n) :: rest) p = _
      rw [nodes_cons_apply, nodes_cons_apply, show node host (render steps) ctx n p = _ from
        now steps le, hn]
      cases stop <;> rfl
    | ok scope q =>
      obtain ⟨least', later⟩ := ih fun line' n' ctx' p' fr begins opened =>
        h line' n' ctx' p' fr (.tail hn begins) opened
      refine ⟨max least least', fun steps le => ?_⟩
      show nodes host (render steps) template ctx ((line, n) :: rest) p = _
      rw [nodes_cons_apply, nodes_cons_apply, show node host (render steps) ctx n p = _ from
        now steps (by omega), hn]
      exact later steps (by omega)

/-- A list of nodes runs out of steps only in a fragment that a node of it opens. -/
theorem nodes_outOfSteps {render : Renderer σ} {template : String} {list : List (Nat × Node)}
    {q : Progress σ} (h : nodes host render template ctx list p = .error .outOfSteps q) :
    ∃ line n ctx' p' fr, Begins host render ctx list p line n ctx' p' ∧
      Opens host render ctx' p' n fr ∧ resume render fr = .error .outOfSteps q := by
  induction list generalizing ctx p with
  | nil => cases h
  | cons first rest ih =>
    obtain ⟨line, n⟩ := first
    rw [nodes_cons_apply] at h
    cases hn : node host render ctx n p with
    | ok scope p' =>
      rw [hn] at h
      obtain ⟨line', n', ctx', q', fr, begins, opened, hfr⟩ := ih h
      exact ⟨line', n', ctx', q', fr, .tail hn begins, opened, hfr⟩
    | error stop p' =>
      rw [hn] at h
      cases stop with
      | fault fault => cases h
      | outOfSteps =>
        cases h
        obtain ⟨fr, opened, hfr⟩ := node_outOfSteps hn
        exact ⟨line, n, ctx, p, fr, .head, opened, hfr⟩

/-- A list of nodes ends in the same way with two renderers that agree on all that is opened. -/
theorem nodes_congr {render render' : Renderer σ} (template : String) {list : List (Nat × Node)}
    (h : ∀ line n ctx' p' fr, Begins host render ctx list p line n ctx' p' →
      Opens host render ctx' p' n fr → resume render' fr = resume render fr) :
    nodes host render' template ctx list p = nodes host render template ctx list p := by
  obtain ⟨least, agree⟩ := nodes_eventually template (p := p) fun line n ctx' p' fr begins opened =>
    ⟨0, fun _ _ => h line n ctx' p' fr begins opened⟩
  exact agree least (Nat.le_refl least)

/-- A stop of a node, located at its line. -/
def locate (template : String) (line : Nat) : Stop → Stop
  | .fault fault => .fault (fault.atRender template line)
  | .outOfSteps => .outOfSteps

/-- Where a node ends early, the list of nodes ends there too. -/
theorem nodes_error_of_begins {render : Renderer σ} (template : String) {list : List (Nat × Node)}
    {line : Nat} {n : Node} {ctx' : Context} {p' : Progress σ} {stop : Stop} {q : Progress σ}
    (begins : Begins host render ctx list p line n ctx' p')
    (h : node host render ctx' n p' = .error stop q) :
    nodes host render template ctx list p = .error (locate template line stop) q := by
  induction begins with
  | head =>
    rw [nodes_cons_apply, h]
    cases stop <;> rfl
  | tail hn _ ih =>
    rw [nodes_cons_apply, hn]
    exact ih h

/-- Where a fragment that is opened ends early, the list of nodes ends there too. -/
theorem nodes_error_of_opens {render : Renderer σ} (template : String) {list : List (Nat × Node)}
    {line : Nat} {n : Node} {ctx' : Context} {p' : Progress σ} {fr : Frame σ} {stop : Stop}
    {q : Progress σ} (begins : Begins host render ctx list p line n ctx' p')
    (opened : Opens host render ctx' p' n fr) (h : resume render fr = .error stop q) :
    nodes host render template ctx list p = .error (locate template line stop) q :=
  nodes_error_of_begins template begins (node_error_of_opens opened h)

/-- Nodes that are begun keep all of the context but its scope. -/
theorem Begins.exists_scope {render : Renderer σ} {list : List (Nat × Node)} {line : Nat} {n : Node}
    {ctx' : Context} {p' : Progress σ} (begins : Begins host render ctx list p line n ctx' p') :
    ∃ scope, ctx' = ctx.withScope scope := by
  induction begins with
  | head => exact ⟨_, rfl⟩
  | tail _ _ ih =>
    obtain ⟨scope, rfl⟩ := ih
    exact ⟨scope, rfl⟩

theorem Begins.mem {render : Renderer σ} {list : List (Nat × Node)} {line : Nat} {n : Node}
    {ctx' : Context} {p' : Progress σ} (begins : Begins host render ctx list p line n ctx' p') :
    (line, n) ∈ list := by
  induction begins with
  | head => exact .head _
  | tail _ _ ih => exact .tail _ ih

end Render

end TextTemplate
