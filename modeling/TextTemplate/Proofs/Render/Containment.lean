import Mathlib
import TextTemplate.Proofs.Grammar
import TextTemplate.Proofs.Render.Moment
import TextTemplate.Proofs.Render.Scope

/-!
# What a render leaves behind

A fragment that was rendered leaves the scope that its `set` nodes made, and a longer output.  `Assigns`
lists what these nodes assign: those of the fragment itself and of the branches that are taken, and
nothing of a loop, a binding, a block or another template.  So the scope behind a fragment is the one
before it with these entries put in, the last one for each name (`scope_contained`).  Every node in
between is begun with the same heirs, overridden bodies and entries, and each iteration of a loop is
begun in the scope in front of the loop with nothing but its target bound.
-/

namespace TextTemplate

variable {σ : Type}

/-! ## What is assigned -/

/-- Whether a node is no `set` and no branch of which a body is rendered. -/
def Node.Passes (host : Host σ) (place : Place) (memory : Memory σ) : Node → Prop
  | .assign .. => False
  | .branch clauses orelse => ∃ m, Render.chosen host place orelse clauses memory = .ok none m
  | _ => True

namespace Render

/-- What the `set` nodes of a list assign in a render, in order: those of the list, and those of the
branches in it that are taken.  Every other node hands on the scope that it was given. -/
inductive Assigns (host : Host σ) :
    Context → List (Nat × Node) → Progress σ → List (String × Value) → Prop
  | done {ctx : Context} {p : Progress σ} : Assigns host ctx [] p []
  | assign {ctx : Context} {line : Nat} {target : Target} {e : Expression} {v : Value}
      {m : Memory σ} {rest : List (Nat × Node)} {p : Progress σ}
      {here later : List (String × Value)} :
      value host ctx.place e p.memory = .ok v m → target.Gives v here →
      Assigns host (ctx.withScope (ctx.place.scope.assign here)) rest (p.withMemory m) later →
      Assigns host ctx ((line, .assign target e) :: rest) p (here ++ later)
  | taken {ctx : Context} {line : Nat} {clauses : List (Expression × Fragment)}
      {orelse : Option Fragment} {body : Fragment} {m : Memory σ} {scope : Dictionary Value}
      {rest : List (Nat × Node)} {p q : Progress σ} {here later : List (String × Value)} :
      chosen host ctx.place orelse clauses p.memory = .ok (some body) m →
      Assigns host ctx body.nodes (p.withMemory m) here →
      whole host ctx body (p.withMemory m) = .ok scope q →
      Assigns host (ctx.withScope scope) rest q later →
      Assigns host ctx ((line, .branch clauses orelse) :: rest) p (here ++ later)
  | passed {ctx : Context} {line : Nat} {n : Node} {rest : List (Nat × Node)} {p q : Progress σ}
      {later : List (String × Value)} :
      n.Passes host ctx.place p.memory → node host (whole host) ctx n p = .ok ctx.place.scope q →
      Assigns host ctx rest q later → Assigns host ctx ((line, n) :: rest) p later

variable {host : Host σ} {ctx : Context} {p q : Progress σ} {scope : Dictionary Value}

theorem assign_eq_ok {render : Renderer σ} {target : Target} {e : Expression}
    (h : node host render ctx (.assign target e) p = .ok scope q) :
    ∃ v m entries, value host ctx.place e p.memory = .ok v m ∧ target.Gives v entries ∧
      scope = ctx.place.scope.assign entries ∧ q = p.withMemory m := by
  obtain ⟨v, t, got, h⟩ := bind_eq_ok.1 h
  obtain ⟨m, evaluated, rfl⟩ := evaluate_eq_ok.1 got
  obtain ⟨bound, rfl⟩ := ofExcept_eq_ok.1 h
  obtain ⟨entries, gives, rfl⟩ := Target.bind_eq_ok.1 bound
  exact ⟨v, m, entries, evaluated, gives, rfl, rfl⟩

/-- The nodes of a list assign what makes the scope behind them, if the bodies of its branches do. -/
theorem nodes_assigns {template : String} {list : List (Nat × Node)}
    (inner : ∀ line n, (line, n) ∈ list → ∀ body, n.Holds body → ∀ ctx p scope q,
      whole host ctx body p = .ok scope q →
      ∃ entries, Assigns host ctx body.nodes p entries ∧ scope = ctx.place.scope.assign entries)
    (h : nodes host (whole host) template ctx list p = .ok scope q) :
    ∃ entries, Assigns host ctx list p entries ∧ scope = ctx.place.scope.assign entries := by
  induction list generalizing ctx p with
  | nil =>
    cases h
    exact ⟨[], .done, rfl⟩
  | cons first rest ih =>
    obtain ⟨line, n⟩ := first
    rw [nodes_cons_apply] at h
    cases hn : node host (whole host) ctx n p with
    | error stop r =>
      rw [hn] at h
      cases stop <;> cases h
    | ok s r =>
      rw [hn] at h
      obtain ⟨later, assigns, rfl⟩ := ih (fun line n mem => inner line n (.tail _ mem)) h
      have pass (passes : n.Passes host ctx.place p.memory) (own : s = ctx.place.scope) :
          ∃ entries, Assigns host ctx ((line, n) :: rest) p entries ∧
            (ctx.withScope s).place.scope.assign later = ctx.place.scope.assign entries := by
        subst own
        exact ⟨later, .passed passes hn assigns, rfl⟩
      cases n with
      | assign target e =>
        obtain ⟨v, m, here, evaluated, gives, rfl, rfl⟩ := assign_eq_ok hn
        exact ⟨here ++ later, .assign evaluated gives assigns, (Dictionary.assign_append ..).symm⟩
      | branch clauses orelse =>
        have run : branch host (whole host) ctx orelse clauses p = .ok s r := hn
        rw [branch_apply] at run
        cases hc : chosen host ctx.place orelse clauses p.memory with
        | error fault m => rw [hc] at run; cases run
        | ok found m =>
          rw [hc] at run
          cases found with
          | none =>
            cases run
            exact pass ⟨m, hc⟩ rfl
          | some body =>
            obtain ⟨here, inside, rfl⟩ := inner line _ (.head _) body (chosen_holds hc) _ _ _ _ run
            exact ⟨here ++ later, .taken hc inside run assigns, (Dictionary.assign_append ..).symm⟩
      | text | output | print | loop | bind | «include» | block | extend | super =>
        exact pass trivial (node_scope_own hn (fun _ _ same => nomatch same) fun _ _ same => nomatch same)

/-- The scope behind a fragment is the one before it with all that its nodes assign. -/
theorem whole_assigns (f : Fragment) (ctx : Context) (p : Progress σ) (scope : Dictionary Value)
    (q : Progress σ) (h : whole host ctx f p = .ok scope q) :
    ∃ entries, Assigns host ctx f.nodes p entries ∧ scope = ctx.place.scope.assign entries := by
  rw [whole_eq] at h
  refine nodes_assigns (fun line n mem body holds ctx p scope q run => ?_) h
  have := holds.sizeOf_lt
  have := Fragment.sizeOf_node_lt mem
  exact whole_assigns body ctx p scope q run
termination_by sizeOf f
decreasing_by omega

/-- What is assigned, is assigned to names that nodes of the list set. -/
theorem Assigns.sets {list : List (Nat × Node)} {entries : List (String × Value)}
    (assigns : Assigns host ctx list p entries) {e : String × Value} (h : e ∈ entries) :
    ∃ line n, (line, n) ∈ list ∧ n.Sets e.1 := by
  have behind {first : Nat × Node} {rest : List (Nat × Node)} :
      (∃ line n, (line, n) ∈ rest ∧ n.Sets e.1) →
      ∃ line n, (line, n) ∈ first :: rest ∧ n.Sets e.1 :=
    fun ⟨line, n, mem, sets⟩ => ⟨line, n, .tail _ mem, sets⟩
  induction assigns with
  | done => cases h
  | assign _ gives _ ih =>
    rcases List.mem_append.1 h with h | h
    · exact ⟨_, _, .head _, .assign (gives.mem_names h)⟩
    · exact behind (ih h)
  | taken chosen _ _ _ ihBody ihRest =>
    rcases List.mem_append.1 h with h | h
    · obtain ⟨line, n, mem, sets⟩ := ihBody h
      exact ⟨_, _, .head _, .branch (chosen_holds chosen) mem sets⟩
    · exact behind (ihRest h)
  | passed _ _ _ ih => exact behind (ih h)

/-! ## Iterations -/

/-- A frame in which a body is rendered with a target bound to an item, and nothing else bound. -/
def IsIteration (ctx : Context) (target : Target) (body : Fragment) (item : Value) (fr : Frame σ) :
    Prop :=
  ∃ entries, target.Gives item entries ∧ fr.fragment = body ∧
    fr.context = ctx.withScope (ctx.place.scope.assign entries)

/-- Values that were gone through have an iteration each, and there are no others. -/
theorem each_iterations {render : Renderer σ} {target : Target} {body : Fragment}
    {items : List Value} {u : Unit} (h : each render ctx target body items p = .ok u q) :
    ∃ frames, List.Forall₂ (IsIteration ctx target body) items frames ∧
      ∀ fr, Iterates render ctx target body items p fr ↔ fr ∈ frames := by
  induction items generalizing p with
  | nil =>
    refine ⟨[], .nil, fun fr => ⟨fun iterates => ?_, fun mem => ?_⟩⟩
    · cases iterates
    · cases mem
  | cons v rest ih =>
    rw [each_cons_apply] at h
    cases hq : bound render ctx target body v p with
    | error stop r => rw [hq] at h; cases h
    | ok u r =>
      rw [hq] at h
      obtain ⟨frames, iterations, all⟩ := ih h
      rw [bound_apply] at hq
      cases hb : target.bind v ctx.place.scope with
      | error fault => rw [hb] at hq; cases hq
      | ok scope =>
        rw [← bound_apply] at hq
        obtain ⟨entries, gives, rfl⟩ := Target.bind_eq_ok.1 hb
        have here : IsIteration ctx target body v
            ⟨ctx.withScope (ctx.place.scope.assign entries), body, p⟩ := ⟨entries, gives, rfl, rfl⟩
        refine ⟨_ :: frames, .cons here iterations, fun fr => ⟨?_, ?_⟩⟩
        · intro iterates
          cases iterates with
          | head hb' =>
            rw [hb] at hb'
            cases hb'
            exact .head _
          | tail hq' later =>
            rw [hq] at hq'
            cases hq'
            exact .tail _ ((all fr).1 later)
        · intro mem
          cases mem with
          | head => exact .head hb
          | tail _ mem => exact .tail hq ((all fr).2 mem)

/-- A loop opens its body once for each item, in the scope in front of the loop and with its target
bound to the item. -/
theorem loop_iterations {render : Renderer σ} {target : Target} {e : Expression} {body : Fragment}
    (h : node host render ctx (.loop target e body) p = .ok scope q) :
    ∃ v m items frames, value host ctx.place e p.memory = .ok v m ∧ v.iterate = .ok items ∧
      List.Forall₂ (IsIteration ctx target body) items frames ∧
      ∀ fr, Opens host render ctx p (.loop target e body) fr ↔ fr ∈ frames := by
  obtain ⟨v, r, got, h⟩ := bind_eq_ok.1 h
  obtain ⟨m, evaluated, rfl⟩ := evaluate_eq_ok.1 got
  obtain ⟨items, r, taken, h⟩ := bind_eq_ok.1 h
  obtain ⟨listed, rfl⟩ := items_eq_ok.1 taken
  obtain ⟨u, r, gone, h⟩ := bind_eq_ok.1 h
  obtain ⟨frames, iterations, all⟩ := each_iterations gone
  refine ⟨v, m, items, frames, evaluated, listed, iterations,
    fun fr => ⟨fun opens => ?_, fun mem => ?_⟩⟩
  · cases opens with
    | loop evaluated' listed' iterates =>
      cases evaluated.symm.trans evaluated'
      cases listed.symm.trans listed'
      exact (all fr).1 iterates
  · exact .loop evaluated listed ((all fr).2 mem)

/-! ## Output -/

/-- The progress at the end of a step. -/
def ending {α : Type} : EStateM.Result Stop (Progress σ) α → Progress σ
  | .ok _ p => p
  | .error _ p => p

/-- A step that keeps the output so far, and writes behind it if at all. -/
def Appends {α : Type} (step : Render σ α) : Prop :=
  ∀ p, ∃ written, (ending (step p)).output = p.output ++ written

section Appends

variable {α β : Type}

theorem Appends.bind {step : Render σ α} {next : α → Render σ β} (h : Appends step)
    (h' : ∀ a, Appends (next a)) : Appends (step >>= next) := by
  intro p
  obtain ⟨written, first⟩ := h p
  rw [bind_apply]
  cases hs : step p with
  | error stop q =>
    rw [hs] at first
    exact ⟨written, first⟩
  | ok a q =>
    rw [hs] at first
    obtain ⟨more, second⟩ := h' a q
    refine ⟨written ++ more, second.trans ?_⟩
    rw [show q.output = _ from first, String.append_assoc]

theorem appends_pure (a : α) : Appends (pure a : Render σ α) := fun _ =>
  ⟨"", String.append_empty.symm⟩

theorem appends_ofExcept (x : Except Fault α) : Appends (ofExcept x : Render σ α) := by
  intro p
  rw [ofExcept_apply]
  cases x <;> exact ⟨"", String.append_empty.symm⟩

theorem appends_evaluate (step : Evaluation σ α) : Appends (evaluate step) := by
  intro p
  rw [evaluate_apply]
  cases step p.memory <;> exact ⟨"", String.append_empty.symm⟩

theorem appends_write (text : String) : Appends (write text : Render σ Unit) := fun _ => ⟨text, rfl⟩

theorem appends_writeEscaped (host : Host σ) (place : Place) (v : Value) :
    Appends (writeEscaped host place v) := by
  unfold writeEscaped
  cases place.escape? with
  | none => exact appends_write _
  | some f => exact (appends_evaluate _).bind fun _ => appends_write _

theorem appends_resolve (host : Host σ) (place : Place) (v : Value) :
    Appends (resolve host place v) := by
  cases v
  case text name =>
    unfold resolve
    cases place.loader? with
    | none => exact appends_ofExcept (.error _)
    | some loader => exact appends_evaluate _
  case template t => exact appends_pure t
  all_goals exact appends_ofExcept (.error _)

theorem appends_atLine {step : Render σ α} (h : Appends step) (template : String) (line : Nat) :
    Appends (atLine template line step) := by
  intro p
  obtain ⟨written, same⟩ := h p
  refine ⟨written, ?_⟩
  rw [atLine_apply, ← same]
  cases step p with
  | ok _ _ => rfl
  | error stop _ => cases stop <;> rfl

variable {render : Renderer σ} (h : ∀ ctx f, Appends (render ctx f))

include h

theorem appends_version (versions : List Version) : Appends (version render versions) := by
  cases versions with
  | nil => exact appends_pure ()
  | cons v overridden => exact (h _ _).bind fun _ => appends_pure ()

theorem appends_branch (ctx : Context) (orelse : Option Fragment)
    (clauses : List (Expression × Fragment)) : Appends (branch host render ctx orelse clauses) := by
  induction clauses with
  | nil =>
    cases orelse with
    | none => exact appends_pure _
    | some body => exact h ctx body
  | cons clause rest ih =>
    refine (appends_evaluate _).bind fun t => ?_
    cases t.isTruthy
    · exact ih
    · exact h ctx clause.2

theorem appends_bound (ctx : Context) (target : Target) (body : Fragment) (v : Value) :
    Appends (bound render ctx target body v) :=
  (appends_ofExcept _).bind fun _ => (h _ _).bind fun _ => appends_pure ()

theorem appends_each (ctx : Context) (target : Target) (body : Fragment) (items : List Value) :
    Appends (each render ctx target body items) := by
  induction items with
  | nil => exact appends_pure ()
  | cons v rest ih => exact (appends_bound h ctx target body v).bind fun _ => ih

theorem appends_node (ctx : Context) (n : Node) : Appends (node host render ctx n) := by
  have keeps {step : Render σ Unit} (written : Appends step) :
      Appends (step >>= fun _ => pure ctx.place.scope) := written.bind fun _ => appends_pure _
  cases n with
  | text text => exact keeps (appends_write text)
  | output e => exact (appends_evaluate _).bind fun v => keeps (appends_writeEscaped host _ v)
  | print e => exact (appends_evaluate _).bind fun v => keeps (appends_write _)
  | assign target e => exact (appends_evaluate _).bind fun v => appends_ofExcept _
  | branch clauses orelse => exact appends_branch h ctx orelse clauses
  | loop target e body =>
    exact (appends_evaluate _).bind fun v => (appends_evaluate _).bind fun vs =>
      keeps (appends_each h ctx target body vs)
  | bind target e body =>
    exact (appends_evaluate _).bind fun v => keeps (appends_bound h ctx target body v)
  | «include» e =>
    exact (appends_evaluate _).bind fun v => (appends_resolve host _ v).bind fun t =>
      (appends_ofExcept _).bind fun _ => (h _ _).bind fun _ => appends_pure _
  | block name body => exact keeps (appends_version h _)
  | extend parent blocks =>
    exact (appends_evaluate _).bind fun v => (appends_resolve host _ v).bind fun t =>
      (appends_ofExcept _).bind fun _ => (h _ _).bind fun _ => appends_pure _
  | super => exact keeps (appends_version h _)

theorem appends_nodes (template : String) (ctx : Context) (list : List (Nat × Node)) :
    Appends (nodes host render template ctx list) := by
  induction list generalizing ctx with
  | nil => exact appends_pure _
  | cons first rest ih =>
    exact (appends_atLine (appends_node h ctx first.2) _ _).bind fun scope => ih _

end Appends

theorem appends_fragment (host : Host σ) (steps : Nat) (ctx : Context) (f : Fragment) :
    Appends (fragment host steps ctx f) := by
  induction steps generalizing ctx f with
  | zero => exact fun p => ⟨"", String.append_empty.symm⟩
  | succ steps ih => exact appends_nodes ih f.name ctx f.nodes

/-- However a fragment ends, the output only gets longer. -/
theorem appends_whole (host : Host σ) (ctx : Context) (f : Fragment) :
    Appends (whole host ctx f) := by
  intro p
  obtain ⟨steps, -, same⟩ := settle_eq (fragment_settles host ctx f p) ampleSteps
  obtain ⟨written, more⟩ := appends_fragment host steps ctx f p
  refine ⟨written, ?_⟩
  rw [whole, same]
  exact more

/-! ## All that is left behind -/

/-- What a fragment does to what is around it, if it ends with a scope and a progress. -/
structure Contained (host : Host σ) (ctx : Context) (f : Fragment) (p : Progress σ)
    (scope : Dictionary Value) (q : Progress σ) : Prop where
  /-- The scope changes only where `set` nodes of the fragment assign, and the last value counts. -/
  assigned : ∃ entries, Assigns host ctx f.nodes p entries ∧ (∀ e ∈ entries, f.Sets e.1) ∧
    ∀ name, scope.get? name = (entries.reverse.lookup name).or (ctx.place.scope.get? name)
  /-- Every node is begun with the same saved places and bodies, entries and depth. -/
  saved : ∀ line n ctx' p', Begins host (whole host) ctx f.nodes p line n ctx' p' →
    ctx'.heirs = ctx.heirs ∧ ctx'.overridden = ctx.overridden ∧
      ctx'.place.globals = ctx.place.globals ∧ ctx'.place.depth = ctx.place.depth
  /-- Nothing that is bound inside of a node other than a branch can be seen behind it. -/
  closed : ∀ line n ctx' p' scope' q', Begins host (whole host) ctx f.nodes p line n ctx' p' →
    node host (whole host) ctx' n p' = .ok scope' q' → (∀ target e, n ≠ .assign target e) →
    (∀ clauses orelse, n ≠ .branch clauses orelse) → scope' = ctx'.place.scope
  /-- A loop goes through its items from one and the same scope. -/
  iterations : ∀ line target e body ctx' p' scope' q',
    Begins host (whole host) ctx f.nodes p line (.loop target e body) ctx' p' →
    node host (whole host) ctx' (.loop target e body) p' = .ok scope' q' →
    ∃ v m items frames, value host ctx'.place e p'.memory = .ok v m ∧ v.iterate = .ok items ∧
      List.Forall₂ (IsIteration ctx' target body) items frames ∧
      ∀ fr, Opens host (whole host) ctx' p' (.loop target e body) fr ↔ fr ∈ frames
  /-- The output so far stays in front. -/
  output : ∃ written, q.output = p.output ++ written

/-- **Scopes do not leak.** -/
theorem scope_contained (host : Host σ) (ctx : Context) (f : Fragment) (p : Progress σ)
    {scope : Dictionary Value} {q : Progress σ} (h : whole host ctx f p = .ok scope q) :
    Contained host ctx f p scope q where
  assigned := by
    obtain ⟨entries, assigns, rfl⟩ := whole_assigns f ctx p scope q h
    refine ⟨entries, assigns, fun e mem => ?_, ctx.place.scope.get?_assign entries⟩
    obtain ⟨line, n, here, sets⟩ := assigns.sets mem
    exact ⟨line, n, here, sets⟩
  saved := by
    intro line n ctx' p' begins
    obtain ⟨scope, rfl⟩ := begins.exists_scope
    exact ⟨rfl, rfl, rfl, rfl⟩
  closed := fun _ _ _ _ _ _ _ run => node_scope_own run
  iterations := fun _ _ _ _ _ _ _ _ _ run => loop_iterations run
  output := by
    obtain ⟨written, more⟩ := appends_whole host ctx f p
    rw [h] at more
    exact ⟨written, more⟩

namespace Shadowing

/-- Sets a name in front of a loop and in it, and writes it behind the loop. -/
def source : String :=
  "\x7b% set 1 as x %\x7d\x7b% for i in [x, 2] %\x7d\x7b% set i as x %\x7d\x7b% endfor %\x7d\x7b\x7b x \x7d\x7d"

def loopBody : Fragment := ⟨unnamed, [(1, .assign (.name "x") ⟨"i", .name "i"⟩)]⟩

def body : Fragment := ⟨unnamed, [
  (1, .assign (.name "x") ⟨"1", .literal (.int 1)⟩),
  (1, .loop (.name "i") ⟨"[x, 2]", .list [.name "x", .literal (.int 2)]⟩ loopBody),
  (1, .output ⟨"x", .name "x"⟩)]⟩

def template : Template :=
  ⟨⟨none, 0⟩, body, .empty, Grammar.entries (.standard (.escaper 0)) unnamed .empty⟩

set_option maxRecDepth 100000 in
theorem compile_source :
    (Grammar.standard (.escaper 0)).compile ⟨none, 0⟩ source unnamed .empty .empty =
      .ok template := by
  refine Grammar.compile_of_parse _ _ _ ?_
  show Tag.parseTemplate Tag.standard source unnamed = .ok body
  cbv

/-- The scope that the source leaves. -/
def left : Dictionary Value := ⟨[("x", .int 1)]⟩

set_option maxRecDepth 100000 in
theorem rendered : whole bareHost (template.context .empty) body ⟨"", blank⟩ = .ok left ⟨"1", blank⟩ := by
  have within : fragment bareHost 2 (template.context .empty) body ⟨"", blank⟩ = .ok left ⟨"1", blank⟩ := by
    rfl
  have finished : Finished (fragment bareHost 2 (template.context .empty) body ⟨"", blank⟩) := by
    rw [within]
    exact fun _ h => nomatch h
  rw [whole_of_finished bareHost finished, within]

/-- What the loop set is gone behind it. -/
theorem contained_source :
    whole bareHost (template.context .empty) body ⟨"", blank⟩ = .ok left ⟨"1", blank⟩ ∧
      Contained bareHost (template.context .empty) body ⟨"", blank⟩ left ⟨"1", blank⟩ :=
  ⟨rendered, scope_contained bareHost _ body _ rendered⟩

end Shadowing

end Render

end TextTemplate
