import TextTemplate.Proofs.Value.Binding
import TextTemplate.Render.Whole

/-!
# What a node does to the scope

Only `set` changes the scope of what comes behind it, and only at the names of its target.  A branch
hands on what the `set` nodes of its body do; bodies of loops, bindings and blocks and all templates
that are entered keep theirs to themselves.  So the scope behind a node differs from the one before it
at most at the names that the node sets (`node_scope`).
-/

namespace TextTemplate

variable {σ : Type}

/-- The names that a node sets for those behind it. -/
inductive Node.Sets : Node → String → Prop
  | assign {target : Target} {e : Expression} {name : String} :
      name ∈ target.names → Sets (.assign target e) name
  | branch {clauses : List (Expression × Fragment)} {orelse : Option Fragment} {body : Fragment}
      {line : Nat} {n : Node} {name : String} :
      (Node.branch clauses orelse).Holds body → (line, n) ∈ body.nodes → n.Sets name →
      Sets (.branch clauses orelse) name

/-- The names that a fragment sets. -/
def Fragment.Sets (f : Fragment) (name : String) : Prop :=
  ∃ line n, (line, n) ∈ f.nodes ∧ n.Sets name

namespace Render

variable {host : Host σ} {render : Renderer σ} {ctx : Context} {n : Node} {p q : Progress σ}
  {scope : Dictionary Value}

theorem ok_of_ofExcept {α : Type} {x : Except Fault α} {a : α}
    (h : (ofExcept x : Render σ α) p = .ok a q) : x = .ok a := by
  rw [ofExcept_apply] at h
  cases x with
  | error fault => cases h
  | ok b =>
    cases h
    rfl

/-- A step that ends by returning a scope. -/
theorem scope_of_bind_pure {α : Type} {m : Render σ α} {s : Dictionary Value}
    (h : (m >>= fun _ => pure s) p = .ok scope q) : scope = s := by
  obtain ⟨_, _, _, last⟩ := bind_eq_ok.1 h
  cases last
  rfl

/-- All nodes but `set` and branches give their own scope back. -/
theorem node_scope_own (h : node host render ctx n p = .ok scope q)
    (assign : ∀ target e, n ≠ .assign target e)
    (branch : ∀ clauses orelse, n ≠ .branch clauses orelse) :
    scope = ctx.place.scope := by
  cases n with
  | assign target e => exact absurd rfl (assign target e)
  | branch clauses orelse => exact absurd rfl (branch clauses orelse)
  | text text => exact scope_of_bind_pure h
  | output e =>
    obtain ⟨_, _, _, h⟩ := bind_eq_ok.1 h
    exact scope_of_bind_pure h
  | print e =>
    obtain ⟨_, _, _, h⟩ := bind_eq_ok.1 h
    exact scope_of_bind_pure h
  | loop target e body =>
    obtain ⟨_, _, _, h⟩ := bind_eq_ok.1 h
    obtain ⟨_, _, _, h⟩ := bind_eq_ok.1 h
    exact scope_of_bind_pure h
  | bind target e body =>
    obtain ⟨_, _, _, h⟩ := bind_eq_ok.1 h
    exact scope_of_bind_pure h
  | «include» e =>
    obtain ⟨_, _, _, h⟩ := bind_eq_ok.1 h
    obtain ⟨_, _, _, h⟩ := bind_eq_ok.1 h
    obtain ⟨_, _, _, h⟩ := bind_eq_ok.1 h
    exact scope_of_bind_pure h
  | block name body => exact scope_of_bind_pure h
  | extend parent blocks =>
    obtain ⟨_, _, _, h⟩ := bind_eq_ok.1 h
    obtain ⟨_, _, _, h⟩ := bind_eq_ok.1 h
    obtain ⟨_, _, _, h⟩ := bind_eq_ok.1 h
    exact scope_of_bind_pure h
  | super => exact scope_of_bind_pure h

/-- A list of nodes changes the scope at most where one of them does. -/
theorem nodes_scope {template : String} {list : List (Nat × Node)} {name : String}
    (each : ∀ line n, (line, n) ∈ list → ∀ ctx p scope q, node host render ctx n p = .ok scope q →
      scope.get? name = ctx.place.scope.get? name)
    (h : nodes host render template ctx list p = .ok scope q) :
    scope.get? name = ctx.place.scope.get? name := by
  induction list generalizing ctx p with
  | nil =>
    cases h
    rfl
  | cons first rest ih =>
    obtain ⟨line, n⟩ := first
    rw [nodes_cons_apply] at h
    cases hn : node host render ctx n p with
    | error stop r =>
      rw [hn] at h
      cases stop <;> cases h
    | ok s r =>
      rw [hn] at h
      rw [ih (fun line n mem => each line n (.tail _ mem)) h]
      exact each line n (.head _) ctx p s r hn

/-- **A node changes the scope at most at the names that it sets.** -/
theorem node_scope (n : Node) (ctx : Context) (p : Progress σ) (scope : Dictionary Value)
    (q : Progress σ) (h : node host (whole host) ctx n p = .ok scope q) (name : String)
    (other : ¬ n.Sets name) : scope.get? name = ctx.place.scope.get? name := by
  match n, h, other with
  | .assign target e, h, other =>
    obtain ⟨v, _, _, h⟩ := bind_eq_ok.1 h
    exact Target.bind_get? (ok_of_ofExcept h) fun mem => other (.assign mem)
  | .branch clauses orelse, h, other =>
    have run : branch host (whole host) ctx orelse clauses p = .ok scope q := h
    rw [branch_apply] at run
    cases hc : chosen host ctx.place orelse clauses p.memory with
    | error fault _ =>
      rw [hc] at run
      cases run
    | ok found _ =>
      rw [hc] at run
      cases found with
      | none =>
        cases run
        rfl
      | some body =>
        have holds := chosen_holds hc
        dsimp only at run
        rw [whole_eq] at run
        refine nodes_scope (fun line n mem ctx p scope q h => ?_) run
        -- the nodes of the body are smaller
        have := holds.sizeOf_lt
        have := Fragment.sizeOf_node_lt mem
        exact node_scope n ctx p scope q h name fun sets => other (.branch holds mem sets)
  | .text _, h, _ | .output _, h, _ | .print _, h, _ | .loop .., h, _ | .bind .., h, _
  | .include _, h, _ | .block .., h, _ | .extend .., h, _ | .super, h, _ =>
    rw [node_scope_own h (fun _ _ same => nomatch same) (fun _ _ same => nomatch same)]
termination_by sizeOf n
decreasing_by omega

/-- A node is begun in a scope that differs from that of its fragment at most at the names that the
fragment sets. -/
theorem Begins.scope_get? {list : List (Nat × Node)} {ctx' : Context} {line : Nat} {p' : Progress σ}
    (begins : Begins host (whole host) ctx list p line n ctx' p') {name : String}
    (other : ∀ line n, (line, n) ∈ list → ¬ n.Sets name) :
    ctx'.place.scope.get? name = ctx.place.scope.get? name := by
  induction begins with
  | head => rfl
  | tail hn _ ih =>
    rw [ih fun line n mem => other line n (.tail _ mem)]
    exact node_scope _ _ _ _ _ hn name (other _ _ (.head _))

end Render

end TextTemplate
