import TextTemplate.Proofs.Grammar
import TextTemplate.Proofs.Render.Containment

/-!
# Names along a chain of templates

A template that is entered takes its default parameters below the scope, and its entries above those
of the templates before it.  So along a chain of templates, each entered from the one before where
nothing has been set or bound, the scope of the last one is decided from the caller's parameters
downwards, by the defaults of the first template, then of the second one, and so on; its entries are
decided the other way, by the last template first (`Descends.get?_scope`, `Descends.get?_globals`).
A name stands for what comes first in this order, else for a global function (`lookup_along_chain`).
-/

namespace TextTemplate

variable {σ : Type}

/-! ## Nodes that set nothing -/

theorem Target.Gives.eq_nil {target : Target} {v : Value} {entries : List (String × Value)}
    (gives : target.Gives v entries) (none : ∀ name, name ∉ target.names) : entries = [] := by
  rw [List.eq_nil_iff_forall_not_mem]
  exact fun e mem => none e.1 (gives.mem_names mem)

namespace Render

variable {host : Host σ} {ctx ctx' : Context} {n n' : Node} {p p' q : Progress σ}
  {scope : Dictionary Value}

/-- A node that sets no name leaves the scope as it is. -/
theorem node_scope_eq (h : node host (whole host) ctx n p = .ok scope q)
    (none : ∀ name, ¬ n.Sets name) : scope = ctx.place.scope := by
  cases n with
  | assign target e =>
    obtain ⟨v, m, entries, -, gives, rfl, -⟩ := assign_eq_ok h
    rw [gives.eq_nil fun name mem => none name (.assign mem)]
    rfl
  | branch clauses orelse =>
    have run : branch host (whole host) ctx orelse clauses p = .ok scope q := h
    rw [branch_apply] at run
    cases hc : chosen host ctx.place orelse clauses p.memory with
    | error fault m => rw [hc] at run; cases run
    | ok found m =>
      rw [hc] at run
      cases found with
      | none =>
        cases run
        rfl
      | some body =>
        obtain ⟨entries, assigns, rfl⟩ := whole_assigns body ctx _ scope q run
        have nil : entries = [] := by
          rw [List.eq_nil_iff_forall_not_mem]
          intro e mem
          obtain ⟨line, n, mem, sets⟩ := assigns.sets mem
          exact none e.1 (.branch (chosen_holds hc) mem sets)
        rw [nil]
        rfl
  | _ => exact node_scope_own h nofun nofun

/-! ## Chains -/

/-- A node is begun where nothing has been set or bound since the fragment was begun: behind nodes
that set no name, or in the branch that is taken. -/
inductive Reaches (host : Host σ) : Context → List (Nat × Node) → Progress σ →
    Node → Context → Progress σ → Prop
  | here {ctx : Context} {line : Nat} {n : Node} {rest : List (Nat × Node)} {p : Progress σ} :
      Reaches host ctx ((line, n) :: rest) p n ctx p
  | behind {ctx ctx' : Context} {line : Nat} {n n' : Node} {rest : List (Nat × Node)}
      {p q p' : Progress σ} {scope : Dictionary Value} :
      (∀ name, ¬ n'.Sets name) → node host (whole host) ctx n' p = .ok scope q →
      Reaches host (ctx.withScope scope) rest q n ctx' p' →
      Reaches host ctx ((line, n') :: rest) p n ctx' p'
  | inside {ctx ctx' : Context} {line : Nat} {clauses : List (Expression × Fragment)}
      {orelse : Option Fragment} {body : Fragment} {n : Node} {rest : List (Nat × Node)}
      {p p' : Progress σ} {m : Memory σ} :
      chosen host ctx.place orelse clauses p.memory = .ok (some body) m →
      Reaches host ctx body.nodes (p.withMemory m) n ctx' p' →
      Reaches host ctx ((line, .branch clauses orelse) :: rest) p n ctx' p'

/-- So it is begun in the context of the fragment. -/
theorem Reaches.context_eq {list : List (Nat × Node)}
    (reaches : Reaches host ctx list p n ctx' p') : ctx' = ctx := by
  induction reaches with
  | here => rfl
  | behind none run _ ih =>
    rw [ih, node_scope_eq run none]
    rfl
  | inside _ _ ih => exact ih

/-- The last one of a chain of templates is about to be rendered: the first one with the parameters
of the caller, and each further one entered from the one before it where that has set and bound
nothing. One template may occur several times. -/
inductive Descends (host : Host σ) (params : Dictionary Value) (memory : Memory σ) :
    List Template → Frame σ → Prop
  | start (t : Template) : Descends host params memory [t] (t.start params memory)
  | enter {ts : List Template} {t : Template} {fr fr' : Frame σ} {n : Node} {ctx : Context}
      {p : Progress σ} :
      Descends host params memory ts fr →
      Reaches host fr.context fr.fragment.nodes fr.progress n ctx p → EntersAt host ctx p n t fr' →
      Descends host params memory (ts ++ [t]) fr'

/-- A template whose default parameters and entries stand in order. -/
structure Ordered (t : Template) : Prop where
  defaults : t.defaults.Ascending
  globals : t.globals.Ascending

end Render

/-- The place of a template that is entered where nothing has been set or bound. -/
theorem Render.EntersAt.place_eq {host : Host σ} {fr fr' : Frame σ} {n : Node} {ctx : Context}
    {p : Progress σ} {t : Template} (enters : EntersAt host ctx p n t fr')
    (reaches : Reaches host fr.context fr.fragment.nodes fr.progress n ctx p) :
    fr.context.place.depth < maxDepth ∧ fr'.context.place = {
      scope := t.defaults.overlay fr.context.place.scope
      globals := fr.context.place.globals.overlay t.globals
      depth := fr.context.place.depth + 1 } := by
  have entered := enters.enter.1
  rw [reaches.context_eq] at entered
  exact TemplateOf.enter_eq_ok.1 entered

namespace Render.Descends

variable {host : Host σ} {params : Dictionary Value} {memory : Memory σ} {ts : List Template} {fr : Frame σ}
  (chain : Descends host params memory ts fr)
include chain

/-- The depth counts the templates that were entered. -/
theorem depth_eq : fr.context.place.depth + 1 = ts.length ∧ ts.length ≤ maxDepth + 1 := by
  induction chain with
  | start t =>
    rw [List.length_singleton]
    exact ⟨rfl, by decide⟩
  | enter before reaches enters ih =>
    obtain ⟨less, place⟩ := enters.place_eq reaches
    rw [place, List.length_append, List.length_singleton]
    dsimp only
    omega

theorem ascending_scope (ordered : ∀ t ∈ ts, Ordered t) :
    fr.context.place.scope.Ascending := by
  cases chain with
  | start t => exact (ordered t (.head _)).defaults.overlay params
  | enter before reaches enters =>
    have last := ordered _ (List.mem_append_right _ (.head _))
    rw [(enters.place_eq reaches).2]
    exact last.defaults.overlay _

/-- **The scope is decided from the caller's parameters on**, then by the defaults of the templates
in their order. -/
theorem get?_scope (ascending : params.Ascending) (ordered : ∀ t ∈ ts, Ordered t) (name : String) :
    fr.context.place.scope.get? name =
      (params :: ts.map (·.defaults)).findSome? (·.get? name) := by
  induction chain with
  | start t =>
    show (t.defaults.overlay params).get? name = _
    rw [Dictionary.get?_overlay ascending, List.map_singleton, List.findSome?_cons]
    cases params.get? name <;> simp
  | @enter ts t fr fr' _ _ _ before reaches enters ih =>
    have earlier : ∀ t ∈ ts, Ordered t := fun t mem => ordered t (List.mem_append_left _ mem)
    have sorted := before.ascending_scope earlier
    rw [(enters.place_eq reaches).2, Dictionary.get?_overlay sorted, ih earlier,
      List.map_append, ← List.cons_append, List.findSome?_append]
    simp

/-- **The entries are decided by the last template first.** -/
theorem get?_globals (ordered : ∀ t ∈ ts, Ordered t) (name : String) :
    fr.context.place.globals.get? name =
      (ts.map (·.globals)).reverse.findSome? (·.get? name) := by
  induction chain with
  | start t => simp [TemplateOf.start, TemplateOf.context]
  | @enter ts t fr fr' _ _ _ before reaches enters ih =>
    have earlier : ∀ t ∈ ts, Ordered t := fun t mem => ordered t (List.mem_append_left _ mem)
    have last := ordered t (List.mem_append_right _ (.head _))
    rw [(enters.place_eq reaches).2, Dictionary.get?_overlay last.globals, ih earlier,
      List.map_append, List.reverse_append, List.findSome?_append]
    simp

end Render.Descends

namespace Render

/-- What a name stands for at the end of a chain: the first that is found among the parameters, the
defaults from the first template on, and the entries from the last template on; else a global
function of that name. -/
def alongChain (params : Dictionary Value) (ts : List Template) (name : String) :
    Evaluation σ Value :=
  let found := (params :: ts.map (·.defaults) ++ (ts.map (·.globals)).reverse).findSome?
    (·.get? name)
  match found with
  | some v => return v
  | none =>
    match Global.ofName? name with
    | some g => .find g
    | none => throw (.eval (.undefined name))

/-- **Names along a chain of templates.**  At the end of a chain, wherever the last template has set
and bound nothing, a name has the value that comes first among the caller's parameters, the defaults
of the templates from the first on, and the entries of the templates from the last on; else it is a
global function, or undefined.  As many templates can be entered as the depth allows. -/
theorem lookup_along_chain {host : Host σ} {params : Dictionary Value} {memory : Memory σ}
    {ts : List Template} {fr : Frame σ} (chain : Descends host params memory ts fr)
    (ascending : params.Ascending) (ordered : ∀ t ∈ ts, Ordered t) {n : Node} {ctx : Context}
    {p : Progress σ} (reaches : Reaches host fr.context fr.fragment.nodes fr.progress n ctx p)
    (name text : String) :
    value host ctx.place ⟨text, .name name⟩ = alongChain params ts name ∧
      ts.length ≤ maxDepth + 1 ∧
      ∀ t : Template, (∃ place, t.enter ctx.place = .ok place) ↔ ts.length ≤ maxDepth := by
  obtain ⟨depth, bound⟩ := chain.depth_eq
  rw [reaches.context_eq]
  refine ⟨?_, bound, fun t => ?_⟩
  · have found : fr.context.place.lookup? name =
        (params :: ts.map (·.defaults) ++ (ts.map (·.globals)).reverse).findSome?
          (·.get? name) := by
      unfold Place.lookup?
      rw [chain.get?_scope ascending ordered, chain.get?_globals ordered, List.findSome?_append]
      cases (params :: ts.map (·.defaults)).findSome? (·.get? name) <;> rfl
    have decided : ∀ first, fr.context.place.lookup? name = first →
        Expr.Tree.evalName (fr.context.place.environment host.call) name =
          match first with
          | some v => return v
          | none =>
            match Global.ofName? name with
            | some g => .find g
            | none => throw (.eval (.undefined name)) := by
      rintro _ rfl
      rfl
    exact decided _ found
  · constructor
    · rintro ⟨place, entered⟩
      have := (TemplateOf.enter_eq_ok.1 entered).1
      omega
    · intro room
      exact ⟨_, TemplateOf.enter_eq_ok.2 ⟨by omega, rfl⟩⟩

/-! ## Two templates that include each other -/

namespace Alternating

def grammar : Grammar := .standard (.escaper 0)

def body (e : Expression) : Fragment := ⟨unnamed, [(1, .include e)]⟩

/-- Includes `s`. -/
def first : Template :=
  ⟨⟨none, 0⟩, body ⟨"s", .name "s"⟩, .ofList [("a", .int 1)],
    grammar.entries unnamed (.ofList [("m", .int 1)])⟩

/-- Includes `t`. -/
def second : Template :=
  ⟨⟨none, 1⟩, body ⟨"t", .name "t"⟩, .ofList [("a", .int 2), ("b", .int 2)],
    grammar.entries unnamed (.ofList [("k", .int 2), ("m", .int 2)])⟩

set_option maxRecDepth 100000 in
theorem compile_first : grammar.compile ⟨none, 0⟩ "\x7b% include s %\x7d" unnamed
    (.ofList [("a", .int 1)]) (.ofList [("m", .int 1)]) = .ok first := by
  refine Grammar.compile_of_parse _ _ _ ?_
  show Tag.parseTemplate Tag.standard _ unnamed = .ok (body ⟨"s", .name "s"⟩)
  cbv

set_option maxRecDepth 100000 in
theorem compile_second : grammar.compile ⟨none, 1⟩ "\x7b% include t %\x7d" unnamed
    (.ofList [("a", .int 2), ("b", .int 2)]) (.ofList [("k", .int 2), ("m", .int 2)]) =
      .ok second := by
  refine Grammar.compile_of_parse _ _ _ ?_
  show Tag.parseTemplate Tag.standard _ unnamed = .ok (body ⟨"t", .name "t"⟩)
  cbv

def params : Dictionary Value := .ofList [("s", .template second), ("t", .template first)]

/-- The frame of a template that is included first of all in another one. -/
def within (t : Template) (fr : Frame Unit) : Frame Unit :=
  ⟨fr.context.including ⟨t.defaults.overlay fr.context.place.scope,
    fr.context.place.globals.overlay t.globals, fr.context.place.depth + 1⟩, t.body, fr.progress⟩

/-- The first template again, inside the second one, inside the first one. -/
def third : Frame Unit := within first (within second (first.start params blank))

theorem descends : Descends bareHost params blank [first, second, first] third := by
  have once : Descends bareHost params blank [first, second] (within second (first.start params blank)) :=
    .enter (.start first) .here (.include (.intro rfl rfl rfl))
  exact .enter once .here (.include (.intro rfl rfl rfl))

theorem ordered : ∀ t ∈ [first, second, first], Ordered t := by
  have both (further : Dictionary Value) := grammar.ascending_entries unnamed further
  intro t mem
  have one : t = first ∨ t = second ∨ t = first := by simpa using mem
  obtain rfl | rfl | rfl := one
  all_goals exact ⟨Dictionary.ascending_ofList _, both _⟩

/-- The first defaults count, and the last entries. -/
theorem lookup_third :
    (grammar.compile ⟨none, 0⟩ "\x7b% include s %\x7d" unnamed (.ofList [("a", .int 1)])
        (.ofList [("m", .int 1)]) = .ok first ∧
      grammar.compile ⟨none, 1⟩ "\x7b% include t %\x7d" unnamed
        (.ofList [("a", .int 2), ("b", .int 2)]) (.ofList [("k", .int 2), ("m", .int 2)]) =
          .ok second) ∧
      Descends bareHost params blank [first, second, first] third ∧ params.Ascending ∧
      (∀ t ∈ [first, second, first], Ordered t) ∧
      Reaches bareHost third.context third.fragment.nodes third.progress
        (.include ⟨"s", .name "s"⟩) third.context third.progress ∧
      value bareHost third.context.place ⟨"a", .name "a"⟩ = pure (.int 1) ∧
      value bareHost third.context.place ⟨"b", .name "b"⟩ = pure (.int 2) ∧
      value bareHost third.context.place ⟨"m", .name "m"⟩ = pure (.int 1) ∧
      value bareHost third.context.place ⟨"k", .name "k"⟩ = pure (.int 2) :=
  have ascending := Dictionary.ascending_ofList _
  have reads (name : String) := (lookup_along_chain descends ascending ordered .here name name).1
  ⟨⟨compile_first, compile_second⟩, descends, ascending, ordered, .here, reads "a",
    reads "b", reads "m", reads "k"⟩

end Alternating

end Render

end TextTemplate
