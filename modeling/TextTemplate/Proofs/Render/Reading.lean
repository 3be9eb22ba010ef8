import TextTemplate.Proofs.Grammar
import TextTemplate.Proofs.Render.Parallel

/-!
# The names that a render reads

A template reads the names that occur as variables in its expressions, at any depth, and the name of
the escape function.  As long as it enters no other template, it is rendered to the same text, or
fails with the same fault, with any parameters that agree on these names (`render_congr`): what a
render binds on the way it binds in both scopes, so they go on to agree, while all other names may
differ and drift apart.
-/

namespace TextTemplate

/-! ## What a fragment reads -/

/-- A name occurs as a variable in an expression of a fragment, at any depth. -/
def Fragment.Reads (f : Fragment) (name : String) : Prop :=
  ∃ part line n e, f.Part part ∧ (line, n) ∈ part.nodes ∧ e ∈ n.expressions ∧ name ∈ e.reads

/-- A node that enters no other template. -/
def Node.EntersNone (n : Node) : Prop :=
  (∀ e, n ≠ .include e) ∧ ∀ parent blocks, n ≠ .extend parent blocks

/-- A fragment that enters no other template, at any depth. -/
def Fragment.EntersNone (f : Fragment) : Prop :=
  ∀ part line n, f.Part part → (line, n) ∈ part.nodes → n.EntersNone

theorem Fragment.Part.trans {f g h : Fragment} (outer : f.Part g) (inner : g.Part h) :
    f.Part h := by
  induction inner with
  | self => exact outer
  | inner _ mem holds ih => exact .inner ih mem holds

/-- The bodies of a node are parts of the fragment that the node stands in. -/
theorem Fragment.part_of_holds {f body : Fragment} {line : Nat} {n : Node}
    (mem : (line, n) ∈ f.nodes) (holds : n.Holds body) : f.Part body := .inner .self mem holds

theorem Fragment.EntersNone.body {f body : Fragment} {line : Nat} {n : Node} (alone : f.EntersNone)
    (mem : (line, n) ∈ f.nodes) (holds : n.Holds body) : body.EntersNone :=
  fun part line n inner => alone part line n ((part_of_holds mem holds).trans inner)

theorem Fragment.Reads.of_body {f body : Fragment} {line : Nat} {n : Node} {name : String}
    (mem : (line, n) ∈ f.nodes) (holds : n.Holds body) (reads : body.Reads name) :
    f.Reads name := by
  obtain ⟨part, line, n, e, inner, rest⟩ := reads
  exact ⟨part, line, n, e, (part_of_holds mem holds).trans inner, rest⟩

/-! ## Scopes that agree -/

/-- Dictionaries in which some names have the same values. -/
def Dictionary.AgreesOn {α : Type} (names : String → Prop) (d d' : Dictionary α) : Prop :=
  ∀ name, names name → d.get? name = d'.get? name

namespace Dictionary.AgreesOn

variable {α : Type} {names : String → Prop} {d d' : Dictionary α}

theorem assign (agrees : d.AgreesOn names d') (entries : List (String × α)) :
    (d.assign entries).AgreesOn names (d'.assign entries) := by
  intro name mem
  rw [get?_assign, get?_assign, agrees name mem]

/-- Dictionaries that agree, on top of one that lies below both. -/
theorem overlay (agrees : d.AgreesOn names d') (ascending : d.Ascending) (ascending' : d'.Ascending)
    (lower : Dictionary α) : (lower.overlay d).AgreesOn names (lower.overlay d') := by
  intro name mem
  have same := agrees name mem
  cases found : d.get? name with
  | some v =>
    rw [found] at same
    rw [get?_overlay_of_some ascending found, get?_overlay_of_some ascending' same.symm]
  | none =>
    rw [found] at same
    rw [get?_overlay_of_none found, get?_overlay_of_none same.symm]

end Dictionary.AgreesOn

/-- Binding keeps scopes in agreement. -/
theorem Target.bind_agrees {names : String → Prop} {scope scope' : Dictionary Value}
    (agrees : scope.AgreesOn names scope') (target : Target) (v : Value) :
    Ends (Dictionary.AgreesOn names) (target.bind v scope) (target.bind v scope') := by
  cases target with
  | name n => exact .ok (agrees.assign [(n, v)])
  | unpack ns =>
    unfold Target.bind
    cases v.iterate with
    | error cause => exact .error _
    | ok items =>
      dsimp only
      split
      · exact .error _
      · split
        · exact .error _
        · exact .ok (agrees.assign (ns.zip items))

/-- Where there is no heir, a block has only its own body. -/
theorem Context.versions_of_heirs (ctx : Context) (name : String) (body : Fragment)
    (h : ctx.heirs = []) : ctx.versions name body = [⟨ctx.place, [], body⟩] := by
  unfold versions
  rw [h]
  rfl

namespace Render

variable {σ : Type} {host : Host σ} {names : String → Prop}

/-- Contexts of templates that nothing extends, at places that agree on some names. -/
structure Agree (names : String → Prop) (ctx ctx' : Context) : Prop where
  scope : ctx.place.scope.AgreesOn names ctx'.place.scope
  globals : ctx.place.globals = ctx'.place.globals
  heirs : ctx.heirs = [] ∧ ctx'.heirs = []
  overridden : ctx.overridden = [] ∧ ctx'.overridden = []

namespace Agree

variable {ctx ctx' : Context}

theorem withScope (agree : Agree names ctx ctx') {scope scope' : Dictionary Value}
    (scopes : scope.AgreesOn names scope') :
    Agree names (ctx.withScope scope) (ctx'.withScope scope') :=
  ⟨scopes, agree.globals, agree.heirs, agree.overridden⟩

theorem lookup?_eq (agree : Agree names ctx ctx') {name : String} (mem : names name) :
    ctx.place.lookup? name = ctx'.place.lookup? name := by
  unfold Place.lookup?
  rw [agree.scope name mem, agree.globals]

theorem value_eq (agree : Agree names ctx ctx') {e : Expression}
    (reads : ∀ name ∈ e.reads, names name) :
    value host ctx.place e = value host ctx'.place e := by
  refine e.eval_congr ⟨rfl, fun name mem => ?_⟩
  exact agree.lookup?_eq (reads name mem)

theorem escape?_eq (agree : Agree names ctx ctx') (escape : names escapeKey) :
    ctx.place.escape? = ctx'.place.escape? := by
  unfold Place.escape?
  rw [agree.lookup?_eq escape]

end Agree

theorem abreast_agreeing (host : Host σ) (names : String → Prop) :
    Abreast host host (Dictionary.AgreesOn names) (· = ·) (· = ·) where
  call f args place place' := by
    rw [call_place host f args place' place]
    exact .refl _
  bind _ _ agrees target v := target.bind_agrees agrees v
  write := by
    rintro p _ rfl text
    rfl
  memory _ _ same := congrArg Progress.memory same
  withMemory := by
    rintro p _ rfl m _ rfl
    rfl

/-- **A fragment ends in the same way in contexts that agree on what it reads.** -/
theorem whole_agrees (host : Host σ) (escape : names escapeKey) (ctx : Context) (f : Fragment)
    (p : Progress σ) (ctx' : Context) (alone : f.EntersNone)
    (reads : ∀ name, f.Reads name → names name) (agree : Agree names ctx ctx') :
    EndsIn (· = ·) (Dictionary.AgreesOn names) (whole host ctx f p) (whole host ctx' f p) := by
  refine opens_induction host (whole host)
    (motive := fun ctx f => ∀ p ctx', f.EntersNone → (∀ name, f.Reads name → names name) →
      Agree names ctx ctx' →
      EndsIn (· = ·) (Dictionary.AgreesOn names) (whole host ctx f p) (whole host ctx' f p))
    (fun ctx f inside p ctx' alone reads agree => ?_) ctx f p ctx' alone reads agree
  rw [whole_eq, whole_eq]
  refine nodes_abreast (abreast_agreeing host names) f.name agree.scope rfl ?_
  rintro line n scope scope' q _ begins scopes rfl
  have mem := begins.mem
  have here := agree.withScope scopes
  have own : ∀ e ∈ n.expressions, ∀ name ∈ e.reads, names name :=
    fun e own name occurs => reads name ⟨f, line, n, e, .self, mem, own, occurs⟩
  -- a body of the node, in scopes that agree
  have within {c : Context} {body : Fragment} {q₁ : Progress σ} (holds : n.Holds body)
      (opens : Opens host (whole host) (ctx.withScope scope) q n ⟨c, body, q₁⟩) {c' : Context}
      (agree : Agree names c c') :
      EndsIn (· = ·) (Dictionary.AgreesOn names) (whole host c body q₁) (whole host c' body q₁) :=
    inside p line n _ q _ begins opens q₁ c' (alone.body mem holds)
      (fun name read => reads name (read.of_body mem holds)) agree
  exact {
    scope := scopes
    values := by
      intro e e_mem
      rw [here.value_eq (own e e_mem)]
      exact .refl _
    escape := here.escape?_eq escape
    bodies := by
      rintro inner inner' body q₁ _ holds - opens scopes rfl
      exact within holds opens (agree.withScope scopes)
    included := fun e same => absurd same ((alone f line n .self mem).1 e)
    extended := fun parent blocks same => absurd same ((alone f line n .self mem).2 parent blocks)
    versions := by
      rintro name body rfl
      have only := (ctx.withScope scope).versions_of_heirs name body agree.heirs.1
      have only' := (ctx'.withScope scope').versions_of_heirs name body agree.heirs.2
      have takes : Takes q ((ctx.withScope scope).versions name body)
          ⟨⟨(ctx.withScope scope).place, [], []⟩, body, q⟩ := by
        rw [only]
        exact .head _ []
      rw [only, only']
      have own : Agree names ⟨(ctx.withScope scope).place, [], []⟩
          ⟨(ctx'.withScope scope').place, [], []⟩ :=
        ⟨scopes, agree.globals, ⟨rfl, rfl⟩, rfl, rfl⟩
      exact EndsIn.bind (within .block (.block takes) own)
        fun _ _ _ _ _ _ _ same => .ok trivial same
    overridden := by
      rintro rfl
      show EndsIn _ _ (version (whole host) ctx.overridden q)
        (version (whole host) ctx'.overridden q)
      rw [agree.overridden.1, agree.overridden.2]
      exact .ok trivial rfl }

/-- **A render depends only on the names that the template reads.**  With two maps of parameters
that agree on these, and on the name of the escape function, a template that enters no other one
gives the same text or the same fault, and leaves the same memory. -/
theorem render_congr {t : Template} (alone : t.body.EntersNone) {v w : Value}
    {a b : Dictionary Value} (left : parameters v = .ok a) (right : parameters w = .ok b)
    (ascending : a.Ascending) (ascending' : b.Ascending)
    (agree : ∀ name, t.body.Reads name ∨ name = escapeKey → a.get? name = b.get? name)
    (memory : Memory σ) : t.render host v memory = t.render host w memory := by
  have contexts : Agree (fun name => t.body.Reads name ∨ name = escapeKey) (t.context a)
      (t.context b) :=
    ⟨Dictionary.AgreesOn.overlay agree ascending ascending' t.defaults, rfl, ⟨rfl, rfl⟩, rfl, rfl⟩
  have run := whole_agrees host (.inr rfl) (t.context a) t.body ⟨"", memory⟩ (t.context b)
    alone (fun name read => .inl read) contexts
  unfold TemplateOf.render TemplateOf.renderWith
  rw [left, right]
  dsimp only
  generalize whole host (t.context a) t.body ⟨"", memory⟩ = x,
    whole host (t.context b) t.body ⟨"", memory⟩ = y at run ⊢
  cases run with
  | ok _ same => rw [outcome, outcome, same]
  | error stop same => rw [outcome, outcome, same]

/-! ## A template that reads three names -/

namespace Listing

/-- Writes a name in a block, for each item that holds. -/
def source : String :=
  "\x7b% for x in xs %\x7d\x7b% if x %\x7d\x7b% block b %\x7d" ++
    "\x7b\x7b y \x7d\x7d\x7b% endblock %\x7d\x7b% endif %\x7d\x7b% endfor %\x7d"

def blockBody : Fragment := ⟨unnamed, [(1, .output ⟨"y", .name "y"⟩)]⟩

def branchBody : Fragment := ⟨unnamed, [(1, .block "b" blockBody)]⟩

def loopBody : Fragment := ⟨unnamed, [(1, .branch [(⟨"x", .name "x"⟩, branchBody)] none)]⟩

def body : Fragment := ⟨unnamed, [(1, .loop (.name "x") ⟨"xs", .name "xs"⟩ loopBody)]⟩

def template : Template :=
  ⟨⟨none, 0⟩, body, .empty, Grammar.entries (.standard (.escaper 0)) unnamed .empty⟩

set_option maxRecDepth 100000 in
theorem compile_source :
    (Grammar.standard (.escaper 0)).compile ⟨none, 0⟩ source unnamed .empty .empty =
      .ok template := by
  refine Grammar.compile_of_parse _ _ _ ?_
  show Tag.parseTemplate Tag.standard source unnamed = .ok body
  cbv

/-- The names of the parameters that are read, and one more. -/
def params : Dictionary Value :=
  .ofList [("xs", .list [.int 1, .int 0]), ("y", .text "a"), ("z", .int 1)]

/-- The same, with another one more. -/
def params' : Dictionary Value :=
  .ofList [("w", .null), ("xs", .list [.int 1, .int 0]), ("y", .text "a")]

theorem eq_of_part {part : Fragment} (h : body.Part part) :
    part = body ∨ part = loopBody ∨ part = branchBody ∨ part = blockBody := by
  induction h with
  | self => exact .inl rfl
  | inner _ mem holds ih =>
    obtain rfl | rfl | rfl | rfl := ih <;> cases List.mem_singleton.1 mem
    · cases holds
      exact .inr (.inl rfl)
    · cases holds with
      | clause mem =>
        cases List.mem_singleton.1 mem
        exact .inr (.inr (.inl rfl))
    · cases holds
      exact .inr (.inr (.inr rfl))
    · cases holds

/-- Each of the fragments has one node. -/
theorem node_of_part {part : Fragment} (h : body.Part part) {line : Nat} {n : Node}
    (mem : (line, n) ∈ part.nodes) :
    n = .loop (.name "x") ⟨"xs", .name "xs"⟩ loopBody ∨
      n = .branch [(⟨"x", .name "x"⟩, branchBody)] none ∨ n = .block "b" blockBody ∨
      n = .output ⟨"y", .name "y"⟩ := by
  obtain rfl | rfl | rfl | rfl := eq_of_part h <;> cases List.mem_singleton.1 mem <;> simp

theorem entersNone : body.EntersNone := by
  intro part line n h mem
  obtain rfl | rfl | rfl | rfl := node_of_part h mem <;> exact ⟨nofun, nofun⟩

theorem agree (name : String) (read : body.Reads name ∨ name = escapeKey) :
    params.get? name = params'.get? name := by
  obtain ⟨part, line, n, e, h, mem, own, occurs⟩ | rfl := read
  · obtain rfl | rfl | rfl | rfl := node_of_part h mem
    · cases List.mem_singleton.1 own
      cases List.mem_singleton.1 occurs
      rfl
    · cases List.mem_singleton.1 own
      cases List.mem_singleton.1 occurs
      rfl
    · cases own
    · cases List.mem_singleton.1 own
      cases List.mem_singleton.1 occurs
      rfl
  · rfl

theorem render_listing :
    (Grammar.standard (.escaper 0)).compile ⟨none, 0⟩ source unnamed .empty .empty = .ok template ∧
      template.body.EntersNone ∧ parameters (.map params) = .ok params ∧
      parameters (.map params') = .ok params' ∧ params.Ascending ∧ params'.Ascending ∧
      (∀ name, template.body.Reads name ∨ name = escapeKey → params.get? name = params'.get? name) ∧
      template.render bareHost (.map params) blank =
        template.render bareHost (.map params') blank :=
  have ascending := Dictionary.ascending_ofList _
  have ascending' := Dictionary.ascending_ofList _
  ⟨compile_source, entersNone, rfl, rfl, ascending, ascending', agree,
    render_congr entersNone rfl rfl ascending ascending' agree blank⟩

end Listing

end Render

end TextTemplate
