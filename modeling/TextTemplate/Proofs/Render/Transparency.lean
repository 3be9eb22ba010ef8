import TextTemplate.Proofs.Loader.Faithful
import TextTemplate.Proofs.Render.Attribution
import TextTemplate.Proofs.Render.Scope
import TextTemplate.Proofs.Value.Evaluation

/-!
# Renders that cannot tell what is cached

Two renders of twins run side by side, with loaders that are alike but keep different templates.  As
long as the first of them binds no template to a name (`BindsPlain`), both have the same scopes, and
places that are alike; each expression has alike values in both, each template that is entered in one
has a twin in the other, and what is loaded on the way leaves the loaders alike (`node_alike`).  So
both write the same, or fail with the same fault (`render_alike`).
-/

namespace TextTemplate

open Value (Paired PairedItems PairedEntries)

/-- Functions that cannot tell twins apart: for arguments that differ at most in twins they give
values that differ at most in those, or the same fault, and keep the same state. -/
def Opaque {τ : Type} (call : String → Nat → List Value → τ → Except Fault Value × τ) : Prop :=
  ∀ (R : Pairing) (name : String) (serial : Nat) (vs ws : List Value) (state : τ), R.OfTwins →
    PairedItems R vs ws →
    Ends (Paired R) (call name serial vs state).1 (call name serial ws state).1 ∧
      (call name serial vs state).2 = (call name serial ws state).2

/-- An heir that stands at an alike place. -/
structure Heir.Alike (h h' : Heir) : Prop where
  place : h.place.Alike h'.place
  blocks : h.blocks = h'.blocks

/-- A body that is rendered at an alike place. -/
structure Version.Alike (v v' : Version) : Prop where
  place : v.place.Alike v'.place
  heirs : List.Forall₂ Heir.Alike v.heirs v'.heirs
  body : v.body = v'.body

/-- Contexts that differ at most in twins. -/
structure Context.Alike (ctx ctx' : Context) : Prop where
  place : ctx.place.Alike ctx'.place
  heirs : List.Forall₂ Heir.Alike ctx.heirs ctx'.heirs
  overridden : List.Forall₂ Version.Alike ctx.overridden ctx'.overridden

/-- Alike loaders, and the same state of all functions. -/
structure World.Alike {τ : Type} (w w' : World τ) : Prop where
  loaders : w.loaders.Alike w'.loaders
  state : w.state = w'.state

/-- As many functions found, in alike worlds. -/
structure Memory.Alike {τ : Type} (m m' : Memory (World τ)) : Prop where
  found : m.found = m'.found
  store : m.store.Alike m'.store

/-- The same output, with alike memories. -/
structure Progress.Alike {τ : Type} (p q : Progress (World τ)) : Prop where
  output : p.output = q.output
  memory : p.memory.Alike q.memory

/-- One scope, without templates. -/
def SameScope (scope scope' : Dictionary Value) : Prop := scope = scope' ∧ PlainScope scope

/-! ## Contexts -/

theorem Context.Alike.withScope {ctx ctx' : Context} (alike : ctx.Alike ctx')
    {scope : Dictionary Value} (plain : PlainScope scope) :
    (ctx.withScope scope).Alike (ctx'.withScope scope) where
  place := alike.place.withScope plain
  heirs := alike.heirs
  overridden := alike.overridden

theorem Context.Alike.sameScope {ctx ctx' : Context} (alike : ctx.Alike ctx') :
    SameScope ctx.place.scope ctx'.place.scope := ⟨alike.place.scope, alike.place.plain⟩

/-- Alike heirs declare alike bodies. -/
theorem declaredBy_alike {heirs heirs' : List Heir} (h : List.Forall₂ Heir.Alike heirs heirs')
    (name : String) : List.Forall₂ Version.Alike (declaredBy name heirs) (declaredBy name heirs') := by
  induction h with
  | nil => exact .nil
  | cons first rest ih =>
    unfold declaredBy
    rw [← first.blocks]
    split
    · exact .cons ⟨first.place, rest, rfl⟩ ih
    · exact ih

theorem Context.Alike.versions {ctx ctx' : Context} (alike : ctx.Alike ctx') (name : String)
    (body : Fragment) :
    List.Forall₂ Version.Alike (ctx.versions name body) (ctx'.versions name body) := by
  unfold Context.versions
  refine List.rel_append (List.forall₂_reverse_iff.2 (declaredBy_alike alike.heirs name)) ?_
  exact .cons ⟨alike.place, alike.heirs, rfl⟩ .nil

/-! ## Binding -/

theorem zip_eq_of_plain {names : List String} {items items' : List Value}
    (alike : List.Forall₂ Value.Alike items items')
    (plain : ∀ e ∈ names.zip items, e.2.Plain) : names.zip items' = names.zip items := by
  induction alike generalizing names with
  | nil => rfl
  | cons first _ ih =>
    cases names with
    | nil => rfl
    | cons name names =>
      rw [List.zip_cons_cons, List.zip_cons_cons, first.eq_of_plain (plain _ (.head _)),
        ih fun e mem => plain e (.tail _ mem)]

/-- Binding plain values leaves one scope in both renders. -/
theorem Target.bind_alike {target : Target} {v w : Value} (alike : v.Alike w)
    {scope : Dictionary Value} (before : PlainScope scope)
    (plain : ∀ entries, target.Gives v entries → ∀ e ∈ entries, e.2.Plain) :
    Ends SameScope (target.bind v scope) (target.bind w scope) := by
  cases target with
  | name n =>
    have here := plain _ (.name n v)
    rw [alike.eq_of_plain (here _ (.head _))]
    exact .ok ⟨rfl, before.assign here⟩
  | unpack names =>
    unfold Target.bind
    have items := alike.iterate
    cases hv : v.iterate with
    | error cause =>
      rw [hv] at items
      generalize w.iterate = y at items ⊢
      cases items with | error _ => exact .error _
    | ok items₁ =>
      rw [hv] at items
      generalize w.iterate = y at items ⊢
      cases items with
      | @ok _ items₂ items =>
        dsimp only
        rw [items.length_eq]
        split
        · exact .error _
        · split
          · exact .error _
          · rename_i few many
            have here := plain _ (.unpack hv (by have := items.length_eq; omega))
            unfold bindItems
            rw [zip_eq_of_plain items here]
            exact .ok ⟨rfl, before.assign here⟩

namespace Render

/-! ## Renders that bind no template -/

section

variable {σ : Type}

/-- What a node binds to names. -/
inductive Binds (host : Host σ) (render : Renderer σ) (ctx : Context) (p : Progress σ) :
    Node → List (String × Value) → Prop
  | assign {target : Target} {e : Expression} {v : Value} {m : Memory σ}
      {entries : List (String × Value)} :
      value host ctx.place e p.memory = .ok v m → target.Gives v entries →
      Binds host render ctx p (.assign target e) entries
  | bind {target : Target} {e : Expression} {body : Fragment} {v : Value} {m : Memory σ}
      {entries : List (String × Value)} :
      value host ctx.place e p.memory = .ok v m → target.Gives v entries →
      Binds host render ctx p (.bind target e body) entries
  /-- An item, behind the iterations for those before it. -/
  | loop {target : Target} {e : Expression} {body : Fragment} {v item : Value}
      {before after : List Value} {m : Memory σ} {q : Progress σ}
      {entries : List (String × Value)} :
      value host ctx.place e p.memory = .ok v m → v.iterate = .ok (before ++ item :: after) →
      each render ctx target body before (p.withMemory m) = .ok () q → target.Gives item entries →
      Binds host render ctx p (.loop target e body) entries

/-- At no moment of a render a value is bound that is a template, or holds one. -/
def BindsPlain (host : Host σ) (root : Frame σ) : Prop :=
  ∀ stack fr, Open host root stack fr →
    ∀ line n ctx p, Begins host (whole host) fr.context fr.fragment.nodes fr.progress line n ctx p →
    ∀ entries, Binds host (whole host) ctx p n entries → ∀ e ∈ entries, e.2.Plain

/-- What is opened binds no template either. -/
theorem BindsPlain.opened {host : Host σ} {root fr : Frame σ} {e : Pending}
    (binds : BindsPlain host root) (opened : Opened host root e fr) : BindsPlain host fr :=
  fun stack fr' moment => binds (stack ++ [e]) fr' (Open.under opened moment)

end

variable {τ : Type} {call : String → Nat → List Value → τ → Except Fault Value × τ}

/-! ## Steps -/

theorem ofExcept_alike {α α' : Type} {r : α → α' → Prop} {x : Except Fault α} {y : Except Fault α'}
    (h : Ends r x y) {p q : Progress (World τ)} (alike : p.Alike q) :
    EndsIn Progress.Alike r (ofExcept x p) (ofExcept y q) := by
  rw [ofExcept_apply, ofExcept_apply]
  cases h with
  | ok h => exact .ok h alike
  | error fault => exact .error _ alike

theorem evaluate_alike {α α' : Type} {r : α → α' → Prop} {step : Evaluation (World τ) α}
    {step' : Evaluation (World τ) α'} (steps : Lockstep Memory.Alike r step step')
    {p q : Progress (World τ)} (alike : p.Alike q) :
    EndsIn Progress.Alike r (evaluate step p) (evaluate step' q) := by
  have ends := steps _ _ alike.memory
  rw [evaluate_apply, evaluate_apply]
  generalize step p.memory = x, step' q.memory = y at ends ⊢
  cases ends with
  | ok h memories => exact .ok h ⟨alike.output, memories⟩
  | error fault memories => exact .error _ ⟨alike.output, memories⟩

theorem write_alike (text : String) {p q : Progress (World τ)} (alike : p.Alike q) :
    EndsIn Progress.Alike (fun _ _ => True) (write text p) (write text q) :=
  .ok trivial ⟨congrArg (· ++ text) alike.output, alike.memory⟩

/-- A step of alike worlds that ends alike. -/
theorem onStore_alike {α α' : Type} {r : α → α' → Prop}
    {step : World τ → Except Fault α × World τ} {step' : World τ → Except Fault α' × World τ}
    (h : ∀ w w', w.Alike w' → Ends r (step w).1 (step' w').1 ∧ (step w).2.Alike (step' w').2) :
    Lockstep Memory.Alike r (Evaluation.onStore step) (Evaluation.onStore step') := by
  intro m m' alike
  obtain ⟨results, left⟩ := h _ _ alike.store
  unfold Evaluation.onStore
  generalize step m.store = x, step' m'.store = y at results left ⊢
  obtain ⟨result, store⟩ := x
  obtain ⟨result', store'⟩ := y
  cases results with
  | ok h => exact .ok h ⟨alike.found, left⟩
  | error fault => exact .error fault ⟨alike.found, left⟩

/-- Alike places are paired environments. -/
theorem environment_paired (opaq : Opaque call) {place place' : Place}
    (alike : place.Alike place') :
    ∃ R : Pairing, R.OfTwins ∧ (place.environment (Loaders.host call).call).Paired R Memory.Alike
      (place'.environment (Loaders.host call).call) := by
  obtain ⟨R, twins, paired⟩ := alike.exists_pairing
  refine ⟨R, twins, paired, fun same => (twins.serial _ _).2 same.found,
    fun same => ⟨congrArg (· + 1) same.found, same.store⟩, fun name serial vs ws args => ?_⟩
  refine onStore_alike fun w w' worlds => ?_
  obtain ⟨results, left⟩ := opaq R name serial vs ws w.state twins args
  rw [show w.state = w'.state from worlds.state] at results left
  unfold Loaders.host World.onState Place.environment
  dsimp only
  rw [worlds.state]
  exact ⟨results, worlds.loaders, left⟩

theorem value_alike (opaq : Opaque call) {place place' : Place} (alike : place.Alike place')
    (e : Expression) :
    Lockstep Memory.Alike Value.Alike (value (Loaders.host call) place e)
      (value (Loaders.host call) place' e) := by
  obtain ⟨R, twins, paired⟩ := environment_paired opaq alike
  exact fun m m' memories => (e.eval_paired twins.agrees paired m m' memories).mono
    (fun _ _ values => ⟨R, twins, values⟩) fun _ _ => id

theorem eval_alike (opaq : Opaque call) {place place' : Place} (alike : place.Alike place')
    (e : Expression) {p q : Progress (World τ)} (behind : p.Alike q) :
    EndsIn Progress.Alike Value.Alike (eval (Loaders.host call) place e p)
      (eval (Loaders.host call) place' e q) :=
  evaluate_alike (value_alike opaq alike e) behind

/-- Values that differ at most in twins stand for twins. -/
theorem resolve_alike {place place' : Place} (alike : place.Alike place') {v w : Value}
    (values : v.Alike w) {p q : Progress (World τ)} (behind : p.Alike q) :
    EndsIn Progress.Alike TemplateOf.Twin (resolve (Loaders.host call) place v p)
      (resolve (Loaders.host call) place' w q) := by
  obtain ⟨R, twins, paired⟩ := values
  cases paired with
  | template paired => exact .ok (twins.twin paired) behind
  | text name =>
    unfold resolve
    dsimp only
    rw [← alike.loader?_eq]
    cases place.loader? with
    | none => exact .error _ behind
    | some id =>
      refine evaluate_alike (onStore_alike fun w w' worlds => ?_) behind
      obtain ⟨loaded, left⟩ := worlds.loaders.load id name
      exact ⟨loaded, left, worlds.state⟩
  | _ => exact .error _ behind

theorem writeEscaped_alike (opaq : Opaque call) {place place' : Place} (alike : place.Alike place')
    {v w : Value} (values : v.Alike w) {p q : Progress (World τ)} (behind : p.Alike q) :
    EndsIn Progress.Alike (fun _ _ => True) (writeEscaped (Loaders.host call) place v p)
      (writeEscaped (Loaders.host call) place' w q) := by
  unfold writeEscaped
  rw [← alike.escape?_eq, values.display_eq]
  cases place.escape? with
  | none => exact write_alike _ behind
  | some f =>
    obtain ⟨R, twins, paired⟩ := environment_paired opaq alike
    have same : f.Paired R f := .refl twins.serial f
    have escaped := same.call twins.agrees paired (.cons (.text w.display) .nil)
    refine EndsIn.bind (evaluate_alike escaped behind) fun _ _ _ _ _ _ texts behind => ?_
    rw [texts.display_eq twins.agrees]
    exact write_alike _ behind

theorem chosen_alike (opaq : Opaque call) {place place' : Place} (alike : place.Alike place')
    (orelse : Option Fragment) (clauses : List (Expression × Fragment)) :
    Lockstep Memory.Alike (· = ·) (chosen (Loaders.host call) place orelse clauses)
      (chosen (Loaders.host call) place' orelse clauses) := by
  induction clauses with
  | nil => exact .pure rfl
  | cons clause rest ih =>
    obtain ⟨test, body⟩ := clause
    refine Lockstep.bind (value_alike opaq alike test) fun t _ tests => ?_
    rw [tests.isTruthy_eq]
    split
    · exact .pure rfl
    · exact ih

/-! ## Nodes -/

/-- A frame ends as it does in alike contexts. -/
def Mirrored (render : Renderer (World τ)) (fr : Frame (World τ)) : Prop :=
  ∀ ctx' q, fr.context.Alike ctx' → fr.progress.Alike q →
    EndsIn Progress.Alike SameScope (resume render fr) (resume render ⟨ctx', fr.fragment, q⟩)

section Nodes

variable {render : Renderer (World τ)} {ctx ctx' : Context} {p q : Progress (World τ)}

/-- A node that ends in its own scope. -/
theorem own_scope_alike (alike : ctx.Alike ctx') {α α' : Type} {r : α → α' → Prop}
    {m : Render (World τ) α} {m' : Render (World τ) α'} (h : EndsIn Progress.Alike r (m p) (m' q)) :
    EndsIn Progress.Alike SameScope ((m >>= fun _ => pure ctx.place.scope) p)
      ((m' >>= fun _ => pure ctx'.place.scope) q) :=
  EndsIn.bind h fun _ _ _ _ _ _ _ behind => .ok alike.sameScope behind

variable (alike : ctx.Alike ctx') (behind : p.Alike q)
include alike behind

theorem bound_alike {target : Target} {body : Fragment} {v w : Value} (values : v.Alike w)
    (plain : ∀ entries, target.Gives v entries → ∀ e ∈ entries, e.2.Plain)
    (inside : ∀ scope, target.bind v ctx.place.scope = .ok scope →
      Mirrored render ⟨ctx.withScope scope, body, p⟩) :
    EndsIn Progress.Alike (fun _ _ => True) (bound render ctx target body v p)
      (bound render ctx' target body w q) := by
  have scopes := target.bind_alike values alike.place.plain plain
  unfold bound
  rw [← alike.place.scope]
  refine EndsIn.bind (ofExcept_alike scopes behind) fun scope scope' p' q' left _ same behind => ?_
  obtain ⟨bound, rfl⟩ := ofExcept_eq_ok.1 left
  obtain ⟨rfl, plain⟩ := same
  exact EndsIn.bind (inside scope bound _ _ (alike.withScope plain) behind)
    fun _ _ _ _ _ _ _ behind => .ok trivial behind

theorem each_alike {target : Target} {body : Fragment} {vs ws : List Value}
    (values : List.Forall₂ Value.Alike vs ws)
    (plain : ∀ before item after p', vs = before ++ item :: after →
      each render ctx target body before p = .ok () p' →
      ∀ entries, target.Gives item entries → ∀ e ∈ entries, e.2.Plain)
    (inside : ∀ fr, Iterates render ctx target body vs p fr →
      Mirrored render fr) :
    EndsIn Progress.Alike (fun _ _ => True) (each render ctx target body vs p)
      (each render ctx' target body ws q) := by
  induction values generalizing p q with
  | nil => exact .ok trivial behind
  | @cons v w vs ws first _ ih =>
    have now := bound_alike alike behind first (plain [] v vs p rfl rfl)
      fun scope bound => inside _ (.head bound)
    refine EndsIn.bind now fun _ _ p' q' left _ _ behind => ?_
    refine ih behind (fun before item after p'' same run => ?_) fun fr iterates =>
      inside fr (.tail left iterates)
    refine plain (v :: before) item after p'' (by rw [same]; rfl) ?_
    rw [each_cons_apply, left]
    exact run

theorem entering_alike (opaq : Opaque call) (e : Expression) {inside inside' : Place → Context}
    (alikeInside : ∀ place place', place.Alike place' → (inside place).Alike (inside' place'))
    (mirrored : ∀ t fr, Enters (Loaders.host call) ctx p e inside t fr → Mirrored render fr) :
    EndsIn Progress.Alike SameScope
      (entering (Loaders.host call) ctx render e inside p)
      (entering (Loaders.host call) ctx' render e inside' q) := by
  refine EndsIn.bind (eval_alike opaq alike.place e behind) fun v w p₁ q₁ got _ values behind => ?_
  obtain ⟨m, hv, rfl⟩ := evaluate_eq_ok.1 got
  refine EndsIn.bind (resolve_alike alike.place values behind) fun s t p₂ q₂ hs _ twin behind => ?_
  refine EndsIn.bind (ofExcept_alike (alike.place.enter_alike twin) behind)
    fun place place' p₃ q₃ entered _ places behind => ?_
  obtain ⟨hp, rfl⟩ := ofExcept_eq_ok.1 entered
  rw [← twin.body_eq]
  have inner := mirrored s _ (.intro hv hs hp) _ _ (alikeInside _ _ places) behind
  exact own_scope_alike alike inner

omit alike in
theorem version_alike {versions versions' : List Version}
    (h : List.Forall₂ Version.Alike versions versions')
    (mirrored : ∀ fr, Takes p versions fr → Mirrored render fr) :
    EndsIn Progress.Alike (fun _ _ => True) (version render versions p)
      (version render versions' q) := by
  cases h with
  | nil => exact .ok trivial behind
  | @cons v v' overridden overridden' first rest =>
    rw [version, version, ← first.body]
    have inner := mirrored _ (.head v overridden) (v'.context overridden') q
      ⟨first.place, first.heirs, rest⟩ behind
    exact EndsIn.bind inner fun _ _ _ _ _ _ _ behind => .ok trivial behind

/-- **A node ends alike** if it binds no template, and all that it opens ends alike. -/
theorem node_alike (opaq : Opaque call) (n : Node)
    (plain : ∀ entries, Binds (Loaders.host call) render ctx p n entries →
      ∀ e ∈ entries, e.2.Plain)
    (mirrored : ∀ fr, Opens (Loaders.host call) render ctx p n fr →
      Mirrored render fr) :
    EndsIn Progress.Alike SameScope (node (Loaders.host call) render ctx n p)
      (node (Loaders.host call) render ctx' n q) := by
  cases n with
  | text text => exact own_scope_alike alike (write_alike text behind)
  | output e =>
    refine EndsIn.bind (eval_alike opaq alike.place e behind) fun _ _ _ _ _ _ values behind => ?_
    exact own_scope_alike alike (writeEscaped_alike opaq alike.place values behind)
  | print e =>
    refine EndsIn.bind (eval_alike opaq alike.place e behind) fun _ _ _ _ _ _ values behind => ?_
    rw [values.display_eq]
    exact own_scope_alike alike (write_alike _ behind)
  | assign target e =>
    refine EndsIn.bind (eval_alike opaq alike.place e behind) fun _ _ _ _ got _ values behind => ?_
    obtain ⟨m, hv, rfl⟩ := evaluate_eq_ok.1 got
    rw [← alike.place.scope]
    exact ofExcept_alike (target.bind_alike values alike.place.plain
      fun entries gives => plain entries (.assign hv gives)) behind
  | branch clauses orelse =>
    show EndsIn _ _ (branch _ _ ctx orelse clauses p) (branch _ _ ctx' orelse clauses q)
    rw [branch_apply, branch_apply]
    have choose := chosen_alike opaq alike.place orelse clauses _ _ behind.memory
    generalize hc : chosen (Loaders.host call) ctx.place orelse clauses p.memory = x,
      chosen (Loaders.host call) ctx'.place orelse clauses q.memory = y at choose ⊢
    cases choose with
    | error fault memories => exact .error _ ⟨behind.output, memories⟩
    | @ok body _ m m' same memories =>
      cases same
      have behind : (p.withMemory m).Alike (q.withMemory m') := ⟨behind.output, memories⟩
      cases body with
      | none => exact .ok alike.sameScope behind
      | some body => exact mirrored _ (.branch hc) ctx' _ alike behind
  | loop target e body =>
    refine EndsIn.bind (eval_alike opaq alike.place e behind) fun v w _ _ got _ values behind => ?_
    obtain ⟨m, hv, rfl⟩ := evaluate_eq_ok.1 got
    have elements := evaluate_alike values.iterate.operate behind
    refine EndsIn.bind elements fun vs ws _ _ taken _ items behind => ?_
    obtain ⟨hi, rfl⟩ := items_eq_ok.1 taken
    refine own_scope_alike alike (each_alike alike behind items ?_ ?_)
    · rintro before item after p' rfl run entries gives
      exact plain entries (.loop hv hi run gives)
    · exact fun fr iterates => mirrored fr (.loop hv hi iterates)
  | bind target e body =>
    refine EndsIn.bind (eval_alike opaq alike.place e behind) fun v w _ _ got _ values behind => ?_
    obtain ⟨m, hv, rfl⟩ := evaluate_eq_ok.1 got
    refine own_scope_alike alike (bound_alike alike behind values ?_ ?_)
    · exact fun entries gives => plain entries (.bind hv gives)
    · exact fun scope bound => mirrored _ (.bind hv bound)
  | «include» e =>
    have inside : ∀ place place', place.Alike place' →
        (ctx.including place).Alike (ctx'.including place') :=
      fun _ _ places => ⟨places, alike.heirs, alike.overridden⟩
    exact entering_alike alike behind opaq e inside fun t fr enters => mirrored fr (.include enters)
  | block name body =>
    exact own_scope_alike alike (version_alike behind (alike.versions name body)
      fun fr takes => mirrored fr (.block takes))
  | extend parent blocks =>
    exact entering_alike alike behind opaq parent
      (fun _ _ places => ⟨places, .cons ⟨alike.place, rfl⟩ alike.heirs, alike.overridden⟩)
      fun t fr enters => mirrored fr (.extend enters)
  | super =>
    exact own_scope_alike alike (version_alike behind alike.overridden
      fun fr takes => mirrored fr (.super takes))

theorem nodes_alike (opaq : Opaque call) (template : String) {list : List (Nat × Node)}
    (plain : ∀ line n c p', Begins (Loaders.host call) render ctx list p line n c p' →
      ∀ entries, Binds (Loaders.host call) render c p' n entries → ∀ e ∈ entries, e.2.Plain)
    (mirrored : ∀ line n c p' fr, Begins (Loaders.host call) render ctx list p line n c p' →
      Opens (Loaders.host call) render c p' n fr → Mirrored render fr) :
    EndsIn Progress.Alike SameScope (nodes (Loaders.host call) render template ctx list p)
      (nodes (Loaders.host call) render template ctx' list q) := by
  induction list generalizing ctx ctx' p q with
  | nil => exact .ok alike.sameScope behind
  | cons first rest ih =>
    obtain ⟨line, n⟩ := first
    have now := node_alike alike behind opaq n (plain line n ctx p .head)
      fun fr opens => mirrored line n ctx p fr .head opens
    rw [nodes_cons_apply, nodes_cons_apply]
    cases hn : node (Loaders.host call) render ctx n p with
    | error stop p₁ =>
      rw [hn] at now
      generalize node (Loaders.host call) render ctx' n q = y at now ⊢
      cases now with
      | error _ behind => cases stop <;> exact .error _ behind
    | ok scope p₁ =>
      rw [hn] at now
      generalize node (Loaders.host call) render ctx' n q = y at now ⊢
      cases now with
      | ok same behind =>
        obtain ⟨rfl, plainScope⟩ := same
        exact ih (alike.withScope plainScope) behind
          (fun line n c p' begins => plain line n c p' (.tail hn begins))
          fun line n c p' fr begins => mirrored line n c p' fr (.tail hn begins)

end Nodes

/-! ## Whole renders -/

/-- A frame that binds no template ends as it does in alike contexts. -/
theorem whole_mirrored (opaq : Opaque call) (ctx : Context) (f : Fragment) (p : Progress (World τ))
    (binds : BindsPlain (Loaders.host call) ⟨ctx, f, p⟩) :
    Mirrored (whole (Loaders.host call)) ⟨ctx, f, p⟩ := by
  refine opens_induction (Loaders.host call) (whole (Loaders.host call))
    (motive := fun ctx f => ∀ p, BindsPlain (Loaders.host call) ⟨ctx, f, p⟩ →
      Mirrored (whole (Loaders.host call)) ⟨ctx, f, p⟩) (fun ctx f inside p binds => ?_) ctx f p binds
  intro ctx' q alike behind
  rw [resume, resume, whole_eq, whole_eq]
  refine nodes_alike alike behind opaq f.name (binds [] _ .root) ?_
  intro line n c p' fr begins opens
  have opened : Opened (Loaders.host call) ⟨ctx, f, p⟩
      ⟨n, c, entered? (Loaders.host call) c p' n, fr.context⟩ fr :=
    ⟨line, p', begins, opens, rfl, rfl⟩
  exact inside p line n c p' fr begins opens fr.progress (binds.opened opened)

end Render

/-- What stands in a plain value as parameters. -/
theorem plainScope_of_parameters {params : Value} (plain : params.Plain) {entries : Dictionary Value}
    (h : parameters params = .ok entries) : PlainScope entries := by
  cases params with
  | null => cases h; exact fun _ mem => nomatch mem
  | map d => cases h; exact plainScope_of_map plain
  | _ => cases h

/-- Twins are rendered in alike contexts. -/
theorem TemplateOf.context_alike {s t : Template} (twin : s.Twin t) {params : Dictionary Value}
    (plain : PlainScope params) : (s.context params).Alike (t.context params) := by
  have entries := twin.entries
  cases twin with
  | intro _ empty empty' =>
    have none : PlainScope .empty := fun _ mem => nomatch mem
    refine ⟨⟨?_, ?_, rfl, entries⟩, .nil, .nil⟩
    · show s.defaults.overlay params = t.defaults.overlay params
      rw [empty, empty']
    · show PlainScope (s.defaults.overlay params)
      rw [empty]
      exact none.assign plain

namespace Render

theorem outcome_alike {α α' : Type} {r : α → α' → Prop}
    {x : EStateM.Result Stop (Progress (World τ)) α} {y : EStateM.Result Stop (Progress (World τ)) α'}
    (h : EndsIn Progress.Alike r x y) :
    (outcome x).1 = (outcome y).1 ∧ (outcome x).2.Alike (outcome y).2 := by
  cases h with
  | ok _ behind => exact ⟨congrArg Except.ok behind.output, behind.memory⟩
  | error stop behind => exact ⟨rfl, behind.memory⟩

theorem renderWith_alike {render : Renderer (World τ)} {s t : Template} (twin : s.Twin t)
    {params : Value} (plain : params.Plain) {m m' : Memory (World τ)} (alike : m.Alike m')
    (mirrored : ∀ entries, parameters params = .ok entries →
      Mirrored render (s.start entries m)) :
    (s.renderWith render params m).1 = (t.renderWith render params m').1 ∧
      (s.renderWith render params m).2.Alike (t.renderWith render params m').2 := by
  unfold TemplateOf.renderWith
  cases h : parameters params with
  | error fault => exact ⟨rfl, alike⟩
  | ok entries =>
    have contexts := TemplateOf.context_alike twin (plainScope_of_parameters plain h)
    dsimp only
    rw [← twin.body_eq]
    exact outcome_alike (mirrored entries h (t.context entries) ⟨"", m'⟩ contexts ⟨rfl, alike⟩)

/-- **Twins are rendered to the same text or fault**, whatever alike loaders keep, and leave alike
loaders behind. -/
theorem render_alike {call : String → Nat → List Value → τ → Except Fault Value × τ}
    (opaq : Opaque call) {s t : Template} (twin : s.Twin t) {params : Value} (plain : params.Plain)
    {m m' : Memory (World τ)} (alike : m.Alike m')
    (binds : ∀ entries, parameters params = .ok entries →
      BindsPlain (Loaders.host call) (s.start entries m)) :
    (s.render (Loaders.host call) params m).1 = (t.render (Loaders.host call) params m').1 ∧
      (s.render (Loaders.host call) params m).2.Alike (t.render (Loaders.host call) params m').2 :=
  renderWith_alike twin plain alike fun entries h => whole_mirrored opaq _ _ _ (binds entries h)

end Render

end TextTemplate
