import TextTemplate.Proofs.Render.Moment

/-!
# What holds of all that is saved

A context saves places with bodies that are rendered there later: the blocks of the heirs, and the
bodies that the current one overrides.  A property of places and fragments is kept by a frame if it
holds of its fragment where it stands and of everything that is saved.  Whatever the frame opens
keeps it too, as long as it passes to the bodies that a node holds and holds of templates that are
entered (`opens_keeps`); so it holds at every moment of a render (`open_keeps`).
-/

namespace TextTemplate

variable {σ : Type}

/-- Heirs of whose blocks a property holds where they stand. -/
def HeirsSave (P : Place → List Heir → Fragment → Prop) : List Heir → Prop
  | [] => True
  | heir :: farther =>
    (∀ name body, heir.blocks.get? name = some body → P heir.place farther body) ∧
      HeirsSave P farther

/-- A body of which a property holds, with all that is saved for it. -/
structure Version.Saves (P : Place → List Heir → Fragment → Prop) (v : Version) : Prop where
  body : P v.place v.heirs v.body
  heirs : HeirsSave P v.heirs

/-- A context that saves only what a property holds of. -/
structure Context.Saves (P : Place → List Heir → Fragment → Prop) (ctx : Context) : Prop where
  heirs : HeirsSave P ctx.heirs
  overridden : ∀ v ∈ ctx.overridden, v.Saves P

/-- A frame of which a property holds, with all that is saved for it. -/
structure Frame.Keeps (P : Place → List Heir → Fragment → Prop) (fr : Frame σ) : Prop where
  here : P fr.context.place fr.context.heirs fr.fragment
  saved : fr.context.Saves P

/-- The scopes in which a node renders the bodies that it holds: its own one, and for a node that
binds names also those with the names bound. -/
inductive Node.Scopes (own : Dictionary Value) : Node → Dictionary Value → Prop
  | own (n : Node) : Scopes own n own
  | loop {target : Target} {e : Expression} {body : Fragment} {v : Value}
      {scope : Dictionary Value} :
      target.bind v own = .ok scope → Scopes own (.loop target e body) scope
  | bind {target : Target} {e : Expression} {body : Fragment} {v : Value}
      {scope : Dictionary Value} :
      target.bind v own = .ok scope → Scopes own (.bind target e body) scope

theorem declaredBy_saves {P : Place → List Heir → Fragment → Prop} {name : String}
    {heirs : List Heir} (h : HeirsSave P heirs) : ∀ v ∈ declaredBy name heirs, v.Saves P := by
  induction heirs with
  | nil => intro v hv; cases hv
  | cons heir farther ih =>
    rw [declaredBy]
    cases hb : heir.blocks.get? name with
    | none => exact ih h.2
    | some body =>
      intro v hv
      cases hv with
      | head => exact ⟨h.1 name body hb, h.2⟩
      | tail _ hv => exact ih h.2 v hv

theorem Context.Saves.versions {P : Place → List Heir → Fragment → Prop} {ctx : Context}
    (saved : ctx.Saves P) {name : String} {body : Fragment} (own : P ctx.place ctx.heirs body) :
    ∀ v ∈ ctx.versions name body, v.Saves P := by
  intro v hv
  rcases List.mem_append.1 hv with hv | hv
  · exact declaredBy_saves saved.heirs v (List.mem_reverse.1 hv)
  · cases List.mem_singleton.1 hv
    exact ⟨own, saved.heirs⟩

/-- At the start of a render nothing is saved. -/
theorem TemplateOf.start_keeps {P : Place → List Heir → Fragment → Prop} {t : Template}
    {params : Dictionary Value} {memory : Memory σ} (here : P (t.context params).place [] t.body) :
    (t.start params memory).Keeps P where
  here := here
  saved := ⟨trivial, fun _ h => (List.not_mem_nil h).elim⟩

namespace Render

variable {host : Host σ} {render : Renderer σ} {P : Place → List Heir → Fragment → Prop}

theorem Takes.keeps {p : Progress σ} {versions : List Version} {fr : Frame σ}
    (takes : Takes p versions fr) (h : ∀ v ∈ versions, v.Saves P) : fr.Keeps P := by
  cases takes with
  | head v overridden =>
    have first := h v (.head _)
    exact ⟨first.body, first.heirs, fun w hw => h w (.tail _ hw)⟩

theorem Iterates.exists_bind {ctx : Context} {target : Target} {body : Fragment}
    {items : List Value} {p : Progress σ} {fr : Frame σ}
    (iterates : Iterates render ctx target body items p fr) :
    ∃ v scope, target.bind v ctx.place.scope = .ok scope ∧ fr.context = ctx.withScope scope ∧
      fr.fragment = body := by
  induction iterates with
  | head h => exact ⟨_, _, h, rfl, rfl⟩
  | tail _ _ ih => exact ih

/-- What a node opens keeps a property that its context saves. -/
theorem opens_keeps {ctx : Context} {p : Progress σ} {n : Node} {fr : Frame σ}
    (saved : ctx.Saves P)
    (inner : ∀ body scope, n.Holds body → n.Scopes ctx.place.scope scope →
      P (ctx.withScope scope).place ctx.heirs body)
    (entered : ∀ t fr', EntersAt host ctx p n t fr' →
      P fr'.context.place fr'.context.heirs t.body)
    (opened : Opens host render ctx p n fr) : fr.Keeps P := by
  have own : ∀ body, n.Holds body → P ctx.place ctx.heirs body := fun body holds =>
    inner body ctx.place.scope holds (.own n)
  cases opened with
  | branch h => exact ⟨own _ (chosen_holds h), saved.heirs, saved.overridden⟩
  | loop _ _ iterates =>
    obtain ⟨v, scope, bound, hc, hf⟩ := iterates.exists_bind
    obtain ⟨context, fragment, progress⟩ := fr
    obtain rfl : context = ctx.withScope scope := hc
    obtain rfl : fragment = _ := hf
    exact ⟨inner _ scope .loop (.loop bound), saved.heirs, saved.overridden⟩
  | bind _ bound => exact ⟨inner _ _ .bind (.bind bound), saved.heirs, saved.overridden⟩
  | «include» enters =>
    have here := entered _ _ (.include enters)
    cases enters with
    | intro => exact ⟨here, saved.heirs, saved.overridden⟩
  | extend enters =>
    have here := entered _ _ (.extend enters)
    cases enters with
    | intro =>
      exact ⟨here, ⟨fun _ body hb => own body (.declared hb), saved.heirs⟩, saved.overridden⟩
  | block takes => exact takes.keeps (saved.versions (own _ .block))
  | super takes => exact takes.keeps saved.overridden

theorem withScope_saves {ctx : Context} (saved : ctx.Saves P) (scope : Dictionary Value) :
    (ctx.withScope scope).Saves P := ⟨saved.heirs, saved.overridden⟩

/-- **What is kept is kept at every moment.**  It is enough that a property passes from a fragment
to the bodies in it, in the scopes that these get, and that it holds of templates that are entered.
Only those moments count at which nodes are open that are allowed. -/
theorem open_keeps {root : Frame σ} {allowed : Pending → Prop} (start : root.Keeps P)
    (inner : ∀ fr : Frame σ, P fr.context.place fr.context.heirs fr.fragment → ∀ line n ctx p,
      Begins host (whole host) fr.context fr.fragment.nodes fr.progress line n ctx p →
      ∀ body scope, n.Holds body → n.Scopes ctx.place.scope scope →
        P (ctx.withScope scope).place ctx.heirs body)
    (entered : ∀ fr : Frame σ, P fr.context.place fr.context.heirs fr.fragment → ∀ line n ctx p,
      Begins host (whole host) fr.context fr.fragment.nodes fr.progress line n ctx p →
      ∀ t fr', EntersAt host ctx p n t fr' → allowed ⟨n, ctx, some t, fr'.context⟩ →
        P fr'.context.place fr'.context.heirs t.body)
    {stack : List Pending} {fr : Frame σ} (moment : Open host root stack fr)
    (all : ∀ e ∈ stack, allowed e) : fr.Keeps P := by
  induction moment with
  | root => exact start
  | @inside stack fr fr' e moment opened ih =>
    have before := ih fun e he => all e (.tail _ he)
    have now := all e (.head _)
    obtain ⟨n, ctx, template, inside⟩ := e
    obtain ⟨line, p, begins, opens, same, rfl⟩ := opened
    obtain ⟨scope, hc⟩ := begins.exists_scope
    obtain rfl : ctx = fr.context.withScope scope := hc
    refine opens_keeps (withScope_saves before.saved scope)
      (inner fr before.here line n _ p begins) (fun t fr'' enters => ?_) opens
    obtain rfl := enters.unique opens
    rw [enters.entered?_eq] at same
    subst same
    exact entered fr before.here line n _ p begins t fr'' enters now

end Render

end TextTemplate
