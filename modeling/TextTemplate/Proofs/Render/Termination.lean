import TextTemplate.Proofs.Render.Opening
import TextTemplate.Proofs.Tree

/-!
# Every render ends

The depth of templates in one another is no measure of a render: the body of a block is rendered
where the template stands that declares it, and `super` comes back from there.  Both go to places
that were left behind while templates were entered.  So a context is called ready, for what is to be
shown of fragments, if it holds of all that the context has saved: of the blocks of its heirs,
whatever they override, and of the bodies that are overridden.  In a ready context it holds of every
fragment, by induction on the levels that are left for templates to be entered and on the fragment
(`of_ready`).  As everything that is saved comes from a list, every context is ready, which gives an
induction on what is opened (`opens_induction`).

That every fragment ends is one use of it (`halts`).  More steps keep a finished end
(`fragment_mono`), so there is one end that all numbers of steps but some finitely many lead to.
-/

namespace TextTemplate.Render

variable {σ : Type} {host : Host σ}

/-! ## Ready contexts -/

section Ready

variable {motive : Context → Fragment → Prop}

/-- Bodies of a block for each of which the motive holds in front of those that it overrides. -/
def Ready (motive : Context → Fragment → Prop) : List Version → Prop
  | [] => True
  | v :: overridden => motive (v.context overridden) v.body ∧ Ready motive overridden

/-- Heirs for whose blocks the motive holds where they stand, whatever they override. -/
def HeirsReady (motive : Context → Fragment → Prop) : List Heir → Prop
  | [] => True
  | heir :: farther =>
    (∀ name body, heir.blocks.get? name = some body → ∀ overridden, Ready motive overridden →
      motive ⟨heir.place, farther, overridden⟩ body) ∧ HeirsReady motive farther

/-- The bodies that ready heirs declare are ready in front of ready ones. -/
theorem ready_declaredBy {name : String} {heirs : List Heir} (h : HeirsReady motive heirs)
    {overridden : List Version} (ready : Ready motive overridden) :
    Ready motive ((declaredBy name heirs).reverse ++ overridden) := by
  induction heirs generalizing overridden with
  | nil => exact ready
  | cons heir farther ih =>
    rw [declaredBy]
    cases hb : heir.blocks.get? name with
    | none => exact ih h.2 ready
    | some body =>
      simp only [List.reverse_cons, List.append_assoc, List.singleton_append]
      exact ih h.2 ⟨h.1 name body hb overridden ready, ready⟩

theorem of_takes {versions : List Version} (ready : Ready motive versions) {p : Progress σ}
    {fr : Frame σ} (takes : Takes p versions fr) : motive fr.context fr.fragment := by
  cases takes with
  | head v overridden => exact ready.1

end Ready

/-! ## What is opened from a ready context -/

theorem chosen_holds {place : Place} {clauses : List (Expression × Fragment)}
    {orelse : Option Fragment} {body : Fragment} {m m' : Memory σ}
    (h : chosen host place orelse clauses m = .ok (some body) m') :
    (Node.branch clauses orelse).Holds body := by
  suffices (∃ test, (test, body) ∈ clauses) ∨ orelse = some body by
    rcases this with ⟨test, hc⟩ | rfl
    · exact .clause hc
    · exact .orelse
  induction clauses generalizing m with
  | nil =>
    cases h
    exact .inr rfl
  | cons clause rest ih =>
    obtain ⟨test, first⟩ := clause
    rw [chosen_cons_apply] at h
    cases ht : value host place test m with
    | error fault _ => rw [ht] at h; cases h
    | ok t _ =>
      rw [ht] at h
      dsimp only at h
      split at h
      · cases h
        exact .inl ⟨test, .head _⟩
      · rcases ih h with ⟨test', hc⟩ | ho
        · exact .inl ⟨test', .tail _ hc⟩
        · exact .inr ho

theorem Iterates.exists_scope {render : Renderer σ} {ctx : Context} {target : Target}
    {body : Fragment} {items : List Value} {p : Progress σ} {fr : Frame σ}
    (iterates : Iterates render ctx target body items p fr) :
    fr.fragment = body ∧ ∃ scope, fr.context = ctx.withScope scope := by
  induction iterates with
  | head _ => exact ⟨rfl, _, rfl⟩
  | tail _ _ ih => exact ih

/-- A template that is entered leaves one level less. -/
theorem levels_lt_of_enter {t : Template} {p place : Place} (h : t.enter p = .ok place) :
    maxDepth - place.depth < maxDepth - p.depth := by
  unfold TemplateOf.enter at h
  split at h
  · cases h
  · cases h
    dsimp only
    omega

section Induction

variable {render : Renderer σ} {motive : Context → Fragment → Prop}
  (step : ∀ ctx f, (∀ p line n ctx' p' fr, Begins host render ctx f.nodes p line n ctx' p' →
    Opens host render ctx' p' n fr → motive fr.context fr.fragment) → motive ctx f)

include step

/-- In a ready context the motive holds of every fragment.  Templates that are entered leave one
level less; everything else that is opened stands in the fragment or is ready. -/
theorem of_ready (ctx : Context) (heirs : HeirsReady motive ctx.heirs)
    (overridden : Ready motive ctx.overridden) (f : Fragment) : motive ctx f := by
  refine step ctx f fun p line n ctx' p' fr begins opened => ?_
  obtain ⟨scope, rfl⟩ := begins.exists_scope
  have smaller := Fragment.sizeOf_node_lt begins.mem
  -- a body that the node holds, where the same is saved
  have inner : ∀ scope' body, n.Holds body → motive (ctx.withScope scope') body := by
    intro scope' body holds
    have := holds.sizeOf_lt
    exact of_ready (ctx.withScope scope') heirs overridden body
  cases opened with
  | branch h => exact inner scope _ (chosen_holds h)
  | loop _ _ iterates =>
    obtain ⟨hf, scope', hc⟩ := iterates.exists_scope
    rw [hf, hc]
    exact inner scope' _ .loop
  | @bind _ _ _ _ _ scope' _ _ => exact inner scope' _ .bind
  | «include» enters =>
    cases enters with
    | @intro _ _ place _ _ _ h =>
      have fewer := levels_lt_of_enter h
      exact of_ready ((ctx.withScope scope).including place) heirs overridden _
  | @extend parent blocks _ _ enters =>
    cases enters with
    | @intro _ _ place _ _ _ h =>
      have fewer := levels_lt_of_enter h
      refine of_ready ((ctx.withScope scope).extending blocks place)
        ⟨fun name body hb versions ready => ?_, heirs⟩ overridden _
      have : sizeOf body < sizeOf (Node.extend parent blocks) := (Node.Holds.declared hb).sizeOf_lt
      exact of_ready ⟨(ctx.withScope scope).place, ctx.heirs, versions⟩ heirs ready body
  | @block name body _ takes =>
    have : sizeOf body < sizeOf (Node.block name body) := Node.Holds.block.sizeOf_lt
    have own := of_ready ⟨(ctx.withScope scope).place, ctx.heirs, []⟩ heirs trivial body
    have last : Ready motive [⟨(ctx.withScope scope).place, ctx.heirs, body⟩] := ⟨own, trivial⟩
    exact of_takes (ready_declaredBy heirs last) takes
  | super takes => exact of_takes overridden takes
termination_by (maxDepth - ctx.place.depth, sizeOf f)
decreasing_by
  all_goals first
    | exact Prod.Lex.left _ _ fewer
    | exact Prod.Lex.right _ (by omega)

theorem heirsReady : ∀ heirs, HeirsReady motive heirs
  | [] => trivial
  | heir :: farther =>
    ⟨fun _ body _ versions ready =>
      of_ready step ⟨heir.place, farther, versions⟩ (heirsReady farther) ready body,
      heirsReady farther⟩

theorem ready : ∀ versions, Ready motive versions
  | [] => trivial
  | v :: overridden =>
    ⟨of_ready step (v.context overridden) (heirsReady step v.heirs) (ready overridden) v.body,
      ready overridden⟩

variable (host) (render) in
/-- **Induction on what is opened.**  What holds of a fragment in a context as soon as it holds of
all that the nodes of the fragment open, holds of every fragment in every context. -/
theorem opens_induction (ctx : Context) (f : Fragment) : motive ctx f :=
  of_ready step ctx (heirsReady step ctx.heirs) (ready step ctx.overridden) f

end Induction

/-! ## Ends -/

/-- A fragment ends in a context: from some number of steps on in one and the same way. -/
def Halts (host : Host σ) (ctx : Context) (f : Fragment) : Prop :=
  ∀ p, ∃ result, Finished result ∧ Eventually (fun steps => fragment host steps ctx f p) result

/-- A renderer that does what any number of steps ends up doing, wherever that ends. -/
def IsFinal (host : Host σ) (final : Renderer σ) : Prop :=
  ∀ ctx f, Halts host ctx f → ∀ p, Finished (final ctx f p) ∧
    Eventually (fun steps => fragment host steps ctx f p) (final ctx f p)

theorem exists_isFinal (host : Host σ) : ∃ final, IsFinal host final := by
  classical
  refine ⟨fun ctx f p => if h : Halts host ctx f then (h p).choose else .error .outOfSteps p, ?_⟩
  intro ctx f h p
  simp only [dif_pos h]
  exact (h p).choose_spec

/-- A fragment ends where all ends that its nodes open. -/
theorem halts_of_opens {final : Renderer σ} (isFinal : IsFinal host final) {ctx : Context}
    {f : Fragment} (h : ∀ p line n ctx' p' fr, Begins host final ctx f.nodes p line n ctx' p' →
      Opens host final ctx' p' n fr → Halts host fr.context fr.fragment) : Halts host ctx f := by
  intro p
  refine ⟨nodes host final f.name ctx f.nodes p, fun q out => ?_, ?_⟩
  · obtain ⟨line, n, ctx', p', fr, begins, opened, hfr⟩ := nodes_outOfSteps out
    exact (isFinal _ _ (h p line n ctx' p' fr begins opened) fr.progress).1 q hfr
  · obtain ⟨least, hl⟩ := nodes_eventually f.name fun line n ctx' p' fr begins opened =>
      (isFinal _ _ (h p line n ctx' p' fr begins opened) fr.progress).2
    refine ⟨least + 1, fun steps le => ?_⟩
    obtain ⟨steps, rfl⟩ : ∃ k, steps = k + 1 := ⟨steps - 1, by omega⟩
    exact hl steps (by omega)

/-- **Every fragment ends in every context.** -/
theorem halts (host : Host σ) (ctx : Context) (f : Fragment) : Halts host ctx f := by
  obtain ⟨final, isFinal⟩ := exists_isFinal host
  exact opens_induction host final (fun _ _ h => halts_of_opens isFinal h) ctx f

/-- More steps keep a finished end. -/
theorem fragment_mono {steps more : Nat} (le : steps ≤ more) {ctx : Context} {f : Fragment}
    {p : Progress σ} (h : Finished (fragment host steps ctx f p)) :
    fragment host more ctx f p = fragment host steps ctx f p := by
  induction steps generalizing more ctx f p with
  | zero => exact absurd rfl (h p)
  | succ steps ih =>
    obtain ⟨more, rfl⟩ : ∃ k, more = k + 1 := ⟨more - 1, by omega⟩
    refine nodes_congr f.name fun line n ctx' p' fr begins opened => ?_
    refine ih (by omega) fun q out => ?_
    exact h q (nodes_error_of_opens f.name begins opened out)

end TextTemplate.Render
