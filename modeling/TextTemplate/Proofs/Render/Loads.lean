import TextTemplate.Proofs.Render.Parallel
import TextTemplate.Proofs.Value.Evaluation

/-!
# What a render asks for

A render changes what is kept outside only by loading templates and by calling functions of the
program.  `Host.recording` notes each such demand; a render with it gives the same text or fault
(`render_recording`), and behind a render there is kept what is kept behind its demands, one after the
other (`render_store`).  So what every demand keeps true is kept true by every render.
-/

namespace TextTemplate

variable {σ : Type}

/-- What a render asks of its host. -/
inductive Demand where
  | load (loader : LoaderId) (name : String)
  | call (name : String) (serial : Nat) (args : List Value)

/-- What is kept outside, and what was asked for so far. -/
structure Recorded (σ : Type) where
  store : σ
  demands : List Demand

/-- A step that is noted. -/
def Recorded.noting {α : Type} (demand : Demand) (step : σ → Except Fault α × σ)
    (r : Recorded σ) : Except Fault α × Recorded σ :=
  ((step r.store).1, ⟨(step r.store).2, r.demands ++ [demand]⟩)

/-- A host that notes what is asked for. -/
def Host.recording (host : Host σ) : Host (Recorded σ) where
  call name serial args := Recorded.noting (.call name serial args) (host.call name serial args)
  load id name := Recorded.noting (.load id name) (host.load id name)

/-- What is kept behind a demand. -/
def Host.meet (host : Host σ) (store : σ) : Demand → σ
  | .load id name => (host.load id name store).2
  | .call name serial args => (host.call name serial args store).2

/-- What is kept behind some demands. -/
def Host.after (host : Host σ) (store : σ) (demands : List Demand) : σ :=
  demands.foldl host.meet store

theorem Host.after_append (host : Host σ) (store : σ) (first later : List Demand) :
    host.after store (first ++ later) = host.after (host.after store first) later :=
  List.foldl_append

/-- What a render asks for, in order. -/
def TemplateOf.demands (host : Host σ) (t : Template) (params : Value) (memory : Memory σ) :
    List Demand :=
  (t.render host.recording params ⟨memory.found, ⟨memory.store, []⟩⟩).2.store.demands

/-- A memory beside one in which demands are noted. -/
structure Memory.Noted (host : Host σ) (start : σ) (m : Memory σ) (m' : Memory (Recorded σ)) :
    Prop where
  found : m.found = m'.found
  store : m.store = m'.store.store
  after : m.store = host.after start m'.store.demands

namespace Render

variable {host : Host σ} {start : σ}

/-- A step that is noted keeps in step with the step itself. -/
theorem noting_lockstep {α : Type} (demand : Demand) {step : σ → Except Fault α × σ}
    (meets : ∀ store, (step store).2 = host.meet store demand) :
    Lockstep (Memory.Noted host start) (· = ·) (Evaluation.onStore step)
      (Evaluation.onStore (Recorded.noting demand step)) := by
  rintro ⟨found, _⟩ ⟨_, r⟩ ⟨rfl, same, after⟩
  dsimp only at same after
  subst same
  have noted : (step r.store).2 = host.after start (r.demands ++ [demand]) := by
    rw [meets, Host.after_append, ← after]
    rfl
  unfold Evaluation.onStore Recorded.noting
  dsimp only
  generalize step r.store = result at noted ⊢
  obtain ⟨result, left⟩ := result
  cases result with
  | ok a => exact .ok rfl ⟨rfl, rfl, noted⟩
  | error fault => exact .error fault ⟨rfl, rfl, noted⟩

theorem recording_paired (place : Place) :
    (place.environment host.call).Paired .same (Memory.Noted host start)
      (place.environment host.recording.call) :=
  Environment.paired_same rfl (fun _ _ noted => noted.found)
    (fun _ _ noted => ⟨congrArg (· + 1) noted.found, noted.store, noted.after⟩)
    fun name serial args => noting_lockstep (.call name serial args) fun _ => rfl

/-- A render beside one that notes what it asks for. -/
structure Noted (host : Host σ) (start : σ) (p : Progress σ) (q : Progress (Recorded σ)) :
    Prop where
  output : p.output = q.output
  memory : p.memory.Noted host start q.memory

theorem abreast_recording (host : Host σ) (start : σ) :
    Abreast host host.recording (· = ·) (Memory.Noted host start) (Noted host start) where
  call f args place place' := by
    rw [call_place host.recording f args place' place]
    exact f.call_same (recording_paired place) args
  bind := by
    rintro scope _ rfl target v
    exact .refl fun _ _ => rfl
  write := by
    rintro p q ⟨output, memory⟩ text
    exact ⟨by dsimp only; rw [output], memory⟩
  memory _ _ noted := noted.memory
  withMemory _ _ noted _ _ memory := ⟨noted.output, memory⟩

theorem resolve_recording (place : Place) (v : Value) {p : Progress σ} {q : Progress (Recorded σ)}
    (noted : Noted host start p q) :
    EndsIn (Noted host start) (· = ·) (resolve host place v p)
      (resolve host.recording place v q) := by
  cases v with
  | template t => exact .ok rfl noted
  | text name =>
    unfold resolve
    dsimp only
    cases place.loader? with
    | none => exact .error _ noted
    | some id =>
      exact evaluate_abreast (abreast_recording host start) noted
        (noting_lockstep (.load id name) fun _ => rfl)
  | _ => exact .error _ noted

/-- A fragment that is rendered with a host that notes what is asked for. -/
theorem whole_recording (host : Host σ) (start : σ) (ctx : Context) (f : Fragment) (p : Progress σ)
    (q : Progress (Recorded σ)) (noted : Noted host start p q) :
    EndsIn (Noted host start) (· = ·) (whole host ctx f p) (whole host.recording ctx f q) := by
  refine opens_induction host (whole host) (motive := fun ctx f => ∀ p q, Noted host start p q →
    EndsIn (Noted host start) (· = ·) (whole host ctx f p) (whole host.recording ctx f q))
    (fun ctx f inside p q noted => ?_) ctx f p q noted
  rw [whole_eq, whole_eq]
  have abreast := abreast_recording host start
  refine nodes_abreast abreast f.name rfl noted ?_
  rintro line n scope _ p₁ q₁ begins rfl noted
  -- two renders in one context
  have entered (e : Expression) (into : Place → Context)
      (opens : ∀ t fr, Enters host (ctx.withScope scope) p₁ e into t fr →
        Opens host (whole host) (ctx.withScope scope) p₁ n fr) :
      EndsIn (Noted host start) (· = ·)
        (entering host (ctx.withScope scope) (whole host) e into p₁)
        (entering host.recording (ctx.withScope scope) (whole host.recording) e into q₁) := by
    refine entering_abreast abreast rfl (e.eval_same (recording_paired _)) noted
      (fun v _ _ noted => resolve_recording _ v noted) ?_
    intro v m t p₂ q₂ hv resolved noted
    refine .refl fun place entered => ?_
    exact inside p line n _ p₁ _ begins (opens t _ (.intro hv resolved entered)) p₂ q₂ noted
  have taken (versions : List Version)
      (opens : ∀ fr, Takes p₁ versions fr → Opens host (whole host) (ctx.withScope scope) p₁ n fr) :
      EndsIn (Noted host start) (fun _ _ => True) (version (whole host) versions p₁)
        (version (whole host.recording) versions q₁) := by
    refine version_abreast (· = ·) (R := (· = ·)) (List.forall₂_eq_eq_eq ▸ rfl) noted ?_
    rintro v _ overridden overridden' rfl rfl same
    rw [List.forall₂_eq_eq_eq] at same
    cases same
    exact inside p line n _ p₁ _ begins (opens _ (.head v overridden)) p₁ q₁ noted
  exact {
    scope := rfl
    values := fun e _ => e.eval_same (recording_paired _)
    escape := rfl
    bodies := by
      rintro scope' _ body p₂ q₂ - - opens rfl noted
      exact inside p line n _ p₁ _ begins opens p₂ q₂ noted
    included := by
      rintro e rfl
      exact entered e _ fun t fr enters => .include enters
    extended := by
      rintro parent blocks rfl
      exact entered parent _ fun t fr enters => .extend enters
    versions := by
      rintro name body rfl
      exact taken _ fun fr takes => .block takes
    overridden := by
      rintro rfl
      exact taken _ fun fr takes => .super takes }

end Render

section

variable (host : Host σ) (t : Template) (params : Value) (memory : Memory σ)

theorem render_noted :
    (t.render host params memory).1 =
        (t.render host.recording params ⟨memory.found, ⟨memory.store, []⟩⟩).1 ∧
      (t.render host params memory).2.store =
        host.after memory.store (t.demands host params memory) := by
  unfold TemplateOf.demands TemplateOf.render TemplateOf.renderWith
  cases parameters params with
  | error fault => exact ⟨rfl, rfl⟩
  | ok entries =>
    have run := Render.whole_recording host memory.store (t.context entries) t.body ⟨"", memory⟩
      ⟨"", ⟨memory.found, ⟨memory.store, []⟩⟩⟩ ⟨rfl, rfl, rfl, rfl⟩
    dsimp only
    generalize Render.whole host (t.context entries) t.body _ = x,
      Render.whole host.recording (t.context entries) t.body _ = y at run ⊢
    cases run with
    | ok _ noted => exact ⟨congrArg Except.ok noted.output, noted.memory.after⟩
    | error stop noted => exact ⟨rfl, noted.memory.after⟩

/-- Noting what a render asks for changes nothing about its text or fault. -/
theorem render_recording :
    (t.render host.recording params ⟨memory.found, ⟨memory.store, []⟩⟩).1 =
      (t.render host params memory).1 := (render_noted host t params memory).1.symm

/-- **A render leaves what its demands leave**, one after the other. -/
theorem render_store :
    (t.render host params memory).2.store =
      host.after memory.store (t.demands host params memory) := (render_noted host t params memory).2

end

end TextTemplate
