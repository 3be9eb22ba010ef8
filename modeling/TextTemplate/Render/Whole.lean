import TextTemplate.Proofs.Render.Termination

/-!
# Rendering to the end

Every fragment ends within some number of steps, and more steps do not change how.  `Render.whole`
gives more and more of them until they suffice.  It renders a fragment by rendering its nodes, with
itself for all that they open (`Render.whole_eq`), so nothing that is said of it has to mention steps.
-/

namespace TextTemplate

/-- Steps for fragments nested deeper than any memory would hold. -/
def ampleSteps : Nat := Number.twoTo 48

namespace Render

variable {σ : Type}

/-- Repeats an attempt with more steps until they suffice. -/
def settle {α : Type} (attempt : Nat → EStateM.Result Stop (Progress σ) α)
    (settles : ∃ least, ∀ steps, least ≤ steps → Finished (attempt steps)) (steps : Nat) :
    EStateM.Result Stop (Progress σ) α :=
  match _h : attempt steps with
  | .error .outOfSteps _ => settle attempt settles (steps + ampleSteps)
  | result => result
termination_by settles.choose - steps
decreasing_by
  have short : steps < settles.choose := by
    refine Nat.lt_of_not_le fun le => ?_
    exact settles.choose_spec steps le _ _h
  have : 0 < ampleSteps := by decide
  omega

/-- What settles is the end of one of the attempts. -/
theorem settle_eq {α : Type} {attempt : Nat → EStateM.Result Stop (Progress σ) α}
    (settles : ∃ least, ∀ steps, least ≤ steps → Finished (attempt steps)) (steps : Nat) :
    ∃ enough, Finished (attempt enough) ∧ settle attempt settles steps = attempt enough := by
  fun_induction settle attempt settles steps with
  | case1 steps p out ih => exact ih
  | case2 steps finished =>
    exact ⟨steps, fun p out => finished p out, rfl⟩

variable (host : Host σ)

theorem fragment_settles (ctx : Context) (f : Fragment) (p : Progress σ) :
    ∃ least, ∀ steps, least ≤ steps → Finished (fragment host steps ctx f p) := by
  obtain ⟨result, finished, least, h⟩ := halts host ctx f p
  refine ⟨least, fun steps le => ?_⟩
  rw [show fragment host steps ctx f p = result from h steps le]
  exact finished

/-- Renders a fragment to its end. -/
def whole : Renderer σ := fun ctx f p =>
  settle (fun steps => fragment host steps ctx f p) (fragment_settles host ctx f p) ampleSteps

theorem whole_finished (ctx : Context) (f : Fragment) (p : Progress σ) :
    Finished (whole host ctx f p) := by
  obtain ⟨steps, finished, h⟩ := settle_eq (fragment_settles host ctx f p) ampleSteps
  rw [whole, h]
  exact finished

/-- With enough steps a fragment ends as it ends without counting them. -/
theorem fragment_eventually (ctx : Context) (f : Fragment) (p : Progress σ) :
    Eventually (fun steps => fragment host steps ctx f p) (whole host ctx f p) := by
  obtain ⟨least, finished, h⟩ := settle_eq (fragment_settles host ctx f p) ampleSteps
  refine ⟨least, fun steps le => ?_⟩
  rw [whole, h]
  exact fragment_mono le finished

/-- What a number of steps suffices for, ends so without counting them. -/
theorem whole_of_finished {steps : Nat} {ctx : Context} {f : Fragment} {p : Progress σ}
    (h : Finished (fragment host steps ctx f p)) : whole host ctx f p = fragment host steps ctx f p := by
  obtain ⟨least, same⟩ := fragment_eventually host ctx f p
  rw [← same (steps + least) (by omega)]
  exact fragment_mono (by omega) h

/-- A fragment is rendered by rendering its nodes. -/
theorem whole_eq (ctx : Context) (f : Fragment) :
    whole host ctx f = nodes host (whole host) f.name ctx f.nodes := by
  funext p
  have inside : Eventually (fun steps => nodes host (fragment host steps) f.name ctx f.nodes p)
      (nodes host (whole host) f.name ctx f.nodes p) :=
    nodes_eventually f.name fun _ _ _ _ fr _ _ =>
      eventually_resume (fragment_eventually host fr.context fr.fragment fr.progress)
  obtain ⟨least, h⟩ := fragment_eventually host ctx f p
  obtain ⟨least', h'⟩ := inside
  have outer := h (least + least' + 1) (by omega)
  have inner := h' (least + least') (by omega)
  dsimp only at outer inner
  rw [← outer, ← inner, fragment]

end Render

/-- Renders a template. -/
def TemplateOf.render {σ : Type} (host : Host σ) (t : Template) (params : Value)
    (memory : Memory σ) : Except Stop String × Memory σ :=
  t.renderWith (Render.whole host) params memory

end TextTemplate
