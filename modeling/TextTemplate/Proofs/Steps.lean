/-!
# Steps that change a state

Parsing, loading and rendering are made of steps that change a state and may fail.  These lemmas say
how steps come one after the other; with the second group a step that succeeded is taken apart, and
with the third one that failed.  The last group compares two runs side by side, step by step: `Ends`
relates two results, `EndsIn` two results with the states that they leave, and `Lockstep` two steps
that lead from related states to such ends.
-/

namespace TextTemplate

variable {ε σ τ α α' β β' : Type} {s s' : σ}

theorem bind_apply (m : EStateM ε σ α) (f : α → EStateM ε σ β) (s : σ) :
    (m >>= f) s = match m s with
      | .ok a t => f a t
      | .error e t => .error e t := by
  show EStateM.bind m f s = _
  unfold EStateM.bind
  cases m s <;> rfl

theorem get_bind_apply (f : σ → EStateM ε σ α) (s : σ) : (get >>= f) s = f s s := rfl

theorem pure_apply (a : α) (s : σ) : (pure a : EStateM ε σ α) s = .ok a s := rfl

/-! ## Steps that succeed -/

theorem bind_eq_ok {m : EStateM ε σ α} {f : α → EStateM ε σ β} {b : β} :
    (m >>= f) s = .ok b s' ↔ ∃ a t, m s = .ok a t ∧ f a t = .ok b s' := by
  rw [bind_apply]
  cases m s with
  | ok a t =>
    constructor
    · intro h
      exact ⟨a, t, rfl, h⟩
    · rintro ⟨a', t', eq, h⟩
      cases eq
      exact h
  | error e t =>
    constructor
    · intro h
      cases h
    · rintro ⟨a', t', eq, h⟩
      cases eq

theorem pure_eq_ok {a b : α} : (pure a : EStateM ε σ α) s = .ok b s' ↔ a = b ∧ s = s' := by
  rw [pure_apply, EStateM.Result.ok.injEq]

theorem get_eq_ok {t : σ} : (get : EStateM ε σ σ) s = .ok t s' ↔ s = t ∧ s = s' := by
  show EStateM.Result.ok s s = _ ↔ _
  rw [EStateM.Result.ok.injEq]

theorem modify_eq_ok {f : σ → σ} {u : Unit} :
    (modify f : EStateM ε σ Unit) s = .ok u s' ↔ f s = s' := by
  show EStateM.Result.ok () (f s) = _ ↔ _
  rw [EStateM.Result.ok.injEq, and_iff_right rfl]

/-! ## Steps that fail -/

theorem bind_eq_error {m : EStateM ε σ α} {f : α → EStateM ε σ β} {e : ε} :
    (m >>= f) s = .error e s' ↔ m s = .error e s' ∨ ∃ a t, m s = .ok a t ∧ f a t = .error e s' := by
  rw [bind_apply]
  cases m s with
  | ok a t =>
    constructor
    · intro h
      exact .inr ⟨a, t, rfl, h⟩
    · rintro (h | ⟨a', t', eq, h⟩)
      · cases h
      · cases eq
        exact h
  | error e' t =>
    constructor
    · intro h
      cases h
      exact .inl rfl
    · rintro (h | ⟨a', t', eq, h⟩)
      · cases h
        rfl
      · cases eq

/-! ## Steps side by side -/

/-- Two computations end alike: with related results, or with the same fault. -/
inductive Ends (r : α → α' → Prop) : Except ε α → Except ε α' → Prop
  | ok {a : α} {a' : α'} : r a a' → Ends r (.ok a) (.ok a')
  | error (e : ε) : Ends r (.error e) (.error e)

theorem Ends.mono {r r' : α → α' → Prop} {x : Except ε α} {x' : Except ε α'} (h : Ends r x x')
    (le : ∀ a a', r a a' → r' a a') : Ends r' x x' := by
  cases h with
  | ok h => exact .ok (le _ _ h)
  | error e => exact .error e

theorem Ends.bind {r : α → α' → Prop} {r' : β → β' → Prop} {x : Except ε α} {x' : Except ε α'}
    {f : α → Except ε β} {f' : α' → Except ε β'} (h : Ends r x x')
    (next : ∀ a a', r a a' → Ends r' (f a) (f' a')) : Ends r' (x >>= f) (x' >>= f') := by
  cases h with
  | ok h => exact next _ _ h
  | error e => exact .error e

/-- One computation with two continuations that end alike for each of its results. -/
theorem Ends.same_bind {r : β → β' → Prop} {x : Except ε α} {f : α → Except ε β}
    {f' : α → Except ε β'} (next : ∀ a, Ends r (f a) (f' a)) : Ends r (x >>= f) (x >>= f') := by
  cases x with
  | ok a => exact next a
  | error e => exact .error e

theorem Ends.map {r : α → α' → Prop} {r' : β → β' → Prop} {x : Except ε α} {x' : Except ε α'}
    {f : α → β} {f' : α' → β'} (h : Ends r x x') (next : ∀ a a', r a a' → r' (f a) (f' a')) :
    Ends r' (x.map f) (x'.map f') := by
  cases h with
  | ok h => exact .ok (next _ _ h)
  | error e => exact .error e

/-- A computation ends like itself if its result is related to itself. -/
theorem Ends.refl {r : α → α → Prop} {x : Except ε α} (h : ∀ a, x = .ok a → r a a) : Ends r x x := by
  cases x with
  | ok a => exact .ok (h a rfl)
  | error e => exact .error e

/-- Two runs end alike, and in related states. -/
inductive EndsIn (rs : σ → τ → Prop) (r : α → α' → Prop) :
    EStateM.Result ε σ α → EStateM.Result ε τ α' → Prop
  | ok {a : α} {a' : α'} {s : σ} {t : τ} : r a a' → rs s t → EndsIn rs r (.ok a s) (.ok a' t)
  | error (e : ε) {s : σ} {t : τ} : rs s t → EndsIn rs r (.error e s) (.error e t)

theorem EndsIn.mono {rs rs' : σ → τ → Prop} {r r' : α → α' → Prop} {x : EStateM.Result ε σ α}
    {x' : EStateM.Result ε τ α'} (h : EndsIn rs r x x') (le : ∀ a a', r a a' → r' a a')
    (states : ∀ s t, rs s t → rs' s t) : EndsIn rs' r' x x' := by
  cases h with
  | ok h left => exact .ok (le _ _ h) (states _ _ left)
  | error e left => exact .error e (states _ _ left)

theorem EndsIn.bind {rs : σ → τ → Prop} {r : α → α' → Prop} {r' : β → β' → Prop}
    {m : EStateM ε σ α} {m' : EStateM ε τ α'} {f : α → EStateM ε σ β} {f' : α' → EStateM ε τ β'}
    {s : σ} {t : τ} (h : EndsIn rs r (m s) (m' t))
    (next : ∀ a a' s₁ t₁, m s = .ok a s₁ → m' t = .ok a' t₁ → r a a' → rs s₁ t₁ →
      EndsIn rs r' (f a s₁) (f' a' t₁)) : EndsIn rs r' ((m >>= f) s) ((m' >>= f') t) := by
  rw [bind_apply, bind_apply]
  cases hm : m s with
  | ok a s₁ =>
    rw [hm] at h
    cases hm' : m' t with
    | ok a' t₁ =>
      rw [hm'] at h
      cases h with
      | ok h states => exact next a a' s₁ t₁ hm hm' h states
    | error e t₁ =>
      rw [hm'] at h
      cases h
  | error e s₁ =>
    rw [hm] at h
    cases hm' : m' t with
    | ok a' t₁ =>
      rw [hm'] at h
      cases h
    | error e' t₁ =>
      rw [hm'] at h
      cases h with
      | error _ states => exact .error e states

/-- A run beside one that succeeded. -/
theorem EndsIn.exists_ok {rs : σ → τ → Prop} {r : α → α' → Prop} {a : α} {s : σ}
    {x : EStateM.Result ε τ α'} (h : EndsIn rs r (.ok a s) x) :
    ∃ a' t, x = .ok a' t ∧ r a a' ∧ rs s t := by
  cases h with
  | ok h states => exact ⟨_, _, rfl, h, states⟩

/-- A run beside one that failed. -/
theorem EndsIn.exists_error {rs : σ → τ → Prop} {r : α → α' → Prop} {e : ε} {s : σ}
    {x : EStateM.Result ε τ α'} (h : EndsIn rs r (.error e s) x) :
    ∃ t, x = .error e t ∧ rs s t := by
  cases h with
  | error _ states => exact ⟨_, rfl, states⟩

/-- Two steps in lock-step: from related states they end alike, and in related states. -/
def Lockstep (rs : σ → τ → Prop) (r : α → α' → Prop) (m : EStateM ε σ α) (m' : EStateM ε τ α') :
    Prop := ∀ s t, rs s t → EndsIn rs r (m s) (m' t)

namespace Lockstep

variable {rs : σ → τ → Prop} {r : α → α' → Prop} {r' : β → β' → Prop}

protected theorem pure {a : α} {a' : α'} (h : r a a') :
    Lockstep rs r (pure a : EStateM ε σ α) (pure a' : EStateM ε τ α') :=
  fun _ _ states => .ok h states

protected theorem throw (e : ε) :
    Lockstep rs r (throw e : EStateM ε σ α) (throw e : EStateM ε τ α') :=
  fun _ _ states => .error e states

/-- A step keeps in step with itself. -/
protected theorem refl (m : EStateM ε σ α) : Lockstep (· = ·) (· = ·) m m := by
  rintro s _ rfl
  cases m s with
  | ok a t => exact .ok rfl rfl
  | error e t => exact .error e rfl

protected theorem bind {m : EStateM ε σ α} {m' : EStateM ε τ α'} {f : α → EStateM ε σ β}
    {f' : α' → EStateM ε τ β'} (h : Lockstep rs r m m')
    (next : ∀ a a', r a a' → Lockstep rs r' (f a) (f' a')) :
    Lockstep rs r' (m >>= f) (m' >>= f') :=
  fun s t states => (h s t states).bind fun a a' _ _ _ _ related left => next a a' related _ _ left

end Lockstep

end TextTemplate
