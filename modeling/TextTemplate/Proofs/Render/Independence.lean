import TextTemplate.Proofs.Loader.Visits
import TextTemplate.Proofs.Render.Parallel

/-!
# Included templates and the templates around them

A template that is included starts with the heirs of the context that includes it, and with the
bodies that are overridden there.  It does not render by itself then: its blocks render what these
heirs declare, if they declare a block of that name, and `super` outside of its blocks goes on with
a body of a block that the template knows nothing of.  Where neither happens, an include writes what
the template gives when it is rendered by itself with the scope at the tag, or fails with the same
fault (`include_eq_render`); that the depth is counted on and that the entries of the templates
around lie below makes no difference.
-/

namespace TextTemplate

variable {σ : Type}

/-! ## Templates as loaders load them -/

/-- A template that a loader compiled for a name, with nothing but the template that it hides
besides the entries that are always set up. -/
def TemplateOf.IsLoaded (t : Template) : Prop :=
  ∃ (l l' : Loader) (source name : String) (hidden : Value),
    Loader.compileWith source name .empty (Dictionary.empty.insert superKey hidden) l = .ok t l'

namespace Loader

theorem loadFrom_isLoaded {name : String} {index : Nat} {sources : List Source} {l l' : Loader}
    {t : Template} (h : loadFrom name index sources l = .ok (some t) l') : t.IsLoaded := by
  induction sources generalizing index t l' with
  | nil => cases h
  | cons source rest ih =>
    obtain ⟨hidden, l₁, loaded, h⟩ := bind_eq_ok.1 h
    obtain ⟨text, l₂, asked, h⟩ := bind_eq_ok.1 h
    cases text with
    | none =>
      cases h
      exact ih loaded
    | some text =>
      obtain ⟨t', l₃, own, same⟩ := bind_eq_ok.1 h
      cases same
      exact ⟨l₂, _, text, name, _, own⟩

theorem isLoaded_of_compiled? {v : Visit} {t : Template} (h : v.compiled? = some t) :
    t.IsLoaded := by
  unfold Visit.compiled? at h
  cases loaded : loadFrom v.name 0 v.loader.sources v.loader with
  | error fault m => rw [loaded] at h; cases h
  | ok found m =>
    rw [loaded] at h
    cases h
    exact loadFrom_isLoaded loaded

/-- What a loader loads is compiled so, if what it keeps is. -/
theorem load_isLoaded {l l' : Loader} {name : String} {t : Template}
    (kept : ∀ t, l.cached? name = some t → t.IsLoaded) (h : load name l = .ok t l') :
    t.IsLoaded := by
  cases Visit.course ⟨l, name⟩ with
  | again t' found result =>
    cases result.symm.trans h
    exact kept t found
  | first t' m _ compiled _ result =>
    cases result.symm.trans h
    exact isLoaded_of_compiled? compiled
  | missed fault m _ _ result => cases result.symm.trans h

/-- With a cache, too, a loader loads only what it compiled so. -/
theorem Remembers.isLoaded {l l' : Loader} {since : List Visit} (remembers : l.Remembers since)
    {name : String} {t : Template} (h : load name l = .ok t l') : t.IsLoaded := by
  refine load_isLoaded (fun t kept => ?_) h
  obtain ⟨u, -, compiled⟩ := Option.bind_eq_some_iff.1 ((remembers.kept name).symm.trans kept)
  exact isLoaded_of_compiled? compiled

end Loader

/-- A loaded template has entries under all reserved names. -/
theorem TemplateOf.IsLoaded.get?_globals {t : Template} (loaded : t.IsLoaded) :
    t.globals.Ascending ∧ ∀ key ∈ reserved, t.globals.get? key ≠ none := by
  obtain ⟨l, l', source, name, hidden, compiled⟩ := loaded
  obtain ⟨compiled, -⟩ := Loader.compileWith_eq_ok compiled
  obtain ⟨_, _, rfl⟩ := Grammar.compile_eq_ok compiled
  have further : ∀ key ∈ reserved, key ≠ superKey →
      (Dictionary.empty.insert superKey hidden).get? key = none :=
    fun key _ other => by rw [Dictionary.get?_insert_of_ne _ _ other]; rfl
  have ascending := Loader.ascending_withLoader l.id (Dictionary.empty.insert superKey hidden)
  refine ⟨l.grammar.ascending_entries name _, fun key mem => ?_⟩
  have one : key = nameKey ∨ key = escapeKey ∨ key = loaderKey ∨ key = superKey := by
    simpa [reserved] using mem
  obtain rfl | rfl | rfl | rfl := one
  · rw [l.grammar.entries_get?_nameKey name
      (Loader.withLoader_get?_of_none (further _ mem (by decide)) (by decide))]
    exact Option.some_ne_none _
  · rw [l.grammar.entries_get?_escapeKey name
      (Loader.withLoader_get?_of_none (further _ mem (by decide)) (by decide))]
    exact Option.some_ne_none _
  · rw [l.grammar.entries_get?_of_some name ascending
      (Loader.withLoader_get?_loaderKey (further _ mem (by decide)))]
    exact Option.some_ne_none _
  · have own : (Loader.withLoader l.id (Dictionary.empty.insert superKey hidden)).get? superKey =
        some hidden :=
      Dictionary.get?_overlay_of_some (Dictionary.ascending_empty.insert superKey hidden)
        (Dictionary.get?_insert_self _ superKey hidden)
    rw [l.grammar.entries_get?_of_some name ascending own]
    exact Option.some_ne_none _

/-! ## Places and contexts with something around them -/

/-- A place some levels deeper, with one scope and the same entries under all names. -/
structure Place.Deeper (levels : Nat) (p q : Place) : Prop where
  scope : p.scope = q.scope
  globals : ∀ name, p.globals.get? name = q.globals.get? name
  depth : p.depth = q.depth + levels

/-- An heir that stands some levels deeper. -/
structure Heir.Deeper (levels : Nat) (h h' : Heir) : Prop where
  place : h.place.Deeper levels h'.place
  blocks : h.blocks = h'.blocks

/-- Heirs with others around them. -/
def HeirsWithin (levels : Nat) (around hs hs' : List Heir) : Prop :=
  ∃ own, hs = own ++ around ∧ List.Forall₂ (Heir.Deeper levels) own hs'

/-- A body that is rendered with other heirs around. -/
structure Version.Within (levels : Nat) (around : List Heir) (v v' : Version) : Prop where
  place : v.place.Deeper levels v'.place
  heirs : HeirsWithin levels around v.heirs v'.heirs
  body : v.body = v'.body

/-- A context inside of an include, and the one that the template has by itself.  What is overridden
around the include is still there, until a block is rendered. -/
structure Context.Within (levels : Nat) (around : List Heir) (pending : List Version)
    (ctx ctx' : Context) : Prop where
  place : ctx.place.Deeper levels ctx'.place
  heirs : HeirsWithin levels around ctx.heirs ctx'.heirs
  overridden : List.Forall₂ (Version.Within levels around) ctx.overridden ctx'.overridden ∨
    ctx.overridden = pending ∧ ctx'.overridden = []

/-- The same memory, behind an output with some text in front. -/
structure Progress.Behind (before : String) (p q : Progress σ) : Prop where
  output : p.output = before ++ q.output
  memory : p.memory = q.memory

section

variable {levels : Nat} {around : List Heir} {pending : List Version} {p q : Place}
  {ctx ctx' : Context}

theorem Place.Deeper.lookup?_eq (deeper : p.Deeper levels q) : p.lookup? = q.lookup? := by
  funext name
  unfold lookup?
  rw [deeper.scope, deeper.globals name]

theorem Place.Deeper.escape?_eq (deeper : p.Deeper levels q) : p.escape? = q.escape? := by
  unfold escape?
  rw [deeper.lookup?_eq]

theorem Place.Deeper.loader?_eq (deeper : p.Deeper levels q) : p.loader? = q.loader? := by
  unfold loader?
  rw [deeper.lookup?_eq]

theorem Place.Deeper.value_eq (deeper : p.Deeper levels q) (host : Host σ) (e : Expression) :
    Render.value host p e = Render.value host q e := by
  unfold Render.value environment
  rw [deeper.lookup?_eq]

/-- Where the deeper place leaves room, a template is entered in both. -/
theorem Place.Deeper.enter (deeper : p.Deeper levels q) (room : p.depth < maxDepth) (t : Template) :
    Ends (Place.Deeper levels) (t.enter p) (t.enter q) := by
  have depth := deeper.depth
  unfold TemplateOf.enter
  rw [if_neg (by omega), if_neg (by omega)]
  refine .ok ⟨?_, fun name => ?_, ?_⟩
  · dsimp only
    rw [deeper.scope]
  · show (p.globals.assign t.globals.entries).get? name =
      (q.globals.assign t.globals.entries).get? name
    rw [Dictionary.get?_assign, Dictionary.get?_assign, deeper.globals name]
  · dsimp only
    omega

theorem declaredBy_eq_nil {heirs : List Heir} {name : String}
    (free : ∀ h ∈ heirs, h.blocks.get? name = none) : declaredBy name heirs = [] := by
  induction heirs with
  | nil => rfl
  | cons h rest ih =>
    rw [declaredBy, free h (.head _)]
    exact ih fun h mem => free h (.tail _ mem)

/-- Heirs around that do not declare a block make no difference to its bodies. -/
theorem HeirsWithin.declared {hs hs' : List Heir} (heirs : HeirsWithin levels around hs hs')
    {name : String} (free : ∀ h ∈ around, h.blocks.get? name = none) :
    List.Forall₂ (Version.Within levels around) (declaredBy name hs) (declaredBy name hs') := by
  obtain ⟨own, rfl, heirs⟩ := heirs
  induction heirs with
  | nil =>
    rw [List.nil_append, declaredBy_eq_nil free]
    exact .nil
  | @cons h h' own hs' first rest ih =>
    rw [List.cons_append]
    unfold declaredBy
    rw [← first.blocks]
    split
    · exact .cons ⟨first.place, ⟨_, rfl, rest⟩, rfl⟩ ih
    · exact ih

theorem Context.Within.versions (within : ctx.Within levels around pending ctx') {name : String}
    (free : ∀ h ∈ around, h.blocks.get? name = none) (body : Fragment) :
    List.Forall₂ (Version.Within levels around) (ctx.versions name body)
      (ctx'.versions name body) := by
  unfold Context.versions
  refine List.rel_append (List.forall₂_reverse_iff.2 (within.heirs.declared free)) ?_
  exact .cons ⟨within.place, within.heirs, rfl⟩ .nil

theorem Context.Within.withScope (within : ctx.Within levels around pending ctx')
    (scope : Dictionary Value) :
    (ctx.withScope scope).Within levels around pending (ctx'.withScope scope) :=
  ⟨⟨rfl, within.place.globals, within.place.depth⟩, within.heirs, within.overridden⟩

end

namespace Render

/-! ## Renders that do not notice what is around -/

/-- At no moment of a render it is noticed what is around: the depth suffices, no block is rendered
that an heir around declares, and no `super` outside of all blocks finds a body that is overridden
around. -/
structure Independent (host : Host σ) (around : List Heir) (pending : List Version)
    (root : Frame σ) : Prop where
  room : ∀ stack fr, Open host root stack fr → ∀ line n ctx p,
    Begins host (whole host) fr.context fr.fragment.nodes fr.progress line n ctx p →
    ∀ t, entered? host ctx p n = some t → ctx.place.depth < maxDepth
  blocks : ∀ stack fr, Open host root stack fr → ∀ line name body ctx p,
    Begins host (whole host) fr.context fr.fragment.nodes fr.progress line (.block name body) ctx
      p →
    ∀ h ∈ around, h.blocks.get? name = none
  supers : ∀ stack fr, Open host root stack fr → ∀ line ctx p,
    Begins host (whole host) fr.context fr.fragment.nodes fr.progress line .super ctx p →
    (∀ e ∈ stack, ∀ name body, e.node ≠ .block name body) → pending = []

variable {host : Host σ} {around : List Heir} {pending : List Version} {levels : Nat}
  {before : String}

/-- What is still overridden around, inside of a node: a block starts anew. -/
def stillPending (pending : List Version) : Node → List Version
  | .block .. => []
  | _ => pending

theorem stillPending_of_ne (pending : List Version) {n : Node}
    (node : ∀ name body, n ≠ .block name body) : stillPending pending n = pending := by
  cases n with
  | block name body => exact absurd rfl (node name body)
  | _ => rfl

/-- What a render opens does not notice more than the render. -/
theorem Independent.opened {root fr : Frame σ} {e : Pending}
    (independent : Independent host around pending root) (opened : Opened host root e fr) :
    Independent host around (stillPending pending e.node) fr where
  room _ fr' moment := independent.room _ fr' (moment.under opened)
  blocks _ fr' moment := independent.blocks _ fr' (moment.under opened)
  supers _ fr' moment line ctx p begins none := by
    by_cases block : ∃ name body, e.node = .block name body
    · obtain ⟨name, body, same⟩ := block
      rw [same]
      rfl
    · have outside : ∀ name body, e.node ≠ .block name body :=
        fun name body same => block ⟨name, body, same⟩
      rw [stillPending_of_ne pending outside]
      refine independent.supers _ fr' (moment.under opened) line ctx p begins fun e' mem => ?_
      rcases List.mem_append.1 mem with mem | mem
      · exact none e' mem
      · cases List.mem_singleton.1 mem
        exact outside

/-! ## Side by side with the render by itself -/

theorem abreast_behind (host : Host σ) (before : String) :
    Abreast host host (· = ·) (· = ·) (Progress.Behind before) where
  call f args place place' := by
    rw [call_place host f args place' place]
    exact .refl _
  bind := by
    rintro scope _ rfl target v
    exact .refl fun _ _ => rfl
  write := by
    rintro p q ⟨output, memory⟩ text
    refine ⟨?_, memory⟩
    dsimp only
    rw [output, String.append_assoc]
  memory _ _ behind := behind.memory
  withMemory _ _ behind _ _ memory := ⟨behind.output, memory⟩

theorem resolve_behind {place place' : Place} (deeper : place.Deeper levels place') (v : Value)
    {p q : Progress σ} (behind : p.Behind before q) :
    EndsIn (Progress.Behind before) (· = ·) (resolve host place v p) (resolve host place' v q) := by
  cases v with
  | template t => exact .ok rfl behind
  | text name =>
    unfold resolve
    dsimp only
    rw [← deeper.loader?_eq]
    cases place.loader? with
    | none => exact .error _ behind
    | some id => exact evaluate_abreast (abreast_behind host before) behind (.refl _)
  | _ => exact .error _ behind

/-- A template that is entered in both, if the depth suffices. -/
theorem entering_within {ctx ctx' : Context} {p q : Progress σ} {e : Expression}
    {into into' : Place → Context} (deeper : ctx.place.Deeper levels ctx'.place)
    (behind : p.Behind before q)
    (room : ∀ t, resolved? host ctx p e = some t → ctx.place.depth < maxDepth)
    (inside : ∀ t place place' p₂ q₂, Enters host ctx p e into t ⟨into place, t.body, p₂⟩ →
      place.Deeper levels place' → p₂.Behind before q₂ →
      EndsIn (Progress.Behind before) (· = ·) (whole host (into place) t.body p₂)
        (whole host (into' place') t.body q₂)) :
    EndsIn (Progress.Behind before) (· = ·) (entering host ctx (whole host) e into p)
      (entering host ctx' (whole host) e into' q) := by
  have values : Lockstep (· = ·) (· = ·) (value host ctx.place e) (value host ctx'.place e) := by
    rw [deeper.value_eq host e]
    exact .refl _
  refine entering_abreast (abreast_behind host before) deeper.scope values behind
    (fun v _ _ behind => resolve_behind deeper v behind) fun v m t p₂ q₂ hv hr behind => ?_
  have places := deeper.enter (room t (resolved?_of_resolve hv hr)) t
  generalize he : t.enter ctx.place = x, t.enter ctx'.place = y at places ⊢
  cases places with
  | error fault => exact .error _
  | ok deeper => exact .ok (inside t _ _ p₂ q₂ (.intro hv hr he) deeper behind)

/-- A node that does not notice what is around does the same as without it, if this is so of all that
it opens. -/
theorem meets_within {ctx ctx' : Context} {p q : Progress σ} {n : Node}
    (within : ctx.Within levels around pending ctx') (behind : p.Behind before q)
    (room : ∀ t, entered? host ctx p n = some t → ctx.place.depth < maxDepth)
    (free : ∀ name body, n = .block name body → ∀ h ∈ around, h.blocks.get? name = none)
    (super : n = .super → pending = [])
    (inside : ∀ c body p₂ c' q₂, Opens host (whole host) ctx p n ⟨c, body, p₂⟩ →
      c.Within levels around (stillPending pending n) c' → p₂.Behind before q₂ →
      EndsIn (Progress.Behind before) (· = ·) (whole host c body p₂) (whole host c' body q₂)) :
    Meets host host (· = ·) (· = ·) (Progress.Behind before) (whole host) (whole host) ctx ctx' p q n := by
  -- the first of some bodies of a block
  have taken {versions versions' : List Version}
      (opens : ∀ fr, Takes p versions fr → Opens host (whole host) ctx p n fr)
      (same : List.Forall₂ (Version.Within levels around) versions versions') :
      EndsIn (Progress.Behind before) (fun _ _ => True) (version (whole host) versions p)
        (version (whole host) versions' q) := by
    refine version_abreast (· = ·) same behind ?_
    rintro v v' overridden overridden' rfl first rest
    rw [← first.body]
    exact inside _ _ p _ q (opens _ (.head v overridden))
      ⟨first.place, first.heirs, .inl rest⟩ behind
  exact {
    scope := within.place.scope
    values := by
      intro e _
      rw [within.place.value_eq host e]
      exact .refl _
    escape := within.place.escape?_eq
    bodies := by
      rintro scope scope' body p₂ q₂ - node opens rfl behind
      refine inside _ body p₂ _ q₂ opens ?_ behind
      rw [stillPending_of_ne pending node]
      exact within.withScope scope
    included := by
      rintro e rfl
      refine entering_within within.place behind room ?_
      intro t place place' p₂ q₂ enters deeper behind
      exact inside _ t.body p₂ _ q₂ (.include enters)
        ⟨deeper, within.heirs, within.overridden⟩ behind
    extended := by
      rintro parent blocks rfl
      refine entering_within within.place behind room ?_
      intro t place place' p₂ q₂ enters deeper behind
      obtain ⟨own, same, heirs⟩ := within.heirs
      refine inside _ t.body p₂ _ q₂ (.extend enters) ⟨deeper, ?_, within.overridden⟩ behind
      refine ⟨⟨ctx.place, blocks⟩ :: own, ?_, .cons ⟨within.place, rfl⟩ heirs⟩
      rw [Context.extending, same]
      rfl
    versions := by
      rintro name body rfl
      exact taken (fun fr takes => .block takes) (within.versions (free name body rfl) body)
    overridden := by
      rintro rfl
      refine taken (fun fr takes => .super takes) ?_
      rcases within.overridden with same | ⟨left, right⟩
      · exact same
      · rw [left, right, super rfl]
        exact .nil }

/-- **A fragment that does not notice what is around** ends as it does without it. -/
theorem whole_within (host : Host σ) (around : List Heir) (levels : Nat) (before : String)
    (ctx : Context) (f : Fragment) (p : Progress σ) (pending : List Version) (ctx' : Context)
    (q : Progress σ) (independent : Independent host around pending ⟨ctx, f, p⟩)
    (within : ctx.Within levels around pending ctx') (behind : p.Behind before q) :
    EndsIn (Progress.Behind before) (· = ·) (whole host ctx f p) (whole host ctx' f q) := by
  refine opens_induction host (whole host) (motive := fun ctx f => ∀ p pending ctx' q,
      Independent host around pending ⟨ctx, f, p⟩ → ctx.Within levels around pending ctx' →
      p.Behind before q →
      EndsIn (Progress.Behind before) (· = ·) (whole host ctx f p) (whole host ctx' f q))
    (fun ctx f ih p pending ctx' q independent within behind => ?_) ctx f p pending ctx' q
    independent within behind
  rw [whole_eq, whole_eq]
  refine nodes_abreast (abreast_behind host before) f.name within.place.scope behind ?_
  rintro line n scope _ p₁ q₁ begins rfl behind
  refine meets_within (within.withScope scope) behind ?_ ?_ ?_ ?_
  · exact independent.room [] _ .root line n _ p₁ begins
  · rintro name body rfl
    exact independent.blocks [] _ .root line name body _ p₁ begins
  · rintro rfl
    exact independent.supers [] _ .root line _ p₁ begins nofun
  · intro c body p₂ c' q₂ opens within behind
    have opened : Opened host ⟨ctx, f, p⟩
        ⟨n, ctx.withScope scope, entered? host (ctx.withScope scope) p₁ n, c⟩ ⟨c, body, p₂⟩ :=
      ⟨line, p₁, begins, opens, rfl, rfl⟩
    exact ih p line n _ p₁ _ begins opens p₂ _ c' q₂ (independent.opened opened) within behind

/-! ## Includes -/

theorem evaluate_output {α : Type} {step : Evaluation σ α} {p q : Progress σ} {a : α}
    (h : evaluate step p = .ok a q) : q.output = p.output := by
  obtain ⟨m, -, rfl⟩ := evaluate_eq_ok.1 h
  rfl

theorem resolve_output {place : Place} {v : Value} {p q : Progress σ} {t : Template}
    (h : resolve host place v p = .ok t q) : q.output = p.output := by
  cases v with
  | template t => cases h; rfl
  | text name =>
    unfold resolve at h
    dsimp only at h
    cases loader : place.loader? with
    | none => rw [loader] at h; cases h
    | some id =>
      rw [loader] at h
      exact evaluate_output h
  | _ => cases h

/-- An include ends as the template does that it enters, in its own scope. -/
theorem include_apply {render : Renderer σ} {ctx : Context} {p : Progress σ} {e : Expression}
    {t : Template} {fr : Frame σ} (enters : Enters host ctx p e ctx.including t fr) :
    node host render ctx (.include e) p = leave (some ctx.place.scope) (resume render fr) := by
  cases enters with
  | @intro v m place q hv hr he =>
    show entering host ctx render e ctx.including p = _
    simp only [entering, bind_apply, eval_apply, ofExcept_apply, hv, hr, he, resume, pure_apply]
    cases render (ctx.including place) t.body q <;> rfl

/-- A node of a scope adds the text of a render to the output before it, or fails as the render
does; the memory is the same. -/
inductive Inserts (scope : Dictionary Value) (before : String) :
    EStateM.Result Stop (Progress σ) (Dictionary Value) → Except Stop String × Memory σ → Prop
  | text (text : String) (memory : Memory σ) :
      Inserts scope before (.ok scope ⟨before ++ text, memory⟩) (.ok text, memory)
  | stop (stop : Stop) (output : String) (memory : Memory σ) :
      Inserts scope before (.error stop ⟨output, memory⟩) (.error stop, memory)

theorem Inserts.output_eq {scope left : Dictionary Value} {before text : String} {q : Progress σ}
    {memory : Memory σ} (inserts : Inserts scope before (.ok left q) (.ok text, memory)) :
    q.output = before ++ text := by
  cases inserts
  rfl

/-- Inside of an include stands what the template starts with by itself, with the heirs and the
overridden bodies of the context around. -/
theorem including_within {t : Template} (loaded : t.IsLoaded)
    {ctx : Context} (plain : ∀ key, ctx.place.globals.get? key ≠ none → key ∈ reserved)
    {place : Place} (entered : t.enter ctx.place = .ok place) :
    (ctx.including place).Within (ctx.place.depth + 1) ctx.heirs ctx.overridden
      (t.context ctx.place.scope) := by
  obtain ⟨-, rfl⟩ := TemplateOf.enter_eq_ok.1 entered
  obtain ⟨ascending, own⟩ := loaded.get?_globals
  refine ⟨⟨rfl, fun key => ?_, (Nat.zero_add _).symm⟩, ⟨[], rfl, .nil⟩, .inr ⟨rfl, rfl⟩⟩
  show (ctx.place.globals.overlay t.globals).get? key = t.globals.get? key
  rw [Dictionary.get?_overlay ascending]
  cases found : t.globals.get? key with
  | some v => rfl
  | none =>
    have above : ctx.place.globals.get? key = none := by
      by_contra other
      exact own key (plain key other) found
    rw [above]
    rfl

/-- **An include that does not notice what is around** writes what the template gives when it is
rendered by itself with the scope at the tag, or fails with the same fault, and leaves the same
memory. -/
theorem include_eq_render {ctx : Context} {p : Progress σ} {e : Expression} {t : Template}
    {fr : Frame σ} (enters : Enters host ctx p e ctx.including t fr) (loaded : t.IsLoaded)
    (plain : ∀ key, ctx.place.globals.get? key ≠ none → key ∈ reserved)
    (independent : Independent host ctx.heirs ctx.overridden fr) :
    Inserts ctx.place.scope p.output (node host (whole host) ctx (.include e) p)
      (t.render host (.map ctx.place.scope) fr.progress.memory) := by
  rw [include_apply enters]
  cases enters with
  | @intro v m place q hv hr he =>
    have output : q.output = (p.withMemory m).output := resolve_output hr
    rw [withMemory_output] at output
    rw [← output]
    have within := including_within loaded plain he
    have behind : q.Behind q.output ⟨"", q.memory⟩ := ⟨String.append_empty.symm, rfl⟩
    have run := whole_within host ctx.heirs (ctx.place.depth + 1) q.output (ctx.including place)
      t.body q ctx.overridden (t.context ctx.place.scope) ⟨"", q.memory⟩ independent within behind
    rw [TemplateOf.render, renderWith_map, resume, resume]
    dsimp only [TemplateOf.start]
    generalize whole host (ctx.including place) t.body q = x,
      whole host (t.context ctx.place.scope) t.body ⟨"", q.memory⟩ = y at run ⊢
    cases run with
    | @ok a _ r r' _ behind =>
      obtain ⟨output, memory⟩ := r
      obtain ⟨rfl, rfl⟩ : output = q.output ++ r'.output ∧ memory = r'.memory :=
        ⟨behind.output, behind.memory⟩
      exact .text r'.output r'.memory
    | @error stop r r' behind =>
      obtain ⟨output, memory⟩ := r
      obtain rfl : memory = r'.memory := behind.memory
      exact .stop stop output r'.memory

/-! ## A template that includes a block, and two that extend it -/

namespace Extended

/-- Declares a block. -/
def note : String := "\x7b% block a %\x7dI\x7b% endblock %\x7d"

/-- Includes the note. -/
def base : String := "\x7b% include 'note' %\x7d"

/-- Extends the base, with a block of the name that the note declares. -/
def page : String := "\x7b% extends 'base' %\x7d\x7b% block a %\x7dX\x7b% endblock %\x7d"

/-- Extends the base, with a block of another name. -/
def side : String := "\x7b% extends 'base' %\x7d\x7b% block b %\x7dX\x7b% endblock %\x7d"

def source : Loader.Source :=
  .memory (.ofList [("base", base), ("note", note), ("page", page), ("side", side)])

def grammar : Grammar := .standard (.escaper 0)

/-- The name of a template as an expression. -/
def quoted (name : String) : Expression := ⟨"'" ++ name ++ "'", .literal (.text name)⟩

def written (name text : String) : Fragment := ⟨name, [(1, .text text)]⟩

def noteBody : Fragment := ⟨"note", [(1, .block "a" (written "note" "I"))]⟩

def baseBody : Fragment := ⟨"base", [(1, .include (quoted "note"))]⟩

/-- What an heir of the base declares. -/
def blocks (name block : String) : Dictionary Fragment := ⟨[(block, written name "X")]⟩

def heirBody (name block : String) : Fragment :=
  ⟨name, [(1, .extend (quoted "base") (blocks name block))]⟩

def template (serial : Nat) (body : Fragment) : Template :=
  ⟨⟨some ⟨0⟩, serial⟩, body, .empty,
    grammar.entries body.name (Loader.withLoader ⟨0⟩ (Dictionary.empty.insert superKey .null))⟩

/-- The heir of the base that has a name and declares a block. -/
def heir (serial : Nat) (name block : String) : Template := template serial (heirBody name block)

/-- The loader behind some names, the last one first, with what it keeps. -/
def behind (names : List String) (kept : List (String × Template)) : Loader :=
  { Loader.new ⟨0⟩ [source] grammar true with
    compiled := names.length, asked := names.map fun name => (0, name), cache := some ⟨kept⟩ }

def noteOnly : Loader := behind ["note"] [("note", template 0 noteBody)]

def noteAndBase : Loader :=
  behind ["base", "note"] [("base", template 1 baseBody), ("note", template 0 noteBody)]

def allButSide : Loader :=
  behind ["page", "base", "note"]
    [("base", template 1 baseBody), ("note", template 0 noteBody), ("page", heir 2 "page" "a")]

def full : Loader :=
  behind ["side", "page", "base", "note"]
    [("base", template 1 baseBody), ("note", template 0 noteBody), ("page", heir 2 "page" "a"),
      ("side", heir 3 "side" "b")]

set_option maxRecDepth 100000 in
theorem load_note : Loader.load "note" (.new ⟨0⟩ [source] grammar true) =
    .ok (template 0 noteBody) noteOnly := by
  have read : source.read "note" = .ok (some note) := rfl
  refine Loader.load_of_compile rfl rfl read (Grammar.compile_of_parse _ _ _ ?_)
  show Tag.parseTemplate Tag.standard note "note" = .ok noteBody
  cbv

set_option maxRecDepth 100000 in
theorem load_base : Loader.load "base" noteOnly = .ok (template 1 baseBody) noteAndBase := by
  have read : source.read "base" = .ok (some base) := rfl
  refine Loader.load_of_compile rfl rfl read (Grammar.compile_of_parse _ _ _ ?_)
  show Tag.parseTemplate Tag.standard base "base" = .ok baseBody
  cbv

set_option maxRecDepth 100000 in
theorem load_page : Loader.load "page" noteAndBase = .ok (heir 2 "page" "a") allButSide := by
  have read : source.read "page" = .ok (some page) := rfl
  refine Loader.load_of_compile rfl rfl read (Grammar.compile_of_parse _ _ _ ?_)
  show Tag.parseTemplate Tag.standard page "page" = .ok (heirBody "page" "a")
  cbv

set_option maxRecDepth 100000 in
theorem load_side : Loader.load "side" allButSide = .ok (heir 3 "side" "b") full := by
  have read : source.read "side" = .ok (some side) := rfl
  refine Loader.load_of_compile rfl rfl read (Grammar.compile_of_parse _ _ _ ?_)
  show Tag.parseTemplate Tag.standard side "side" = .ok (heirBody "side" "b")
  cbv

theorem isLoaded_note : (template 0 noteBody).IsLoaded :=
  (Loader.remembers_new ⟨0⟩ [source] grammar).isLoaded load_note

/-- All loaders, and functions that give nothing. -/
def quiet : Host (World Unit) := Loaders.host fun _ _ _ state => (.ok .null, state)

/-- What is kept once all templates are loaded. -/
def stored : Memory (World Unit) := ⟨0, ⟨⟨[full]⟩, ()⟩⟩

/-- The base, extended by an heir. -/
def extended (serial : Nat) (name block : String) : Frame (World Unit) :=
  ⟨((heir serial name block).context .empty).extending (blocks name block)
    ⟨.empty, (heir serial name block).globals.overlay (template 1 baseBody).globals, 1⟩,
    baseBody, ⟨"", stored⟩⟩

/-- The note, included in the base. -/
def included (serial : Nat) (name block : String) : Frame (World Unit) :=
  ⟨(extended serial name block).context.including ⟨.empty,
    (extended serial name block).context.place.globals.overlay (template 0 noteBody).globals, 2⟩,
    noteBody, ⟨"", stored⟩⟩

set_option maxRecDepth 100000 in
theorem page_extends : Enters quiet ((heir 2 "page" "a").context .empty) ⟨"", stored⟩
    (quoted "base") (((heir 2 "page" "a").context .empty).extending (blocks "page" "a"))
    (template 1 baseBody) (extended 2 "page" "a") :=
  .intro rfl rfl rfl

set_option maxRecDepth 100000 in
theorem page_includes : Enters quiet (extended 2 "page" "a").context ⟨"", stored⟩ (quoted "note")
    (extended 2 "page" "a").context.including (template 0 noteBody) (included 2 "page" "a") :=
  .intro rfl rfl rfl

set_option maxRecDepth 100000 in
theorem side_includes : Enters quiet (extended 3 "side" "b").context ⟨"", stored⟩ (quoted "note")
    (extended 3 "side" "b").context.including (template 0 noteBody) (included 3 "side" "b") :=
  .intro rfl rfl rfl

/-- The entries around the note have names that are always set up. -/
theorem mem_reserved {globals : Dictionary Value}
    (keys : globals.entries.map (·.1) = [escapeKey, loaderKey, nameKey, superKey]) (key : String)
    (h : globals.get? key ≠ none) : key ∈ reserved := by
  obtain ⟨v, found⟩ := Option.ne_none_iff_exists'.1 h
  have mem : key ∈ globals.entries.map (·.1) :=
    List.mem_map_of_mem (Dictionary.mem_of_get? found)
  rw [keys] at mem
  simp only [List.mem_cons, List.not_mem_nil, or_false] at mem
  obtain rfl | rfl | rfl | rfl := mem <;> decide

set_option maxRecDepth 100000 in
theorem page_plain : ∀ key, (extended 2 "page" "a").context.place.globals.get? key ≠ none →
    key ∈ reserved :=
  mem_reserved rfl

set_option maxRecDepth 100000 in
theorem side_plain : ∀ key, (extended 3 "side" "b").context.place.globals.get? key ≠ none →
    key ∈ reserved :=
  mem_reserved rfl

/-- The note's block is rendered, and the text in it. -/
theorem side_moments {stack : List Pending} {fr : Frame (World Unit)}
    (moment : Open quiet (included 3 "side" "b") stack fr) :
    fr = included 3 "side" "b" ∨ fr.fragment = written "note" "I" := by
  induction moment with
  | root => exact .inl rfl
  | @inside _ fr _ e _ opened ih =>
    right
    obtain ⟨line, p, begins, opens, -, -⟩ := opened
    have mem := begins.mem
    generalize e.node = n, e.context = ctx at begins opens mem
    obtain rfl | inside := ih
    · cases begins with
      | head =>
        cases opens with
        | block takes =>
          have own : (included 3 "side" "b").context.versions "a" (written "note" "I") =
              [⟨(included 3 "side" "b").context.place, (included 3 "side" "b").context.heirs,
                written "note" "I"⟩] := rfl
          rw [own] at takes
          cases takes
          rfl
      | tail _ rest => cases rest
    · rw [inside] at mem
      cases List.mem_singleton.1 mem
      cases opens

theorem side_begins {stack : List Pending} {fr : Frame (World Unit)} {line : Nat} {n : Node}
    {ctx : Context} {p : Progress (World Unit)} (moment : Open quiet (included 3 "side" "b") stack fr)
    (begins : Begins quiet (whole quiet) fr.context fr.fragment.nodes fr.progress line n ctx p) :
    n = .block "a" (written "note" "I") ∨ n = .text "I" := by
  have mem := begins.mem
  obtain rfl | inside := side_moments moment
  · cases List.mem_singleton.1 mem
    exact .inl rfl
  · rw [inside] at mem
    cases List.mem_singleton.1 mem
    exact .inr rfl

theorem side_independent : Independent quiet (extended 3 "side" "b").context.heirs
    (extended 3 "side" "b").context.overridden (included 3 "side" "b") where
  room _ fr moment line n ctx p begins t found := by
    obtain rfl | rfl := side_begins moment begins <;> cases found
  blocks _ fr moment line name body ctx p begins h mem := by
    cases List.mem_singleton.1 mem
    obtain same | same := side_begins moment begins
    · cases same
      rfl
    · cases same
  supers _ fr moment line ctx p begins _ := by
    obtain same | same := side_begins moment begins <;> cases same

/-- The include in the base is independent of the side: it writes what the note gives. -/
theorem side_inserts :
    Enters quiet (extended 3 "side" "b").context ⟨"", stored⟩ (quoted "note")
        (extended 3 "side" "b").context.including (template 0 noteBody) (included 3 "side" "b") ∧
      (template 0 noteBody).IsLoaded ∧
      (∀ key, (extended 3 "side" "b").context.place.globals.get? key ≠ none → key ∈ reserved) ∧
      Independent quiet (extended 3 "side" "b").context.heirs
        (extended 3 "side" "b").context.overridden (included 3 "side" "b") ∧
      Inserts .empty ""
        (node quiet (whole quiet) (extended 3 "side" "b").context (.include (quoted "note"))
          ⟨"", stored⟩)
        ((template 0 noteBody).render quiet (.map .empty) stored) :=
  ⟨side_includes, isLoaded_note, side_plain, side_independent,
    include_eq_render side_includes isLoaded_note side_plain side_independent⟩

set_option maxRecDepth 100000 in
theorem page_within : resume (fragment quiet 2) (included 2 "page" "a") =
    .ok .empty ⟨"X", stored⟩ := rfl

set_option maxRecDepth 100000 in
theorem note_within : resume (fragment quiet 2) ((template 0 noteBody).start .empty stored) =
    .ok .empty ⟨"I", stored⟩ := rfl

/-- The text of the page, which declares the note's block, stands in place of the note's own one. -/
theorem page_overrides :
    Loader.load "note" (.new ⟨0⟩ [source] grammar true) = .ok (template 0 noteBody) noteOnly ∧
      Loader.load "base" noteOnly = .ok (template 1 baseBody) noteAndBase ∧
      Loader.load "page" noteAndBase = .ok (heir 2 "page" "a") allButSide ∧
      Loader.load "side" allButSide = .ok (heir 3 "side" "b") full ∧
      (∃ stack, Open quiet ((heir 2 "page" "a").start .empty stored) stack
        (extended 2 "page" "a")) ∧
      Enters quiet (extended 2 "page" "a").context ⟨"", stored⟩ (quoted "note")
        (extended 2 "page" "a").context.including (template 0 noteBody) (included 2 "page" "a") ∧
      (∀ key, (extended 2 "page" "a").context.place.globals.get? key ≠ none → key ∈ reserved) ∧
      node quiet (whole quiet) (extended 2 "page" "a").context (.include (quoted "note"))
        ⟨"", stored⟩ = .ok .empty ⟨"X", stored⟩ ∧
      (template 0 noteBody).render quiet (.map .empty) stored = (.ok "I", stored) ∧
      ¬ Inserts .empty ""
        (node quiet (whole quiet) (extended 2 "page" "a").context (.include (quoted "note"))
          ⟨"", stored⟩)
        ((template 0 noteBody).render quiet (.map .empty) stored) := by
  have opened : ∃ stack, Open quiet ((heir 2 "page" "a").start .empty stored) stack
      (extended 2 "page" "a") :=
    ⟨[⟨.extend (quoted "base") (blocks "page" "a"), (heir 2 "page" "a").context .empty, _,
      (extended 2 "page" "a").context⟩],
      .inside .root ⟨1, ⟨"", stored⟩, .head, .extend page_extends, rfl, rfl⟩⟩
  have inside : node quiet (whole quiet) (extended 2 "page" "a").context (.include (quoted "note"))
      ⟨"", stored⟩ = .ok .empty ⟨"X", stored⟩ := by
    rw [include_apply page_includes, resume_whole page_within nofun]
    rfl
  have alone : (template 0 noteBody).render quiet (.map .empty) stored = (.ok "I", stored) := by
    rw [TemplateOf.render, renderWith_map, resume_whole note_within nofun]
    rfl
  refine ⟨load_note, load_base, load_page, load_side, opened, page_includes, page_plain, inside,
    alone, fun inserts => ?_⟩
  rw [inside, alone] at inserts
  have same : "X" = "" ++ "I" := inserts.output_eq
  exact absurd same (by decide)

end Extended

end Render

end TextTemplate
