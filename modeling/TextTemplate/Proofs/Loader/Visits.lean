import TextTemplate.Proofs.Loader.Faithful

/-!
# The history of a cache

A visit is one attempt to load a name from a loader, seen together with the loader as it was then.
What a loader keeps can be told from its visits since it was last cleared: of each name, the
template that the first visit compiled which found it (`Loader.Remembers`).  One more visit keeps
this true (`Loader.Remembers.visit`), whether it finds a template among those that are kept,
compiles one, or fails; `Visit.Course` lists what a visit can do.  What this means for the loads
still to come is said by `Loader.GoesBy`.
-/

namespace TextTemplate

/-- An attempt to load a name: the loader as it was found, and the name. -/
structure Visit where
  loader : Loader
  name : String

namespace Loader

/-- Loads a name from the sources, whatever is kept for it, and keeps what is found. -/
def loadAfresh (name : String) (l : Loader) : EStateM.Result Fault Loader Template :=
  match loadFrom name 0 l.sources l with
  | .ok (some t) m => .ok t { m with cache := m.cache.map (·.insert name t) }
  | .ok none m => .error (.notFound [name] (m.sources.map (·.display))) m
  | .error fault m => .error fault m

end Loader

namespace Visit

/-- What is loaded, or why nothing is, with the loader that is left. -/
def result (v : Visit) : EStateM.Result Fault Loader Template := Loader.load v.name v.loader

/-- Whether a template is loaded. -/
def finds (v : Visit) : Bool :=
  match v.result with
  | .ok _ _ => true
  | .error _ _ => false

/-- The loader behind a visit. -/
def left (v : Visit) : Loader :=
  match v.result with
  | .ok _ l => l
  | .error _ l => l

/-- The template that the sources give for the name, as they are at the visit. -/
def compiled? (v : Visit) : Option Template :=
  match Loader.loadFrom v.name 0 v.loader.sources v.loader with
  | .ok found _ => found
  | .error _ _ => none

/-- The first of some visits that found a name. -/
def first? (visits : List Visit) (name : String) : Option Visit :=
  visits.find? fun u => u.name = name ∧ u.finds

/-- What a visit can do. -/
inductive Course (v : Visit) : Prop
  /-- The template is kept already. -/
  | again (t : Template) : v.loader.cached? v.name = some t → v.result = .ok t v.loader → Course v
  /-- It is compiled, and kept. -/
  | first (t : Template) (m : Loader) : v.loader.cached? v.name = none → v.compiled? = some t →
      v.loader.Stays m →
      v.result = .ok t { m with cache := m.cache.map (·.insert v.name t) } → Course v
  /-- There is no template of that name, or it cannot be compiled. -/
  | missed (fault : Fault) (m : Loader) : v.loader.cached? v.name = none → v.loader.Stays m →
      v.result = .error fault m → Course v

end Visit

/-- A loader goes by what some visits have found. -/
structure Loader.GoesBy (l : Loader) (since : List Visit) : Prop where
  /-- The names that are kept are those that a visit has found. -/
  names : ∀ name, (∃ t, l.cached? name = some t) ↔ ∃ u ∈ since, u.name = name ∧ u.finds
  /-- What is kept for a name was compiled from the sources at the first visit that found it. -/
  kept : ∀ name, l.cached? name = (Visit.first? since name).bind Visit.compiled?
  /-- What is kept is loaded, and nothing about the loader changes: no source is asked. -/
  again : ∀ name t, l.cached? name = some t → load name l = .ok t l
  /-- Else the sources are asked, as they are now. -/
  afresh : ∀ name, l.cached? name = none → load name l = l.loadAfresh name
  /-- A failed load leaves what is kept as it was; the next one asks the sources again, whatever
  they have become by then. -/
  missed : ∀ name fault m, load name l = .error fault m → m.cache = l.cache ∧
    ∀ sources, load name { m with sources := sources } =
      loadAfresh name { m with sources := sources }

/-! ## What a visit does -/

namespace Loader

/-- Loading from the sources only counts. -/
theorem loadFrom_stays {l m : Loader} {name : String} {found : Option Template}
    (h : loadFrom name 0 l.sources l = .ok found m) : l.Stays m := by
  have twice := loadFrom_alike (.refl l) ⟨.refl l, .refl l⟩ name 0 l.sources
  rw [h] at twice
  cases twice with
  | ok _ staying => exact staying.1

theorem loadFrom_stays_of_error {l m : Loader} {name : String} {fault : Fault}
    (h : loadFrom name 0 l.sources l = .error fault m) : l.Stays m := by
  have twice := loadFrom_alike (.refl l) ⟨.refl l, .refl l⟩ name 0 l.sources
  rw [h] at twice
  cases twice with
  | error _ staying => exact staying.1

theorem load_of_some {l : Loader} {name : String} {t : Template} (h : l.cached? name = some t) :
    load name l = .ok t l := by
  rw [load_apply, find?_of_some h]

theorem load_of_none {l : Loader} {name : String} (h : l.cached? name = none) :
    load name l = l.loadAfresh name := by
  rw [load_apply, find?_of_none h, loadAfresh]
  cases loadFrom name 0 l.sources l with
  | error fault m => rfl
  | ok found m => cases found <;> rfl

end Loader

namespace Visit

theorem course (v : Visit) : v.Course := by
  cases kept : v.loader.cached? v.name with
  | some t => exact .again t kept (Loader.load_of_some kept)
  | none =>
    have result : v.result = v.loader.loadAfresh v.name := Loader.load_of_none kept
    unfold Loader.loadAfresh at result
    cases loaded : Loader.loadFrom v.name 0 v.loader.sources v.loader with
    | error fault m =>
      rw [loaded] at result
      exact .missed fault m kept (Loader.loadFrom_stays_of_error loaded) result
    | ok found m =>
      rw [loaded] at result
      have stays := Loader.loadFrom_stays loaded
      cases found with
      | none => exact .missed _ m kept stays result
      | some t =>
        have compiled : v.compiled? = some t := by rw [compiled?, loaded]
        exact .first t m kept compiled stays result

variable {v : Visit} {t : Template} {l : Loader} {fault : Fault}

theorem finds_of_ok (h : v.result = .ok t l) : v.finds = true := by
  rw [finds, h]

theorem finds_of_error (h : v.result = .error fault l) : v.finds = false := by
  rw [finds, h]

theorem left_of_ok (h : v.result = .ok t l) : v.left = l := by
  rw [left, h]

theorem left_of_error (h : v.result = .error fault l) : v.left = l := by
  rw [left, h]

/-! ## The first visit that finds a name -/

theorem first?_eq_none {visits : List Visit} {name : String} :
    first? visits name = none ↔ ¬ ∃ u ∈ visits, u.name = name ∧ u.finds := by
  unfold first?
  simp

theorem first?_append_of_some {visits : List Visit} {name : String} {u : Visit}
    (h : first? visits name = some u) (v : Visit) : first? (visits ++ [v]) name = some u := by
  unfold first? at h ⊢
  rw [List.find?_append, h]
  rfl

theorem first?_append_of_not {visits : List Visit} {name : String}
    (h : ¬ (v.name = name ∧ v.finds)) : first? (visits ++ [v]) name = first? visits name := by
  unfold first?
  rw [List.find?_append, List.find?_singleton, if_neg (by simpa using h), Option.or_none]

theorem first?_append_self {visits : List Visit} (h : first? visits v.name = none)
    (finds : v.finds = true) : first? (visits ++ [v]) v.name = some v := by
  unfold first? at h ⊢
  rw [List.find?_append, h, List.find?_singleton, if_pos (by simp [finds])]
  rfl

end Visit

/-! ## What a loader remembers -/

namespace Loader

/-- A loader with a cache that holds what its visits have found. -/
structure Remembers (l : Loader) (since : List Visit) : Prop where
  keeps : ∃ kept, l.cache = some kept
  kept : ∀ name, l.cached? name = (Visit.first? since name).bind Visit.compiled?
  /-- What a visit found first, it compiled. -/
  compiled : ∀ name u, Visit.first? since name = some u → ∃ t, u.compiled? = some t
  /-- At each visit the loader went by those before it. -/
  went : ∀ before v after, since = before ++ v :: after → v.loader.GoesBy before

theorem remembers_new (id : LoaderId) (sources : List Source) (grammar : Grammar) :
    (new id sources grammar true).Remembers [] where
  keeps := ⟨_, rfl⟩
  kept _ := rfl
  compiled _ _ h := nomatch h
  went before _ _ h := by cases before <;> cases h

namespace Remembers

variable {l l' : Loader} {since : List Visit}

/-- Only what is kept matters. -/
theorem of_cache (remembers : l.Remembers since) (same : l'.cache = l.cache) :
    l'.Remembers since where
  keeps := by
    rw [same]
    exact remembers.keeps
  kept name := by
    rw [← remembers.kept name, cached?, cached?, same]
  compiled := remembers.compiled
  went := remembers.went

/-- A cleared loader has forgotten all visits. -/
theorem clear (remembers : l.Remembers since) : l.clear.Remembers [] := by
  obtain ⟨kept, cache⟩ := remembers.keeps
  have cleared : l.clear.cache = some .empty := by
    rw [Loader.clear, cache]
    rfl
  refine ⟨⟨_, cleared⟩, fun name => ?_, nofun, ?_⟩
  · rw [cached?, cleared]
    rfl
  · intro before v after h
    cases before <;> cases h

theorem first?_of_cached? (remembers : l.Remembers since) {name : String} :
    l.cached? name = none ↔ Visit.first? since name = none := by
  rw [remembers.kept]
  cases found : Visit.first? since name with
  | none => simp
  | some u =>
    obtain ⟨t, compiled⟩ := remembers.compiled name u found
    simp [compiled]

/-- **A loader that remembers its visits goes by them.** -/
theorem goesBy (remembers : l.Remembers since) : l.GoesBy since where
  names name := by
    rw [← not_iff_not, ← Visit.first?_eq_none, ← remembers.first?_of_cached?,
      ← Option.ne_none_iff_exists', not_not]
  kept := remembers.kept
  again _ _ kept := load_of_some kept
  afresh _ kept := load_of_none kept
  missed name fault m failed := by
    cases Visit.course ⟨l, name⟩ with
    | again t _ result => cases result.symm.trans failed
    | first t m' _ _ _ result => cases result.symm.trans failed
    | missed fault' m' none stays result =>
      cases result.symm.trans failed
      refine ⟨stays.cache, fun sources => load_of_none ?_⟩
      rw [cached?, stays.cache]
      exact none

/-- The history goes on with a visit. -/
theorem went_append (remembers : l.Remembers since) (name : String) (before : List Visit)
    (v : Visit) (after : List Visit) (h : since ++ [⟨l, name⟩] = before ++ v :: after) :
    v.loader.GoesBy before := by
  obtain rfl | ⟨rest, last, rfl⟩ := List.eq_nil_or_concat after
  · obtain ⟨rfl, last⟩ := List.append_inj' h rfl
    cases last
    exact remembers.goesBy
  · rw [List.concat_eq_append, ← List.cons_append, ← List.append_assoc] at h
    obtain ⟨rfl, -⟩ := List.append_inj' h rfl
    exact remembers.went before v rest rfl

/-- **One more visit is remembered**, whatever comes of it. -/
theorem visit (remembers : l.Remembers since) (name : String) :
    (Visit.left ⟨l, name⟩).Remembers (since ++ [⟨l, name⟩]) := by
  have went := remembers.went_append name
  -- a visit that adds nothing
  have unchanged {m : Loader} (cache : m.cache = l.cache)
      (first : ∀ other, Visit.first? (since ++ [⟨l, name⟩]) other = Visit.first? since other) :
      m.Remembers (since ++ [⟨l, name⟩]) := by
    have same := remembers.of_cache cache
    refine ⟨same.keeps, fun other => ?_, fun other u found => ?_, went⟩
    · rw [first other]
      exact same.kept other
    · rw [first other] at found
      exact same.compiled other u found
  cases Visit.course ⟨l, name⟩ with
  | again t kept result =>
    rw [Visit.left_of_ok result]
    refine unchanged rfl fun other => ?_
    by_cases own : name = other
    · have found : Visit.first? since other ≠ none := by
        rw [← own, Ne, ← remembers.first?_of_cached?]
        exact fun none => nomatch kept.symm.trans none
      obtain ⟨u, found⟩ := Option.ne_none_iff_exists'.1 found
      rw [found]
      exact Visit.first?_append_of_some found _
    · exact Visit.first?_append_of_not fun h => own h.1
  | missed fault m _ stays result =>
    rw [Visit.left_of_error result]
    refine unchanged stays.cache fun other => Visit.first?_append_of_not fun h => ?_
    cases (Visit.finds_of_error result).symm.trans h.2
  | first t m none compiled stays result =>
    have fresh : Visit.first? since name = .none := remembers.first?_of_cached?.1 none
    have own : Visit.first? (since ++ [⟨l, name⟩]) name = some ⟨l, name⟩ :=
      Visit.first?_append_self (v := ⟨l, name⟩) fresh (Visit.finds_of_ok result)
    have others {other : String} (ne : name ≠ other) :
        Visit.first? (since ++ [⟨l, name⟩]) other = Visit.first? since other :=
      Visit.first?_append_of_not fun h => ne h.1
    rw [Visit.left_of_ok result]
    obtain ⟨kept, cache⟩ := remembers.keeps
    have cached : m.cache = some kept := stays.cache.trans cache
    refine ⟨⟨kept.insert name t, ?_⟩, fun other => ?_, fun other u found => ?_, went⟩
    · simp [cached]
    · have now : cached? { m with cache := m.cache.map (·.insert name t) } other =
          (kept.insert name t).get? other := by simp [cached?, cached]
      rw [now, Dictionary.get?_insert]
      by_cases ne : name = other
      · subst ne
        rw [if_pos rfl, own]
        exact compiled.symm
      · rw [if_neg (Ne.symm ne), others ne, ← remembers.kept other]
        simp [cached?, cache]
    · by_cases ne : name = other
      · subst ne
        cases own.symm.trans found
        exact ⟨t, compiled⟩
      · rw [others ne] at found
        exact remembers.compiled other u found

end Remembers

/-! ## Several names -/

/-- The visits by which the first of some names is found that a source has. -/
def tries : List String → Loader → List Visit
  | [], _ => []
  | name :: rest, l => ⟨l, name⟩ ::
    match find? name l with
    | .ok none m => tries rest m
    | _ => []

/-- The loader that a step leaves. -/
def behind {α : Type} : EStateM.Result Fault Loader α → Loader
  | .ok _ l => l
  | .error _ l => l

theorem behind_find? (name : String) (l : Loader) :
    behind (find? name l) = Visit.left ⟨l, name⟩ := by
  unfold Visit.left Visit.result
  dsimp only
  rw [load_apply]
  cases find? name l with
  | error fault m => rfl
  | ok found m => cases found <;> rfl

/-- A step of a loader that makes some visits, and changes neither its sources nor its grammar. -/
structure Makes {α : Type} (step : Loading α) (made : Loader → List Visit) : Prop where
  kin : ∀ l : Loader, l.Kin (behind (step l))
  remembers : ∀ (l : Loader) (since : List Visit), l.Remembers since →
    (behind (step l)).Remembers (since ++ made l)

theorem kin_find? (l : Loader) (name : String) : l.Kin (behind (find? name l)) := by
  rw [behind_find?]
  cases Visit.course ⟨l, name⟩ with
  | again t _ result =>
    rw [Visit.left_of_ok result]
    exact .refl l
  | first t m _ _ stays result =>
    rw [Visit.left_of_ok result]
    exact ⟨stays.id, stays.sources, stays.grammar⟩
  | missed fault m _ stays result =>
    rw [Visit.left_of_error result]
    exact stays.toKin

theorem makes_findFirst (all names : List String) :
    Makes (findFirst all names) (tries names) := by
  induction names with
  | nil =>
    refine ⟨Kin.refl, fun l since remembers => ?_⟩
    rw [tries, List.append_nil]
    exact remembers
  | cons name rest ih =>
    constructor
    · intro l
      have kin := kin_find? l name
      unfold findFirst
      rw [bind_apply]
      cases found : find? name l with
      | error fault m => rw [found] at kin; exact kin
      | ok t m =>
        rw [found] at kin
        cases t with
        | some t => exact kin
        | none => exact kin.trans (ih.kin m)
    · intro l since remembers
      have next := remembers.visit name
      rw [← behind_find?] at next
      unfold findFirst tries
      rw [bind_apply]
      cases found : find? name l with
      | error fault m => rw [found] at next; exact next
      | ok t m =>
        rw [found] at next
        cases t with
        | some t => exact next
        | none =>
          have later := ih.remembers m _ next
          rw [List.append_assoc] at later
          exact later

/-- **Loading the first of some names visits them in order**, up to the one that is found. -/
theorem makes_loadAny (names : List String) : Makes (loadAny names) (tries names) := by
  cases names with
  | nil =>
    refine ⟨Kin.refl, fun l since remembers => ?_⟩
    rw [tries, List.append_nil]
    exact remembers
  | cons name rest => exact makes_findFirst (name :: rest) (name :: rest)

/-- A text that is compiled is not kept. -/
theorem makes_compile (source : String) : Makes (compile source) fun _ => [] := by
  have counted (l : Loader) :
      behind (compile source l) = { l with compiled := l.compiled + 1 } := by
    unfold compile
    rw [compileWith_apply]
    split <;> rfl
  constructor
  · intro l
    rw [counted]
    exact ⟨rfl, rfl, rfl⟩
  · intro l since remembers
    rw [counted, List.append_nil]
    exact remembers.of_cache rfl

end Loader

end TextTemplate
