import TextTemplate.Proofs.Loader.Visits
import TextTemplate.Proofs.Tag.Naming

/-!
# Sources that hide each other

A name that is not kept is loaded from all sources, the last one first.  What is loaded heads a chain of
templates, one for each source that has the name, from the first such source to the last one, and each
holds the next one as the template that it hides (`Loader.Shadows`).  The load fails exactly if a source
fails, or a text cannot be parsed, and then in the way in which the last such source does
(`Loader.loadFrom_error`).  Of several names those that nobody has are passed over
(`Loader.findFirst_skip`), and behind the first one that somebody has no further one is asked for.
-/

namespace TextTemplate

namespace Loader

/-! ## What a source has -/

/-- Whether a source has a name. -/
def Source.has (name : String) (source : Source) : Bool :=
  match source.read name with
  | .ok (some _) => true
  | _ => false

/-- Why a name cannot be loaded from a source: the source fails, or its text cannot be parsed. -/
def Source.fault? (g : Grammar) (name : String) (source : Source) : Option Fault :=
  match source.read name with
  | .error fault => some fault
  | .ok none => none
  | .ok (some text) =>
    match Tag.parseTemplate g.macros text name with
    | .error fault => some fault
    | .ok _ => none

/-- The first fault that is met is that of the last source that fails. -/
def FailsWith (g : Grammar) (name : String) (sources : List Source) (fault : Fault) : Prop :=
  ∃ before source after, sources = before ++ source :: after ∧ source.fault? g name = some fault ∧
    ∀ s ∈ after, s.fault? g name = none

theorem Source.has_eq_false {source : Source} {g : Grammar} {name : String}
    (sound : source.fault? g name = none) (lacks : source.has name = false) :
    source.read name = .ok none := by
  unfold fault? at sound
  unfold has at lacks
  cases read : source.read name with
  | error fault =>
    rw [read] at sound
    cases sound
  | ok text =>
    cases text with
    | none => rfl
    | some text =>
      rw [read] at lacks
      cases lacks

theorem Source.fault?_of_none {source : Source} (g : Grammar) {name : String}
    (lacks : source.read name = .ok none) : source.fault? g name = none := by
  rw [fault?, lacks]

theorem Source.has_of_none {source : Source} {name : String} (lacks : source.read name = .ok none) :
    source.has name = false := by
  rw [has, lacks]

theorem Source.has_of_some {source : Source} {name text : String}
    (read : source.read name = .ok (some text)) : source.has name = true := by
  rw [has, read]

/-! ## Chains of templates -/

/-- The template that a loader compiles from what a source has for a name, with the template that it
hides. -/
structure IsCopy (l : Loader) (name : String) (source : Source) (hidden : Value) (t : Template) :
    Prop where
  compiled : ∃ text serial, source.read name = .ok (some text) ∧
    l.grammar.compile ⟨some l.id, serial⟩ text name .empty
      (withLoader l.id (Dictionary.empty.insert superKey hidden)) = .ok t
  hides : t.globals.get? superKey = some hidden
  entry : t.globals.get? nameKey = some (.text name)
  name : (∀ m ∈ l.grammar.macros, m.KeepsName) → t.name = name

/-- Templates of one name, each of which hides the next one, are those of some sources in order. -/
inductive Shadows (l : Loader) (name : String) : List Source → Value → Prop
  | nil : Shadows l name [] .null
  | cons {source : Source} {rest : List Source} {hidden : Value} {t : Template} :
      l.IsCopy name source hidden t → Shadows l name rest hidden →
      Shadows l name (source :: rest) (.template t)

variable {l m : Loader} {name : String}

theorem isCopy_of_compile {source : Source} {text : String} {hidden : Value} {serial : Nat}
    {t : Template} (read : source.read name = .ok (some text))
    (compiled : l.grammar.compile ⟨some l.id, serial⟩ text name .empty
      (withLoader l.id (Dictionary.empty.insert superKey hidden)) = .ok t) :
    l.IsCopy name source hidden t where
  compiled := ⟨text, serial, read, compiled⟩
  hides := by
    obtain ⟨_, _, rfl⟩ := Grammar.compile_eq_ok compiled
    refine Grammar.entries_get?_of_some _ _ (ascending_withLoader _ _) ?_
    exact Dictionary.get?_overlay_of_some (Dictionary.ascending_empty.insert _ _)
      (Dictionary.get?_insert_self _ _ _)
  entry := by
    obtain ⟨_, _, rfl⟩ := Grammar.compile_eq_ok compiled
    refine Grammar.entries_get?_nameKey _ _ (withLoader_get?_of_none ?_ (by decide))
    exact Dictionary.get?_insert_of_ne _ _ (by decide)
  name keep := by
    obtain ⟨_, parsed, rfl⟩ := Grammar.compile_eq_ok compiled
    exact Tag.parseTemplate_name keep parsed

/-- Whether a text can be compiled does not depend on what is hidden. -/
theorem compile_eq_error {g : Grammar} {id : TemplateId} {text : String}
    {defaults further : Dictionary Value} {fault : Fault} :
    g.compile id text name defaults further = .error fault ↔
      Tag.parseTemplate g.macros text name = .error fault := by
  unfold Grammar.compile
  cases Tag.parseTemplate g.macros text name with
  | ok body => exact ⟨(fun h => nomatch h), (fun h => nomatch h)⟩
  | error fault' => exact ⟨(fun h => by cases h; rfl), (fun h => by cases h; rfl)⟩

/-! ## Loading from all sources -/

/-- A loader that has since been asked for some names only. -/
def AsksOnly (names : List String) (l m : Loader) : Prop :=
  ∃ asked, m.asked = asked ++ l.asked ∧ ∀ q ∈ asked, q.2 ∈ names

theorem AsksOnly.refl (names : List String) (l : Loader) : AsksOnly names l l :=
  ⟨[], rfl, fun _ h => nomatch h⟩

theorem AsksOnly.trans {names : List String} {k : Loader} (h : AsksOnly names l m)
    (h' : AsksOnly names m k) : AsksOnly names l k := by
  obtain ⟨asked, eq, of⟩ := h
  obtain ⟨asked', eq', of'⟩ := h'
  refine ⟨asked' ++ asked, by rw [eq', eq, List.append_assoc], fun q mem => ?_⟩
  rcases List.mem_append.1 mem with mem | mem
  · exact of' q mem
  · exact of q mem

theorem AsksOnly.mono {names more : List String} (h : AsksOnly names l m) (sub : names ⊆ more) :
    AsksOnly more l m := by
  obtain ⟨asked, eq, of⟩ := h
  exact ⟨asked, eq, fun q mem => sub (of q mem)⟩

/-- A loader that has since at most counted, and been asked for some names only. -/
structure Asked (names : List String) (l m : Loader) : Prop extends l.Stays m where
  asks : AsksOnly names l m

theorem Asked.refl (names : List String) (l : Loader) : Asked names l l := ⟨.refl l, .refl names l⟩

theorem Asked.trans {names : List String} {k : Loader} (h : Asked names l m) (h' : Asked names m k) :
    Asked names l k := ⟨h.toStays.trans h'.toStays, h.asks.trans h'.asks⟩

theorem Asked.mono {names more : List String} (h : Asked names l m) (sub : names ⊆ more) :
    Asked more l m := ⟨h.toStays, h.asks.mono sub⟩

/-- A source has been asked, and a text of it may have been compiled. -/
theorem asked_step (index : Nat) (name : String) (m : Loader) (compiled : Nat) :
    Asked [name] m { m with asked := (index, name) :: m.asked, compiled := compiled } :=
  ⟨⟨⟨rfl, rfl, rfl⟩, rfl⟩, [(index, name)], rfl, fun q mem => by
    rw [List.mem_singleton.1 mem]
    exact .head _⟩

/-- **What is found heads the chain of the sources that have the name.** -/
theorem loadFrom_ok {index : Nat} {sources : List Source} {found : Option Template}
    (h : loadFrom name index sources l = .ok found m) :
    Asked [name] l m ∧ (∀ s ∈ sources, s.fault? l.grammar name = none) ∧
      l.Shadows name (sources.filter (·.has name)) (hiddenEntry found) := by
  induction sources generalizing index found m with
  | nil =>
    obtain ⟨rfl, rfl⟩ := pure_eq_ok.1 h
    exact ⟨.refl _ l, List.forall_mem_nil _, .nil⟩
  | cons source rest ih =>
    rw [loadFrom_cons] at h
    cases loaded : loadFrom name (index + 1) rest l with
    | error fault m => rw [loaded] at h; cases h
    | ok hidden k =>
      obtain ⟨asked, sound, shadows⟩ := ih loaded
      rw [loaded] at h
      dsimp only at h
      cases read : source.read name with
      | error fault => rw [read] at h; cases h
      | ok text =>
        rw [read] at h
        cases text with
        | none =>
          cases h
          refine ⟨asked.trans (asked_step index name k _),
            List.forall_mem_cons.2 ⟨Source.fault?_of_none _ read, sound⟩, ?_⟩
          rw [List.filter_cons_of_neg (by rw [Source.has_of_none read]; exact Bool.false_ne_true)]
          exact shadows
        | some text =>
          dsimp only at h
          rw [← asked.grammar, ← asked.id] at h
          split at h
          · cases h
          · next t compiled =>
            cases h
            have parsed : source.fault? l.grammar name = none := by
              obtain ⟨_, parsed, -⟩ := Grammar.compile_eq_ok compiled
              rw [Source.fault?, read]
              dsimp only
              rw [parsed]
            refine ⟨asked.trans ⟨⟨⟨asked.id.symm, rfl, asked.grammar.symm⟩, rfl⟩, ?_⟩,
              List.forall_mem_cons.2 ⟨parsed, sound⟩, ?_⟩
            · exact (asked_step index name k 0).asks
            · rw [List.filter_cons_of_pos (Source.has_of_some read)]
              exact .cons (isCopy_of_compile read compiled) shadows

/-- **A load that fails does so as the last source that fails.** -/
theorem loadFrom_error {index : Nat} {sources : List Source} {fault : Fault}
    (h : loadFrom name index sources l = .error fault m) :
    Asked [name] l m ∧ FailsWith l.grammar name sources fault := by
  induction sources generalizing index m with
  | nil => cases h
  | cons source rest ih =>
    rw [loadFrom_cons] at h
    cases loaded : loadFrom name (index + 1) rest l with
    | error fault' m' =>
      rw [loaded] at h
      cases h
      obtain ⟨asked, before, s, after, rfl, fails, sound⟩ := ih loaded
      exact ⟨asked, source :: before, s, after, rfl, fails, sound⟩
    | ok hidden k =>
      obtain ⟨asked, sound, -⟩ := loadFrom_ok loaded
      rw [loaded] at h
      dsimp only at h
      have later (compiled : Nat) := asked.trans (asked_step index name k compiled)
      cases read : source.read name with
      | error fault' =>
        rw [read] at h
        cases h
        exact ⟨later _, [], source, rest, rfl, by rw [Source.fault?, read], sound⟩
      | ok text =>
        rw [read] at h
        cases text with
        | none => cases h
        | some text =>
          dsimp only at h
          split at h
          · next fault' refused =>
            cases h
            rw [← asked.grammar, compile_eq_error] at refused
            refine ⟨later _, [], source, rest, rfl, ?_, sound⟩
            rw [Source.fault?, read]
            dsimp only
            rw [refused]
          · cases h

/-- A name that nobody has heads no chain. -/
theorem Shadows.eq_nil {sources : List Source} (h : l.Shadows name sources .null) : sources = [] := by
  cases h
  rfl

theorem FailsWith.mem {g : Grammar} {sources : List Source} {fault : Fault}
    (h : FailsWith g name sources fault) : ∃ s ∈ sources, s.fault? g name = some fault := by
  obtain ⟨before, s, after, rfl, fails, -⟩ := h
  exact ⟨s, by simp, fails⟩

/-- The fault of the last source that fails is unique. -/
theorem FailsWith.unique {g : Grammar} {sources : List Source} {fault fault' : Fault}
    (h : FailsWith g name sources fault) (h' : FailsWith g name sources fault') : fault = fault' := by
  obtain ⟨before, s, after, split, fails, sound⟩ := h
  obtain ⟨before', s', after', split', fails', sound'⟩ := h'
  rw [split] at split'
  -- where one source stands before the other, the other one is behind it and does not fail
  rcases List.append_eq_append_iff.1 split' with ⟨gap, rfl, same⟩ | ⟨gap, rfl, same⟩
  · cases gap with
    | nil =>
      cases same
      rw [fails] at fails'
      exact Option.some.inj fails'
    | cons _ gap =>
      cases same
      rw [sound s' (by simp)] at fails'
      cases fails'
  · cases gap with
    | nil =>
      cases same
      rw [fails] at fails'
      exact Option.some.inj fails'
    | cons _ gap =>
      cases same
      rw [sound' s (by simp)] at fails
      cases fails

/-! ## Finding a name -/

/-- Sources that do not fail and lack a name. -/
theorem lacks_of_filter {g : Grammar} {sources : List Source}
    (sound : ∀ s ∈ sources, s.fault? g name = none) (nobody : sources.filter (·.has name) = []) :
    ∀ s ∈ sources, s.read name = .ok none := by
  intro s mem
  refine Source.has_eq_false (sound s mem) ?_
  exact Bool.eq_false_iff.2 (List.filter_eq_nil_iff.1 nobody s mem)

theorem filter_of_lacks {sources : List Source} (lacks : ∀ s ∈ sources, s.read name = .ok none) :
    sources.filter (·.has name) = [] :=
  List.filter_eq_nil_iff.2 fun s mem => by
    rw [Source.has_of_none (lacks s mem)]
    exact Bool.false_ne_true

/-- How the load of a name can end that is not kept. -/
inductive Finds (l : Loader) (name : String) : EStateM.Result Fault Loader (Option Template) → Prop
  | found {t : Template} {m : Loader} : (∀ s ∈ l.sources, s.fault? l.grammar name = none) →
      l.Shadows name (l.sources.filter (·.has name)) (.template t) →
      m.cache = l.cache.map (·.insert name t) → AsksOnly [name] l m → Finds l name (.ok (some t) m)
  | nothing {m : Loader} : (∀ s ∈ l.sources, s.read name = .ok none) → Asked [name] l m →
      Finds l name (.ok none m)
  | failed {fault : Fault} {m : Loader} : FailsWith l.grammar name l.sources fault → Asked [name] l m →
      Finds l name (.error fault m)

theorem find?_finds (fresh : l.cached? name = none) : l.Finds name (find? name l) := by
  rw [find?_of_none fresh]
  cases loaded : loadFrom name 0 l.sources l with
  | error fault m =>
    obtain ⟨asked, fails⟩ := loadFrom_error loaded
    exact .failed fails asked
  | ok found m =>
    obtain ⟨asked, sound, shadows⟩ := loadFrom_ok loaded
    cases found with
    | none => exact .nothing (lacks_of_filter sound shadows.eq_nil) asked
    | some t => exact .found sound shadows (by rw [asked.cache]) asked.asks

/-- What the load of a name does that is not kept. -/
structure FindsAfresh (l : Loader) (name : String) : Prop where
  /-- What is found heads the chain of the sources that have the name, and is kept. -/
  found : ∀ t m, find? name l = .ok (some t) m →
    l.Shadows name (l.sources.filter (·.has name)) (.template t) ∧
      m.cache = l.cache.map (·.insert name t)
  /-- Nothing is found exactly if no source has the name. -/
  nothing : (∃ m, find? name l = .ok none m) ↔ ∀ s ∈ l.sources, s.read name = .ok none
  /-- A load fails exactly if a source fails, and as the last one that does. -/
  fails : ∀ fault, (∃ m, find? name l = .error fault m) ↔ FailsWith l.grammar name l.sources fault
  /-- Nothing more is kept then. -/
  kept : ∀ m, (find? name l = .ok none m ∨ ∃ fault, find? name l = .error fault m) →
    m.cache = l.cache

/-- **A name that is not kept is loaded from all sources that have it.** -/
theorem findsAfresh (fresh : l.cached? name = none) : l.FindsAfresh name where
  found := by
    intro t m h
    have finds := find?_finds fresh
    rw [h] at finds
    cases finds with
    | found _ shadows kept _ => exact ⟨shadows, kept⟩
  nothing := by
    have finds := find?_finds fresh
    constructor
    · rintro ⟨m, h⟩
      rw [h] at finds
      cases finds with
      | nothing lacks _ => exact lacks
    · intro lacks
      cases result : find? name l with
      | ok found m =>
        cases found with
        | none => exact ⟨m, rfl⟩
        | some t =>
          rw [result] at finds
          cases finds with
          | found _ shadows _ _ =>
            rw [filter_of_lacks lacks] at shadows
            cases shadows
      | error fault m =>
        rw [result] at finds
        cases finds with
        | failed fails _ =>
          obtain ⟨s, mem, fault⟩ := fails.mem
          rw [Source.fault?_of_none _ (lacks s mem)] at fault
          cases fault
  fails := by
    intro fault
    have finds := find?_finds fresh
    constructor
    · rintro ⟨m, h⟩
      rw [h] at finds
      cases finds with
      | failed fails _ => exact fails
    · intro fails
      obtain ⟨s, mem, fault'⟩ := fails.mem
      cases result : find? name l with
      | ok found m =>
        rw [result] at finds
        cases finds with
        | found sound _ _ _ =>
          rw [sound s mem] at fault'
          cases fault'
        | nothing lacks _ =>
          rw [Source.fault?_of_none _ (lacks s mem)] at fault'
          cases fault'
      | error fault m =>
        rw [result] at finds
        cases finds with
        | failed fails' _ => exact ⟨m, by rw [fails.unique fails']⟩
  kept := by
    have finds := find?_finds fresh
    rintro m (h | ⟨fault, h⟩)
    · rw [h] at finds
      cases finds with
      | nothing _ asked => exact asked.cache
    · rw [h] at finds
      cases finds with
      | failed _ asked => exact asked.cache

/-! ## Several names -/

/-- Neither is a name kept nor does a source have it. -/
structure Misses (l : Loader) (name : String) : Prop where
  fresh : l.cached? name = none
  lacks : ∀ s ∈ l.sources, s.read name = .ok none

theorem Stays.misses (h : l.Stays m) (misses : l.Misses name) : m.Misses name where
  fresh := by
    rw [cached?, h.cache]
    exact misses.fresh
  lacks := by
    rw [← h.sources]
    exact misses.lacks

theorem Misses.find? (h : l.Misses name) : ∃ m, Loader.find? name l = .ok none m ∧ Asked [name] l m := by
  obtain ⟨m, nothing⟩ := (findsAfresh h.fresh).nothing.2 h.lacks
  have finds := find?_finds h.fresh
  rw [nothing] at finds
  cases finds with
  | nothing _ asked => exact ⟨m, nothing, asked⟩

theorem misses_of_find? (h : find? name l = .ok none m) : l.Misses name := by
  cases kept : l.cached? name with
  | some t =>
    rw [find?_of_some kept] at h
    cases h
  | none => exact ⟨kept, (findsAfresh kept).nothing.1 ⟨m, h⟩⟩

/-- Names that nobody has are passed over. -/
theorem findFirst_skip {before : List String} (misses : ∀ x ∈ before, l.Misses x) :
    ∃ m, Asked before l m ∧ ∀ all later, findFirst all (before ++ later) l = findFirst all later m := by
  induction before generalizing l with
  | nil => exact ⟨l, .refl _ l, fun _ _ => rfl⟩
  | cons x before ih =>
    rw [List.forall_mem_cons] at misses
    obtain ⟨k, nothing, asked⟩ := misses.1.find?
    obtain ⟨m, asked', skips⟩ := ih fun y mem => asked.toStays.misses (misses.2 y mem)
    refine ⟨m, (asked.mono (by simp)).trans (asked'.mono (by simp)), fun all later => ?_⟩
    rw [List.cons_append, findFirst, bind_apply, nothing]
    exact skips all later

/-- A name that somebody has is loaded, and no further one. -/
theorem findFirst_of_hit (hit : ¬ l.Misses name) (all later : List String) :
    findFirst all (name :: later) l = load name l := by
  rw [load_apply, findFirst, bind_apply]
  cases result : find? name l with
  | error fault m => rfl
  | ok found m =>
    cases found with
    | none => exact absurd (misses_of_find? result) hit
    | some t => rfl

/-- The loader that a load leaves behind. -/
def left {α : Type} : EStateM.Result Fault Loader α → Loader
  | .ok _ m => m
  | .error _ m => m

theorem asksOnly_load (name : String) (l : Loader) : AsksOnly [name] l (left (load name l)) := by
  have same : left (load name l) = left (find? name l) := by
    rw [load_apply]
    cases find? name l with
    | error fault m => rfl
    | ok found m => cases found <;> rfl
  rw [same]
  cases kept : l.cached? name with
  | some t =>
    rw [find?_of_some kept]
    exact .refl _ l
  | none =>
    have finds := find?_finds kept
    generalize find? name l = result at finds ⊢
    cases finds with
    | found _ _ _ asks => exact asks
    | nothing _ asked => exact asked.asks
    | failed _ asked => exact asked.asks

/-- A load fails as a source does, or because nobody has the name. -/
theorem load_eq_error {fault : Fault} (h : load name l = .error fault m) (hit : ¬ l.Misses name) :
    FailsWith l.grammar name l.sources fault := by
  rw [load_apply] at h
  cases kept : l.cached? name with
  | some t =>
    rw [find?_of_some kept] at h
    cases h
  | none =>
    cases result : find? name l with
    | error fault' m' =>
      rw [result] at h
      cases h
      exact ((findsAfresh kept).fails fault).1 ⟨m, result⟩
    | ok found m' =>
      rw [result] at h
      cases found with
      | none => exact absurd (misses_of_find? result) hit
      | some t => cases h

/-- The first name that somebody has. -/
theorem exists_first_hit {names : List String} (h : ¬ ∀ x ∈ names, l.Misses x) :
    ∃ before name later, names = before ++ name :: later ∧ (∀ x ∈ before, l.Misses x) ∧
      ¬ l.Misses name := by
  induction names with
  | nil => exact absurd (List.forall_mem_nil _) h
  | cons name names ih =>
    by_cases misses : l.Misses name
    · have rest := fun all => h (List.forall_mem_cons.2 ⟨misses, all⟩)
      obtain ⟨before, hit, later, rfl, skipped, is⟩ := ih rest
      exact ⟨name :: before, hit, later, rfl, List.forall_mem_cons.2 ⟨misses, skipped⟩, is⟩
    · exact ⟨[], name, names, rfl, List.forall_mem_nil _, misses⟩

/-- What the load of the first of some names does. -/
structure LoadsAny (l : Loader) (names : List String) : Prop where
  /-- The first name that somebody has is loaded, and no later one is asked for. -/
  first : ∀ before name later, names = before ++ name :: later → (∀ x ∈ before, l.Misses x) →
    ¬ l.Misses name → (∃ m, l.Stays m ∧ loadAny names l = load name m) ∧
      AsksOnly (before ++ [name]) l (left (loadAny names l))
  /-- If nobody has any of the names, all of them and all sources are listed. -/
  missing : names ≠ [] → (∀ x ∈ names, l.Misses x) →
    ∃ m, l.Stays m ∧ loadAny names l = .error (.notFound names (l.sources.map (·.display))) m
  /-- They are not listed else, unless a source itself says so. -/
  listed : ∀ m, loadAny names l = .error (.notFound names (l.sources.map (·.display))) m →
    (∀ x ∈ names, l.Misses x) ∨
      ∃ x ∈ names, FailsWith l.grammar x l.sources (.notFound names (l.sources.map (·.display)))
  nobody : names = [] → loadAny names l = .error (.value .noNames) l

theorem loadAny_of_ne_nil {names : List String} (some : names ≠ []) :
    loadAny names = findFirst names names := by
  rw [loadAny, if_neg]
  rwa [List.isEmpty_iff]

theorem loadAny_of_hit {before : List String} (later : List String) (misses : ∀ x ∈ before, l.Misses x)
    (hit : ¬ l.Misses name) :
    ∃ m, Asked before l m ∧ ¬ m.Misses name ∧ loadAny (before ++ name :: later) l = load name m := by
  obtain ⟨m, asked, skips⟩ := findFirst_skip misses
  have hit' : ¬ m.Misses name := fun h => hit (Stays.misses ⟨asked.toKin.symm, asked.cache.symm⟩ h)
  refine ⟨m, asked, hit', ?_⟩
  rw [loadAny_of_ne_nil (by simp), skips, findFirst_of_hit hit']

theorem loadsAny (l : Loader) (names : List String) : l.LoadsAny names where
  first := by
    rintro before name later rfl misses hit
    obtain ⟨m, asked, -, loads⟩ := loadAny_of_hit later misses hit
    rw [loads]
    refine ⟨⟨m, asked.toStays, rfl⟩, (asked.asks.mono (by simp)).trans ?_⟩
    exact (asksOnly_load name m).mono (by simp)
  missing := by
    intro some misses
    obtain ⟨m, asked, skips⟩ := findFirst_skip misses
    refine ⟨m, asked.toStays, ?_⟩
    have all := skips names []
    rw [List.append_nil] at all
    rw [loadAny_of_ne_nil some, all, asked.sources]
    rfl
  listed := by
    intro m h
    by_cases all : ∀ x ∈ names, l.Misses x
    · exact .inl all
    · obtain ⟨before, name, later, rfl, misses, hit⟩ := exists_first_hit all
      obtain ⟨k, asked, hit', loads⟩ := loadAny_of_hit later misses hit
      rw [loads] at h
      have fails := load_eq_error h hit'
      rw [← asked.grammar, ← asked.sources] at fails
      exact .inr ⟨name, by simp, fails⟩
  nobody := by
    rintro rfl
    rfl

/-- **Sources hide each other, from the last one to the first.**  A name that is not kept is loaded as the
chain of the templates that the sources have for it, and the first one is kept; or else nothing is.  Of
some names the first one is loaded that is kept or that a source has. -/
theorem source_shadowing (l : Loader) :
    (∀ name, l.cached? name = none → l.FindsAfresh name) ∧ ∀ names, l.LoadsAny names :=
  ⟨fun _ => findsAfresh, loadsAny l⟩

/-! ## A loader of three sources -/

namespace Layered

def top : Source := .memory (.ofList [("a", "y")])

def middle : Source := .memory (.ofList [("b", "z")])

def bottom : Source := .memory (.ofList [("a", "x")])

def loader : Loader := .new ⟨0⟩ [top, middle, bottom] (.standard (.escaper 0)) true

/-- The template of a text, which hides another one. -/
def template (serial : Nat) (text : String) (hidden : Value) : Template :=
  ⟨⟨some ⟨0⟩, serial⟩, ⟨"a", [(1, .text text)]⟩, .empty,
    loader.grammar.entries "a" (withLoader ⟨0⟩ (Dictionary.empty.insert superKey hidden))⟩

def lower : Template := template 0 "x" .null

def upper : Template := template 1 "y" (.template lower)

/-- The loader behind the templates. -/
def behind : Loader := { loader with
  compiled := 2, asked := [(0, "a"), (1, "a"), (2, "a")], cache := some ⟨[("a", upper)]⟩ }

set_option maxRecDepth 100000 in
theorem parse_lower : Tag.parseTemplate Tag.standard "x" "a" = .ok ⟨"a", [(1, .text "x")]⟩ := by
  cbv

set_option maxRecDepth 100000 in
theorem parse_upper : Tag.parseTemplate Tag.standard "y" "a" = .ok ⟨"a", [(1, .text "y")]⟩ := by
  cbv

theorem loadFrom_middle : loadFrom "a" 1 [middle, bottom] loader =
    .ok (some lower) { loader with compiled := 1, asked := [(1, "a"), (2, "a")] } := by
  have last : loadFrom "a" 2 [bottom] loader =
      .ok (some lower) { loader with compiled := 1, asked := [(2, "a")] } :=
    loadFrom_of_compile rfl rfl (Grammar.compile_of_parse _ _ _ parse_lower)
  rw [loadFrom_cons, last]
  rfl

theorem find?_a : find? "a" loader = .ok (some upper) behind := by
  have fresh : loader.cached? "a" = none := rfl
  have loaded : loadFrom "a" 0 loader.sources loader =
      .ok (some upper) { behind with cache := some .empty } :=
    loadFrom_of_compile loadFrom_middle rfl (Grammar.compile_of_parse _ _ _ parse_upper)
  rw [find?_of_none fresh, loaded]
  rfl

theorem misses_c : loader.Misses "c" where
  fresh := rfl
  lacks := by
    simp only [loader, Loader.new, List.forall_mem_cons]
    exact ⟨rfl, rfl, rfl, List.forall_mem_nil _⟩

theorem hits_a : ¬ loader.Misses "a" := by
  intro misses
  cases misses.lacks top (.head _)

/-- The templates of the top and the bottom are loaded, and neither the name before nor the one behind
them. -/
theorem shadowing_sources :
    loader.Shadows "a" [top, bottom] (.template upper) ∧ upper.name = "a" ∧
      upper.globals.get? superKey = some (.template lower) ∧
      (∃ m, loader.Stays m ∧ loadAny ["c", "a", "b"] loader = load "a" m) ∧
      AsksOnly ["c", "a"] loader (left (loadAny ["c", "a", "b"] loader)) := by
  obtain ⟨chain, -⟩ := ((source_shadowing loader).1 "a" rfl).found upper behind find?_a
  obtain ⟨loads, asks⟩ := ((source_shadowing loader).2 ["c", "a", "b"]).first ["c"] "a" ["b"] rfl
    (List.forall_mem_cons.2 ⟨misses_c, List.forall_mem_nil _⟩) hits_a
  have named : upper.name = "a" := by
    cases chain with
    | cons copy _ => exact copy.name Tag.keepsName_standard
  exact ⟨chain, named, rfl, loads, asks⟩

/-! ### What sources and macros may do -/

/-- A source that fails for one name, and has no other. -/
def failing (name : String) (fault : Fault) : Source where
  display := "<failing>"
  read asked := if asked = name then .error fault else .ok none

/-- A loader with a source that fails for `c`. -/
def broken : Loader :=
  .new ⟨0⟩ [bottom, failing "c" (.io "permission denied")] (.standard (.escaper 0)) true

/-- A loader with a source that fails for `a` as if nobody had it. -/
def denying : Loader :=
  .new ⟨0⟩ [bottom, failing "a" (.notFound ["a"] ["<memory>", "<failing>"])]
    (.standard (.escaper 0)) true

/-- A tag that goes on with another run, of a template with another name. -/
def renameTag : Tag.Macro where
  name := "rename"
  patterns := [[.ofWord "rename"]]
  build _ _ := do
    set (Tag.RunState.start "" "b")
    return .text ""

/-- A loader in which this tag may be used. -/
def renamer : Loader :=
  .new ⟨0⟩ [.memory (.ofList [("a", "\x7b% rename %\x7d")])] (.ofMacros [renameTag] (.escaper 0)) true

/-- The loader behind the templates, with sources that have no more than `b`. -/
def changed : Loader := { behind with sources := [middle] }

theorem loadAny_nil :
    ¬ ((∃ m, loadAny [] loader = .error (.notFound [] (loader.sources.map (·.display))) m) ↔
      ∀ name ∈ ([] : List String), ∀ s ∈ loader.sources, s.has name = false) := by
  intro exactly
  obtain ⟨m, h⟩ := exactly.2 (List.forall_mem_nil _)
  cases h

set_option maxRecDepth 100000 in
theorem load_renamed : ∃ t m, load "a" renamer = .ok t m ∧ t.name = "b" := by
  have parsed : Tag.parseTemplate [renameTag] "\x7b% rename %\x7d" "a" = .ok ⟨"b", [(1, .text "")]⟩ := by
    cbv
  exact ⟨_, _, load_of_compile rfl rfl rfl (Grammar.compile_of_parse _ _ _ parsed), rfl⟩

theorem load_beside : ∃ m, load "a" broken = .ok lower m := by
  have last : loadFrom "a" 1 [failing "c" (.io "permission denied")] broken =
      .ok none { broken with asked := [(1, "a")] } := rfl
  have loaded : loadFrom "a" 0 broken.sources broken = .ok (some lower)
      { broken with compiled := 1, asked := [(0, "a"), (1, "a")] } :=
    loadFrom_of_compile last rfl (Grammar.compile_of_parse _ _ _ parse_lower)
  rw [load_apply, find?_of_none rfl, loaded]
  exact ⟨_, rfl⟩

/-- What does not hold of all loaders: of no names none is missing, and yet the load fails in another
way; a tag may give the template another name than it was loaded by; that names are not found may be
said though a source has one of them; a source that fails for a name without having it keeps a later
name from being loaded, and the name from being reported as not found; and so does a name that is kept,
though no source has it any more. -/
theorem shadowing_limits :
    (¬ ((∃ m, loadAny [] loader = .error (.notFound [] (loader.sources.map (·.display))) m) ↔
      ∀ name ∈ ([] : List String), ∀ s ∈ loader.sources, s.has name = false)) ∧
    (∃ t m, load "a" renamer = .ok t m ∧ t.name ≠ "a") ∧
    (∃ m, loadAny ["a"] denying = .error (.notFound ["a"] (denying.sources.map (·.display))) m ∧
      ∃ s ∈ denying.sources, s.has "a" = true) ∧
    (∀ s ∈ broken.sources, s.has "c" = false) ∧ (∃ s ∈ broken.sources, s.has "a" = true) ∧
    (∃ t m, load "a" broken = .ok t m) ∧
    (∃ m, loadAny ["c", "a"] broken = .error (.io "permission denied") m) ∧
    (∃ m, loadAny ["c"] broken = .error (.io "permission denied") m) ∧
    find? "a" loader = .ok (some upper) behind ∧ (∀ s ∈ changed.sources, s.has "a" = false) ∧
    (∃ s ∈ changed.sources, s.has "b" = true) ∧ loadAny ["a", "b"] changed = .ok upper changed := by
  refine ⟨loadAny_nil, ?_, ⟨_, rfl, bottom, .head _, rfl⟩, ?_, ⟨bottom, .head _, rfl⟩, ?_, ⟨_, rfl⟩,
    ⟨_, rfl⟩, find?_a, List.forall_mem_singleton.2 rfl, ⟨middle, .head _, rfl⟩, rfl⟩
  · obtain ⟨t, m, loaded, named⟩ := load_renamed
    refine ⟨t, m, loaded, ?_⟩
    rw [named]
    decide
  · simp only [broken, Loader.new, List.forall_mem_cons]
    exact ⟨rfl, rfl, List.forall_mem_nil _⟩
  · obtain ⟨m, loaded⟩ := load_beside
    exact ⟨lower, m, loaded⟩

end Layered

end Loader

end TextTemplate
