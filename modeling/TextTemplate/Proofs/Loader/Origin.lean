import TextTemplate.Loader.Basic
import TextTemplate.Proofs.Grammar

/-!
# What compiled a template

A template was compiled by a grammar, by itself or for a loader.  Unless somebody puts other values
under the reserved names, its entries say so: its name, the rule by which this name is escaped, and
the loader (`Origin.Compiled.sets`).  Each source adds at most one template to what the sources behind it
give (`Loader.loadFrom_cons`).
-/

namespace TextTemplate

/-- The names of the entries that are set up for templates. -/
def reserved : List String := [nameKey, escapeKey, loaderKey, superKey]

/-- What compiled a template: a grammar, by itself or for a loader. -/
structure Origin where
  grammar : Grammar
  loader? : Option LoaderId

/-- The loader as what compiles templates. -/
def Loader.origin (l : Loader) : Origin := ⟨l.grammar, some l.id⟩

/-- A template was compiled without further entries under reserved names, save for the template that
it hides. -/
inductive Origin.Compiled : Origin → Template → Prop
  | alone {g : Grammar} {id : TemplateId} {source name : String} {defaults further : Dictionary Value}
      {t : Template} :
      (∀ key ∈ reserved, further.get? key = none) →
      g.compile id source name defaults further = .ok t → Compiled ⟨g, none⟩ t
  | loader {l l' : Loader} {source name : String} {defaults further : Dictionary Value}
      {t : Template} :
      (∀ key ∈ reserved, key ≠ superKey → further.get? key = none) →
      Loader.compileWith source name defaults further l = .ok t l' → Compiled l.origin t

/-- Entries as an origin sets them up for a template of a given name. -/
structure Origin.Sets (o : Origin) (called : String) (entries : Dictionary Value) : Prop where
  name : entries.get? nameKey = some (.text called)
  escape : entries.get? escapeKey = some (o.grammar.escapeEntry called)
  loader : ∀ id, o.loader? = some id → entries.get? loaderKey = some (.loader id)

/-- Entries that are set up on top of others. -/
theorem Origin.Sets.overlay {o : Origin} {called : String} {upper : Dictionary Value}
    (sets : o.Sets called upper) (ascending : upper.Ascending) (lower : Dictionary Value) :
    o.Sets called (lower.overlay upper) where
  name := Dictionary.get?_overlay_of_some ascending sets.name
  escape := Dictionary.get?_overlay_of_some ascending sets.escape
  loader id h := Dictionary.get?_overlay_of_some ascending (sets.loader id h)

namespace Loader

variable {l l' : Loader}

/-! ## Compiling for a loader -/

/-- The entry for a loader, and further entries on top of it. -/
def withLoader (id : LoaderId) (further : Dictionary Value) : Dictionary Value :=
  (Dictionary.empty.insert loaderKey (.loader id)).overlay further

theorem compileWith_apply (source name : String) (defaults further : Dictionary Value)
    (l : Loader) :
    compileWith source name defaults further l =
      match l.grammar.compile ⟨some l.id, l.compiled⟩ source name defaults
          (withLoader l.id further) with
      | .ok t => .ok t { l with compiled := l.compiled + 1 }
      | .error fault => .error fault { l with compiled := l.compiled + 1 } := by
  unfold compileWith
  rw [get_bind_apply, bind_apply, ← withLoader]
  show (match l.grammar.compile ⟨some l.id, l.compiled⟩ source name defaults
      (withLoader l.id further) with
    | .ok t => pure t
    | .error fault => throw fault : Loading Template) _ = _
  cases l.grammar.compile ⟨some l.id, l.compiled⟩ source name defaults (withLoader l.id further) <;>
    rfl

theorem compileWith_eq_ok {source name : String} {defaults further : Dictionary Value} {t : Template}
    (h : compileWith source name defaults further l = .ok t l') :
    l.grammar.compile ⟨some l.id, l.compiled⟩ source name defaults (withLoader l.id further) = .ok t ∧
      l' = { l with compiled := l.compiled + 1 } := by
  rw [compileWith_apply] at h
  cases compiled : l.grammar.compile ⟨some l.id, l.compiled⟩ source name defaults
      (withLoader l.id further) with
  | error fault =>
    rw [compiled] at h
    cases h
  | ok t' =>
    rw [compiled] at h
    cases h
    exact ⟨rfl, rfl⟩

theorem compileWith_of_compile {source name : String} {defaults further : Dictionary Value}
    {t : Template} (h : l.grammar.compile ⟨some l.id, l.compiled⟩ source name defaults
      (withLoader l.id further) = .ok t) :
    compileWith source name defaults further l = .ok t { l with compiled := l.compiled + 1 } := by
  rw [compileWith_apply, h]

theorem withLoader_get?_of_none {id : LoaderId} {further : Dictionary Value} {key : String}
    (free : further.get? key = none) (other : key ≠ loaderKey) :
    (withLoader id further).get? key = none := by
  rw [withLoader, Dictionary.get?_overlay_of_none free, Dictionary.get?_insert_of_ne _ _ other]
  rfl

theorem withLoader_get?_loaderKey {id : LoaderId} {further : Dictionary Value}
    (free : further.get? loaderKey = none) :
    (withLoader id further).get? loaderKey = some (.loader id) := by
  rw [withLoader, Dictionary.get?_overlay_of_none free, Dictionary.get?_insert_self]

theorem ascending_withLoader (id : LoaderId) (further : Dictionary Value) :
    (withLoader id further).Ascending :=
  (Dictionary.ascending_empty.insert _ _).overlay further

/-! ## Loading from all sources -/

/-- The entry for the template that another one hides. -/
def hiddenEntry : Option Template → Value
  | some t => .template t
  | none => .null

theorem ask_apply (index : Nat) (source : Source) (name : String) (l : Loader) :
    ask index source name l = match source.read name with
      | .ok text => .ok text { l with asked := (index, name) :: l.asked }
      | .error fault => .error fault { l with asked := (index, name) :: l.asked } := by
  unfold ask
  rw [bind_apply]
  show (match source.read name with
    | .ok text => pure text
    | .error fault => throw fault : Loading (Option String)) _ = _
  cases source.read name <;> rfl

/-- What one source adds to what the sources behind it give. -/
theorem loadFrom_cons (name : String) (index : Nat) (source : Source) (rest : List Source) (l : Loader) :
    loadFrom name index (source :: rest) l =
      match loadFrom name (index + 1) rest l with
      | .error fault m => .error fault m
      | .ok hidden m =>
        let asked : Loader := { m with asked := (index, name) :: m.asked }
        match source.read name with
        | .error fault => .error fault asked
        | .ok none => .ok hidden asked
        | .ok (some text) =>
          match m.grammar.compile ⟨some m.id, m.compiled⟩ text name .empty
              (withLoader m.id (Dictionary.empty.insert superKey (hiddenEntry hidden))) with
          | .error fault => .error fault { asked with compiled := m.compiled + 1 }
          | .ok t => .ok (some t) { asked with compiled := m.compiled + 1 } := by
  rw [loadFrom, bind_apply]
  cases loadFrom name (index + 1) rest l with
  | error fault m => rfl
  | ok hidden m =>
    dsimp only
    rw [bind_apply, ask_apply]
    cases source.read name with
    | error fault => rfl
    | ok text =>
      cases text with
      | none => rfl
      | some text =>
        have compile (entry : Value) :
            (do return some (← compileWith text name .empty (Dictionary.empty.insert superKey entry)) :
              Loading (Option Template)) { m with asked := (index, name) :: m.asked } =
            match m.grammar.compile ⟨some m.id, m.compiled⟩ text name .empty
                (withLoader m.id (Dictionary.empty.insert superKey entry)) with
            | .error fault =>
              .error fault { m with asked := (index, name) :: m.asked, compiled := m.compiled + 1 }
            | .ok t =>
              .ok (some t) { m with asked := (index, name) :: m.asked, compiled := m.compiled + 1 } := by
          rw [bind_apply, compileWith_apply]
          dsimp only
          cases m.grammar.compile ⟨some m.id, m.compiled⟩ text name .empty
            (withLoader m.id (Dictionary.empty.insert superKey entry)) <;> rfl
        cases hidden <;> exact compile _

/-- A source that has the name adds a template. -/
theorem loadFrom_of_compile {name text : String} {index : Nat} {source : Source} {rest : List Source}
    {k : Loader} {hidden : Option Template} {t : Template}
    (behind : loadFrom name (index + 1) rest l = .ok hidden k) (read : source.read name = .ok (some text))
    (compiled : k.grammar.compile ⟨some k.id, k.compiled⟩ text name .empty
      (withLoader k.id (Dictionary.empty.insert superKey (hiddenEntry hidden))) = .ok t) :
    loadFrom name index (source :: rest) l =
      .ok (some t) { k with asked := (index, name) :: k.asked, compiled := k.compiled + 1 } := by
  rw [loadFrom_cons, behind]
  dsimp only
  rw [read]
  dsimp only
  rw [compiled]

theorem find?_of_some {l : Loader} {name : String} {t : Template} (h : l.cached? name = some t) :
    find? name l = .ok (some t) l := by
  unfold find?
  rw [get_bind_apply, h]
  rfl

theorem find?_of_none {l : Loader} {name : String} (h : l.cached? name = none) :
    find? name l = match loadFrom name 0 l.sources l with
      | .ok (some t) m => .ok (some t) { m with cache := m.cache.map (·.insert name t) }
      | .ok none m => .ok none m
      | .error fault m => .error fault m := by
  unfold find?
  rw [get_bind_apply, h]
  dsimp only
  rw [get_bind_apply, bind_apply]
  cases loadFrom name 0 l.sources l with
  | error fault m => rfl
  | ok found m => cases found <;> rfl

/-- To load one name is to find it. -/
theorem load_apply (name : String) (l : Loader) :
    load name l = match find? name l with
      | .ok (some t) m => .ok t m
      | .ok none m => .error (.notFound [name] (m.sources.map (·.display))) m
      | .error fault m => .error fault m := by
  show findFirst [name] [name] l = _
  unfold findFirst
  rw [bind_apply]
  cases find? name l with
  | error fault m => rfl
  | ok found m => cases found <;> rfl

end Loader

/-! ## Entries -/

namespace Origin.Compiled

variable {o : Origin} {t : Template}

theorem exists_compile (h : o.Compiled t) : ∃ id source name defaults further,
    o.grammar.compile id source name defaults further = .ok t := by
  cases h with
  | alone _ h => exact ⟨_, _, _, _, _, h⟩
  | loader _ h => exact ⟨_, _, _, _, _, (Loader.compileWith_eq_ok h).1⟩

theorem name_of_part (h : o.Compiled t) (standard : o.grammar.macros = Tag.standard) {f : Fragment}
    (part : t.body.Part f) : f.name = t.name := by
  obtain ⟨_, _, _, _, _, compiled⟩ := h.exists_compile
  exact Grammar.name_of_part compiled standard part

theorem ascending (h : o.Compiled t) : t.globals.Ascending := by
  obtain ⟨_, _, name, _, further, compiled⟩ := h.exists_compile
  obtain ⟨_, _, rfl⟩ := Grammar.compile_eq_ok compiled
  exact Grammar.ascending_entries o.grammar name further

/-- The entries of a template say what compiled it. -/
theorem sets (h : o.Compiled t) (standard : o.grammar.macros = Tag.standard) :
    o.Sets t.name t.globals := by
  cases h with
  | @alone g _ _ name _ _ _ free compiled =>
    rw [(Grammar.derives_of_compile compiled standard).1]
    obtain ⟨_, _, rfl⟩ := Grammar.compile_eq_ok compiled
    exact ⟨g.entries_get?_nameKey name (free _ (by decide)),
      g.entries_get?_escapeKey name (free _ (by decide)), fun _ h => nomatch h⟩
  | @loader l _ _ name _ _ _ free compiled =>
    obtain ⟨compiled, -⟩ := Loader.compileWith_eq_ok compiled
    rw [(Grammar.derives_of_compile compiled standard).1]
    obtain ⟨_, _, rfl⟩ := Grammar.compile_eq_ok compiled
    refine ⟨l.grammar.entries_get?_nameKey name ?_, l.grammar.entries_get?_escapeKey name ?_, ?_⟩
    · exact Loader.withLoader_get?_of_none (free _ (by decide) (by decide)) (by decide)
    · exact Loader.withLoader_get?_of_none (free _ (by decide) (by decide)) (by decide)
    · intro id same
      cases same
      exact l.grammar.entries_get?_of_some name (Loader.ascending_withLoader l.id _)
        (Loader.withLoader_get?_loaderKey (free _ (by decide) (by decide)))

end Origin.Compiled

/-! ## What a loader keeps -/

namespace Loader

variable {l : Loader}

/-- With one more template a loader keeps that one and what it kept before. -/
theorem cached?_insert {name other : String} {t t' : Template}
    (kept : cached? { l with cache := l.cache.map (·.insert name t) } other = some t') :
    (other = name ∧ t = t') ∨ l.cached? other = some t' := by
  unfold cached? at kept ⊢
  cases cache : l.cache with
  | none =>
    rw [cache] at kept
    cases kept
  | some d =>
    rw [cache] at kept
    have kept : (d.insert name t).get? other = some t' := kept
    rw [Dictionary.get?_insert] at kept
    split at kept
    · exact .inl ⟨‹_›, Option.some.inj kept⟩
    · exact .inr kept

/-- Loads a template that is not kept from a single source. -/
theorem load_of_compile {l : Loader} {source : Source} {name text : String} {t : Template}
    (sources : l.sources = [source]) (fresh : l.cached? name = none)
    (read : source.read name = .ok (some text))
    (compiled : l.grammar.compile ⟨some l.id, l.compiled⟩ text name .empty
      (withLoader l.id (Dictionary.empty.insert superKey .null)) = .ok t) :
    load name l = .ok t { l with
      compiled := l.compiled + 1, asked := (0, name) :: l.asked,
      cache := l.cache.map (·.insert name t) } := by
  have nothing : loadFrom name 1 [] l = .ok none l := rfl
  have loaded := loadFrom_of_compile nothing read compiled
  rw [← sources] at loaded
  rw [load_apply, find?_of_none fresh, loaded]

end Loader

end TextTemplate
