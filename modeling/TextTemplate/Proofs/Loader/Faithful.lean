import TextTemplate.Loader.Loaders
import TextTemplate.Proofs.Loader.Twin

/-!
# What a cache holds

A cache is faithful if every template that it keeps is a twin of the one that would be loaded afresh
(`Loader.Faithful`).  A new loader is faithful, and loading keeps it so, whether it succeeds or fails:
a failed load leaves nothing behind.  So two loaders of the same sources that are both faithful load
twins for every name, or fail in the same way, whatever either of them keeps (`Loader.find?_alike`,
`Loader.loadAny_alike`, `Loaders.Alike.load`).
-/

namespace TextTemplate

namespace Loader

/-! ## Loaders of the same sources -/

/-- Loaders of one number, with the same sources and grammar. -/
structure Kin (l l' : Loader) : Prop where
  id : l.id = l'.id
  sources : l.sources = l'.sources
  grammar : l.grammar = l'.grammar

theorem Kin.refl (l : Loader) : l.Kin l := ⟨rfl, rfl, rfl⟩

theorem Kin.symm {l l' : Loader} (h : l.Kin l') : l'.Kin l :=
  ⟨h.id.symm, h.sources.symm, h.grammar.symm⟩

theorem Kin.trans {l l' l'' : Loader} (h : l.Kin l') (h' : l'.Kin l'') : l.Kin l'' :=
  ⟨h.id.trans h'.id, h.sources.trans h'.sources, h.grammar.trans h'.grammar⟩

/-- A loader that differs from another one at most in what it counts. -/
structure Stays (l l' : Loader) : Prop extends Kin l l' where
  cache : l'.cache = l.cache

theorem Stays.refl (l : Loader) : l.Stays l := ⟨.refl l, rfl⟩

theorem Stays.trans {l l' l'' : Loader} (h : l.Stays l') (h' : l'.Stays l'') : l.Stays l'' :=
  ⟨h.toKin.trans h'.toKin, h'.cache.trans h.cache⟩

/-- Two loaders, each of which has at most counted since. -/
def Staying (l l' m m' : Loader) : Prop := l.Stays m ∧ l'.Stays m'

variable {l l' m m' : Loader}

theorem Staying.kin (h : Staying l l' m m') (kin : l.Kin l') : m.Kin m' :=
  h.1.toKin.symm.trans (kin.trans h.2.toKin)

theorem Staying.left (h : Staying l l' m m') {k : Loader} (next : m.Stays k) : l.Stays k :=
  h.1.trans next

theorem Staying.right (h : Staying l l' m m') {k : Loader} (next : m'.Stays k) : l'.Stays k :=
  h.2.trans next

/-! ## Loading afresh -/

/-- One text is compiled to twins, whoever counts them. -/
theorem compile_alike (g : Grammar) (id id' : TemplateId) (source name : String)
    {further further' : Dictionary Value} (alike : AlikeEntries further further')
    (ascending : further.Ascending) (ascending' : further'.Ascending) :
    Ends TemplateOf.Twin (g.compile id source name .empty further)
      (g.compile id' source name .empty further') := by
  have plain : (g.escapeEntry name).Plain := by
    unfold Grammar.escapeEntry
    cases g.escapeFor name with
    | none => rfl
    | some f => exact Value.plain_function f
  have own := (alikeEntries_empty.insert nameKey (v := .text name) rfl).insert escapeKey plain
  have entries : AlikeEntries (g.entries name further) (g.entries name further') :=
    own.overlay alike ascending ascending'
  unfold Grammar.compile
  refine .same_bind fun body => ?_
  exact .ok (.intro rfl rfl rfl (g.ascending_entries name further)
    (g.ascending_entries name further') entries.toSameEntries entries.hidden)

theorem compileWith_alike (kin : l.Kin l') (staying : Staying l l' m m') (source name : String)
    {further further' : Dictionary Value} (alike : AlikeEntries further further')
    (ascending : further.Ascending) (ascending' : further'.Ascending) :
    EndsIn (Staying l l') TemplateOf.Twin (compileWith source name .empty further m)
      (compileWith source name .empty further' m') := by
  have later : Staying l l' { m with compiled := m.compiled + 1 }
      { m' with compiled := m'.compiled + 1 } :=
    ⟨staying.left ⟨⟨rfl, rfl, rfl⟩, rfl⟩, staying.right ⟨⟨rfl, rfl, rfl⟩, rfl⟩⟩
  have same := staying.kin kin
  have compiled : Ends TemplateOf.Twin
      (m.grammar.compile ⟨some m.id, m.compiled⟩ source name .empty (withLoader m.id further))
      (m'.grammar.compile ⟨some m'.id, m'.compiled⟩ source name .empty
        (withLoader m'.id further')) := by
    rw [← same.grammar, ← same.id]
    have own := alikeEntries_empty.insert loaderKey (v := .loader m.id) rfl
    exact compile_alike m.grammar _ _ source name (own.overlay alike ascending ascending')
      (ascending_withLoader m.id further) (ascending_withLoader m.id further')
  rw [compileWith_apply, compileWith_apply]
  generalize m.grammar.compile _ _ _ _ _ = x, m'.grammar.compile _ _ _ _ _ = y at compiled ⊢
  cases compiled with
  | ok twin => exact .ok twin later
  | error fault => exact .error fault later

theorem ask_alike (staying : Staying l l' m m') (index : Nat) (source : Source) (name : String) :
    EndsIn (Staying l l') (· = ·) (ask index source name m) (ask index source name m') := by
  have later : Staying l l' { m with asked := (index, name) :: m.asked }
      { m' with asked := (index, name) :: m'.asked } :=
    ⟨staying.left ⟨⟨rfl, rfl, rfl⟩, rfl⟩, staying.right ⟨⟨rfl, rfl, rfl⟩, rfl⟩⟩
  refine EndsIn.bind (.ok (r := (· = ·)) rfl later) fun _ _ _ _ _ _ _ later => ?_
  cases source.read name with
  | ok text => exact .ok rfl later
  | error fault => exact .error fault later

/-- **A name is loaded from the same sources to twins**, whatever is kept of it. -/
theorem loadFrom_alike (kin : l.Kin l') (staying : Staying l l' m m') (name : String) (index : Nat)
    (sources : List Source) :
    EndsIn (Staying l l') (Option.Rel TemplateOf.Twin) (loadFrom name index sources m)
      (loadFrom name index sources m') := by
  induction sources generalizing index m m' with
  | nil => exact .ok .none staying
  | cons source rest ih =>
    refine EndsIn.bind (ih staying (index + 1)) fun hidden hidden' _ _ _ _ twins staying => ?_
    refine EndsIn.bind (ask_alike staying index source name) fun text _ _ _ _ _ same staying => ?_
    cases same
    cases text with
    | none => exact .ok twins staying
    | some text =>
      have ascending (v : Value) : (Dictionary.empty.insert superKey v).Ascending :=
        Dictionary.ascending_empty.insert superKey v
      have compiled (v w : Value) (veiled : Veiled (some v) (some w)) := compileWith_alike kin staying
        text name (alikeEntries_empty.insert_superKey veiled) (ascending v) (ascending w)
      cases twins with
      | none =>
        exact EndsIn.bind (compiled .null .null (.plain rfl)) fun _ _ _ _ _ _ twin staying =>
          .ok (.some twin) staying
      | @some s t twin =>
        exact EndsIn.bind (compiled (.template s) (.template t) (.twins twin))
          fun _ _ _ _ _ _ twin staying => .ok (.some twin) staying

/-! ## Faithful caches -/

/-- The loader as it was made, without a cache. -/
def bare (l : Loader) : Loader := new l.id l.sources l.grammar false

/-- A loader that keeps twins of what it would load afresh, and nothing else. -/
def Faithful (l : Loader) : Prop := ∀ name t, l.cached? name = some t →
  ∃ t₀ m, loadFrom name 0 l.sources l.bare = .ok (some t₀) m ∧ t₀.Twin t

theorem Kin.bare_eq (kin : l.Kin l') : l.bare = l'.bare := by
  rw [bare, bare, kin.id, kin.sources, kin.grammar]

theorem Stays.faithful (stays : l.Stays l') (faithful : l.Faithful) : l'.Faithful := by
  intro name t kept
  rw [← stays.bare_eq, ← stays.sources]
  refine faithful name t ?_
  rw [cached?, ← stays.cache]
  exact kept

theorem new_faithful (id : LoaderId) (sources : List Source) (grammar : Grammar) (caching : Bool) :
    (new id sources grammar caching).Faithful := by
  intro name t kept
  cases caching <;> cases kept

theorem clear_faithful (l : Loader) : l.clear.Faithful := by
  intro name t kept
  unfold clear cached? at kept
  cases cache : l.cache with
  | none => rw [cache] at kept; cases kept
  | some d => rw [cache] at kept; cases kept

/-- A template may be kept if it is a twin of what would be loaded. -/
theorem Faithful.keep (faithful : l.Faithful) {name : String} {t₀ t : Template}
    (fresh : loadFrom name 0 l.sources l.bare = .ok (some t₀) m) (twin : t₀.Twin t) :
    Faithful { l with cache := l.cache.map (·.insert name t) } := by
  intro other t' kept
  obtain ⟨rfl, rfl⟩ | kept := cached?_insert kept
  · exact ⟨t₀, m, fresh, twin⟩
  · exact faithful other t' kept

/-- **A faithful loader finds what would be loaded afresh**, and stays faithful. -/
theorem find?_fresh (faithful : l.Faithful) (name : String) :
    EndsIn (fun _ m => l.Kin m ∧ m.Faithful) (Option.Rel TemplateOf.Twin)
      (loadFrom name 0 l.sources l.bare) (find? name l) := by
  unfold find?
  rw [get_bind_apply]
  cases kept : l.cached? name with
  | some t =>
    obtain ⟨t₀, m, fresh, twin⟩ := faithful name t kept
    rw [fresh]
    exact .ok (.some twin) ⟨.refl l, faithful⟩
  | none =>
    dsimp only
    rw [get_bind_apply, bind_apply]
    have kin : l.bare.Kin l := ⟨rfl, rfl, rfl⟩
    have loaded := loadFrom_alike kin ⟨.refl _, .refl _⟩ name 0 l.sources
    cases fresh : loadFrom name 0 l.sources l.bare with
    | error fault m =>
      rw [fresh] at loaded
      generalize loadFrom name 0 l.sources l = result at loaded ⊢
      cases loaded with
      | error _ staying => exact .error _ ⟨staying.2.toKin, staying.2.faithful faithful⟩
    | ok found₀ m =>
      rw [fresh] at loaded
      generalize loadFrom name 0 l.sources l = result at loaded ⊢
      cases loaded with
      | @ok _ found _ m' twins staying =>
        obtain ⟨-, stays⟩ := staying
        cases twins with
        | none => exact .ok .none ⟨stays.toKin, stays.faithful faithful⟩
        | some twin =>
          rw [stays.sources, stays.bare_eq] at fresh
          exact .ok (.some twin)
            ⟨⟨stays.id, stays.sources, stays.grammar⟩, (stays.faithful faithful).keep fresh twin⟩

/-! ## Loaders that give the same -/

/-- Faithful loaders of the same sources, whatever each of them keeps. -/
structure Alike (l l' : Loader) : Prop extends Kin l l' where
  faithful : l.Faithful
  faithful' : l'.Faithful

/-- Two loaders of the same sources are alike as long as nothing has been loaded. -/
theorem new_alike (id : LoaderId) (sources : List Source) (grammar : Grammar)
    (caching caching' : Bool) :
    (new id sources grammar caching).Alike (new id sources grammar caching') where
  id := rfl
  sources := rfl
  grammar := rfl
  faithful := new_faithful id sources grammar caching
  faithful' := new_faithful id sources grammar caching'

theorem Alike.clear (alike : l.Alike l') : l.clear.Alike l'.clear where
  id := alike.id
  sources := alike.sources
  grammar := alike.grammar
  faithful := clear_faithful l
  faithful' := clear_faithful l'

theorem Alike.of_staying (alike : l.Alike l') (staying : Staying l l' m m') : m.Alike m' where
  toKin := staying.kin alike.toKin
  faithful := staying.1.faithful alike.faithful
  faithful' := staying.2.faithful alike.faithful'

/-- Alike loaders find twins. -/
theorem find?_alike (alike : l.Alike l') (name : String) :
    EndsIn Alike (Option.Rel TemplateOf.Twin) (find? name l) (find? name l') := by
  have left := find?_fresh alike.faithful name
  have right := find?_fresh alike.faithful' name
  rw [← alike.sources, ← alike.bare_eq] at right
  generalize find? name l = x, find? name l' = y, loadFrom name 0 l.sources l.bare = fresh
    at left right ⊢
  have joined {m m' : Loader} (h : l.Kin m ∧ m.Faithful) (h' : l'.Kin m' ∧ m'.Faithful) :
      m.Alike m' := ⟨h.1.symm.trans (alike.toKin.trans h'.1), h.2, h'.2⟩
  cases left with
  | ok twins states =>
    cases right with
    | ok twins' states' =>
      refine .ok ?_ (joined states states')
      cases twins with
      | none => exact twins'
      | some twin => cases twins' with | some twin' => exact .some (twin.symm.trans twin')
  | error fault states => cases right with | error _ states' => exact .error _ (joined states states')

theorem findFirst_alike (alike : l.Alike l') (all names : List String) :
    EndsIn Alike TemplateOf.Twin (findFirst all names l) (findFirst all names l') := by
  induction names generalizing l l' with
  | nil =>
    have fault : findFirst all [] l' = .error (.notFound all (l.sources.map (·.display))) l' := by
      rw [alike.sources]
      rfl
    rw [fault]
    exact .error _ alike
  | cons name rest ih =>
    refine EndsIn.bind (find?_alike alike name) fun _ _ _ _ _ _ twins alike => ?_
    cases twins with
    | none => exact ih alike
    | some twin => exact .ok twin alike

/-- **Alike loaders load twins**, or fail in the same way. -/
theorem loadAny_alike (alike : l.Alike l') (names : List String) :
    EndsIn Alike TemplateOf.Twin (loadAny names l) (loadAny names l') := by
  unfold loadAny
  split
  · exact .error _ alike
  · exact findFirst_alike alike names names

theorem own_compile_alike (alike : l.Alike l') (source : String) :
    EndsIn Alike TemplateOf.Twin (compile source l) (compile source l') := by
  have compiled := compileWith_alike alike.toKin
    ⟨.refl l, .refl l'⟩ source unnamed alikeEntries_empty
    Dictionary.ascending_empty Dictionary.ascending_empty
  exact compiled.mono (fun _ _ twin => twin) fun _ _ staying => alike.of_staying staying

end Loader

/-! ## All loaders -/

namespace Loaders

/-- Live loaders that are alike, one by one. -/
def Alike (ls ls' : Loaders) : Prop := List.Forall₂ Loader.Alike ls.live ls'.live

variable {ls ls' : Loaders}

theorem Alike.get? (alike : ls.Alike ls') (id : LoaderId) :
    Option.Rel Loader.Alike (ls.get? id) (ls'.get? id) := by
  obtain ⟨live⟩ := ls
  obtain ⟨live'⟩ := ls'
  unfold Alike at alike
  unfold Loaders.get?
  dsimp only at alike ⊢
  induction alike with
  | nil => exact .none
  | cons first _ ih =>
    rw [List.find?_cons, List.find?_cons, first.id]
    split
    · exact .some first
    · exact ih

theorem Alike.set (alike : ls.Alike ls') {l l' : Loader} (loaders : l.Alike l') :
    (ls.set l).Alike (ls'.set l') := by
  obtain ⟨live⟩ := ls
  obtain ⟨live'⟩ := ls'
  unfold Alike at alike ⊢
  unfold Loaders.set
  dsimp only at alike ⊢
  rw [loaders.id]
  induction alike with
  | nil => exact .nil
  | cons first _ ih =>
    rw [List.map_cons, List.map_cons, first.id]
    refine .cons ?_ ih
    split
    · exact loaders
    · exact first

/-- A step that ends alike in alike loaders. -/
theorem Alike.run (alike : ls.Alike ls') {l l' : Loader} {α α' : Type} {r : α → α' → Prop}
    {step : Loader.Loading α} {step' : Loader.Loading α'}
    (h : EndsIn Loader.Alike r (step l) (step' l')) :
    Ends r (ls.run l step).1 (ls'.run l' step').1 ∧
      (ls.run l step).2.Alike (ls'.run l' step').2 := by
  unfold Loaders.run EStateM.run
  generalize step l = x, step' l' = y at h ⊢
  cases h with
  | ok h loaders => exact ⟨.ok h, alike.set loaders⟩
  | error fault loaders => exact ⟨.error fault, alike.set loaders⟩

/-- Twins are loaded through a number. -/
theorem Alike.load (alike : ls.Alike ls') (id : LoaderId) (name : String) :
    Ends TemplateOf.Twin (Loaders.load id name ls).1 (Loaders.load id name ls').1 ∧
      (Loaders.load id name ls).2.Alike (Loaders.load id name ls').2 := by
  unfold Loaders.load
  have found := alike.get? id
  generalize ls.get? id = x, ls'.get? id = y at found ⊢
  cases found with
  | none => exact ⟨.error _, alike⟩
  | some loaders => exact alike.run (Loader.loadAny_alike loaders [name])

end Loaders

end TextTemplate
