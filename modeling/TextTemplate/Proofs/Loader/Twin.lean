import TextTemplate.Proofs.Loader.Origin
import TextTemplate.Proofs.Value.Pairing
import TextTemplate.Render.Context

/-!
# Templates that only their identity tells apart

A loader that loads a name a second time makes a template that differs from the first one in its
number, and so does the template that it hides, and so on.  Such templates are twins
(`TemplateOf.Twin`).  Twins are alike in whatever a render takes from them: the entries that they set
up are plain but for the template that they hide, so the values of all names are paired
(`AlikeEntries.exists_pairing`), and in alike places twins are entered alike (`enter_alike`).
-/

namespace TextTemplate

open Value (Paired PairedItems PairedEntries)

/-! ## Twins -/

/-- Entries that are the same and plain, but for the one of a hidden template. -/
structure SameEntries (a b : Dictionary Value) : Prop where
  same (key : String) : key ≠ superKey → a.get? key = b.get? key
  plain (key : String) {v : Value} : key ≠ superKey → a.get? key = some v → v.Plain

mutual

/-- Templates that differ at most in what tells them apart, and so do those that they hide. -/
inductive TemplateOf.Twin : Template → Template → Prop
  | intro {s t : Template} : s.body = t.body → s.defaults = .empty → t.defaults = .empty →
      s.globals.Ascending → t.globals.Ascending → SameEntries s.globals t.globals →
      Veiled (s.globals.get? superKey) (t.globals.get? superKey) → TemplateOf.Twin s t

/-- What stands in the place of a hidden template: nothing, one plain value, or twins. -/
inductive Veiled : Option Value → Option Value → Prop
  | none : Veiled none none
  | plain {v : Value} : v.Plain → Veiled (some v) (some v)
  | twins {s t : Template} : TemplateOf.Twin s t →
      Veiled (some (.template s)) (some (.template t))

end

theorem SameEntries.symm {a b : Dictionary Value} (h : SameEntries a b) : SameEntries b a where
  same key other := (h.same key other).symm
  plain key _ other found := h.plain key other ((h.same key other).trans found)

theorem SameEntries.trans {a b c : Dictionary Value} (h : SameEntries a b) (h' : SameEntries b c) :
    SameEntries a c where
  same key other := (h.same key other).trans (h'.same key other)
  plain key _ other found := h.plain key other found

mutual

theorem TemplateOf.Twin.symm {s t : Template} : s.Twin t → t.Twin s
  | .intro body empty empty' ascending ascending' entries hidden =>
    .intro body.symm empty' empty ascending' ascending entries.symm hidden.symm

theorem Veiled.symm {v w : Option Value} : Veiled v w → Veiled w v
  | .none => .none
  | .plain plain => .plain plain
  | .twins twin => .twins twin.symm

end

mutual

theorem TemplateOf.Twin.trans {s t u : Template} : s.Twin t → t.Twin u → s.Twin u
  | .intro body empty _ ascending _ entries hidden,
    .intro body' _ empty' _ ascending' entries' hidden' =>
    .intro (body.trans body') empty empty' ascending ascending' (entries.trans entries')
      (hidden.trans hidden')

theorem Veiled.trans {v w x : Option Value} : Veiled v w → Veiled w x → Veiled v x
  | .none, h => h
  | .plain plain, .plain _ => .plain plain
  | .twins twin, .twins twin' => .twins (twin.trans twin')

end

theorem TemplateOf.Twin.body_eq {s t : Template} (h : s.Twin t) : s.body = t.body := by
  cases h with
  | intro body => exact body

theorem TemplateOf.Twin.name_eq {s t : Template} (h : s.Twin t) : s.name = t.name :=
  congrArg Fragment.name h.body_eq

/-! ## Entries -/

/-- Entries that twins set up. -/
structure AlikeEntries (a b : Dictionary Value) : Prop extends SameEntries a b where
  hidden : Veiled (a.get? superKey) (b.get? superKey)

theorem TemplateOf.Twin.entries {s t : Template} (h : s.Twin t) : AlikeEntries s.globals t.globals := by
  cases h with
  | intro _ _ _ _ _ entries hidden => exact ⟨entries, hidden⟩

theorem alikeEntries_empty : AlikeEntries .empty .empty where
  same _ _ := rfl
  plain _ _ _ found := nomatch found
  hidden := .none

namespace AlikeEntries

variable {a b c d : Dictionary Value}

/-- Alike entries with one more plain value. -/
theorem insert (h : AlikeEntries a b) (name : String) {v : Value} (plain : v.Plain) :
    AlikeEntries (a.insert name v) (b.insert name v) where
  same key other := by
    rw [Dictionary.get?_insert, Dictionary.get?_insert, h.same key other]
  plain key w other found := by
    rw [Dictionary.get?_insert] at found
    split at found
    · cases found
      exact plain
    · exact h.plain key other found
  hidden := by
    rw [Dictionary.get?_insert, Dictionary.get?_insert]
    split
    · exact .plain plain
    · exact h.hidden

/-- Alike entries with one more for a hidden template. -/
theorem insert_superKey (h : AlikeEntries a b) {v w : Value} (hidden : Veiled (some v) (some w)) :
    AlikeEntries (a.insert superKey v) (b.insert superKey w) where
  same key other := by
    rw [Dictionary.get?_insert_of_ne _ _ other, Dictionary.get?_insert_of_ne _ _ other]
    exact h.same key other
  plain key x other found := by
    rw [Dictionary.get?_insert_of_ne _ _ other] at found
    exact h.plain key other found
  hidden := by
    rw [Dictionary.get?_insert_self, Dictionary.get?_insert_self]
    exact hidden

/-- Alike entries on top of alike ones. -/
theorem overlay (lower : AlikeEntries a b) (upper : AlikeEntries c d) (ascending : c.Ascending)
    (ascending' : d.Ascending) : AlikeEntries (a.overlay c) (b.overlay d) where
  same key other := by
    have same := upper.same key other
    cases found : c.get? key with
    | none =>
      rw [found] at same
      rw [Dictionary.get?_overlay_of_none found, Dictionary.get?_overlay_of_none same.symm]
      exact lower.same key other
    | some v =>
      rw [found] at same
      rw [Dictionary.get?_overlay_of_some ascending found,
        Dictionary.get?_overlay_of_some ascending' same.symm]
  plain key v other found := by
    cases above : c.get? key with
    | none =>
      rw [Dictionary.get?_overlay_of_none above] at found
      exact lower.plain key other found
    | some w =>
      rw [Dictionary.get?_overlay_of_some ascending above] at found
      cases found
      exact upper.plain key other above
  hidden := by
    have hidden := upper.hidden
    cases found : c.get? superKey with
    | none =>
      cases found' : d.get? superKey with
      | none =>
        rw [Dictionary.get?_overlay_of_none found, Dictionary.get?_overlay_of_none found']
        exact lower.hidden
      | some w =>
        rw [found, found'] at hidden
        cases hidden
    | some v =>
      cases found' : d.get? superKey with
      | none =>
        rw [found, found'] at hidden
        cases hidden
      | some w =>
        rw [Dictionary.get?_overlay_of_some ascending found,
          Dictionary.get?_overlay_of_some ascending' found', ← found, ← found']
        exact hidden

end AlikeEntries

/-! ## Twins paired -/

/-- A pairing of twins that agrees on identity, with no difference in the numbers of functions. -/
structure Pairing.OfTwins (R : Pairing) : Prop where
  twin {s t : Template} : R.template s t → s.Twin t
  id {s t s' t' : Template} : R.template s t → R.template s' t' → (s.id = s'.id ↔ t.id = t'.id)
  serial : R.FixesSerials

theorem Pairing.OfTwins.agrees {R : Pairing} (h : R.OfTwins) : R.Agrees where
  name paired := (h.twin paired).name_eq
  id := h.id
  serial same same' := by rw [(h.serial _ _).1 same, (h.serial _ _).1 same']

/-- The pairing of two templates. -/
theorem ofTwins_single {s t : Template} (twin : s.Twin t) :
    Pairing.OfTwins ⟨fun x y => x = s ∧ y = t, (· = ·)⟩ where
  twin := by
    rintro _ _ ⟨rfl, rfl⟩
    exact twin
  id := by
    rintro _ _ _ _ ⟨rfl, rfl⟩ ⟨rfl, rfl⟩
    exact ⟨fun _ => rfl, fun _ => rfl⟩
  serial _ _ := Iff.rfl

/-- The pairing of no templates. -/
theorem ofTwins_empty : Pairing.OfTwins ⟨fun _ _ => False, (· = ·)⟩ where
  twin paired := paired.elim
  id paired := paired.elim
  serial _ _ := Iff.rfl

theorem Veiled.exists_pairing {v w : Option Value} (h : Veiled v w) :
    ∃ R : Pairing, R.OfTwins ∧ Option.Rel (Paired R) v w := by
  cases h with
  | none => exact ⟨_, ofTwins_empty, .none⟩
  | plain plain => exact ⟨_, ofTwins_empty, .some (plain.paired ofTwins_empty.serial)⟩
  | twins twin => exact ⟨_, ofTwins_single twin, .some (.template ⟨rfl, rfl⟩)⟩

/-- At most one template can be reached from some entries, so alike entries have paired values. -/
theorem AlikeEntries.exists_pairing {a b : Dictionary Value} (h : AlikeEntries a b) :
    ∃ R : Pairing, R.OfTwins ∧ ∀ key, Option.Rel (Paired R) (a.get? key) (b.get? key) := by
  obtain ⟨R, twins, hidden⟩ := h.hidden.exists_pairing
  refine ⟨R, twins, fun key => ?_⟩
  by_cases other : key = superKey
  · rw [other]
    exact hidden
  · rw [← h.same key other]
    cases found : a.get? key with
    | none => exact .none
    | some v => exact .some ((h.plain key other found).paired twins.serial)

/-- Values that differ at most in twins. -/
def Value.Alike (v w : Value) : Prop := ∃ R : Pairing, R.OfTwins ∧ Paired R v w

theorem Value.Alike.isTruthy_eq {v w : Value} (h : v.Alike w) : v.isTruthy = w.isTruthy := by
  obtain ⟨_, _, paired⟩ := h
  exact paired.isTruthy_eq

theorem Value.Alike.display_eq {v w : Value} (h : v.Alike w) : v.display = w.display := by
  obtain ⟨_, twins, paired⟩ := h
  exact paired.display_eq twins.agrees

theorem Value.Alike.eq_of_plain {v w : Value} (h : v.Alike w) (plain : v.Plain) : w = v := by
  obtain ⟨_, twins, paired⟩ := h
  exact paired.eq_of_plain twins.serial plain

theorem Value.Alike.iterate {v w : Value} (h : v.Alike w) :
    Ends (List.Forall₂ Value.Alike) v.iterate w.iterate := by
  obtain ⟨R, twins, paired⟩ := h
  exact paired.iterate.mono fun _ _ items =>
    (Value.pairedItems_iff.1 items).imp fun _ _ item => ⟨R, twins, item⟩

/-! ## Places -/

/-- A scope without templates. -/
def PlainScope (scope : Dictionary Value) : Prop := ∀ e ∈ scope.entries, e.2.Plain

theorem PlainScope.get? {scope : Dictionary Value} (h : PlainScope scope) {name : String} {v : Value}
    (found : scope.get? name = some v) : v.Plain := h _ (Dictionary.mem_of_get? found)

theorem plainScope_of_map : ∀ {entries : List (String × Value)},
    (Value.map ⟨entries⟩).Plain → PlainScope ⟨entries⟩
  | [], _, _, mem => nomatch mem
  | (_, _) :: _, plain, e, mem => by
    obtain ⟨first, rest⟩ := Bool.or_eq_false_iff.1 plain
    cases mem with
    | head => exact first
    | tail _ mem => exact plainScope_of_map rest e mem

/-- A scope without templates in which more plain values are put. -/
theorem PlainScope.assign {scope : Dictionary Value} (h : PlainScope scope)
    {entries : List (String × Value)} (plain : ∀ e ∈ entries, e.2.Plain) :
    PlainScope (scope.assign entries) := by
  induction entries generalizing scope with
  | nil => exact h
  | cons e rest ih =>
    refine ih (fun e' mem => ?_) fun e' mem => plain e' (.tail _ mem)
    rcases Dictionary.mem_insertEntry mem with rfl | mem
    · exact plain e (.head _)
    · exact h e' mem

/-- Places with one plain scope, and entries that twins set up. -/
structure Place.Alike (p q : Place) : Prop where
  scope : p.scope = q.scope
  plain : PlainScope p.scope
  depth : p.depth = q.depth
  globals : AlikeEntries p.globals q.globals

namespace Place.Alike

variable {p q : Place}

/-- Names have paired values in alike places. -/
theorem exists_pairing (h : p.Alike q) :
    ∃ R : Pairing, R.OfTwins ∧ ∀ name, Option.Rel (Paired R) (p.lookup? name) (q.lookup? name) := by
  obtain ⟨R, twins, paired⟩ := h.globals.exists_pairing
  refine ⟨R, twins, fun name => ?_⟩
  unfold Place.lookup?
  rw [← h.scope]
  cases found : p.scope.get? name with
  | none => exact paired name
  | some v => exact .some ((h.plain.get? found).paired twins.serial)

theorem escape?_eq (h : p.Alike q) : p.escape? = q.escape? := by
  obtain ⟨R, twins, paired⟩ := h.exists_pairing
  unfold Place.escape?
  have found := paired escapeKey
  generalize p.lookup? escapeKey = x, q.lookup? escapeKey = y at found ⊢
  cases found with
  | none => rfl
  | some value =>
    cases value with
    | function same =>
      cases same with
      | global g same => rw [(twins.serial _ _).1 same]
      | _ => rfl
    | _ => rfl

theorem loader?_eq (h : p.Alike q) : p.loader? = q.loader? := by
  obtain ⟨R, -, paired⟩ := h.exists_pairing
  unfold Place.loader?
  have found := paired loaderKey
  generalize p.lookup? loaderKey = x, q.lookup? loaderKey = y at found ⊢
  cases found with
  | none => rfl
  | some value => cases value <;> rfl

/-- Alike places with another scope. -/
theorem withScope (h : p.Alike q) {scope : Dictionary Value} (plain : PlainScope scope) :
    Place.Alike { p with scope := scope } { q with scope := scope } where
  scope := rfl
  plain := plain
  depth := h.depth
  globals := h.globals

/-- **Twins are entered alike.** -/
theorem enter_alike (h : p.Alike q) {s t : Template} (twin : s.Twin t) :
    Ends Place.Alike (s.enter p) (t.enter q) := by
  cases twin with
  | intro _ empty empty' ascending ascending' entries hidden =>
    unfold TemplateOf.enter
    rw [empty, empty', ← h.scope, ← h.depth]
    split
    · exact .error _
    · refine .ok ⟨rfl, ?_, rfl, h.globals.overlay ⟨entries, hidden⟩ ascending ascending'⟩
      have none : PlainScope .empty := fun _ mem => nomatch mem
      exact none.assign h.plain

end Place.Alike

end TextTemplate
