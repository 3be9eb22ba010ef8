import Mathlib
import TextTemplate.Proofs.Steps
import TextTemplate.Value.Access
import TextTemplate.Value.Display
import TextTemplate.Value.Sort

/-!
# What values show of templates and functions

A value may hold templates, but all that can be seen of them is what they are called and which of them
are the same.  The same goes for the functions that were found by their names: each has a number, and
no more is seen of the numbers than which are the same.  To say so, the templates and the numbers of
one world are paired with those of another (`Pairing`), and two values are paired if they differ at most
in what is paired (`Value.Paired`).  If the pairing agrees on names and on identity, then paired values
look the same: they have the same kind, the same text and the same order, they are equal to the same
values, and their parts are paired again.
-/

namespace TextTemplate

/-- What of one world stands for what of another: templates for templates, and the numbers of global
functions for such numbers. -/
structure Pairing where
  template : Template → Template → Prop
  serial : Nat → Nat → Prop

/-- Paired templates have one name, and all that is paired is told apart in one world as in the
other. -/
structure Pairing.Agrees (R : Pairing) : Prop where
  name {s t : Template} : R.template s t → s.name = t.name
  id {s t s' t' : Template} : R.template s t → R.template s' t' → (s.id = s'.id ↔ t.id = t'.id)
  serial {k l k' l' : Nat} : R.serial k l → R.serial k' l' → (k = k' ↔ l = l')

/-- Each number is paired with itself alone. -/
def Pairing.FixesSerials (R : Pairing) : Prop := ∀ k l, R.serial k l ↔ k = l

/-- The pairing of one world with itself. -/
def Pairing.same : Pairing := ⟨(· = ·), (· = ·)⟩

theorem Pairing.same_agrees : Pairing.same.Agrees where
  name same := congrArg TemplateOf.name same
  id same same' := by rw [show _ = _ from same, show _ = _ from same']
  serial same same' := by rw [show _ = _ from same, show _ = _ from same']

/-- Two functions that differ at most in the numbers of global ones, which are paired. -/
inductive Function.Paired (R : Pairing) : Function → Function → Prop
  | global (g : Global) {k l : Nat} : R.serial k l → Function.Paired R (.global g k) (.global g l)
  | escaper (serial : Nat) : Function.Paired R (.escaper serial) (.escaper serial)
  | host (name : String) (serial : Nat) : Function.Paired R (.host name serial) (.host name serial)

theorem Function.Paired.name_eq {R : Pairing} {f g : Function} (h : f.Paired R g) :
    f.name = g.name := by
  cases h <;> rfl

theorem Function.Paired.refl {R : Pairing} (fixes : R.FixesSerials) : ∀ f : Function, f.Paired R f
  | .global g _ => .global g ((fixes _ _).2 rfl)
  | .escaper serial => .escaper serial
  | .host name serial => .host name serial

/-- Functions are the same in one world as in the other. -/
theorem Function.Paired.eq_iff {R : Pairing} (agrees : R.Agrees) {f f' g g' : Function}
    (hf : f.Paired R f') (hg : g.Paired R g') : f = g ↔ f' = g' := by
  cases hf with
  | global a paired =>
    cases hg with
    | global b other =>
      rw [Function.global.injEq, Function.global.injEq, agrees.serial paired other]
    | _ => exact iff_of_false nofun nofun
  | _ =>
    cases hg with
    | global => exact iff_of_false nofun nofun
    | _ => rfl

namespace Value

/-! ## Paired values -/

mutual

/-- Two values that differ at most in templates and functions, which are paired. -/
inductive Paired (R : Pairing) : Value → Value → Prop
  | null : Paired R .null .null
  | bool (b : Bool) : Paired R (.bool b) (.bool b)
  | int (n : Int64) : Paired R (.int n) (.int n)
  | float (x : Float) : Paired R (.float x) (.float x)
  | text (s : String) : Paired R (.text s) (.text s)
  | list {vs ws : List Value} : PairedItems R vs ws → Paired R (.list vs) (.list ws)
  | map {a b : List (String × Value)} : PairedEntries R a b → Paired R (.map ⟨a⟩) (.map ⟨b⟩)
  | function {f g : Function} : f.Paired R g → Paired R (.function f) (.function g)
  | template {s t : Template} : R.template s t → Paired R (.template s) (.template t)
  | loader (id : LoaderId) : Paired R (.loader id) (.loader id)

/-- Lists of paired values. -/
inductive PairedItems (R : Pairing) : List Value → List Value → Prop
  | nil : PairedItems R [] []
  | cons {v w : Value} {vs ws : List Value} :
      Paired R v w → PairedItems R vs ws → PairedItems R (v :: vs) (w :: ws)

/-- Entries of the same names, with paired values. -/
inductive PairedEntries (R : Pairing) : List (String × Value) → List (String × Value) → Prop
  | nil : PairedEntries R [] []
  | cons {name : String} {v w : Value} {a b : List (String × Value)} :
      Paired R v w → PairedEntries R a b → PairedEntries R ((name, v) :: a) ((name, w) :: b)

end

variable {R : Pairing}

theorem pairedItems_iff {vs ws : List Value} :
    PairedItems R vs ws ↔ List.Forall₂ (Paired R) vs ws := by
  constructor
  · intro h
    induction vs generalizing ws with
    | nil => cases h; exact .nil
    | cons v vs ih => cases h with | cons first rest => exact .cons first (ih rest)
  · intro h
    induction h with
    | nil => exact .nil
    | cons first _ ih => exact .cons first ih

theorem PairedItems.append {vs ws vs' ws' : List Value} (h : PairedItems R vs ws)
    (h' : PairedItems R vs' ws') : PairedItems R (vs ++ vs') (ws ++ ws') :=
  pairedItems_iff.2 (List.rel_append (pairedItems_iff.1 h) (pairedItems_iff.1 h'))

theorem PairedItems.reverse {vs ws : List Value} (h : PairedItems R vs ws) :
    PairedItems R vs.reverse ws.reverse :=
  pairedItems_iff.2 (List.forall₂_reverse_iff.2 (pairedItems_iff.1 h))

theorem PairedItems.length_eq {vs ws : List Value} (h : PairedItems R vs ws) :
    vs.length = ws.length := (pairedItems_iff.1 h).length_eq

theorem PairedItems.isEmpty_eq {vs ws : List Value} (h : PairedItems R vs ws) :
    vs.isEmpty = ws.isEmpty := by
  cases h <;> rfl

theorem PairedItems.getElem? {vs ws : List Value} (h : PairedItems R vs ws) (i : Nat) :
    Option.Rel (Paired R) vs[i]? ws[i]? := by
  induction i generalizing vs ws with
  | zero =>
    cases h with
    | nil => exact .none
    | cons first _ => exact .some first
  | succ i ih =>
    cases h with
    | nil => exact .none
    | cons _ rest => exact ih rest

/-- A test that paired values share has the same results on both lists. -/
theorem PairedItems.map_eq {vs ws : List Value} (h : PairedItems R vs ws) {p q : Value → Bool}
    (same : ∀ v w, Paired R v w → p v = q w) : vs.map p = ws.map q := by
  induction vs generalizing ws with
  | nil => cases h; rfl
  | cons v vs ih =>
    cases h with
    | cons first rest => rw [List.map_cons, List.map_cons, same _ _ first, ih rest]

/-! ## What values hold -/

mutual

/-- Whether a value is one of some templates, a global function with one of some numbers, or holds one
of these at any depth. -/
def mentions (templates : Template → Bool) (serials : Nat → Bool) : Value → Bool
  | .list items => itemsMention templates serials items
  | .map ⟨entries⟩ => entriesMention templates serials entries
  | .function (.global _ serial) => serials serial
  | .template t => templates t
  | .function (.escaper _) | .function (.host ..) => false
  | .null | .bool _ | .int _ | .float _ | .text _ | .loader _ => false

/-- Whether one of some items holds what is looked for. -/
def itemsMention (templates : Template → Bool) (serials : Nat → Bool) : List Value → Bool
  | [] => false
  | v :: rest => v.mentions templates serials || itemsMention templates serials rest

/-- Whether the value of one of some entries holds what is looked for. -/
def entriesMention (templates : Template → Bool) (serials : Nat → Bool) :
    List (String × Value) → Bool
  | [] => false
  | (_, v) :: rest => v.mentions templates serials || entriesMention templates serials rest

end

section

variable {templates : Template → Bool} {serials : Nat → Bool}

mutual

/-- A value is paired with itself if all that it holds is. -/
theorem paired_self (template : ∀ t, templates t = false → R.template t t)
    (serial : ∀ k, serials k = false → R.serial k k) :
    ∀ {v : Value}, v.mentions templates serials = false → Paired R v v
  | .null, _ => .null
  | .bool b, _ => .bool b
  | .int n, _ => .int n
  | .float x, _ => .float x
  | .text s, _ => .text s
  | .list _, h => .list (pairedItems_self template serial h)
  | .map ⟨_⟩, h => .map (pairedEntries_self template serial h)
  | .function (.global g k), h => .function (.global g (serial k h))
  | .function (.escaper k), _ => .function (.escaper k)
  | .function (.host name k), _ => .function (.host name k)
  | .template t, h => .template (template t h)
  | .loader id, _ => .loader id

theorem pairedItems_self (template : ∀ t, templates t = false → R.template t t)
    (serial : ∀ k, serials k = false → R.serial k k) :
    ∀ {vs : List Value}, itemsMention templates serials vs = false → PairedItems R vs vs
  | [], _ => .nil
  | _ :: _, h => .cons (paired_self template serial (Bool.or_eq_false_iff.1 h).1)
      (pairedItems_self template serial (Bool.or_eq_false_iff.1 h).2)

theorem pairedEntries_self (template : ∀ t, templates t = false → R.template t t)
    (serial : ∀ k, serials k = false → R.serial k k) : ∀ {entries : List (String × Value)},
    entriesMention templates serials entries = false → PairedEntries R entries entries
  | [], _ => .nil
  | (_, _) :: _, h => .cons (paired_self template serial (Bool.or_eq_false_iff.1 h).1)
      (pairedEntries_self template serial (Bool.or_eq_false_iff.1 h).2)

end

mutual

/-- What is paired with a value is this value, if all that it holds is paired with itself alone. -/
theorem Paired.eq_of_mentions
    (template : ∀ s t, templates s = false → R.template s t → t = s)
    (serial : ∀ k l, serials k = false → R.serial k l → l = k) {v w : Value} (h : Paired R v w)
    (none : v.mentions templates serials = false) : w = v := by
  cases h with
  | list items => rw [items.eq_of_mentions template serial none]
  | map entries => rw [entries.eq_of_mentions template serial none]
  | function paired =>
    cases paired with
    | global g paired => rw [serial _ _ none paired]
    | _ => rfl
  | template paired => rw [template _ _ none paired]
  | _ => rfl

theorem PairedItems.eq_of_mentions
    (template : ∀ s t, templates s = false → R.template s t → t = s)
    (serial : ∀ k l, serials k = false → R.serial k l → l = k) {vs ws : List Value}
    (h : PairedItems R vs ws) (none : itemsMention templates serials vs = false) : ws = vs := by
  cases h with
  | nil => rfl
  | cons first rest =>
    obtain ⟨none, nones⟩ := Bool.or_eq_false_iff.1 none
    rw [first.eq_of_mentions template serial none, rest.eq_of_mentions template serial nones]

theorem PairedEntries.eq_of_mentions
    (template : ∀ s t, templates s = false → R.template s t → t = s)
    (serial : ∀ k l, serials k = false → R.serial k l → l = k) {a b : List (String × Value)}
    (h : PairedEntries R a b) (none : entriesMention templates serials a = false) : b = a := by
  cases h with
  | nil => rfl
  | cons first rest =>
    obtain ⟨none, nones⟩ := Bool.or_eq_false_iff.1 none
    rw [first.eq_of_mentions template serial none, rest.eq_of_mentions template serial nones]

end

end

/-- A value that holds no template. -/
def Plain (v : Value) : Prop := v.mentions (fun _ => true) (fun _ => false) = false

theorem plain_function (f : Function) : (Value.function f).Plain := by
  cases f <;> rfl

/-- A plain value is paired with itself, if each number is. -/
theorem Plain.paired (fixes : R.FixesSerials) {v : Value} (plain : v.Plain) : Paired R v v := by
  refine paired_self ?_ (fun k _ => (fixes k k).2 rfl) plain
  exact fun _ none => nomatch none

/-- What is paired with a plain value is this value. -/
theorem Paired.eq_of_plain (fixes : R.FixesSerials) {v w : Value} (h : Paired R v w)
    (plain : v.Plain) : w = v := by
  refine h.eq_of_mentions ?_ (fun k l _ same => ((fixes k l).1 same).symm) plain
  exact fun _ _ none => nomatch none

mutual

/-- A value does not hold what nobody looks for. -/
theorem mentions_nothing :
    ∀ v : Value, v.mentions (fun _ => false) (fun _ => false) = false
  | .list items => itemsMention_nothing items
  | .map ⟨entries⟩ => entriesMention_nothing entries
  | .function (.global ..) | .function (.escaper _) | .function (.host ..) => rfl
  | .null | .bool _ | .int _ | .float _ | .text _ | .template _ | .loader _ => rfl

theorem itemsMention_nothing :
    ∀ vs : List Value, itemsMention (fun _ => false) (fun _ => false) vs = false
  | [] => rfl
  | v :: rest => Bool.or_eq_false_iff.2 ⟨mentions_nothing v, itemsMention_nothing rest⟩

theorem entriesMention_nothing : ∀ entries : List (String × Value),
    entriesMention (fun _ => false) (fun _ => false) entries = false
  | [] => rfl
  | (_, v) :: rest => Bool.or_eq_false_iff.2 ⟨mentions_nothing v, entriesMention_nothing rest⟩

end

theorem paired_same_iff {v w : Value} : Paired .same v w ↔ v = w := by
  constructor
  · intro h
    exact (h.eq_of_mentions (fun _ _ _ same => Eq.symm same) (fun _ _ _ same => Eq.symm same)
      (mentions_nothing v)).symm
  · rintro rfl
    exact paired_self (fun _ _ => rfl) (fun _ _ => rfl) (mentions_nothing v)

/-- Items of one kind, each of which is paired with itself. -/
theorem pairedItems_map {α : Type} {f : α → Value} (self : ∀ a, Paired R (f a) (f a))
    (list : List α) : PairedItems R (list.map f) (list.map f) := by
  induction list with
  | nil => exact .nil
  | cons a rest ih => exact .cons (self a) ih

/-! ## Entries -/

theorem PairedEntries.keys_eq {a b : List (String × Value)} (h : PairedEntries R a b) :
    a.map Prod.fst = b.map Prod.fst := by
  induction a generalizing b with
  | nil => cases h; rfl
  | cons _ a ih => cases h with | cons _ rest => rw [List.map_cons, List.map_cons, ih rest]

theorem PairedEntries.values {a b : List (String × Value)} (h : PairedEntries R a b) :
    PairedItems R (a.map Prod.snd) (b.map Prod.snd) := by
  induction a generalizing b with
  | nil => cases h; exact .nil
  | cons _ a ih => cases h with | cons first rest => exact .cons first (ih rest)

theorem PairedEntries.length_eq {a b : List (String × Value)} (h : PairedEntries R a b) :
    a.length = b.length := by
  have names := congrArg List.length h.keys_eq
  rwa [List.length_map, List.length_map] at names

theorem PairedEntries.isEmpty_eq {a b : List (String × Value)} (h : PairedEntries R a b) :
    a.isEmpty = b.isEmpty := by
  cases h <;> rfl

theorem PairedEntries.lookup {a b : List (String × Value)} (h : PairedEntries R a b)
    (name : String) : Option.Rel (Paired R) (a.lookup name) (b.lookup name) := by
  induction a generalizing b with
  | nil => cases h; exact .none
  | cons e a ih =>
    cases h with
    | cons first rest =>
      rw [List.lookup_cons, List.lookup_cons]
      split
      · exact .some first
      · exact ih rest

theorem PairedEntries.contains_eq {a b : List (String × Value)} (h : PairedEntries R a b)
    (name : String) : (a.lookup name).isSome = (b.lookup name).isSome := by
  have found := h.lookup name
  generalize a.lookup name = x, b.lookup name = y at found ⊢
  cases found <;> rfl

theorem PairedEntries.insertEntry {a b : List (String × Value)} (h : PairedEntries R a b)
    (name : String) {v w : Value} (paired : Paired R v w) :
    PairedEntries R (Dictionary.insertEntry name v a) (Dictionary.insertEntry name w b) := by
  induction a generalizing b with
  | nil => cases h; exact .cons paired .nil
  | cons e a ih =>
    cases h with
    | @cons n _ _ _ _ first rest =>
      unfold Dictionary.insertEntry
      by_cases before : name < n
      · rw [if_pos before, if_pos before]
        exact .cons paired (.cons first rest)
      · rw [if_neg before, if_neg before]
        by_cases same : name = n
        · rw [if_pos same, if_pos same]
          exact .cons paired rest
        · rw [if_neg same, if_neg same]
          exact .cons first (ih rest)

/-! ## What is seen of a value -/

theorem Paired.kind_eq {v w : Value} (h : Paired R v w) : v.kind = w.kind := by
  cases h <;> rfl

theorem Paired.isTruthy_eq {v w : Value} (h : Paired R v w) : v.isTruthy = w.isTruthy := by
  cases h with
  | list items => exact congrArg not items.isEmpty_eq
  | map entries => exact congrArg not entries.isEmpty_eq
  | _ => rfl

theorem Paired.float?_eq {v w : Value} (h : Paired R v w) : v.float? = w.float? := by
  cases h <;> rfl

theorem Paired.int64?_eq {v w : Value} (h : Paired R v w) : v.int64? = w.int64? := by
  cases h <;> rfl

theorem Paired.int?_eq {v w : Value} (h : Paired R v w) : v.int? = w.int? :=
  congrArg (Option.map Int64.toInt) h.int64?_eq

theorem Paired.iterate {v w : Value} (h : Paired R v w) :
    Ends (PairedItems R) v.iterate w.iterate := by
  cases h with
  | list items => exact .ok items
  | text s => exact .ok (pairedItems_map (fun _ => .text _) _)
  | map entries =>
    refine .ok ?_
    rw [Dictionary.keys, Dictionary.keys, entries.keys_eq]
    exact pairedItems_map (fun _ => .text _) _
  | _ => exact .error _

mutual

/-- Paired values are written in the same way. -/
theorem Paired.written_eq (agrees : R.Agrees) {v w : Value} (h : Paired R v w) :
    v.written = w.written := by
  cases h with
  | list items => rw [written, written, items.written_eq agrees]
  | map entries => rw [written, written, entries.written_eq agrees]
  | function paired => rw [written, written, paired.name_eq]
  | template paired => rw [written, written, agrees.name paired]
  | _ => rfl

theorem PairedItems.written_eq (agrees : R.Agrees) {vs ws : List Value} (h : PairedItems R vs ws) :
    writtenItems vs = writtenItems ws := by
  cases h with
  | nil => rfl
  | cons first rest =>
    rw [writtenItems, writtenItems, first.written_eq agrees, rest.written_eq agrees]

theorem PairedEntries.written_eq (agrees : R.Agrees) {a b : List (String × Value)}
    (h : PairedEntries R a b) : writtenEntries a = writtenEntries b := by
  cases h with
  | nil => rfl
  | cons first rest =>
    rw [writtenEntries, writtenEntries, first.written_eq agrees, rest.written_eq agrees]

end

theorem Paired.display_eq (agrees : R.Agrees) {v w : Value} (h : Paired R v w) :
    v.display = w.display := by
  cases h with
  | text s => rfl
  | list items => exact (Paired.list items).written_eq agrees
  | map entries => exact (Paired.map entries).written_eq agrees
  | function paired => exact (Paired.function paired).written_eq agrees
  | template paired => exact (Paired.template paired).written_eq agrees
  | _ => rfl

/-! ## Equality and order -/

mutual

/-- Values are equal in one world as in the other. -/
theorem Paired.equals_eq (agrees : R.Agrees) {v v' w w' : Value} (hv : Paired R v v')
    (hw : Paired R w w') : v.equals w = v'.equals w' := by
  cases hv with
  | list items =>
    cases hw with
    | list others => exact items.equals_eq agrees others
    | _ => rfl
  | map entries =>
    cases hw with
    | map others => exact entries.equals_eq agrees others
    | _ => rfl
  | function paired =>
    cases hw with
    | function other => exact decide_eq_decide.2 (paired.eq_iff agrees other)
    | _ => rfl
  | template paired =>
    cases hw with
    | template other => exact decide_eq_decide.2 (agrees.id paired other)
    | _ => rfl
  | _ => cases hw <;> rfl

theorem PairedItems.equals_eq (agrees : R.Agrees) {vs vs' ws ws' : List Value}
    (hv : PairedItems R vs vs') (hw : PairedItems R ws ws') :
    equalItems vs ws = equalItems vs' ws' := by
  cases hv with
  | nil => cases hw <;> rfl
  | cons first rest =>
    cases hw with
    | nil => rfl
    | cons first' rest' =>
      rw [equalItems, equalItems, first.equals_eq agrees first', rest.equals_eq agrees rest']

theorem PairedEntries.equals_eq (agrees : R.Agrees) {a a' b b' : List (String × Value)}
    (ha : PairedEntries R a a') (hb : PairedEntries R b b') :
    equalEntries a b = equalEntries a' b' := by
  cases ha with
  | nil => cases hb <;> rfl
  | cons first rest =>
    cases hb with
    | nil => rfl
    | cons first' rest' =>
      rw [equalEntries, equalEntries, first.equals_eq agrees first', rest.equals_eq agrees rest']

end

theorem Paired.identical_eq (agrees : R.Agrees) {v v' w w' : Value} (hv : Paired R v v')
    (hw : Paired R w w') : v.identical w = v'.identical w' := by
  rw [identical, identical, hv.kind_eq, hw.kind_eq, hv.equals_eq agrees hw]

/-- An item is equal to one of a list in one world as in the other. -/
theorem PairedItems.any_equals_eq (agrees : R.Agrees) {vs ws : List Value}
    (h : PairedItems R vs ws) {v w : Value} (item : Paired R v w) :
    (vs.any fun x => x.equals v) = ws.any fun x => x.equals w := by
  have tests := h.map_eq fun _ _ paired => paired.equals_eq agrees item
  have := congrArg (List.any · id) tests
  rwa [List.any_map, List.any_map] at this

theorem Paired.contains_eq (agrees : R.Agrees) {v v' w w' : Value} (hv : Paired R v v')
    (hw : Paired R w w') : v.contains w = v'.contains w' := by
  cases hv with
  | text s => cases hw <;> rfl
  | list items => exact congrArg Except.ok (items.any_equals_eq agrees hw)
  | map entries =>
    cases hw with
    | text name => exact congrArg Except.ok (entries.contains_eq name)
    | _ => rfl
  | _ => rfl

mutual

/-- Values have the same order in one world as in the other. -/
theorem Paired.compare_eq {v v' w w' : Value} (hv : Paired R v v') (hw : Paired R w w') :
    v.compare w = v'.compare w' := by
  cases hv with
  | list items =>
    cases hw with
    | list others => exact items.compare_eq others
    | _ => rfl
  | map _ => cases hw <;> rfl
  | template _ => cases hw <;> rfl
  | _ => cases hw <;> rfl

theorem PairedItems.compare_eq {vs vs' ws ws' : List Value} (hv : PairedItems R vs vs')
    (hw : PairedItems R ws ws') : compareItems vs ws = compareItems vs' ws' := by
  cases hv with
  | nil => cases hw <;> rfl
  | cons first rest =>
    cases hw with
    | nil => rfl
    | cons first' rest' =>
      rw [compareItems, compareItems, first.compare_eq first', rest.compare_eq rest']

end

/-! ## Parts -/

/-- A part that is found is the result, and one that is not is a fault. -/
theorem ends_of_found {v w : Option Value} {fault : EvalFault} : Option.Rel (Paired R) v w →
    Ends (Paired R) (match v with | some v => .ok v | none => .error fault)
      (match w with | some w => .ok w | none => .error fault) := by
  intro h
  cases h with
  | none => exact .error _
  | some paired => exact .ok paired

theorem Paired.member {v w : Value} (h : Paired R v w) (name : String) :
    Ends (Paired R) (v.member name) (w.member name) := by
  cases h with
  | map entries =>
    unfold Value.member Dictionary.get?
    dsimp only
    exact ends_of_found (entries.lookup name)
  | _ => exact .error _

theorem PairedItems.elementAt? {vs ws : List Value} (h : PairedItems R vs ws) (index : Int) :
    Option.Rel (Paired R) (Value.elementAt? vs index) (Value.elementAt? ws index) := by
  unfold Value.elementAt?
  rw [h.length_eq]
  cases position? index ws.length with
  | none => exact .none
  | some i => exact h.getElem? i

theorem Paired.item {v v' w w' : Value} (hv : Paired R v v') (hw : Paired R w w') :
    Ends (Paired R) (v.item w) (v'.item w') := by
  cases hv with
  | list items =>
    cases hw with
    | int i =>
      unfold Value.item
      dsimp only
      exact ends_of_found (items.elementAt? i.toInt)
    | _ => exact .error _
  | text s =>
    cases hw with
    | int i =>
      unfold Value.item
      dsimp only
      cases Value.elementAt? s.toList i.toInt with
      | none => exact .error _
      | some c => exact .ok (.text _)
    | _ => exact .error _
  | map entries =>
    cases hw with
    | text name =>
      unfold Value.item Dictionary.get?
      dsimp only
      exact ends_of_found (entries.lookup name)
    | _ => exact .error _
  | _ => cases hw <;> exact .error _

theorem sliceBound_eq {v w : Option Value} (h : Option.Rel (Paired R) v w) (bound : String) :
    sliceBound bound v = sliceBound bound w := by
  cases h with
  | none => rfl
  | some paired => cases paired <;> rfl

theorem PairedItems.select {vs ws : List Value} (h : PairedItems R vs ws) (indices : List Int) :
    PairedItems R (Value.select vs indices) (Value.select ws indices) := by
  unfold Value.select
  dsimp only
  induction indices with
  | nil => exact .nil
  | cons i rest ih =>
    rw [List.filterMap_cons, List.filterMap_cons, List.getElem?_toArray, List.getElem?_toArray]
    have found := h.getElem? i.toNat
    generalize vs[i.toNat]? = x, ws[i.toNat]? = y at found ⊢
    cases found with
    | none => exact ih
    | some paired => exact .cons paired ih

theorem Paired.slice {v w : Value} (h : Paired R v w)
    {start start' stop stop' step step' : Option Value}
    (hstart : Option.Rel (Paired R) start start') (hstop : Option.Rel (Paired R) stop stop')
    (hstep : Option.Rel (Paired R) step step') :
    Ends (Paired R) (v.slice start stop step) (w.slice start' stop' step') := by
  unfold Value.slice
  rw [sliceBound_eq hstart, sliceBound_eq hstop, sliceBound_eq hstep]
  refine Ends.bind (.refl fun _ _ => rfl) fun first _ same => ?_
  cases same
  refine Ends.bind (.refl fun _ _ => rfl) fun last _ same => ?_
  cases same
  refine Ends.bind (.refl fun _ _ => rfl) fun stride _ same => ?_
  cases same
  dsimp only
  by_cases zero : stride.getD 1 = 0
  · rw [if_pos zero, if_pos zero]
    exact .error _
  · rw [if_neg zero, if_neg zero]
    cases h with
    | list items =>
      refine .ok (.list ?_)
      rw [items.length_eq]
      exact items.select _
    | text s => exact .ok (.text _)
    | _ => exact .error _

end Value

end TextTemplate
