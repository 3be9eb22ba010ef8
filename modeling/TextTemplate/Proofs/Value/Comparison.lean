import Mathlib
import TextTemplate.Eval
import TextTemplate.Proofs.Number.Conversion

/-!
# The order of values

Two lists are compared by the first items that differ, which may be lists again, so a comparison is
decided by one pair at some depth (`Compares`).  If this is a pair of numbers, two integers are compared
exactly, and all others by their places among the floats.  Both ways go in one direction, as integers
keep their order as floats, but only the first one tells all integers apart: a float may be equal to two
integers that differ.  Where none is (`Separate`), the order is transitive (`Compares.trans`); it can be
turned around without any condition.  The main result is `comparison_preorder`.
-/

namespace TextTemplate.Value

open Number

/-! ## Parts -/

/-- A value and all values inside of its lists and maps, at any depth. -/
inductive Part (v : Value) : Value → Prop
  | self : Part v v
  | item {items : List Value} {w : Value} : Part v (.list items) → w ∈ items → Part v w
  | entry {entries : Dictionary Value} {name : String} {w : Value} :
      Part v (.map entries) → (name, w) ∈ entries.entries → Part v w

/-- A value without floats, at any depth. -/
def FloatFree (v : Value) : Prop := ∀ x, ¬ v.Part (.float x)

section Parts

variable {u v w : Value}

theorem Part.trans (first : u.Part v) (second : v.Part w) : u.Part w := by
  induction second with
  | self => exact first
  | item _ mem ih => exact ih.item mem
  | entry _ mem ih => exact ih.entry mem

/-- A part of a value is the value itself, or a part of something that the value holds. -/
theorem part_iff : v.Part w ↔ w = v ∨ (∃ items, v = .list items ∧ ∃ u ∈ items, u.Part w) ∨
    ∃ entries, v = .map entries ∧ ∃ e ∈ entries.entries, e.2.Part w := by
  constructor
  · intro part
    induction part with
    | self => exact .inl rfl
    | item _ mem ih =>
      obtain rfl | ⟨items, eq, u, held, inner⟩ | ⟨entries, eq, e, held, inner⟩ := ih
      · exact .inr (.inl ⟨_, rfl, _, mem, .self⟩)
      · exact .inr (.inl ⟨items, eq, u, held, inner.item mem⟩)
      · exact .inr (.inr ⟨entries, eq, e, held, inner.item mem⟩)
    | entry _ mem ih =>
      obtain rfl | ⟨items, eq, u, held, inner⟩ | ⟨entries, eq, e, held, inner⟩ := ih
      · exact .inr (.inr ⟨_, rfl, _, mem, .self⟩)
      · exact .inr (.inl ⟨items, eq, u, held, inner.entry mem⟩)
      · exact .inr (.inr ⟨entries, eq, e, held, inner.entry mem⟩)
  · rintro (rfl | ⟨items, rfl, u, held, inner⟩ | ⟨entries, rfl, e, held, inner⟩)
    · exact .self
    · exact (Part.self.item held).trans inner
    · exact (Part.self.entry held).trans inner

theorem FloatFree.of_part (free : v.FloatFree) (part : v.Part w) : w.FloatFree :=
  fun x inner => free x (part.trans inner)

@[simp]
theorem floatFree_list {items : List Value} :
    (Value.list items).FloatFree ↔ ∀ v ∈ items, v.FloatFree := by
  constructor
  · intro free v mem
    exact free.of_part (Part.self.item mem)
  · intro free x part
    obtain eq | ⟨_, eq, v, mem, inner⟩ | ⟨_, eq, -⟩ := part_iff.1 part
    · cases eq
    · cases eq
      exact free v mem x inner
    · cases eq

/-- A value that holds nothing is its only part. -/
theorem floatFree_of_kind (kind : v.kind = .bool ∨ v.kind = .int ∨ v.kind = .text) : v.FloatFree := by
  intro x part
  obtain rfl | ⟨items, rfl, -⟩ | ⟨entries, rfl, -⟩ := part_iff.1 part
  · simp [Value.kind] at kind
  · simp [Value.kind] at kind
  · simp [Value.kind] at kind

end Parts

/-! ## Numbers -/

/-- The place of a number among the floats. -/
def place? (v : Value) : Option Place := v.float?.bind Number.place?

section Numbers

variable {v w : Value} {x y : Float} {p q : Place}

theorem compareFloats_of_placed (hx : Number.place? x = some p) (hy : Number.place? y = some q) :
    compareFloats x y = .ok (Ord.compare p q) := by
  unfold compareFloats
  rcases lt_trichotomy p q with lt | eq | gt
  · rw [if_pos ((lt_iff hx hy).2 lt), compare_lt_iff_lt.2 lt]
  · rw [if_neg (mt (lt_iff hx hy).1 eq.not_lt), if_pos ((beq_iff hx hy).2 eq),
      compare_eq_iff_eq.2 eq]
  · rw [if_neg (mt (lt_iff hx hy).1 gt.not_gt), if_neg (mt (beq_iff hx hy).1 gt.ne'),
      if_pos ((lt_iff hy hx).2 gt), compare_gt_iff_gt.2 gt]

theorem compareFloats_of_unplaced (unplaced : Number.place? x = none ∨ Number.place? y = none) :
    compareFloats x y = .error .unordered := by
  unfold compareFloats
  rw [if_neg (not_lt_of_unplaced unplaced), if_neg (not_beq_of_unplaced unplaced),
    if_neg (not_lt_of_unplaced unplaced.symm)]

theorem compareFloats_eq_ok {o : Ordering} : compareFloats x y = .ok o ↔
    ∃ p q, Number.place? x = some p ∧ Number.place? y = some q ∧ o = Ord.compare p q := by
  constructor
  · intro h
    cases hx : Number.place? x with
    | none => cases h.symm.trans (compareFloats_of_unplaced (.inl hx))
    | some p =>
      cases hy : Number.place? y with
      | none => cases h.symm.trans (compareFloats_of_unplaced (.inr hy))
      | some q =>
        cases h.symm.trans (compareFloats_of_placed hx hy)
        exact ⟨p, q, rfl, rfl, rfl⟩
  · rintro ⟨p, q, hx, hy, rfl⟩
    exact compareFloats_of_placed hx hy

theorem place?_eq_some : v.place? = some p ↔ ∃ x, v.float? = some x ∧ Number.place? x = some p :=
  Option.bind_eq_some_iff

theorem place?_int (n : Int64) : (Value.int n).place? = some (placeOfInt n.toInt) := place?_ofInt n

theorem place?_bool (b : Bool) : (Value.bool b).place? = some (placeOfInt b.toInt) := place?_bit b

/-- A truth value shares its place only with the integer that it counts as. -/
theorem toInt_of_place_bool {b : Bool} {n : Int64}
    (h : (Value.bool b).place? = some (placeOfInt n.toInt)) : b.toInt = n.toInt := by
  rw [place?_bool, Option.some_inj] at h
  rw [← compare_eq_iff_eq, ← compare_bit, h, compare_eq_iff_eq]

/-- Whether two values are both integers, which are not compared as floats. -/
def BothInt (v w : Value) : Prop := v.kind = .int ∧ w.kind = .int

/-- All numbers but two integers are compared as floats. -/
theorem compare_of_float? (hv : v.float? = some x) (hw : w.float? = some y) (mixed : ¬ BothInt v w) :
    v.compare w = compareFloats x y := by
  rw [compare.eq_4, hv, hw]
  · rintro m n rfl rfl
    exact mixed ⟨rfl, rfl⟩
  · rintro s t rfl -
    cases hv
  · rintro vs ws rfl -
    cases hv

theorem equals_of_float? (hv : v.float? = some x) (hw : w.float? = some y) (mixed : ¬ BothInt v w) :
    v.equals w = (x == y) := by
  rw [equals.eq_9, hv, hw]
  · rintro rfl
    cases hv
  · rintro s t rfl -
    cases hv
  · rintro vs ws rfl -
    cases hv
  · rintro a b rfl -
    cases hv
  · rintro f g rfl -
    cases hv
  · rintro s t rfl -
    cases hv
  · rintro a b rfl -
    cases hv
  · rintro m n rfl rfl
    exact mixed ⟨rfl, rfl⟩

/-- A float that is equal to an integer has its place. -/
theorem place?_of_equals {n : Int64} (h : (Value.float x).equals (.int n) = true) :
    Number.place? x = some (placeOfInt n.toInt) := by
  have mixed : ¬ BothInt (.float x) (.int n) := by
    rintro ⟨float, -⟩
    cases float
  rw [equals_of_float? rfl rfl mixed] at h
  cases hx : Number.place? x with
  | none => exact absurd h (not_beq_of_unplaced (.inl hx))
  | some p => rw [(beq_iff hx (place?_ofInt n)).1 h]

end Numbers

/-! ## Where a comparison is decided -/

mutual

/-- Two values have an order: both are integers, texts or lists, or they are other numbers. -/
inductive Compares : Value → Value → Ordering → Prop
  | ints (m n : Int64) : Compares (.int m) (.int n) (Ord.compare m.toInt n.toInt)
  | texts (s t : String) : Compares (.text s) (.text t) (Ord.compare s t)
  | lists {vs ws : List Value} {o : Ordering} :
      ComparesItems vs ws o → Compares (.list vs) (.list ws) o
  | numbers {v w : Value} {p q : Place} : v.place? = some p → w.place? = some q → ¬ BothInt v w →
      Compares v w (Ord.compare p q)

/-- Two lists have an order: the items up to a place have one, and only those at the place differ or
one list ends there. -/
inductive ComparesItems : List Value → List Value → Ordering → Prop
  | nil : ComparesItems [] [] .eq
  | shorter (w : Value) (ws : List Value) : ComparesItems [] (w :: ws) .lt
  | longer (v : Value) (vs : List Value) : ComparesItems (v :: vs) [] .gt
  | same {v w : Value} {vs ws : List Value} {o : Ordering} :
      Compares v w .eq → ComparesItems vs ws o → ComparesItems (v :: vs) (w :: ws) o
  | differ {v w : Value} {vs ws : List Value} {o : Ordering} :
      Compares v w o → o ≠ .eq → ComparesItems (v :: vs) (w :: ws) o

end

mutual

theorem Compares.compare_eq {v w : Value} {o : Ordering} (h : Compares v w o) : v.compare w = .ok o := by
  cases h with
  | ints m n => rfl
  | texts s t => rfl
  | lists items => exact items.compareItems_eq
  | numbers hp hq mixed =>
    obtain ⟨x, hv, hx⟩ := place?_eq_some.1 hp
    obtain ⟨y, hw, hy⟩ := place?_eq_some.1 hq
    rw [compare_of_float? hv hw mixed, compareFloats_of_placed hx hy]

theorem ComparesItems.compareItems_eq {vs ws : List Value} {o : Ordering}
    (h : ComparesItems vs ws o) : compareItems vs ws = .ok o := by
  cases h with
  | nil => rfl
  | shorter w ws => rfl
  | longer v vs => rfl
  | same first rest =>
    rw [compareItems, first.compare_eq]
    exact rest.compareItems_eq
  | differ first differs =>
    rw [compareItems, first.compare_eq]
    cases o with
    | eq => exact absurd rfl differs
    | lt => rfl
    | gt => rfl

end

theorem compares_and_comparesItems :
    (∀ v w, ∀ o, v.compare w = .ok o → Compares v w o) ∧
    ∀ vs ws, ∀ o, compareItems vs ws = .ok o → ComparesItems vs ws o := by
  refine compare.mutual_induct _ _ ?ints ?texts ?lists ?numbers ?others ?nil ?shorter ?longer ?same
    ?differ
  case ints =>
    intro m n o h
    cases h
    exact .ints m n
  case texts =>
    intro s t o h
    cases h
    exact .texts s t
  case lists =>
    intro vs ws ih o h
    exact .lists (ih o h)
  case numbers =>
    intro v w ints _ _ x y hw hv o h
    have mixed : ¬ BothInt v w := by
      rintro ⟨left, right⟩
      cases v <;> cases left
      cases w <;> cases right
      exact ints _ _ rfl rfl
    rw [compare_of_float? hv hw mixed, compareFloats_eq_ok] at h
    obtain ⟨p, q, hx, hy, rfl⟩ := h
    exact .numbers (place?_eq_some.2 ⟨x, hv, hx⟩) (place?_eq_some.2 ⟨y, hw, hy⟩) mixed
  case others =>
    intro v w ints texts lists floats o h
    rw [compare.eq_4 v w ints texts lists] at h
    split at h
    · exact (floats _ _ ‹_› ‹_›).elim
    · cases h
  case nil =>
    intro o h
    cases h
    exact .nil
  case shorter =>
    intro w ws o h
    cases h
    exact .shorter w ws
  case longer =>
    intro v vs o h
    cases h
    exact .longer v vs
  case same =>
    intro v vs w ws first ihFirst ihRest o h
    rw [compareItems, first] at h
    exact .same (ihFirst _ first) (ihRest o h)
  case differ =>
    intro v vs w ws differs ih o h
    have first : v.compare w = .ok o := by
      rw [compareItems] at h
      split at h
      · exact absurd ‹_› differs
      · exact h
    refine .differ (ih o first) ?_
    rintro rfl
    exact differs first

theorem compare_iff {v w : Value} {o : Ordering} : v.compare w = .ok o ↔ Compares v w o :=
  ⟨compares_and_comparesItems.1 v w o, Compares.compare_eq⟩

/-! ## Turned around -/

mutual

theorem Compares.swap {v w : Value} {o : Ordering} (h : Compares v w o) : Compares w v o.swap := by
  cases h with
  | ints m n =>
    rw [← Std.OrientedOrd.eq_swap]
    exact .ints n m
  | texts s t =>
    rw [← Std.OrientedOrd.eq_swap]
    exact .texts t s
  | lists items => exact .lists items.swap
  | numbers hp hq mixed =>
    rw [← Std.OrientedOrd.eq_swap]
    exact .numbers hq hp (mt And.symm mixed)

theorem ComparesItems.swap {vs ws : List Value} {o : Ordering} (h : ComparesItems vs ws o) :
    ComparesItems ws vs o.swap := by
  cases h with
  | nil => exact .nil
  | shorter w ws => exact .longer w ws
  | longer v vs => exact .shorter v vs
  | same first rest => exact .same first.swap rest.swap
  | differ first differs =>
    refine .differ first.swap ?_
    cases o with
    | eq => exact absurd rfl differs
    | lt => decide
    | gt => decide

end

/-! ## Equal values -/

mutual

/-- Values that have an order are equal in it just if they are equal. -/
theorem Compares.eq_iff {v w : Value} {o : Ordering} (h : Compares v w o) :
    o = .eq ↔ v.equals w = true := by
  cases h with
  | ints m n =>
    rw [compare_eq_iff_eq, Int64.toInt_inj, equals]
    exact beq_iff_eq.symm
  | texts s t =>
    rw [compare_eq_iff_eq, equals]
    exact beq_iff_eq.symm
  | lists items =>
    rw [equals]
    exact items.eq_iff
  | numbers hp hq mixed =>
    obtain ⟨x, hv, hx⟩ := place?_eq_some.1 hp
    obtain ⟨y, hw, hy⟩ := place?_eq_some.1 hq
    rw [compare_eq_iff_eq, equals_of_float? hv hw mixed, beq_iff hx hy]

theorem ComparesItems.eq_iff {vs ws : List Value} {o : Ordering} (h : ComparesItems vs ws o) :
    o = .eq ↔ equalItems vs ws = true := by
  cases h with
  | nil => exact iff_of_true rfl rfl
  | shorter w ws => exact iff_of_false (by decide) Bool.false_ne_true
  | longer v vs => exact iff_of_false (by decide) Bool.false_ne_true
  | same first rest =>
    rw [equalItems, first.eq_iff.1 rfl, Bool.true_and]
    exact rest.eq_iff
  | differ first differs =>
    rw [equalItems, Bool.and_eq_true, ← first.eq_iff]
    exact iff_of_false differs fun both => differs both.1

end

theorem Compares.unique {v w : Value} {o o' : Ordering} (h : Compares v w o)
    (h' : Compares v w o') : o = o' :=
  Except.ok.inj (h.compare_eq.symm.trans h'.compare_eq)

/-- A value that can be compared with itself is equal to itself. -/
theorem Compares.self {v : Value} {o : Ordering} (h : Compares v v o) : o = .eq := by
  have := h.unique h.swap
  cases o <;> first | rfl | cases this

/-! ## In a row -/

/-- Values that hold each other's parts, and among which no float is equal to two different integers. -/
structure Separate (P : Value → Prop) : Prop where
  item {items : List Value} {w : Value} : P (.list items) → w ∈ items → P w
  apart {x : Float} {m n : Int64} : P (.float x) → P (.int m) → P (.int n) →
    (Value.float x).equals (.int m) = true → (Value.float x).equals (.int n) = true → m = n

/-- Values without floats. -/
theorem separate_floatFree : Separate FloatFree where
  item free mem := free.of_part (Part.self.item mem)
  apart free _ _ _ _ := absurd .self (free _)

theorem compare_then {α : Type} [LinearOrder α] {a b c : α} (first : Ord.compare a b ≠ .gt)
    (second : Ord.compare b c ≠ .gt) :
    Ord.compare a c = (Ord.compare a b).then (Ord.compare b c) := by
  rcases lt_or_eq_of_le (compare_le_iff_le.1 first) with lt | rfl
  · rw [compare_lt_iff_lt.2 lt, compare_lt_iff_lt.2 (lt.trans_le (compare_le_iff_le.1 second))]
    rfl
  · rw [compare_eq_iff_eq.2 rfl]
    rfl

/-- Two numbers have the order of their places, unless these are the same. -/
theorem exists_compares {v w : Value} {p q : Place} (hv : v.place? = some p) (hw : w.place? = some q) :
    ∃ o, Compares v w o ∧ (p ≠ q → o = Ord.compare p q) := by
  by_cases both : BothInt v w
  · obtain ⟨left, right⟩ := both
    cases v <;> cases left
    cases w <;> cases right
    rename_i m n
    refine ⟨_, .ints m n, fun differ => ?_⟩
    rw [place?_int, Option.some_inj] at hv hw
    subst hv hw
    rcases lt_trichotomy m.toInt n.toInt with lt | eq | gt
    · rw [compare_lt_iff_lt.2 lt]
      exact (compare_lt_iff_lt.2 ((placeOfInt_mono lt.le).lt_of_ne differ)).symm
    · rw [eq] at differ
      exact absurd rfl differ
    · rw [compare_gt_iff_gt.2 gt]
      exact (compare_gt_iff_gt.2 ((placeOfInt_mono gt.le).lt_of_ne differ.symm)).symm
  · exact ⟨_, .numbers hv hw both, fun _ => rfl⟩

section Numbers

variable {P : Value → Prop} {a b c v w : Value} {o o' : Ordering} {p q r : Place}

theorem Compares.eq_compare (h : Compares v w o) (hv : v.place? = some p) (hw : w.place? = some q)
    (differ : p ≠ q) : o = Ord.compare p q := by
  obtain ⟨o', h', eq⟩ := exists_compares hv hw
  rw [h.unique h', eq differ]

theorem Compares.place_le (h : Compares v w o) (le : o ≠ .gt) (hv : v.place? = some p)
    (hw : w.place? = some q) : p ≤ q := by
  by_cases same : p = q
  · exact same.le
  · rw [h.eq_compare hv hw same] at le
    exact compare_le_iff_le.1 le

theorem Compares.isSome_place? (h : Compares v w o) : v.place?.isSome = w.place?.isSome := by
  cases h with
  | ints m n => rw [place?_int, place?_int, Option.isSome_some, Option.isSome_some]
  | texts s t => rfl
  | lists items => rfl
  | numbers hp hq mixed => rw [hp, hq, Option.isSome_some, Option.isSome_some]

/-- Where a third number shares the place of two integers, these are the same. -/
theorem Separate.int_unique (separate : Separate P) {m n : Int64} (hv : P v) (hm : P (.int m))
    (hn : P (.int n)) (number : v.kind ≠ .int) (place : v.place? = some (placeOfInt m.toInt))
    (place' : v.place? = some (placeOfInt n.toInt)) : m = n := by
  cases v with
  | float x =>
    have equal : ∀ k : Int64, (Value.float x).place? = some (placeOfInt k.toInt) →
        (Value.float x).equals (.int k) = true := by
      intro k hk
      obtain ⟨y, hy, hk⟩ := place?_eq_some.1 hk
      rw [equals_of_float? hy rfl fun both => number both.1, beq_iff hk (place?_ofInt k)]
    exact separate.apart hv hm hn (equal m place) (equal n place')
  | bool b =>
    exact Int64.toInt_inj.1 ((toInt_of_place_bool place).symm.trans (toInt_of_place_bool place'))
  | int k => exact absurd rfl number
  | _ => cases place

/-- Numbers of one place are all equal if not all of them are integers. -/
theorem Separate.eq_of_same_place (separate : Separate P) (hv : P v) (ha : P a) (hb : P b)
    (number : v.kind ≠ .int) (pv : v.place? = some p) (pa : a.place? = some p)
    (pb : b.place? = some p) (h : Compares a b o) : o = .eq := by
  cases h with
  | ints m n =>
    rw [place?_int] at pa pb
    rw [separate.int_unique hv ha hb number (pv.trans pa.symm) (pv.trans pb.symm)]
    exact compare_eq_iff_eq.2 rfl
  | texts s t => cases pa
  | lists items => cases pa
  | numbers hp hq mixed =>
    cases hp.symm.trans pa
    cases hq.symm.trans pb
    exact compare_eq_iff_eq.2 rfl

/-- Three numbers of one place: all are integers, or one that is none makes them equal. -/
theorem Separate.then_of_same_place (separate : Separate P) {o'' : Ordering} (ha : P a) (hb : P b)
    (hc : P c) (pa : a.place? = some p) (pb : b.place? = some p) (pc : c.place? = some p)
    (first : Compares a b o) (second : Compares b c o') (outer : Compares a c o'') (le : o ≠ .gt)
    (le' : o' ≠ .gt) : o'' = o.then o' := by
  by_cases ints : a.kind = .int ∧ b.kind = .int ∧ c.kind = .int
  · obtain ⟨ka, kb, kc⟩ := ints
    cases first with
    | ints m n =>
      cases second with
      | ints _ k =>
        rw [← compare_then le le']
        exact outer.unique (.ints m k)
      | numbers _ _ mixed => exact absurd ⟨kb, kc⟩ mixed
    | texts => cases pa
    | lists => cases pa
    | numbers _ _ mixed => exact absurd ⟨ka, kb⟩ mixed
  · obtain ⟨v, hv, pv, number⟩ : ∃ v, P v ∧ v.place? = some p ∧ v.kind ≠ .int := by
      simp only [not_and_or] at ints
      rcases ints with ka | kb | kc
      · exact ⟨a, ha, pa, ka⟩
      · exact ⟨b, hb, pb, kb⟩
      · exact ⟨c, hc, pc, kc⟩
    rw [separate.eq_of_same_place hv ha hb number pv pa pb first,
      separate.eq_of_same_place hv hb hc number pv pb pc second,
      separate.eq_of_same_place hv ha hc number pv pa pc outer]
    rfl

/-- Three numbers, not all of one place: the first step to another place decides. -/
theorem then_of_place_lt (pa : a.place? = some p) (pb : b.place? = some q) (pc : c.place? = some r)
    (first : Compares a b o) (second : Compares b c o') (le : o ≠ .gt) (pq : p ≤ q) (qr : q ≤ r)
    (differ : p ≠ r) : o.then o' = .lt := by
  by_cases left : p = q
  · obtain rfl : p = q := left
    rw [second.eq_compare pb pc differ, compare_lt_iff_lt.2 (qr.lt_of_ne differ)]
    cases o with
    | lt => rfl
    | eq => rfl
    | gt => exact absurd rfl le
  · rw [first.eq_compare pa pb left, compare_lt_iff_lt.2 (pq.lt_of_ne left)]
    rfl

theorem Separate.trans_numbers (separate : Separate P) (ha : P a) (hb : P b) (hc : P c)
    (pa : a.place? = some p) (pb : b.place? = some q) (pc : c.place? = some r)
    (first : Compares a b o) (second : Compares b c o') (le : o ≠ .gt) (le' : o' ≠ .gt) :
    Compares a c (o.then o') := by
  have pq := first.place_le le pa pb
  have qr := second.place_le le' pb pc
  obtain ⟨o'', outer, apart⟩ := exists_compares pa pc
  suffices o'' = o.then o' by rwa [← this]
  by_cases same : p = r
  · obtain rfl : p = r := same
    obtain rfl : p = q := le_antisymm pq qr
    exact separate.then_of_same_place ha hb hc pa pb pc first second outer le le'
  · rw [apart same, compare_lt_iff_lt.2 ((pq.trans qr).lt_of_ne same)]
    exact (then_of_place_lt pa pb pc first second le pq qr same).symm

end Numbers

theorem eq_lt {o : Ordering} (le : o ≠ .gt) (differs : o ≠ .eq) : o = .lt := by
  cases o with
  | lt => rfl
  | eq => exact absurd rfl differs
  | gt => exact absurd rfl le

theorem then_ne_gt {o o' : Ordering} (le : o ≠ .gt) (le' : o' ≠ .gt) : o.then o' ≠ .gt := by
  rw [ne_eq, Ordering.then_eq_gt]
  rintro (gt | ⟨-, gt⟩)
  · exact le gt
  · exact le' gt

mutual

/-- **The order is transitive** where no float is equal to two integers. -/
theorem Compares.trans {P : Value → Prop} (separate : Separate P) {a b c : Value} {o o' : Ordering}
    (first : Compares a b o) (second : Compares b c o') (ha : P a) (hb : P b) (hc : P c)
    (le : o ≠ .gt) (le' : o' ≠ .gt) : Compares a c (o.then o') := by
  -- The middle value tells whether all three are numbers.
  cases number : b.place? with
  | some q =>
    obtain ⟨p, pa⟩ := Option.isSome_iff_exists.1 (first.isSome_place?.trans (by rw [number]; rfl))
    obtain ⟨r, pc⟩ := Option.isSome_iff_exists.1
      (second.isSome_place?.symm.trans (by rw [number]; rfl))
    exact separate.trans_numbers ha hb hc pa number pc first second le le'
  | none =>
    cases first with
    | ints m n => cases number.symm.trans (place?_int n)
    | texts s t =>
      cases second with
      | texts _ u =>
        rw [← compare_then le le']
        exact .texts s u
      | numbers hp => cases number.symm.trans hp
    | lists items =>
      cases second with
      | lists items' =>
        exact .lists (items.trans separate items' (fun _ => separate.item ha)
          (fun _ => separate.item hb) (fun _ => separate.item hc) le le')
      | numbers hp => cases number.symm.trans hp
    | numbers _ hq => cases number.symm.trans hq

theorem ComparesItems.trans {P : Value → Prop} (separate : Separate P) {us vs ws : List Value}
    {o o' : Ordering} (first : ComparesItems us vs o) (second : ComparesItems vs ws o')
    (hus : ∀ u ∈ us, P u) (hvs : ∀ v ∈ vs, P v) (hws : ∀ w ∈ ws, P w)
    (le : o ≠ .gt) (le' : o' ≠ .gt) : ComparesItems us ws (o.then o') := by
  cases first with
  | nil =>
    cases second with
    | nil => exact .nil
    | shorter w ws => exact .shorter w ws
  | shorter v vs =>
    cases second with
    | longer => exact absurd rfl le'
    | same => exact .shorter _ _
    | differ => exact .shorter _ _
  | longer => exact absurd rfl le
  | same head tail =>
    rw [List.forall_mem_cons] at hus hvs
    cases second with
    | longer => exact absurd rfl le'
    | same head' tail' =>
      rw [List.forall_mem_cons] at hws
      exact .same (head.trans separate head' hus.1 hvs.1 hws.1 nofun nofun)
        (tail.trans separate tail' hus.2 hvs.2 hws.2 le le')
    | differ head' differs =>
      rw [List.forall_mem_cons] at hws
      obtain rfl := eq_lt le' differs
      have decided := head.trans separate head' hus.1 hvs.1 hws.1 nofun le'
      cases o with
      | lt => exact .differ decided nofun
      | eq => exact .differ decided nofun
      | gt => exact absurd rfl le
  | differ head differs =>
    obtain rfl := eq_lt le differs
    rw [List.forall_mem_cons] at hus hvs
    cases second with
    | longer => exact absurd rfl le'
    | same head' tail' =>
      rw [List.forall_mem_cons] at hws
      have decided := head.trans separate head' hus.1 hvs.1 hws.1 le nofun
      exact .differ decided nofun
    | differ head' _ =>
      rw [List.forall_mem_cons] at hws
      exact .differ (head.trans separate head' hus.1 hvs.1 hws.1 le le') nofun

end

/-! ## The operators -/

theorem Compares.holds {v w : Value} {o : Ordering} (h : Compares v w o) :
    Expr.Comparison.lt.holds v w = .ok (decide (o = .lt)) ∧
    Expr.Comparison.gt.holds v w = .ok (decide (o = .gt)) ∧
    Expr.Comparison.le.holds v w = .ok (decide (o ≠ .gt)) ∧
    Expr.Comparison.ge.holds v w = .ok (decide (o ≠ .lt)) ∧
    Expr.Comparison.eq.holds v w = .ok (decide (o = .eq)) := by
  have equal : v.equals w = decide (o = .eq) :=
    Bool.eq_iff_iff.2 (h.eq_iff.symm.trans decide_eq_true_iff.symm)
  simp only [Expr.Comparison.holds, h.compare_eq, equal]
  exact ⟨rfl, rfl, rfl, rfl, trivial⟩

/-- **The order of values without floats**, whatever lists they are nested in.  Turning a comparison
around reverses its result; the result is equality just for equal values, and for a value with itself
there is no other; and of three values in a row the first and the last have an order too, in which they
are equal only if all three are.  The operators agree with one order, from both sides. -/
theorem comparison_preorder (a b c : Value) (ha : a.FloatFree) (hb : b.FloatFree)
    (hc : c.FloatFree) :
    (∀ o, a.compare b = .ok o ↔ b.compare a = .ok o.swap) ∧
    (∀ o, a.compare b = .ok o → (o = .eq ↔ a.equals b = true)) ∧
    (∀ o, a.compare a = .ok o → o = .eq) ∧
    (∀ o o', a.compare b = .ok o → b.compare c = .ok o' → o ≠ .gt → o' ≠ .gt →
      ∃ o'', a.compare c = .ok o'' ∧ o'' ≠ .gt ∧ (o'' = .eq → o = .eq ∧ o' = .eq)) ∧
    ∀ o, a.compare b = .ok o →
      Expr.Comparison.lt.holds a b = .ok (decide (o = .lt)) ∧
      Expr.Comparison.gt.holds a b = .ok (decide (o = .gt)) ∧
      Expr.Comparison.le.holds a b = .ok (decide (o ≠ .gt)) ∧
      Expr.Comparison.ge.holds a b = .ok (decide (o ≠ .lt)) ∧
      Expr.Comparison.eq.holds a b = .ok (decide (o = .eq)) ∧
      Expr.Comparison.lt.holds b a = .ok (decide (o = .gt)) ∧
      Expr.Comparison.gt.holds b a = .ok (decide (o = .lt)) ∧
      Expr.Comparison.le.holds b a = .ok (decide (o ≠ .lt)) ∧
      Expr.Comparison.ge.holds b a = .ok (decide (o ≠ .gt)) ∧
      Expr.Comparison.eq.holds b a = .ok (decide (o = .eq)) := by
  simp only [compare_iff]
  refine ⟨fun o => ⟨Compares.swap, fun h => ?_⟩, fun o => Compares.eq_iff, fun o => Compares.self,
    ?_, ?_⟩
  · rw [← Ordering.swap_swap (o := o)]
    exact h.swap
  · intro o o' first second le le'
    exact ⟨o.then o', first.trans separate_floatFree second ha hb hc le le', then_ne_gt le le',
      Ordering.then_eq_eq.1⟩
  · intro o h
    obtain ⟨lt, gt, le, ge, eq⟩ := h.holds
    obtain ⟨lt', gt', le', ge', eq'⟩ := h.swap.holds
    refine ⟨lt, gt, le, ge, eq, lt'.trans ?_, gt'.trans ?_, le'.trans ?_, ge'.trans ?_, eq'.trans ?_⟩
    all_goals cases o <;> rfl

namespace Nested

/-- `[1, [True, 'x']]`. -/
def low : Value := .list [.int 1, .list [.bool true, .text "x"]]

/-- `[True, [1, 'x', 0]]`. -/
def middle : Value := .list [.bool true, .list [.int 1, .text "x", .int 0]]

/-- `[1, [2]]`. -/
def high : Value := .list [.int 1, .list [.int 2]]

theorem floatFree : low.FloatFree ∧ middle.FloatFree ∧ high.FloatFree := by
  simp [low, middle, high, floatFree_of_kind, Value.kind]

/-- The three lists are in order, the first two by their lengths at the inner depth. -/
theorem in_order : (low.FloatFree ∧ middle.FloatFree ∧ high.FloatFree) ∧
    low.compare high = .ok .lt ∧ Expr.Comparison.gt.holds middle low = .ok true := by
  obtain ⟨hl, hm, hh⟩ := floatFree
  obtain ⟨-, -, -, row, operators⟩ := comparison_preorder low middle high hl hm hh
  have first : low.compare middle = .ok .lt := rfl
  have second : middle.compare high = .ok .lt := rfl
  obtain ⟨o, eq, le, equal⟩ := row _ _ first second nofun nofun
  obtain rfl : o = .lt := eq_lt le fun same => nomatch (equal same).1
  obtain ⟨-, -, -, -, -, -, greater, -⟩ := operators _ first
  exact ⟨⟨hl, hm, hh⟩, eq, greater⟩

end Nested

end TextTemplate.Value
