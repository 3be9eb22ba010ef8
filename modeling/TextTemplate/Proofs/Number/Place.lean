import Mathlib

/-!
# The order of floats

A float that is a number has a place in a linear order (`place?`): by its sign, then its exponent, then
its mantissa.  Both zeros have the same place, and not-a-number has none.  Floats are less than each
other, or equal, as their places are (`lt_iff`, `beq_iff`).
-/

namespace TextTemplate.Number

open Float.Model (UnpackedFloat)
open Float.Model.UnpackedFloat (Sign)

/-- A place among the floats.  The first component tells zero, the finite and the infinite values apart
and has their sign, then come exponent and mantissa. -/
abbrev Place := ℤ ×ₗ ℤ ×ₗ ℤ

namespace Place

/-- The place of a finite value above zero. -/
def ofFinite (m : ℕ) (e : ℤ) : Place := toLex (1, toLex (e, (m : ℤ)))

/-- The place of the infinite value above zero. -/
def ofInfinite : Place := toLex (2, 0)

/-- The place of a value with a sign. -/
def signed : Sign → Place → Place
  | .positive, p => p
  | .negative, p => -p

/-- The place of a float, if it is a number. -/
def of? : UnpackedFloat → Option Place
  | .notANumber => none
  | .zero _ => some 0
  | .infinity s => some (signed s ofInfinite)
  | .finite s m e _ => some (signed s (ofFinite m e))

theorem ofFinite_pos (m : ℕ) (e : ℤ) : 0 < ofFinite m e :=
  Prod.Lex.toLex_lt_toLex.2 (Or.inl one_pos)

theorem ofInfinite_pos : 0 < ofInfinite := Prod.Lex.toLex_lt_toLex.2 (Or.inl two_pos)

theorem ofFinite_lt_ofInfinite (m : ℕ) (e : ℤ) : ofFinite m e < ofInfinite :=
  Prod.Lex.toLex_lt_toLex.2 (Or.inl one_lt_two)

theorem compare_ofFinite (m n : ℕ) (e f : ℤ) :
    compare (ofFinite m e) (ofFinite n f) = (compare e f).then (compare m n) := by
  have mantissas : compare (m : ℤ) (n : ℤ) = compare m n := by
    rcases lt_trichotomy m n with lt | rfl | gt
    · rw [compare_lt_iff_lt.2 lt, compare_lt_iff_lt.2 (Int.ofNat_lt.2 lt)]
    · rw [compare_eq_iff_eq.2 rfl, compare_eq_iff_eq.2 rfl]
    · rw [compare_gt_iff_gt.2 gt, compare_gt_iff_gt.2 (Int.ofNat_lt.2 gt)]
  simp only [ofFinite, Prod.Lex.compare_def, compareLex, compareOn, ofLex_toLex]
  rw [compare_eq_iff_eq.2 rfl, Ordering.eq_then, mantissas]

section Signs

variable {p q : Place}

theorem compare_signed (hp : 0 < p) (hq : 0 < q) (s t : Sign) :
    compare (signed s p) (signed t q) = match s, t with
      | .positive, .positive => compare p q
      | .positive, .negative => .gt
      | .negative, .positive => .lt
      | .negative, .negative => (compare p q).swap := by
  match s, t with
  | .positive, .positive => rfl
  | .positive, .negative => exact compare_gt_iff_gt.2 ((neg_neg_of_pos hq).trans hp)
  | .negative, .positive => exact compare_lt_iff_lt.2 ((neg_neg_of_pos hp).trans hq)
  | .negative, .negative =>
    show compare (-p) (-q) = _
    rcases lt_trichotomy p q with lt | rfl | gt
    · rw [compare_lt_iff_lt.2 lt, compare_gt_iff_gt.2 (neg_lt_neg lt)]
      rfl
    · rw [compare_eq_iff_eq.2 rfl, compare_eq_iff_eq.2 rfl]
      rfl
    · rw [compare_gt_iff_gt.2 gt, compare_lt_iff_lt.2 (neg_lt_neg gt)]
      rfl

theorem compare_zero_signed (hp : 0 < p) (s : Sign) :
    compare 0 (signed s p) = match s with | .positive => .lt | .negative => .gt := by
  cases s with
  | positive => exact compare_lt_iff_lt.2 hp
  | negative => exact compare_gt_iff_gt.2 (neg_neg_of_pos hp)

theorem compare_signed_zero (hp : 0 < p) (s : Sign) :
    compare (signed s p) 0 = match s with | .positive => .gt | .negative => .lt := by
  cases s with
  | positive => exact compare_gt_iff_gt.2 hp
  | negative => exact compare_lt_iff_lt.2 (neg_neg_of_pos hp)

end Signs

/-- Floats are compared as their places. -/
theorem compare_eq (a b : UnpackedFloat) : a.compare b = match of? a, of? b with
    | some p, some q => some (compare p q)
    | _, _ => none := by
  cases a with
  | notANumber => rfl
  | infinity s =>
    cases b with
    | notANumber => cases s <;> rfl
    | infinity t => cases s <;> cases t <;> rfl
    | zero t =>
      simp only [of?, compare_signed_zero ofInfinite_pos]
      cases s <;> rfl
    | finite t n f pos =>
      simp only [of?, compare_signed ofInfinite_pos (ofFinite_pos n f),
        compare_gt_iff_gt.2 (ofFinite_lt_ofInfinite n f)]
      cases s <;> cases t <;> rfl
  | zero s =>
    cases b with
    | notANumber => rfl
    | infinity t =>
      simp only [of?, compare_zero_signed ofInfinite_pos]
      cases t <;> rfl
    | zero t => rfl
    | finite t n f pos =>
      simp only [of?, compare_zero_signed (ofFinite_pos n f)]
      cases t <;> rfl
  | finite s m e pos =>
    cases b with
    | notANumber => cases s <;> rfl
    | infinity t =>
      simp only [of?, compare_signed (ofFinite_pos m e) ofInfinite_pos,
        compare_lt_iff_lt.2 (ofFinite_lt_ofInfinite m e)]
      cases s <;> cases t <;> rfl
    | zero t =>
      simp only [of?, compare_signed_zero (ofFinite_pos m e)]
      cases s <;> rfl
    | finite t n f pos' =>
      simp only [of?, compare_signed (ofFinite_pos m e) (ofFinite_pos n f), compare_ofFinite]
      cases s <;> cases t <;> rfl

end Place

/-! ## Floats by their places -/

/-- The place of a float, if it is a number. -/
def place? (x : Float) : Option Place := Place.of? x.toModel.unpack

theorem lt_iff_compare {x y : Float} :
    x < y ↔ x.toModel.unpack.compare y.toModel.unpack = some .lt := by
  show decide (x.toModel.unpack.lt y.toModel.unpack = true) = true ↔ _
  rw [decide_eq_true_iff]
  exact beq_iff_eq

theorem beq_iff_compare {x y : Float} :
    x == y ↔ x.toModel.unpack.compare y.toModel.unpack = some .eq := by
  show x.toModel.unpack.beq y.toModel.unpack = true ↔ _
  exact beq_iff_eq

section Places

variable {x y : Float} {p q : Place}

theorem unpack_compare (hx : place? x = some p) (hy : place? y = some q) :
    x.toModel.unpack.compare y.toModel.unpack = some (compare p q) := by
  rw [Place.compare_eq, show Place.of? x.toModel.unpack = some p from hx,
    show Place.of? y.toModel.unpack = some q from hy]

theorem unpack_compare_eq_none (unplaced : place? x = none ∨ place? y = none) :
    x.toModel.unpack.compare y.toModel.unpack = none := by
  rw [Place.compare_eq]
  rcases unplaced with hx | hy
  · rw [show Place.of? x.toModel.unpack = none from hx]
  · rw [show Place.of? y.toModel.unpack = none from hy]
    cases Place.of? x.toModel.unpack <;> rfl

theorem lt_iff (hx : place? x = some p) (hy : place? y = some q) : x < y ↔ p < q := by
  rw [lt_iff_compare, unpack_compare hx hy, Option.some_inj, compare_lt_iff_lt]

theorem beq_iff (hx : place? x = some p) (hy : place? y = some q) : x == y ↔ p = q := by
  rw [beq_iff_compare, unpack_compare hx hy, Option.some_inj, compare_eq_iff_eq]

/-- Not-a-number is neither less than a float nor equal to one. -/
theorem not_lt_of_unplaced (unplaced : place? x = none ∨ place? y = none) : ¬ x < y := by
  rw [lt_iff_compare, unpack_compare_eq_none unplaced]
  nofun

theorem not_beq_of_unplaced (unplaced : place? x = none ∨ place? y = none) : ¬ x == y := by
  rw [beq_iff_compare, unpack_compare_eq_none unplaced]
  nofun

end Places

end TextTemplate.Number
