import Mathlib
import TextTemplate.Eval
import TextTemplate.Proofs.Value.Division

/-!
# Integer overflow

An operation on integers is checked if it gives the exact result where that fits into 64 bits, and is
refused where it does not (`Checked`).  Sums, differences, products, quotients, negations and absolute
values are.  Remainders and powers are too, except that they are also refused for what happens on the way
(`Overcautious`): a remainder where the quotient beside it does not fit, and a power where the exponent
has more than 32 bits, though zero, one and minus one have small powers at any exponent.  The main
result is `integer_overflow`.
-/

namespace TextTemplate

namespace Number

/-- What remains between zero and the divisor belongs to the quotient that is rounded down. -/
theorem Remains.fdiv_fmod {a b q r : Int} (nonzero : b ≠ 0) (h : Remains b r) (eq : a = q * b + r) :
    a.fdiv b = q ∧ a.fmod b = r := by
  have whole : r + b * q = a := by
    rw [eq, Int.mul_comm, Int.add_comm]
  unfold Remains at h
  rcases Int.lt_or_gt_of_ne nonzero with neg | pos
  · rw [Int.fdiv_fmod_unique' neg]
    omega
  · rw [Int.fdiv_fmod_unique pos]
    omega

/-- Whether a whole number fits into 64 bits. -/
def Fits (n : Int) : Prop := -2 ^ 63 ≤ n ∧ n < 2 ^ 63

instance (n : Int) : Decidable (Fits n) := inferInstanceAs (Decidable (_ ∧ _))

theorem fits_toInt (n : Int64) : Fits n.toInt := ⟨Int64.le_toInt n, Int64.toInt_lt n⟩

end Number

open Number

/-! ## Exact results -/

/-- The exact result of an operator on whole numbers: a quotient is rounded down, and a remainder has
the sign of the divisor.  Only what is a whole number counts. -/
def Expr.Arithmetic.result? (op : Expr.Arithmetic) (a b : Int) : Option Int :=
  match op with
  | .add => some (a + b)
  | .sub => some (a - b)
  | .mul => some (a * b)
  | .div => none
  | .floorDiv => if b = 0 then none else some (a.fdiv b)
  | .mod => if b = 0 then none else some (a.fmod b)
  | .pow => if b < 0 then none else some (a ^ b.toNat)

/-- Whether an operator refuses integers for what happens on the way, though the result would fit. -/
def Expr.Arithmetic.Overcautious (op : Expr.Arithmetic) (a b : Int64) : Prop :=
  match op with
  | .mod => a = Int64.minValue ∧ b = -1
  | .pow => (a = 0 ∨ a = 1 ∨ a = -1) ∧ 2 ^ 32 ≤ b.toInt
  | _ => False

namespace Value

/-- An operation with the exact result `n` gives it, if it fits, and else is refused. -/
def Checked (n : Int) (outcome : Except EvalFault Value) : Prop :=
  (Fits n → ∃ r : Int64, outcome = .ok (.int r) ∧ r.toInt = n) ∧
  (¬ Fits n → outcome = .error .overflow)

theorem checked_ofInt (n : Int) : Checked n (ofInt n) := by
  unfold Checked Fits ofInt Number.int64? minInt maxInt
  constructor
  · intro fits
    rw [if_pos (by omega)]
    exact ⟨_, rfl, Int64.toInt_ofInt_of_le fits.1 fits.2⟩
  · intro wide
    rw [if_neg (by omega)]
    rfl

theorem checked_int (n : Int64) : Checked n.toInt (.ok (.int n)) :=
  ⟨fun _ => ⟨n, rfl, rfl⟩, fun wide => absurd (fits_toInt n) wide⟩

theorem checked_overflow {n : Int} (wide : ¬ Fits n) : Checked n (.error .overflow) :=
  ⟨fun fits => absurd fits wide, fun _ => rfl⟩

section Operators

variable {a b : Int64}

/-! ## Division -/

theorem checked_floorDiv (nonzero : b ≠ 0) :
    Checked (a.toInt.fdiv b.toInt) ((Value.int a).floorDiv (.int b)) := by
  show Checked _ (if b = 0 then _ else fitting (floorQuotient? a b))
  rw [if_neg nonzero]
  by_cases divides : Divides a b
  · obtain ⟨q, r, quotient, -, eq, remains⟩ := floored_of_divides divides
    rw [quotient, (remains.fdiv_fmod (toInt_ne_zero_iff.2 nonzero) eq).1]
    exact checked_int q
  · obtain ⟨rfl, rfl⟩ : a = Int64.minValue ∧ b = -1 := by
      unfold Divides at divides
      tauto
    exact checked_overflow (by decide)

theorem checked_modulo (nonzero : b ≠ 0) (apart : ¬ (a = Int64.minValue ∧ b = -1)) :
    Checked (a.toInt.fmod b.toInt) ((Value.int a).modulo (.int b)) := by
  obtain ⟨q, r, -, remainder, eq, remains⟩ := floored_of_divides ⟨nonzero, apart⟩
  show Checked _ (if b = 0 then _ else fitting (floorRemainder? a b))
  rw [if_neg nonzero, remainder, (remains.fdiv_fmod (toInt_ne_zero_iff.2 nonzero) eq).2]
  exact checked_int r

/-! ## Powers -/

theorem not_fits_pow {n : Int} {e : Nat} (base : 2 ≤ n.natAbs) (exponent : 64 ≤ e) :
    ¬ Fits (n ^ e) := by
  have large : 2 ^ 64 ≤ (n ^ e).natAbs := by
    rw [Int.natAbs_pow]
    calc 2 ^ 64 ≤ 2 ^ e := Nat.pow_le_pow_right (by decide) exponent
      _ ≤ n.natAbs ^ e := Nat.pow_le_pow_left base e
  unfold Fits
  omega

theorem checked_intPower? (n : Int) (e : Nat) : Checked (n ^ e) (fitting (intPower? n e)) := by
  unfold intPower?
  split_ifs with zero start one minus even large
  · rw [zero, start]
    exact checked_int 1
  · rw [zero, zero_pow start]
    exact checked_int 0
  · rw [one, one_pow]
    exact checked_int 1
  · rw [minus, Even.neg_one_pow (Nat.even_iff.2 even)]
    exact checked_int 1
  · rw [minus, Odd.neg_one_pow (Nat.odd_iff.2 (by omega))]
    exact checked_int (-1)
  · exact checked_overflow (not_fits_pow (by omega) large)
  · exact checked_ofInt (n ^ e)

theorem checked_pow (nonneg : 0 ≤ b.toInt)
    (apart : ¬ ((a = 0 ∨ a = 1 ∨ a = -1) ∧ 2 ^ 32 ≤ b.toInt)) :
    Checked (a.toInt ^ b.toInt.toNat) ((Value.int a).pow (.int b)) := by
  show Checked _ (if b < 0 then _ else if twoTo 32 ≤ b.toInt then _ else _)
  have limit : ((twoTo 32 : ℕ) : ℤ) = 2 ^ 32 := rfl
  rw [if_neg (by rw [Int64.lt_iff_toInt_lt, Int64.toInt_zero]; omega), limit]
  by_cases long : 2 ^ 32 ≤ b.toInt
  · rw [if_pos long]
    refine checked_overflow (not_fits_pow ?_ (by omega))
    by_contra small
    refine apart ⟨?_, long⟩
    rw [← Int64.toInt_inj, ← Int64.toInt_inj, ← Int64.toInt_inj, Int64.toInt_zero, Int64.toInt_one,
      show (-1 : Int64).toInt = -1 from rfl]
    omega
  · rw [if_neg long]
    exact checked_intPower? _ _

end Operators

/-! ## All operators -/

theorem checked_apply {op : Expr.Arithmetic} {a b : Int64} {n : Int}
    (exact : op.result? a.toInt b.toInt = some n) (apart : ¬ op.Overcautious a b) :
    Checked n (op.apply (.int a) (.int b)) := by
  cases op with
  | add =>
    cases exact
    exact checked_ofInt _
  | sub =>
    cases exact
    exact checked_ofInt _
  | mul =>
    cases exact
    exact checked_ofInt _
  | div => cases exact
  | floorDiv =>
    obtain ⟨nonzero, eq⟩ := Option.ite_none_left_eq_some.1 exact
    cases eq
    exact checked_floorDiv (toInt_ne_zero_iff.1 nonzero)
  | mod =>
    obtain ⟨nonzero, eq⟩ := Option.ite_none_left_eq_some.1 exact
    cases eq
    exact checked_modulo (toInt_ne_zero_iff.1 nonzero) apart
  | pow =>
    obtain ⟨nonneg, eq⟩ := Option.ite_none_left_eq_some.1 exact
    cases eq
    exact checked_pow (not_lt.1 nonneg) apart

/-- What is refused for what happens on the way has a small exact result. -/
theorem apply_of_overcautious {op : Expr.Arithmetic} {a b : Int64} (h : op.Overcautious a b) :
    op.apply (.int a) (.int b) = .error .overflow ∧
      ∃ n, op.result? a.toInt b.toInt = some n ∧ n.natAbs ≤ 1 := by
  cases op with
  | mod =>
    obtain ⟨rfl, rfl⟩ := h
    exact ⟨rfl, 0, rfl, by decide⟩
  | pow =>
    obtain ⟨base, long⟩ := h
    have small : a.toInt.natAbs ≤ 1 := by
      rcases base with rfl | rfl | rfl <;> decide
    constructor
    · show (if b < 0 then _ else if twoTo 32 ≤ b.toInt then _ else _) = _
      have limit : ((twoTo 32 : ℕ) : ℤ) = 2 ^ 32 := rfl
      rw [if_neg (by rw [Int64.lt_iff_toInt_lt, Int64.toInt_zero]; omega), limit, if_pos long]
    · refine ⟨_, if_neg (by omega), ?_⟩
      rw [Int.natAbs_pow]
      exact pow_le_one₀ (Nat.zero_le _) small
  | _ => exact h.elim

/-- **Integer operators are checked.**  Each of them gives the exact result if that fits into 64 bits and
is refused as an overflow if it does not, except for the remainder of the least integer by `-1` and for
powers of zero, one and minus one by an exponent of `2 ^ 32` or more: these are refused too, though the
results are at most one. -/
theorem integer_overflow (a b : Int64) :
    (∀ op : Expr.Arithmetic, ∀ n, op.result? a.toInt b.toInt = some n → ¬ op.Overcautious a b →
      Checked n (op.apply (.int a) (.int b))) ∧
    (∀ op : Expr.Arithmetic, op.Overcautious a b →
      op.apply (.int a) (.int b) = .error .overflow ∧
        ∃ n, op.result? a.toInt b.toInt = some n ∧ n.natAbs ≤ 1) ∧
    Checked (-a.toInt) (Expr.UnaryOp.neg.apply (.int a)) ∧
    Checked |a.toInt| (Global.abs.call [.int a]) ∧
    EvalFault.overflow.message = "integer overflow" := by
  refine ⟨fun op n => checked_apply, fun op => apply_of_overcautious, checked_ofInt _, ?_, rfl⟩
  rw [Int.abs_eq_natAbs]
  exact checked_ofInt _

/-- A power that just fits, the one behind it, and a power of zero with the largest exponent. -/
theorem powers_at_the_limits :
    (Expr.Arithmetic.pow.result? 3 39 = some 4052555153018976267 ∧
      ¬ Expr.Arithmetic.pow.Overcautious 3 39 ∧
      Expr.Arithmetic.pow.apply (.int 3) (.int 39) = .ok (.int 4052555153018976267)) ∧
    (Expr.Arithmetic.pow.result? 3 40 = some 12157665459056928801 ∧
      ¬ Expr.Arithmetic.pow.Overcautious 3 40 ∧
      Expr.Arithmetic.pow.apply (.int 3) (.int 40) = .error .overflow) ∧
    Expr.Arithmetic.pow.Overcautious 0 Int64.maxValue ∧
      Expr.Arithmetic.pow.apply (.int 0) (.int Int64.maxValue) = .error .overflow := by
  have apart : ∀ b : Int64, ¬ Expr.Arithmetic.pow.Overcautious 3 b := by
    rintro b ⟨base, -⟩
    exact absurd base (by decide)
  have fits : Expr.Arithmetic.pow.result? 3 39 = some 4052555153018976267 := rfl
  have wide : Expr.Arithmetic.pow.result? 3 40 = some 12157665459056928801 := rfl
  have early : Expr.Arithmetic.pow.Overcautious 0 Int64.maxValue := ⟨.inl rfl, by decide⟩
  obtain ⟨r, eq, exact⟩ := ((integer_overflow 3 39).1 _ _ fits (apart 39)).1 (by decide)
  obtain rfl : r = 4052555153018976267 := Int64.toInt_inj.1 exact
  have refused := ((integer_overflow 3 40).1 _ _ wide (apart 40)).2 (by decide)
  exact ⟨⟨fits, apart 39, eq⟩, ⟨wide, apart 40, refused⟩, early,
    ((integer_overflow 0 Int64.maxValue).2.1 _ early).1⟩

/-- **Small results that are refused**: the remainder of the least integer by `-1`, which is zero, and a
power of one, which is one. -/
theorem refused_on_the_way :
    (Expr.Arithmetic.mod.result? Int64.minValue.toInt (-1) = some 0 ∧
      Expr.Arithmetic.mod.apply (.int Int64.minValue) (.int (-1)) = .error .overflow) ∧
    Expr.Arithmetic.pow.result? 1 4294967296 = some 1 ∧
      Expr.Arithmetic.pow.apply (.int 1) (.int 4294967296) = .error .overflow := by
  refine ⟨⟨rfl, rfl⟩, ?_, rfl⟩
  show some ((1 : Int) ^ 4294967296) = some 1
  rw [one_pow]

end Value

end TextTemplate
