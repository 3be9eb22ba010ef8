import Mathlib
import TextTemplate.Value.Arithmetic

/-!
# Division with remainder

Quotient and remainder are both computed toward zero and corrected behind it, each by a test of its own.
The tests agree, since what is left over toward zero has the sign of the dividend (`tmod_neg_iff`): one
step of the quotient down is made exactly where one divisor is added to the remainder.  So the two fit
together, and what remains has the sign of the divisor (`remains_of_divides`).  Neither correction
leaves the 64 bits.  The main result is `Value.division_with_remainder`.
-/

namespace TextTemplate

namespace Number

/-! ## Rounding down -/

/-- What may remain of a division that rounds down. -/
def Remains (b r : Int) : Prop := 0 ≤ r ∧ r < b ∨ b < r ∧ r ≤ 0

theorem Remains.natAbs_lt {b r : Int} (h : Remains b r) : r.natAbs < b.natAbs := by
  unfold Remains at h
  omega

theorem Remains.sign_eq {b r : Int} (h : Remains b r) (left : r ≠ 0) : r.sign = b.sign := by
  rcases h with ⟨low, high⟩ | ⟨low, high⟩
  · rw [Int.sign_eq_one_of_pos (by omega), Int.sign_eq_one_of_pos (by omega)]
  · rw [Int.sign_eq_neg_one_of_neg (by omega), Int.sign_eq_neg_one_of_neg (by omega)]

/-- A quotient is rounded down if what remains lies between zero and the divisor. -/
theorem Remains.floor_eq {a b q r : Int} (h : Remains b r) (eq : a = q * b + r) :
    ⌊(a : ℚ) / b⌋ = q := by
  have exact : (a : ℚ) = q * b + r := by exact_mod_cast eq
  rw [Int.floor_eq_iff]
  rcases h with ⟨low, high⟩ | ⟨low, high⟩
  · have pos : (0 : ℚ) < b := by exact_mod_cast (by omega : 0 < b)
    have low : (0 : ℚ) ≤ r := by exact_mod_cast low
    have high : (r : ℚ) < b := by exact_mod_cast high
    rw [le_div_iff₀ pos, div_lt_iff₀ pos, add_mul, one_mul, exact]
    constructor <;> linarith
  · have neg : (b : ℚ) < 0 := by exact_mod_cast (by omega : b < 0)
    have low : (b : ℚ) < r := by exact_mod_cast low
    have high : (r : ℚ) ≤ 0 := by exact_mod_cast high
    rw [le_div_iff_of_neg neg, div_lt_iff_of_neg neg, add_mul, one_mul, exact]
    constructor <;> linarith

/-! ## Toward zero -/

theorem natAbs_tmod_lt (a : Int) {b : Int} (nonzero : b ≠ 0) : (a.tmod b).natAbs < b.natAbs := by
  rw [Int.natAbs_tmod]
  exact Nat.mod_lt _ (Int.natAbs_pos.2 nonzero)

/-- What is left over toward zero has the sign of the dividend. -/
theorem tmod_neg_iff {a b : Int} (left : a.tmod b ≠ 0) : a.tmod b < 0 ↔ a < 0 := by
  rcases Int.le_total 0 a with pos | neg
  · have := Int.tmod_nonneg b pos
    omega
  · have := Int.tmod_nonneg b (Int.neg_nonneg_of_nonpos neg)
    rw [Int.neg_tmod] at this
    have : a ≠ 0 := by
      rintro rfl
      exact left (Int.zero_tmod b)
    omega

/-- Where something is left over, the quotient has at most half the size of the dividend. -/
theorem natAbs_tdiv_le_half {a b : Int} (nonzero : b ≠ 0) (left : a.tmod b ≠ 0) :
    (a.tdiv b).natAbs ≤ a.natAbs / 2 := by
  have two : 2 ≤ b.natAbs := by
    by_contra small
    rcases (by omega : b = 1 ∨ b = -1) with rfl | rfl
    · exact left (Int.tmod_one a)
    · exact left (by rw [Int.tmod_neg, Int.tmod_one])
  rw [Int.natAbs_tdiv]
  exact Nat.div_le_div_left two (by decide)

/-! ## The machine -/

theorem toInt_sub_of_fits {a b : Int64} (low : -2 ^ 63 ≤ a.toInt - b.toInt)
    (high : a.toInt - b.toInt < 2 ^ 63) : (a - b).toInt = a.toInt - b.toInt := by
  rw [Int64.toInt_sub]
  exact Int.bmod_eq_of_le low (by omega)

theorem toInt_add_of_fits {a b : Int64} (low : -2 ^ 63 ≤ a.toInt + b.toInt)
    (high : a.toInt + b.toInt < 2 ^ 63) : (a + b).toInt = a.toInt + b.toInt := by
  rw [Int64.toInt_add]
  exact Int.bmod_eq_of_le low (by omega)

section Machine

variable {a b : Int64}

theorem toInt_ne_zero_iff : a.toInt ≠ 0 ↔ a ≠ 0 := Int64.toInt_inj (y := 0) |>.not

/-- The only quotient that does not fit is left out. -/
theorem toInt_div_of_divides (divides : Divides a b) : (a / b).toInt = a.toInt.tdiv b.toInt := by
  by_cases least : a = Int64.minValue
  · exact Int64.toInt_div_of_ne_right a b fun minus => divides.2 ⟨least, minus⟩
  · exact Int64.toInt_div_of_ne_left a b least

/-- The quotient was rounded up: something is left over, and the signs differ. -/
def RoundedUp (a b : Int64) : Prop := a % b ≠ 0 ∧ decide (a < 0) ≠ decide (b < 0)

theorem roundedUp_iff : RoundedUp a b ↔
    a.toInt.tmod b.toInt ≠ 0 ∧ ¬ (a.toInt.tmod b.toInt < 0 ↔ b.toInt < 0) := by
  unfold RoundedUp
  rw [← toInt_ne_zero_iff, Int64.toInt_mod, ne_eq (decide _), decide_eq_decide, Int64.lt_iff_toInt_lt,
    Int64.lt_iff_toInt_lt, Int64.toInt_zero]
  exact and_congr_right fun left => by rw [tmod_neg_iff left]

/-- The test for the remainder says the same as the one for the quotient. -/
theorem roundedUp_iff_remainder : RoundedUp a b ↔
    a % b ≠ 0 ∧ decide (a % b < 0) ≠ decide (b < 0) := by
  rw [roundedUp_iff, ← toInt_ne_zero_iff, ne_eq (decide _), decide_eq_decide, Int64.lt_iff_toInt_lt,
    Int64.lt_iff_toInt_lt, Int64.toInt_zero, Int64.toInt_mod]

/-- One less than a quotient that was rounded up fits. -/
theorem toInt_quotient_corrected (divides : Divides a b) (up : RoundedUp a b) :
    (a / b - 1).toInt = (a / b).toInt - 1 := by
  have half := natAbs_tdiv_le_half (toInt_ne_zero_iff.2 divides.1) (roundedUp_iff.1 up).1
  rw [← toInt_div_of_divides divides] at half
  have low := Int64.le_toInt a
  have high := Int64.toInt_lt a
  apply toInt_sub_of_fits <;> rw [Int64.toInt_one] <;> omega

/-- What was left over fits when it is moved by the divisor. -/
theorem toInt_remainder_corrected (divides : Divides a b) (up : RoundedUp a b) :
    (a % b + b).toInt = (a % b).toInt + b.toInt := by
  have small := natAbs_tmod_lt a.toInt (toInt_ne_zero_iff.2 divides.1)
  have signs := (roundedUp_iff.1 up).2
  have low := Int64.le_toInt b
  have high := Int64.toInt_lt b
  apply toInt_add_of_fits <;> rw [Int64.toInt_mod] <;> omega

/-- Quotient and remainder are corrected together, so that they still make up the dividend. -/
theorem floored_of_divides (divides : Divides a b) :
    ∃ q r : Int64, floorQuotient? a b = some q ∧ floorRemainder? a b = some r ∧
      a.toInt = q.toInt * b.toInt + r.toInt ∧ Remains b.toInt r.toInt := by
  have whole := Int.tmod_add_mul_tdiv a.toInt b.toInt
  have small := natAbs_tmod_lt a.toInt (toInt_ne_zero_iff.2 divides.1)
  rw [floorQuotient?, quotient?, if_pos divides, floorRemainder?, remainder?, if_pos divides,
    Option.map_some, Option.map_some]
  by_cases up : a % b ≠ 0 ∧ decide (a < 0) ≠ decide (b < 0)
  · have other := roundedUp_iff_remainder.1 up
    obtain ⟨left, signs⟩ := roundedUp_iff.1 up
    rw [if_pos up, if_pos other]
    refine ⟨_, _, rfl, rfl, ?_, ?_⟩
    · rw [toInt_quotient_corrected divides up, toInt_remainder_corrected divides up,
        toInt_div_of_divides divides, Int64.toInt_mod, Int.sub_mul, Int.mul_comm (Int.tdiv _ _)]
      omega
    · rw [toInt_remainder_corrected divides up, Int64.toInt_mod]
      unfold Remains
      omega
  · have signs := mt roundedUp_iff.2 up
    rw [if_neg up, if_neg (mt roundedUp_iff_remainder.2 up)]
    refine ⟨_, _, rfl, rfl, ?_, ?_⟩
    · rw [toInt_div_of_divides divides, Int64.toInt_mod, Int.mul_comm]
      omega
    · rw [Int64.toInt_mod]
      unfold Remains
      omega

end Machine

end Number

/-! ## The operators -/

namespace Value

/-- **Division with remainder**: for integers that can be divided, the operators for the quotient and for
the remainder both succeed, the quotient is rounded down and exact, and what remains is zero or has the
sign of the divisor and is smaller.  No step on the way leaves the 64 bits: the machine divides exactly,
and so are the corrections by one and by the divisor where they are made. -/
theorem division_with_remainder (a b : Int64) (nonzero : b ≠ 0)
    (fits : ¬ (a = Int64.minValue ∧ b = -1)) :
    (∃ q r : Int64,
      (Value.int a).floorDiv (.int b) = .ok (.int q) ∧ (Value.int a).modulo (.int b) = .ok (.int r) ∧
      q.toInt = ⌊(a.toInt : ℚ) / b.toInt⌋ ∧ a.toInt = q.toInt * b.toInt + r.toInt ∧
      (r.toInt = 0 ∨ r.toInt.sign = b.toInt.sign) ∧ |r.toInt| < |b.toInt|) ∧
    (a / b).toInt = a.toInt.tdiv b.toInt ∧ (a % b).toInt = a.toInt.tmod b.toInt ∧
    (a % b ≠ 0 ∧ decide (a < 0) ≠ decide (b < 0) → (a / b - 1).toInt = (a / b).toInt - 1) ∧
    (a % b ≠ 0 ∧ decide (a % b < 0) ≠ decide (b < 0) →
      (a % b + b).toInt = (a % b).toInt + b.toInt) := by
  have divides : Number.Divides a b := ⟨nonzero, fits⟩
  obtain ⟨q, r, quotient, remainder, eq, remains⟩ := Number.floored_of_divides divides
  refine ⟨⟨q, r, ?_, ?_, (remains.floor_eq eq).symm, eq, ?_, ?_⟩, ?_, Int64.toInt_mod a b, ?_, ?_⟩
  · show (if b = 0 then _ else fitting (Number.floorQuotient? a b)) = _
    rw [if_neg nonzero, quotient]
    rfl
  · show (if b = 0 then _ else fitting (Number.floorRemainder? a b)) = _
    rw [if_neg nonzero, remainder]
    rfl
  · exact or_iff_not_imp_left.2 remains.sign_eq
  · rw [Int.abs_eq_natAbs, Int.abs_eq_natAbs]
    exact_mod_cast remains.natAbs_lt
  · exact Number.toInt_div_of_divides divides
  · exact Number.toInt_quotient_corrected divides
  · exact fun test => Number.toInt_remainder_corrected divides (Number.roundedUp_iff_remainder.2 test)

/-- Both ends of the integers: the remainder is moved by a divisor as large as the dividend. -/
theorem division_of_greatest :
    ((Int64.minValue ≠ 0 ∧ ¬ (Int64.maxValue = Int64.minValue ∧ Int64.minValue = -1)) ∧
    (Value.int Int64.maxValue).floorDiv (.int Int64.minValue) = .ok (.int (-1)) ∧
    (Value.int Int64.maxValue).modulo (.int Int64.minValue) = .ok (.int (-1))) := by
  have nonzero : Int64.minValue ≠ 0 := by decide
  have fits : ¬ (Int64.maxValue = Int64.minValue ∧ Int64.minValue = -1) := by decide
  obtain ⟨⟨q, r, quotient, remainder, floor, eq, -⟩, -⟩ := division_with_remainder _ _ nonzero fits
  have greatest : Int64.maxValue.toInt = 9223372036854775807 := rfl
  have least : Int64.minValue.toInt = -9223372036854775808 := rfl
  have minus : (-1 : Int64).toInt = -1 := rfl
  rw [greatest, least] at floor eq
  have hq : q.toInt = (-1 : Int64).toInt := by
    rw [floor, minus, Int.floor_eq_iff]
    norm_num
  have hr : r.toInt = (-1 : Int64).toInt := by
    rw [hq] at eq
    omega
  rw [Int64.toInt_inj.1 hq] at quotient
  rw [Int64.toInt_inj.1 hr] at remainder
  exact ⟨⟨nonzero, fits⟩, quotient, remainder⟩

end Value

end TextTemplate
