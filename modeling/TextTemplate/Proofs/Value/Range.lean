import Mathlib
import TextTemplate.Function.Global
import TextTemplate.Proofs.Number.Progression

/-!
# Ranges

A range is refused if it has more than `2 ^ 24` terms; else it is all of them.  Every term lies between
the start and the stop, so the integers of the list are the terms themselves (`toInt_term`).  The main
result is `Value.range_exact`.
-/

namespace TextTemplate

namespace Number

variable {start stop step : Int64}

/-- A term of a range is an integer of 64 bits. -/
theorem toInt_term {k : Nat} (h : Before step.toInt (start.toInt + k * step.toInt) stop.toInt) :
    (Int64.ofInt (start.toInt + k * step.toInt)).toInt = start.toInt + k * step.toInt := by
  have := h.between
  have := Int64.le_toInt start
  have := Int64.toInt_lt start
  have := Int64.le_toInt stop
  have := Int64.toInt_lt stop
  exact Int64.toInt_ofInt_of_le (by omega) (by omega)

/-- The number of terms. -/
theorem encard_before (start stop step : Int) :
    {k : ℕ | Before step (start + k * step) stop}.encard = termCount start stop step := by
  have counted : {k : ℕ | Before step (start + k * step) stop} =
      (Finset.range (termCount start stop step) : Set ℕ) := by
    ext k
    rw [Finset.mem_coe, Finset.mem_range]
    exact (lt_termCount_iff start stop step k).symm
  rw [counted, Set.encard_coe_eq_coe_finsetCard, Finset.card_range]

end Number

namespace Value

open Number

theorem range_call (start stop step : Int64) :
    Global.range.call [.int start, .int stop, .int step] =
      range start.toInt stop.toInt step.toInt := rfl

theorem range_eq {start stop step : Int} (nonzero : step ≠ 0) : range start stop step =
    if maxSequence < termCount start stop step then .error .longRange
    else .ok (.list ((progression start stop step).map fun n => .int (Int64.ofInt n))) := by
  unfold range
  rw [if_neg nonzero]
  rfl

/-- **A range is exact**: it is refused, with the message of its own, exactly if more than `2 ^ 24` terms
`start + k * step` lie strictly before `stop` in the direction of the step.  Else it is a list of
integers that are those terms, all of them and in order. -/
theorem range_exact (start stop step : Int64) (nonzero : step ≠ 0) :
    (Global.range.call [.int start, .int stop, .int step] = .error .longRange ↔
      2 ^ 24 < {k : ℕ | Before step.toInt (start.toInt + k * step.toInt) stop.toInt}.encard) ∧
    EvalFault.longRange.message = "range() result is too long" ∧
    (¬ 2 ^ 24 < {k : ℕ | Before step.toInt (start.toInt + k * step.toInt) stop.toInt}.encard →
      ∃ items : List Int64,
        Global.range.call [.int start, .int stop, .int step] = .ok (.list (items.map .int)) ∧
        (∀ k : ℕ, Before step.toInt (start.toInt + k * step.toInt) stop.toInt ↔ k < items.length) ∧
        ∀ (k : ℕ) (h : k < items.length), items[k].toInt = start.toInt + k * step.toInt) := by
  have nonzero' : step.toInt ≠ 0 := fun zero => nonzero (Int64.toInt_inj.1 zero)
  have long : 2 ^ 24 < {k : ℕ | Before step.toInt (start.toInt + k * step.toInt) stop.toInt}.encard ↔
      maxSequence < termCount start.toInt stop.toInt step.toInt := by
    have limit : (2 ^ 24 : ℕ∞) = (maxSequence : ℕ) := by norm_num [maxSequence, twoTo]
    rw [encard_before, limit]
    exact Nat.cast_lt
  rw [range_call, range_eq nonzero', long]
  refine ⟨?_, rfl, fun short => ?_⟩
  · split <;> simp_all
  · have run := isRun_progression start.toInt stop.toInt step.toInt
    rw [if_neg short]
    refine ⟨(progression start.toInt stop.toInt step.toInt).map Int64.ofInt, ?_, ?_, ?_⟩
    · rw [List.map_map]
      rfl
    · intro k
      rw [List.length_map]
      exact run.before_iff k
    · intro k h
      rw [List.length_map] at h
      rw [List.getElem_map, run.term k h]
      exact toInt_term (run.before k h)

/-- Three terms from the one end of the integers to the other: the difference of the ends does not fit. -/
theorem range_between_ends : Int64.maxValue ≠ 0 ∧
    Global.range.call [.int Int64.minValue, .int Int64.maxValue, .int Int64.maxValue] =
      .ok (.list [.int Int64.minValue, .int (-1), .int (Int64.maxValue - 1)]) := by
  have nonzero : Int64.maxValue ≠ 0 := by decide
  obtain ⟨-, -, range⟩ := range_exact Int64.minValue Int64.maxValue Int64.maxValue nonzero
  have short : termCount Int64.minValue.toInt Int64.maxValue.toInt Int64.maxValue.toInt = 3 := by
    decide
  rw [encard_before, short] at range
  obtain ⟨items, eq, all, terms⟩ := range (by norm_num)
  have count : items.length = 3 := by
    have := (all 2).1 (by decide)
    have := mt (all 3).2 (by decide)
    omega
  obtain ⟨x, y, z, rfl⟩ := List.length_eq_three.1 count
  have first : x = Int64.minValue := Int64.toInt_inj.1 ((terms 0 (by simp)).trans (by decide))
  have second : y = -1 := Int64.toInt_inj.1 ((terms 1 (by simp)).trans (by decide))
  have third : z = Int64.maxValue - 1 := Int64.toInt_inj.1 ((terms 2 (by simp)).trans (by decide))
  rw [eq, first, second, third]
  exact ⟨nonzero, rfl⟩

end Value

end TextTemplate
