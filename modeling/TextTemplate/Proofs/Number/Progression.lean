import Mathlib
import TextTemplate.Number.Progression

/-!
# Terms of a progression

`IsRun` says which terms there are: one after the other from the first on, all before the bound, and as
many as there can be.  Counting them first gives such a run (`isRun_progression`), and so does walking
from term to term (`isRun_walk`), as long as the first term and the bound fit into 64 bits: a term that
does not fit then lies behind the bound.
-/

namespace TextTemplate.Number

/-- All terms from `first` on that lie before `stop`, one after the other. -/
structure IsRun (step first stop : Int) (terms : List Int) : Prop where
  term : ∀ (k : Nat) (h : k < terms.length), terms[k] = first + k * step
  before : ∀ k : Nat, k < terms.length → Before step (first + k * step) stop
  /-- The next one would not lie before `stop`. -/
  maximal : ¬ Before step (first + terms.length * step) stop

section Before

variable {step first stop : Int}

/-- The terms in front of one that lies before the bound do so, too. -/
theorem Before.of_le {j k : Nat} (h : Before step (first + k * step) stop) (le : j ≤ k) :
    Before step (first + j * step) stop := by
  have le : (j : Int) ≤ k := by exact_mod_cast le
  rcases h with ⟨up, h⟩ | ⟨down, h⟩
  · have := Int.mul_le_mul_of_nonneg_right le (Int.le_of_lt up)
    exact .inl ⟨up, by omega⟩
  · have := Int.mul_le_mul_of_nonpos_right le (Int.le_of_lt down)
    exact .inr ⟨down, by omega⟩

/-- A term before the bound lies between the first one and the bound. -/
theorem Before.between {k : Nat} (h : Before step (first + k * step) stop) :
    min first (stop + 1) ≤ first + k * step ∧ first + k * step ≤ max first (stop - 1) := by
  rcases h with ⟨up, h⟩ | ⟨down, h⟩
  · have := Int.mul_nonneg (Int.natCast_nonneg k) (Int.le_of_lt up)
    omega
  · have := Int.mul_nonpos_of_nonneg_of_nonpos (Int.natCast_nonneg k) (Int.le_of_lt down)
    omega

end Before

namespace IsRun

variable {step first stop : Int} {terms : List Int}

/-- The terms are all that lie before the bound. -/
theorem before_iff (h : IsRun step first stop terms) (k : Nat) :
    Before step (first + k * step) stop ↔ k < terms.length := by
  refine ⟨fun before => ?_, h.before k⟩
  by_contra beyond
  exact h.maximal (before.of_le (Nat.le_of_not_lt beyond))

theorem length_eq (h : IsRun step first stop terms) {count : Nat}
    (all : ∀ k : Nat, Before step (first + k * step) stop ↔ k < count) : terms.length = count :=
  eq_of_forall_lt_iff fun k => (h.before_iff k).symm.trans (all k)

theorem exists_of_mem (h : IsRun step first stop terms) {i : Int} (mem : i ∈ terms) :
    ∃ k : Nat, i = first + k * step ∧ Before step i stop := by
  obtain ⟨k, inside, rfl⟩ := List.mem_iff_getElem.1 mem
  rw [h.term k inside]
  exact ⟨k, rfl, h.before k inside⟩

theorem nil (h : ¬ Before step first stop) : IsRun step first stop [] where
  term _ h := nomatch h
  before _ h := nomatch h
  maximal := by
    rw [List.length_nil, Int.natCast_zero, Int.zero_mul, Int.add_zero]
    exact h

/-- The terms behind the first one start a step later. -/
theorem cons (before : Before step first stop) (rest : IsRun step (first + step) stop terms) :
    IsRun step first stop (first :: terms) := by
  have later (k : Nat) : first + ((k + 1 : Nat) : Int) * step = first + step + k * step := by
    push_cast
    ring
  constructor
  · intro k h
    cases k with
    | zero => simp
    | succ k => rw [List.getElem_cons_succ, rest.term k (Nat.lt_of_succ_lt_succ h), later]
  · intro k h
    cases k with
    | zero => simpa using before
    | succ k =>
      rw [later]
      exact rest.before k (Nat.lt_of_succ_lt_succ h)
  · rw [List.length_cons, later]
    exact rest.maximal

end IsRun

/-! ## Counted -/

/-- As many terms lie before the bound as are counted. -/
theorem lt_termCount_iff (start stop step : Int) (k : Nat) :
    k < termCount start stop step ↔ Before step (start + k * step) stop := by
  unfold termCount Before
  by_cases up : 0 < step ∧ start < stop
  · have := Int.le_ediv_iff_mul_le (a := k) (b := stop - start - 1) up.1
    rw [if_pos up]
    omega
  by_cases down : step < 0 ∧ stop < start
  · have := Int.le_ediv_iff_mul_le (a := k) (b := start - stop - 1) (Int.neg_pos_of_neg down.1)
    rw [Int.mul_neg] at this
    rw [if_neg up, if_pos down]
    omega
  · -- the first term is not before the bound, so no later one is
    rw [if_neg up, if_neg down]
    refine iff_of_false (Nat.not_lt_zero k) fun h => ?_
    have first : Before step (start + (0 : Nat) * step) stop := Before.of_le h (Nat.zero_le k)
    unfold Before at first
    omega

theorem length_progression (start stop step : Int) :
    (progression start stop step).length = termCount start stop step := by
  rw [progression, List.length_map, List.length_range]

theorem isRun_progression (start stop step : Int) :
    IsRun step start stop (progression start stop step) where
  term k h := by
    simp only [progression, List.getElem_map, List.getElem_range]
  before k h := by
    rw [length_progression] at h
    exact (lt_termCount_iff ..).1 h
  maximal := by
    rw [length_progression, ← lt_termCount_iff]
    exact Nat.lt_irrefl _

/-! ## Walked -/

/-- The walk goes on for as long as there are terms, whatever it found already. -/
theorem exists_isRun_walk (step : Int) {stop : Int} (bound : minInt ≤ stop ∧ stop ≤ maxInt)
    (found : Array Int) (i : Int) (inside : minInt ≤ i ∧ i ≤ maxInt) :
    ∃ terms, (walk step stop found i).toList = found.toList ++ terms ∧ IsRun step i stop terms := by
  induction found, i using walk.induct step stop with
  | case1 found i before fits ih =>
    obtain ⟨terms, eq, run⟩ := ih fits
    rw [walk, if_pos before, if_pos fits, eq, Array.toList_push, List.append_assoc]
    exact ⟨_, rfl, run.cons before⟩
  | case2 found i before beyond =>
    rw [walk, if_pos before, if_neg beyond, Array.toList_push]
    refine ⟨_, rfl, .cons before (.nil ?_)⟩
    unfold Before at before ⊢
    omega
  | case3 found i behind =>
    rw [walk, if_neg behind]
    exact ⟨[], (List.append_nil _).symm, .nil behind⟩

theorem isRun_walk {step stop i : Int} (bound : minInt ≤ stop ∧ stop ≤ maxInt)
    (inside : minInt ≤ i ∧ i ≤ maxInt) : IsRun step i stop (walk step stop #[] i).toList := by
  obtain ⟨terms, eq, run⟩ := exists_isRun_walk step bound #[] i inside
  rwa [eq]

end TextTemplate.Number
