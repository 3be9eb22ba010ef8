import TextTemplate.Number.Notation

/-!
# Arithmetic progressions

The terms `start`, `start + step`, `start + 2 * step`, … that lie strictly before `stop` in the
direction of the step.  They are counted first (`progression`) or found one after the other (`walk`).
-/

namespace TextTemplate.Number

/-- Whether `i` lies strictly before `stop` in the direction of the step. -/
def Before (step i stop : Int) : Prop := 0 < step ∧ i < stop ∨ step < 0 ∧ stop < i

instance (step i stop : Int) : Decidable (Before step i stop) :=
  inferInstanceAs (Decidable (0 < step ∧ i < stop ∨ step < 0 ∧ stop < i))

/-- The number of terms, for a step other than zero. -/
def termCount (start stop step : Int) : Nat :=
  if 0 < step ∧ start < stop then ((stop - start - 1) / step + 1).toNat
  else if step < 0 ∧ stop < start then ((start - stop - 1) / -step + 1).toNat
  else 0

/-- The terms in order. -/
def progression (start stop step : Int) : List Int :=
  (List.range (termCount start stop step)).map fun (k : Nat) => start + k * step

/-! ## From term to term -/

/-- The terms from `i` on, behind those that were found already.  They end, too, where the next one
does not fit into 64 bits. -/
def walk (step stop : Int) (found : Array Int) (i : Int) : Array Int :=
  if Before step i stop then
    if minInt ≤ i + step ∧ i + step ≤ maxInt then walk step stop (found.push i) (i + step)
    else found.push i
  else found
termination_by (if 0 < step then stop - i else i - stop).toNat
decreasing_by
  rename_i before _
  rcases before with ⟨up, _⟩ | ⟨down, _⟩
  · rw [if_pos up, if_pos up]
    omega
  · rw [if_neg (Int.lt_asymm down), if_neg (Int.lt_asymm down)]
    omega

end TextTemplate.Number
