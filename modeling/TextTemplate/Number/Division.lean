/-!
# Division of whole numbers

Integers of 64 bits are divided toward zero.  The division fails for a divisor of zero, and for the one
quotient that does not fit, that of the least integer by `-1`.  Rounding down is a correction behind it:
of the quotient by one, of what is left over by the divisor.
-/

namespace TextTemplate.Number

/-- Whether the quotient of two integers exists and fits into 64 bits. -/
def Divides (a b : Int64) : Prop := b ≠ 0 ∧ ¬ (a = Int64.minValue ∧ b = -1)

instance (a b : Int64) : Decidable (Divides a b) :=
  inferInstanceAs (Decidable (b ≠ 0 ∧ ¬ (a = Int64.minValue ∧ b = -1)))

/-- The quotient rounded toward zero. -/
def quotient? (a b : Int64) : Option Int64 := if Divides a b then some (a / b) else none

/-- What the division toward zero leaves; it has the sign of `a`. -/
def remainder? (a b : Int64) : Option Int64 := if Divides a b then some (a % b) else none

/-- The quotient rounded down: one less where something is left over and the signs differ. -/
def floorQuotient? (a b : Int64) : Option Int64 :=
  (quotient? a b).map fun q => if a % b ≠ 0 ∧ decide (a < 0) ≠ decide (b < 0) then q - 1 else q

/-- What the division that rounds down leaves: what is left over with the other sign than the divisor
is moved by the divisor. -/
def floorRemainder? (a b : Int64) : Option Int64 :=
  (remainder? a b).map fun m => if m ≠ 0 ∧ decide (m < 0) ≠ decide (b < 0) then m + b else m

end TextTemplate.Number
