/-!
# Powers of two, five and ten

The exact powers that number formats are made of.
-/

namespace TextTemplate.Number

/-- A power of two. -/
def twoTo (n : Nat) : Nat := Nat.pow 2 n

/-- A power of five. -/
def fiveTo (n : Nat) : Nat := Nat.pow 5 n

/-- A power of ten. -/
def tenTo (n : Nat) : Nat := Nat.pow 10 n

/-- One more factor of ten. -/
theorem tenTo_succ (n : Nat) : tenTo (n + 1) = 10 * tenTo n := Nat.mul_comm (tenTo n) 10

end TextTemplate.Number
