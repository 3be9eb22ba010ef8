import TextTemplate.Number.Binary

/-!
# The fewest digits that identify a float

The reals that round to a float form an interval around it.  `shortest` takes the shortest decimal
in that interval; of several the one nearest to the float, and of two equally near ones the larger.

## Method

Decimals of `n` digits form a grid; if any point of a grid lies in the interval, then one of the two
neighbours of the float on that grid does.  So the grids are tried from coarse to fine, with two
exact comparisons of naturals for each.  Seventeen digits always suffice.
-/

namespace TextTemplate.Number

/-- The number `digits * 10 ^ exponent`. -/
structure Decimal where
  digits : Nat
  exponent : Int

/-- Compares `d` with `units * 2 ^ e`, exactly. -/
def Decimal.compareBinary (d : Decimal) (units : Nat) (e : Int) : Ordering :=
  compare (d.digits * tenTo d.exponent.toNat * twoTo (-e).toNat)
    (units * twoTo e.toNat * tenTo (-d.exponent).toNat)

/-- Whether `d` lies among the reals that round to the magnitude of `b`.  The ends are included when
the mantissa is even.  Below a power of two the lower half of the interval is half as wide. -/
def Binary.isReadFrom (b : Binary) (d : Decimal) : Bool :=
  let narrow := b.mantissa = twoTo 52 ∧ -1074 < b.exponent
  let low := if narrow then 4 * b.mantissa - 1 else 4 * b.mantissa - 2
  let high := 4 * b.mantissa + 2
  let closed := b.mantissa % 2 = 0
  let atLow := d.compareBinary low (b.exponent - 2)
  let atHigh := d.compareBinary high (b.exponent - 2)
  (atLow = .gt ∨ closed ∧ atLow = .eq) ∧ (atHigh = .lt ∨ closed ∧ atHigh = .eq)

/-- The least `k` with the magnitude of `b` below `10 ^ k`, for a value other than zero.  The binary
logarithm leaves four candidates. -/
def Binary.scale (b : Binary) : Int :=
  let log := (b.mantissa.log2 : Int) + b.exponent
  let first := log * 30103 / 100000
  let above (k : Int) := Decimal.compareBinary ⟨1, k⟩ b.mantissa b.exponent = .gt
  if above first then first
  else if above (first + 1) then first + 1
  else if above (first + 2) then first + 2
  else first + 3

/-- The largest decimal with the given exponent that does not exceed the magnitude of `b`. -/
def Binary.floorAt (b : Binary) (exponent : Int) : Decimal :=
  ⟨b.mantissa * twoTo b.exponent.toNat * tenTo (-exponent).toNat /
    (twoTo (-b.exponent).toNat * tenTo exponent.toNat), exponent⟩

/-- The decimal that identifies `b` on the grid of one exponent, if there is one. -/
def Binary.onGrid? (b : Binary) (exponent : Int) : Option Decimal :=
  let below := b.floorAt exponent
  let above : Decimal := ⟨below.digits + 1, exponent⟩
  match b.isReadFrom below, b.isReadFrom above with
  | false, false => none
  | true, false => some below
  | false, true => some above
  | true, true =>
    -- the midpoint of the two neighbours, in half units of the grid
    let middle : Decimal := ⟨2 * below.digits + 1, exponent⟩
    if middle.compareBinary b.mantissa (b.exponent + 1) = .gt then some below else some above

/-- The exact decimal value of the magnitude of `b`. -/
def Binary.exactDecimal (b : Binary) : Decimal :=
  if 0 ≤ b.exponent then ⟨b.mantissa * twoTo b.exponent.toNat, 0⟩
  else ⟨b.mantissa * fiveTo (-b.exponent).toNat, b.exponent⟩

/-- The shortest decimal that identifies the magnitude of `b`. -/
def Binary.shortest (b : Binary) : Decimal :=
  if b.mantissa = 0 then ⟨0, 0⟩
  else
    let k := b.scale
    match (List.range 17).findSome? fun n => b.onGrid? (k - (n + 1 : Nat)) with
    | some d => d
    | none => b.exactDecimal

end TextTemplate.Number
