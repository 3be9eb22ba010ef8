import TextTemplate.Number.Power

/-!
# Exact values of floating-point numbers

A finite float is a whole number of units, each a power of two (`Binary`).  Exact values are turned
back into floats by rounding a ratio of naturals to the nearest value of a format, a half going to
the even neighbour (`Format.round`).  Conversions, remainders and the choice of digits go through
these exact values.
-/

namespace TextTemplate.Number

/-- The value `mantissa * 2 ^ exponent`, or its negation. -/
structure Binary where
  negative : Bool
  mantissa : Nat
  exponent : Int

/-- A binary floating-point format: the bits of a mantissa and the range of exponents. -/
structure Format where
  precision : Nat
  minExponent : Int
  maxExponent : Int

/-- The 64-bit format. -/
def double : Format := ⟨53, -1074, 971⟩

/-- The 32-bit format. -/
def single : Format := ⟨24, -149, 104⟩

/-- The quotient rounded to the nearest whole number, a half to the even one. -/
def divToEven (num den : Nat) : Nat :=
  let q := num / den
  let r := num % den
  if 2 * r < den then q
  else if den < 2 * r then q + 1
  else if q % 2 = 0 then q else q + 1

/-- The quotient of `num / den` by `2 ^ e`, as numerator and denominator. -/
def scaleDown (num den : Nat) (e : Int) : Nat × Nat :=
  (num * twoTo (-e).toNat, den * twoTo e.toNat)

/-- The value of the format that is nearest to `num / den`, as mantissa and exponent; `none` when
it lies beyond the largest one. -/
def Format.round (f : Format) (num den : Nat) : Option (Nat × Int) :=
  if num = 0 then some (0, f.minExponent)
  else
    -- the ratio lies between `2 ^ (top - 1)` and `2 ^ (top + 1)`
    let top : Int := (num.log2 : Int) - den.log2
    let (n, d) := scaleDown num den top
    let lead := if d ≤ n then top else top - 1
    let e := max (lead - f.precision + 1) f.minExponent
    let (n, d) := scaleDown num den e
    let m := divToEven n d
    let (m, e) := if m = twoTo f.precision then (m / 2, e + 1) else (m, e)
    if f.maxExponent < e then none else some (m, e)

/-- The bits of the 64-bit value `m * 2 ^ e`, for `m` and `e` as `double.round` gives them. -/
def doubleBits (negative : Bool) (m : Nat) (e : Int) : Nat :=
  let sign := if negative then twoTo 63 else 0
  if m < twoTo 52 then sign + m
  else sign + (e + 1075).toNat * twoTo 52 + (m - twoTo 52)

/-- The infinite value of a sign. -/
def infinite (negative : Bool) : Float :=
  Float.ofBits (UInt64.ofNat (if negative then 0xFFF0000000000000 else 0x7FF0000000000000))

/-- The quiet "not a number". -/
def notANumber : Float := Float.ofBits 0x7FF8000000000000

/-- The 64-bit value nearest to `num / den`. -/
def ofRatio (negative : Bool) (num den : Nat) : Float :=
  match double.round num den with
  | some (m, e) => Float.ofBits (UInt64.ofNat (doubleBits negative m e))
  | none => infinite negative

/-- The 64-bit value nearest to an exact one. -/
def Binary.toFloat (b : Binary) : Float :=
  let (n, d) := scaleDown b.mantissa 1 (-b.exponent)
  ofRatio b.negative n d

/-- The exact value of a finite float. -/
def Binary.ofFloat? (x : Float) : Option Binary :=
  let bits := x.toBits.toNat
  let negative := decide (twoTo 63 ≤ bits)
  let biased : Nat := bits / twoTo 52 % 2048
  let fraction : Nat := bits % twoTo 52
  if biased = 2047 then none
  else if biased = 0 then some ⟨negative, fraction, -1074⟩
  else some ⟨negative, twoTo 52 + fraction, (biased : Int) - 1075⟩

/-- The whole number that a value is, without its sign, if it is one. -/
def Binary.natAbs? (b : Binary) : Option Nat :=
  if 0 ≤ b.exponent then some (b.mantissa * twoTo b.exponent.toNat)
  else if b.mantissa % twoTo (-b.exponent).toNat = 0 then
    some (b.mantissa / twoTo (-b.exponent).toNat)
  else none

/-- The remainder of the division that rounds toward zero.  It has the sign of the dividend. -/
def Binary.rem (a b : Binary) : Binary :=
  let e := min a.exponent b.exponent
  let units (v : Binary) : Nat := v.mantissa * twoTo (v.exponent - e).toNat
  ⟨a.negative, units a % units b, e⟩

/-- The remainder of floats, exact: with the sign of the dividend, and not a number for an infinite
dividend or a divisor of zero. -/
def floatRem (x y : Float) : Float :=
  match Binary.ofFloat? x, Binary.ofFloat? y with
  | some a, some b => if b.mantissa = 0 then notANumber else (a.rem b).toFloat
  | some _, none => if y.isNaN then notANumber else x
  | none, _ => notANumber

end TextTemplate.Number
