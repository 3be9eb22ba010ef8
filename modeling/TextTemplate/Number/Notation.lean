import TextTemplate.Number.Shortest

/-!
# Numbers as text

Floats are written with the fewest digits that identify them, always positionally.  Reading takes an
optional sign in front of decimal digits; a float may have a point, an exponent, or be one of the
words for the values that are no finite numbers.
-/

namespace TextTemplate.Number

/-! ## Writing -/

/-- The decimal digits of a natural. -/
def digitsOf (n : Nat) : List Char := Nat.toDigits 10 n

/-- A decimal written with a point only where a fraction follows. -/
def Decimal.positional (d : Decimal) : List Char :=
  let ds := digitsOf d.digits
  if 0 ≤ d.exponent then ds ++ List.replicate d.exponent.toNat '0'
  else
    let places := (-d.exponent).toNat
    let padded := List.replicate (places + 1 - ds.length) '0' ++ ds
    let whole := padded.take (padded.length - places)
    let fraction := (padded.drop (padded.length - places)).reverse.dropWhile (· = '0')
    if fraction.isEmpty then whole else whole ++ '.' :: fraction.reverse

/-- A sign in front of a magnitude. -/
def signed (negative : Bool) (cs : List Char) : String :=
  String.ofList (if negative then '-' :: cs else cs)

/-- The text of a float that is not finite. -/
def specialText (x : Float) : String :=
  if x.isNaN then "NaN" else if x < 0 then "-inf" else "inf"

/-- A float in its plainest form: `1`, `0.1`, `-0`. -/
def plainText (x : Float) : String :=
  match Binary.ofFloat? x with
  | none => specialText x
  | some b => signed b.negative b.shortest.positional

/-- A float as a value: as in `plainText`, but a whole number below `10 ^ 16` keeps one decimal, as in
`1.0`. -/
def floatText (x : Float) : String :=
  match Binary.ofFloat? x with
  | none => specialText x
  | some b =>
    match b.natAbs? with
    | some n =>
      if n < tenTo 16 then signed b.negative (digitsOf n ++ ['.', '0'])
      else signed b.negative b.shortest.positional
    | none => signed b.negative b.shortest.positional

/-! ## Reading -/

/-- The value of a decimal digit. -/
def digitValue (c : Char) : Nat := c.toNat - '0'.toNat

/-- The natural that a run of decimal digits stands for. -/
def natOfDigits (ds : List Char) : Nat := ds.foldl (fun n c => 10 * n + digitValue c) 0

/-- The natural that a run of decimal digits stands for, a long run in two halves: so it takes few
large multiplications. -/
def readDigits (ds : List Char) : Nat :=
  if ds.length ≤ 64 then natOfDigits ds
  else
    let low := ds.length / 2
    let high := ds.length - low
    readDigits (ds.take high) * tenTo low + readDigits (ds.drop high)
termination_by ds.length
decreasing_by
  · simp only [List.length_take]
    omega
  · simp only [List.length_drop]
    omega

/-- Digits in front of others count a power of ten each. -/
theorem foldl_digits (ds : List Char) (n : Nat) :
    ds.foldl (fun n c => 10 * n + digitValue c) n = n * tenTo ds.length + natOfDigits ds := by
  induction ds generalizing n with
  | nil => simp [natOfDigits, tenTo]
  | cons c rest ih =>
    simp only [natOfDigits, List.foldl_cons, List.length_cons]
    rw [ih, ih (10 * 0 + digitValue c), tenTo_succ]
    simp only [Nat.add_mul, Nat.mul_zero, Nat.zero_add]
    rw [Nat.mul_left_comm, Nat.mul_assoc, Nat.add_assoc]

/-- A run of digits is its front shifted by its back. -/
theorem natOfDigits_append (front back : List Char) :
    natOfDigits (front ++ back) = natOfDigits front * tenTo back.length + natOfDigits back := by
  rw [natOfDigits, List.foldl_append, foldl_digits]
  rfl

/-- Reading in halves gives the same natural. -/
theorem readDigits_eq_natOfDigits (ds : List Char) : readDigits ds = natOfDigits ds := by
  fun_induction readDigits ds with
  | case1 => rfl
  | case2 ds _ low high front back =>
    rw [front, back]
    have split := natOfDigits_append (ds.take high) (ds.drop high)
    rw [List.take_append_drop, List.length_drop] at split
    rw [split]
    have : ds.length - high = low := by omega
    rw [this]

/-- The magnitude of a written exponent.  Its digits count up to the one that reaches `2 ^ 16`: an
exponent of that size leaves the range of every format, unless as many digits stand around the point. -/
def exponentOfDigits (ds : List Char) : Nat :=
  ds.foldl (fun n c => if n < 65536 then 10 * n + digitValue c else n) 0

/-- The sign of a numeral, and what follows it. -/
def takeSign : List Char → Bool × List Char
  | '-' :: rest => (true, rest)
  | '+' :: rest => (false, rest)
  | cs => (false, cs)

/-- The least integer of 64 bits. -/
def minInt : Int := -9223372036854775808

/-- The largest integer of 64 bits. -/
def maxInt : Int := 9223372036854775807

/-- The integer of 64 bits equal to `n`, if there is one. -/
def int64? (n : Int) : Option Int64 :=
  if minInt ≤ n ∧ n ≤ maxInt then some (Int64.ofInt n) else none

/-- Reads an integer of 64 bits: an optional sign and one digit or more. -/
def readInt? (cs : List Char) : Option Int64 :=
  let (negative, ds) := takeSign cs
  if ds.isEmpty || !ds.all Char.isDigit then none
  else
    let n : Int := readDigits ds
    int64? (if negative then -n else n)

/-- What a numeral denotes. -/
inductive Numeral where
  | decimal (negative : Bool) (value : Decimal)
  | infinity (negative : Bool)
  | nan

/-- The exponent behind a mantissa: nothing, or a mark, an optional sign and digits. -/
def readExponent? : List Char → Option Int
  | [] => some 0
  | c :: rest =>
    if c = 'e' || c = 'E' then
      let (negative, ds) := takeSign rest
      if ds.isEmpty || !ds.all Char.isDigit then none
      else some (if negative then -(exponentOfDigits ds : Int) else exponentOfDigits ds)
    else none

/-- Reads digits with at most one point, and an exponent. -/
def readDecimal? (cs : List Char) : Option Decimal :=
  let whole := cs.takeWhile Char.isDigit
  let (fraction, rest) := match cs.dropWhile Char.isDigit with
    | '.' :: rest => (rest.takeWhile Char.isDigit, rest.dropWhile Char.isDigit)
    | rest => ([], rest)
  if whole.isEmpty && fraction.isEmpty then none
  else (readExponent? rest).map fun e => ⟨readDigits (whole ++ fraction), e - fraction.length⟩

/-- Reads a float numeral; the words for infinity and not-a-number may have letters of either
case. -/
def readNumeral? (cs : List Char) : Option Numeral :=
  let (negative, rest) := takeSign cs
  let word := String.ofList (rest.map Char.toLower)
  if word = "inf" || word = "infinity" then some (.infinity negative)
  else if word = "nan" then some .nan
  else (readDecimal? rest).map (.decimal negative)

/-- The value of a format nearest to a decimal, as an exact value; `none` beyond the largest one.
Exponents far outside every format are decided without computing the power. -/
def Format.ofDecimal (f : Format) (negative : Bool) (d : Decimal) : Option Binary :=
  if d.digits = 0 then some ⟨negative, 0, 0⟩
  else if 400 < d.exponent then none
  else if d.exponent < 0 ∧ d.digits.log2 + 1200 < 3 * (-d.exponent).toNat then
    some ⟨negative, 0, 0⟩
  else
    (f.round (d.digits * tenTo d.exponent.toNat) (tenTo (-d.exponent).toNat)).map
      fun (m, e) => ⟨negative, m, e⟩

/-- The float a numeral denotes, rounded to a format. -/
def Format.ofNumeral (f : Format) : Numeral → Float
  | .decimal negative d =>
    match f.ofDecimal negative d with
    | some b => b.toFloat
    | none => infinite negative
  | .infinity negative => infinite negative
  | .nan => notANumber

/-- Reads a float of 64 bits. -/
def readFloat? (cs : List Char) : Option Float := (readNumeral? cs).map double.ofNumeral

/-- Reads a float of 32 bits, as the equal float of 64 bits. -/
def readSingle? (cs : List Char) : Option Float := (readNumeral? cs).map single.ofNumeral

end TextTemplate.Number
