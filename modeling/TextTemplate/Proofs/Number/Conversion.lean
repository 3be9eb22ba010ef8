import Mathlib
import TextTemplate.Number.Binary
import TextTemplate.Proofs.Number.Place

/-!
# Integers as floats

An integer becomes a float by rounding its mantissa to 53 bits (`divToEven`).  Rounding may carry into
the next power of two, but never beyond the numbers there, so the conversion keeps the order
(`placeOfInt_mono`).  It keeps two integers apart up to `2 ^ 53` (`placeOfInt_lt`), but not beyond.  Zero
and one stay apart from all integers, so truth values taken as floats stand to integers as zero and one
do (`compare_bit`).
-/

namespace TextTemplate.Number

open Float.Model (UnpackedFloat totalExponent)
open Float.Model.UnpackedFloat

/-! ## Rounding to a whole number -/

section Rounding

variable {m n den : ℕ}

theorem divToEven_of_lt (below : 2 * (m % den) < den) : divToEven m den = m / den := if_pos below

theorem divToEven_of_gt (above : den < 2 * (m % den)) : divToEven m den = m / den + 1 := by
  unfold divToEven
  dsimp only
  rw [if_neg (by omega), if_pos above]

theorem divToEven_of_eq (half : 2 * (m % den) = den) :
    divToEven m den = m / den + m / den % 2 := by
  unfold divToEven
  dsimp only
  rw [if_neg (by omega), if_neg (by omega)]
  split <;> omega

theorem divToEven_bounds (m den : ℕ) :
    m / den ≤ divToEven m den ∧ divToEven m den ≤ m / den + 1 := by
  rcases lt_trichotomy (2 * (m % den)) den with below | half | above
  · rw [divToEven_of_lt below]
    omega
  · rw [divToEven_of_eq half]
    omega
  · rw [divToEven_of_gt above]
    omega

theorem divToEven_mul (n : ℕ) (pos : 0 < den) : divToEven (n * den) den = n := by
  rw [divToEven_of_lt (by rw [Nat.mul_mod_left]; omega), Nat.mul_div_cancel n pos]

theorem divToEven_mono (den : ℕ) (le : m ≤ n) : divToEven m den ≤ divToEven n den := by
  have quotients : m / den ≤ n / den := Nat.div_le_div_right le
  rcases Nat.lt_or_eq_of_le quotients with lt | eq
  · have := (divToEven_bounds m den).2
    have := (divToEven_bounds n den).1
    omega
  · have left := Nat.div_add_mod m den
    have right := Nat.div_add_mod n den
    rw [eq] at left
    have rests : m % den ≤ n % den := by omega
    unfold divToEven
    dsimp only
    rw [eq]
    split_ifs <;> omega

theorem divToEven_range {k : ℕ} (low : 2 ^ (52 + k) ≤ m) (high : m < 2 ^ (53 + k)) :
    2 ^ 52 ≤ divToEven m (2 ^ k) ∧ divToEven m (2 ^ k) ≤ 2 ^ 53 := by
  have pos := Nat.two_pow_pos k
  have bounds := divToEven_bounds m (2 ^ k)
  rw [pow_add] at low high
  have := (Nat.le_div_iff_mul_le pos).2 low
  have := (Nat.div_lt_iff_lt_mul pos).2 high
  omega

end Rounding

/-! ## Rounding a mantissa -/

/-- What is left of a mantissa that was shifted, and of the bits that were lost. -/
theorem shiftRight_succ (m k : ℕ) :
    (⟨m, false, false⟩ : ExtendedMantissa) >>> (k + 1) =
      ⟨m / 2 ^ (k + 1), m / 2 ^ k % 2 != 0, m % 2 ^ k != 0⟩ := by
  induction k with
  | zero =>
    show ExtendedMantissa.mk (m / 2) (m % 2 != 0) (false || false) = _
    rw [pow_zero, Nat.div_one, Nat.mod_one]
    rfl
  | succ k ih =>
    have lost : m % 2 ^ (k + 1) = m % 2 ^ k + 2 ^ k * (m / 2 ^ k % 2) := by
      rw [pow_succ, Nat.mod_mul]
    have pos := Nat.two_pow_pos k
    show ExtendedMantissa.shiftRightOne ((⟨m, false, false⟩ : ExtendedMantissa) >>> (k + 1)) = _
    rw [ih]
    show ExtendedMantissa.mk (m / 2 ^ (k + 1) / 2) _ ((m / 2 ^ k % 2 != 0) || (m % 2 ^ k != 0)) = _
    rw [Nat.div_div_eq_div_mul, ← pow_succ, lost]
    congr 1
    rcases Nat.mod_two_eq_zero_or_one (m / 2 ^ k) with bit | bit
    · rw [bit]
      simp
    · rw [bit]
      simp

theorem roundedMantissa_shiftRight (m k : ℕ) :
    ((⟨m, false, false⟩ : ExtendedMantissa) >>> k).roundedMantissa = divToEven m (2 ^ k) := by
  cases k with
  | zero =>
    have exact := divToEven_mul m one_pos
    rw [mul_one] at exact
    rw [pow_zero, exact]
    rfl
  | succ k =>
    have lost : m % 2 ^ (k + 1) = m % 2 ^ k + 2 ^ k * (m / 2 ^ k % 2) := by
      rw [pow_succ, Nat.mod_mul]
    have small := Nat.mod_lt m (Nat.two_pow_pos k)
    rw [shiftRight_succ]
    rcases Nat.mod_two_eq_zero_or_one (m / 2 ^ k) with bit | bit
    · rw [divToEven_of_lt (by rw [lost, bit, pow_succ]; omega), bit]
      cases m % 2 ^ k != 0 <;> rfl
    · rw [bit]
      by_cases half : m % 2 ^ k = 0
      · rw [divToEven_of_eq (by rw [lost, bit, half, pow_succ]; omega), half]
        rfl
      · rw [divToEven_of_gt (by rw [lost, bit, pow_succ]; omega), bne_iff_ne.2 half]
        rfl

theorem targetExponent_eq (m : ℕ) (e : ℤ) :
    Float.Model.Format.binary64.targetExponent (totalExponent m e) =
      max (m.log2 + e - 52) (-1074) := by
  show max ((m.log2 : ℤ) + 1 + e - (1 + 52 : ℕ)) (3 - 2 ^ (11 - 1) - (1 + 52 : ℕ)) = _
  omega

section Mantissa

variable {m k : ℕ} {e : ℤ}

theorem shiftToTargetExponent_eq (low : 2 ^ (52 + k) ≤ m) (high : m < 2 ^ (53 + k))
    (least : -1074 ≤ e + k) :
    shiftToTargetExponent .binary64 m e .exact =
      ((⟨m, false, false⟩ : ExtendedMantissa) >>> k, e + k) := by
  have log : m.log2 = 52 + k :=
    (Nat.log2_eq_iff ((Nat.two_pow_pos _).trans_le low).ne').2 ⟨low, by rwa [add_right_comm]⟩
  have up : max ((m.log2 : ℤ) + e - 52) (-1074) - e = k := by omega
  unfold shiftToTargetExponent shiftToExponent
  dsimp only
  rw [targetExponent_eq, up, Int.toNat_natCast]
  rfl

/-- A mantissa is shifted twice, the second time behind a carry. -/
theorem roundWithAccuracy_eq {spec : Float.Model.Format} {r : ℕ} {e₁ e₂ : ℤ}
    {em em' : ExtendedMantissa} (s : Sign)
    (first : shiftToTargetExponent spec m e .exact = (em, e₁)) (rounded : em.roundedMantissa = r)
    (second : shiftToTargetExponent spec r e₁ .exact = (em', e₂)) (pos : 0 < em'.mantissa) :
    roundWithAccuracy spec s m e .exact = .finite s em'.mantissa e₂ pos := by
  subst rounded
  unfold roundWithAccuracy
  simp only [first, second]
  exact dif_neg pos.ne'

/-- What a mantissa becomes that was rounded to 53 bits: it may have reached the next power of two. -/
def carried (s : Sign) (m : ℕ) (e : ℤ) (pos : 0 < m) : UnpackedFloat :=
  if m < 2 ^ 53 then .finite s m e pos else .finite s (2 ^ 52) (e + 1) (by decide)

theorem round_eq (s : Sign) (low : 2 ^ (52 + k) ≤ m) (high : m < 2 ^ (53 + k))
    (least : -1074 ≤ e + k) (pos : 0 < divToEven m (2 ^ k)) :
    roundWithAccuracy .binary64 s m e .exact = carried s (divToEven m (2 ^ k)) (e + k) pos := by
  obtain ⟨bottom, top⟩ := divToEven_range low high
  have first := shiftToTargetExponent_eq low high least
  have rounded := roundedMantissa_shiftRight m k
  unfold carried
  by_cases fits : divToEven m (2 ^ k) < 2 ^ 53
  · have second := shiftToTargetExponent_eq (k := 0) bottom fits (by omega : -1074 ≤ e + k + 0)
    rw [if_pos fits, roundWithAccuracy_eq s first rounded second pos]
    simp only [Nat.cast_zero, add_zero]
    rfl
  · have full : divToEven m (2 ^ k) = 2 ^ 53 := by omega
    have second := shiftToTargetExponent_eq (m := 2 ^ 53) (k := 1) (e := e + k) (by decide)
      (by decide) (by omega)
    rw [if_neg fits, roundWithAccuracy_eq s first (rounded.trans full) second (by decide)]
    rfl

/-! ## Packing -/

theorem pack_finite {s : Sign} {pos : 0 < m} (low : 2 ^ 52 ≤ m) (high : m < 2 ^ 53)
    (most : e ≤ 970) : UnpackedFloat.pack .binary64 (.finite s m e pos) =
      packComponents .binary64 s (.ofNat 11 (e + 1075).toNat) (.ofNat 52 m) := by
  have log : m.log2 = 52 := (Nat.log2_eq_iff pos.ne').2 ⟨low, high⟩
  have biased : (e + Float.Model.Format.binary64.exponentBias +
      Float.Model.Format.binary64.mantissaBitsWithoutImplicit).toNat = (e + 1075).toNat := by
    show (e + (1023 : ℕ) + (52 : ℕ)).toNat = _
    omega
  rw [UnpackedFloat.pack]
  simp only [log, biased]
  rw [if_neg (by omega)]
  exact if_pos rfl

/-- A finite float with a full mantissa is kept by packing it. -/
theorem unpack_pack {s : Sign} {pos : 0 < m} (low : 2 ^ 52 ≤ m) (high : m < 2 ^ 53)
    (least : -1074 ≤ e) (most : e ≤ 970) :
    (Float.Model.pack (.finite s m e pos)).unpack = .finite s m e pos := by
  have exponent : (BitVec.ofNat 11 (e + 1075).toNat).toNat = (e + 1075).toNat := by
    rw [BitVec.toNat_ofNat, Nat.mod_eq_of_lt (by omega)]
  have mantissa : (1#1 ++ BitVec.ofNat 52 m).toNat = m := by
    rw [BitVec.toNat_append, ← Nat.shiftLeft_add_eq_or_of_lt (BitVec.isLt _), BitVec.toNat_ofNat,
      Nat.shiftLeft_eq]
    show 1 * 2 ^ 52 + m % 2 ^ 52 = m
    omega
  have normal : BitVec.ofNat 11 (e + 1075).toNat ≠ -1#11 := by
    intro infinite
    have := congrArg BitVec.toNat infinite
    rw [exponent, show (-1#11).toNat = 2047 from rfl] at this
    omega
  have nonzero : BitVec.ofNat 11 (e + 1075).toNat ≠ 0#11 := by
    intro zero
    have := congrArg BitVec.toNat zero
    rw [exponent, show (0#11).toNat = 0 from rfl] at this
    omega
  have bias : ((Float.Model.Format.binary64.exponentBias : ℕ) : ℤ) = 1023 := rfl
  show unpack .binary64 (UnpackedFloat.pack .binary64 (.finite s m e pos)) = _
  rw [pack_finite low high most, unpack]
  simp only [unpackMantissa_packComponents, unpackExponent_packComponents,
    unpackSign_packComponents, Sign.ofBitVec_toBitVec]
  rw [if_neg normal, if_neg nonzero]
  simp only [mantissa, exponent, bias, finite.injEq, true_and]
  omega

theorem unpack_carried {s : Sign} {pos : 0 < m} (low : 2 ^ 52 ≤ m) (least : -1074 ≤ e)
    (most : e ≤ 969) : (Float.Model.pack (carried s m e pos)).unpack = carried s m e pos := by
  unfold carried
  split
  · exact unpack_pack low ‹_› least (by omega)
  · exact unpack_pack le_rfl (by decide) (by omega) (by omega)

theorem unpack_round (s : Sign) (low : 2 ^ (52 + k) ≤ m) (high : m < 2 ^ (53 + k))
    (least : -1074 ≤ e + k) (most : e + k ≤ 969) :
    ∃ pos, (Float.Model.pack (roundWithAccuracy .binary64 s m e .exact)).unpack =
      carried s (divToEven m (2 ^ k)) (e + k) pos := by
  have bottom := (divToEven_range low high).1
  have pos : 0 < divToEven m (2 ^ k) := by omega
  refine ⟨pos, ?_⟩
  rw [round_eq s low high least pos, unpack_carried bottom least most]

end Mantissa

/-! ## Naturals -/

section Naturals

variable {n : ℕ}

/-- The mantissa of a natural as a float, in front of a carry. -/
def mantissa (n : ℕ) : ℕ := divToEven (n * 2 ^ 53) (2 ^ (n.log2 + 1))

theorem mantissa_of_lt (short : n.log2 ≤ 52) : mantissa n = n * 2 ^ (52 - n.log2) := by
  have split : n * 2 ^ 53 = n * 2 ^ (52 - n.log2) * 2 ^ (n.log2 + 1) := by
    rw [mul_assoc, ← pow_add]
    congr 2
    omega
  rw [mantissa, split, divToEven_mul _ (Nat.two_pow_pos _)]

theorem scaled_bounds {k : ℕ} (pos : 0 < n) (log : n.log2 ≤ k) :
    2 ^ k ≤ n * 2 ^ (k - n.log2) ∧ n * 2 ^ (k - n.log2) < 2 ^ (k + 1) := by
  have low := Nat.log2_self_le pos.ne'
  have high := Nat.lt_log2_self (n := n)
  constructor
  · calc 2 ^ k = 2 ^ n.log2 * 2 ^ (k - n.log2) := by rw [← pow_add, Nat.add_sub_cancel' log]
      _ ≤ n * 2 ^ (k - n.log2) := Nat.mul_le_mul_right _ low
  · calc n * 2 ^ (k - n.log2) < 2 ^ (n.log2 + 1) * 2 ^ (k - n.log2) :=
          Nat.mul_lt_mul_of_pos_right high (Nat.two_pow_pos _)
      _ = 2 ^ (k + 1) := by rw [← pow_add, add_right_comm, Nat.add_sub_cancel' log]

theorem mantissa_bounds (pos : 0 < n) : 2 ^ 52 ≤ mantissa n ∧ mantissa n ≤ 2 ^ 53 := by
  obtain ⟨low, high⟩ := scaled_bounds pos (Nat.le_add_right n.log2 53)
  rw [Nat.add_sub_cancel_left] at low high
  rw [show n.log2 + 53 = 52 + (n.log2 + 1) by omega] at low
  rw [show n.log2 + 53 + 1 = 53 + (n.log2 + 1) by omega] at high
  exact divToEven_range low high

theorem log2_le_of_lt (pos : 0 < n) {k : ℕ} (lt : n < 2 ^ (k + 1)) : n.log2 ≤ k :=
  Nat.lt_succ_iff.1 ((Nat.log2_lt pos.ne').2 lt)

/-- A natural of 53 bits is shifted up. -/
theorem ofUInt64_eq (pos : 0 < n) (short : n < 2 ^ 53) :
    UnpackedFloat.ofUInt64 .binary64 n.toUInt64 =
      roundWithAccuracy .binary64 .positive (n * 2 ^ (52 - n.log2)) (n.log2 - 52) .exact := by
  have fits : n.toUInt64.toNat = n := by
    show n % 2 ^ 64 = n
    omega
  have log := log2_le_of_lt pos short
  have up : (0 - max ((n.log2 : ℤ) + 0 - 52) (-1074)).toNat = 52 - n.log2 := by omega
  have down : (0 : ℤ) - (52 - n.log2 : ℕ) = n.log2 - 52 := by omega
  show UnpackedFloat.normalize .binary64 (n.toUInt64.toNat : ℤ) 0 .positive = _
  rw [fits]
  unfold UnpackedFloat.normalize
  rw [compare_gt_iff_gt.2 (by omega)]
  show UnpackedFloat.round .binary64 .positive n 0 = _
  unfold UnpackedFloat.round decreaseExponent
  simp only [targetExponent_eq, up, down, Nat.shiftLeft_eq]

theorem unpack_toFloat (pos : 0 < n) (short : n < 2 ^ 53) :
    ∃ pos, n.toUInt64.toFloat.toModel.unpack =
      .finite .positive (n * 2 ^ (52 - n.log2)) (n.log2 - 52) pos := by
  have log := log2_le_of_lt pos short
  obtain ⟨low, high⟩ := scaled_bounds pos log
  obtain ⟨pos', rounded⟩ := unpack_round (k := 0) (e := n.log2 - 52) .positive low high (by omega)
    (by omega)
  have exact := divToEven_mul (n * 2 ^ (52 - n.log2)) (Nat.two_pow_pos 0)
  rw [pow_zero, mul_one] at exact
  refine ⟨by omega, ?_⟩
  show (Float.Model.pack (UnpackedFloat.ofUInt64 .binary64 n.toUInt64)).unpack = _
  rw [ofUInt64_eq pos short, rounded]
  simp only [carried, pow_zero, exact, if_pos high, Nat.cast_zero, add_zero]

theorem ofNat_of_lt (short : n < 2 ^ 53) : (Float.ofNat n).toModel =
    Float.Model.pack (UnpackedFloat.mul .binary64 n.toUInt64.toFloat.toModel.unpack
      (.finite .positive (2 ^ 52) (-52) (by decide))) := by
  have one : Float.exactlyRepresentablePowersOfTen[0].toModel.unpack =
    .finite .positive (2 ^ 52) (-52) (by decide) := rfl
  rw [← one]
  show (Float.ofScientific n false 0).toModel = _
  unfold Float.ofScientific
  rw [dif_pos ⟨short, by decide⟩]
  rfl

theorem ofNat_of_le (long : 2 ^ 53 ≤ n) : (Float.ofNat n).toModel =
    Float.Model.pack (roundWithAccuracy .binary64 .positive (n * 2 ^ 53) (-53) .exact) := by
  have shifted :
      n <<< Float.Model.Format.binary64.mantissaBits * 10 ^ Int.toNat 0 = n * 2 ^ 53 := by
    rw [Nat.shiftLeft_eq, Int.toNat_zero, pow_zero, mul_one]
    rfl
  have down : -(Float.Model.Format.binary64.mantissaBits : ℤ) + 0 = -53 := rfl
  show (Float.ofScientific n false 0).toModel = _
  unfold Float.ofScientific
  rw [dif_neg (by omega)]
  show Float.Model.pack (UnpackedFloat.ofScientific .binary64 n 0) = _
  unfold UnpackedFloat.ofScientific
  rw [dif_neg (by omega), if_neg (by decide), if_neg, if_pos le_rfl]
  · unfold UnpackedFloat.mul
    simp only [shifted, down]
    rfl
  · have : (0 : ℤ) ≤ 2 ^ Float.Model.Format.binary64.exponentBits := by positivity
    omega

/-- A natural as a float.  Up to 53 bits it is multiplied by one, beyond them it is rounded from twice
the bits; both come to the same. -/
theorem unpack_ofNat (pos : 0 < n) (small : n < 2 ^ 64) :
    ∃ pos, (Float.ofNat n).toModel.unpack = carried .positive (mantissa n) (n.log2 - 52) pos := by
  by_cases short : n < 2 ^ 53
  · have log := log2_le_of_lt pos short
    obtain ⟨pos', unpacked⟩ := unpack_toFloat pos short
    obtain ⟨low, high⟩ := scaled_bounds pos log
    rw [ofNat_of_lt short, unpacked, mantissa_of_lt log]
    generalize n * 2 ^ (52 - n.log2) = m at *
    obtain ⟨pos'', rounded⟩ := unpack_round (m := m * 2 ^ 52) (k := 52) (e := n.log2 - 52 + -52)
      .positive (by omega) (by omega) (by omega) (by omega)
    refine ⟨pos', Eq.trans rounded ?_⟩
    simp only [divToEven_mul m (Nat.two_pow_pos 52)]
    congr 1
    omega
  · have log := log2_le_of_lt pos small
    obtain ⟨low, high⟩ := scaled_bounds pos (Nat.le_add_right n.log2 53)
    rw [Nat.add_sub_cancel_left] at low high
    rw [show n.log2 + 53 = 52 + (n.log2 + 1) by omega] at low
    rw [show n.log2 + 53 + 1 = 53 + (n.log2 + 1) by omega] at high
    rw [ofNat_of_le (by omega)]
    obtain ⟨pos', rounded⟩ := unpack_round (e := -53) .positive low high (by omega) (by omega)
    refine ⟨pos', rounded.trans ?_⟩
    congr 1
    omega

end Naturals

/-! ## The order is kept -/

/-- The place of a rounded mantissa. -/
def carriedPlace (m : ℕ) (e : ℤ) : Place :=
  if m < 2 ^ 53 then .ofFinite m e else .ofFinite (2 ^ 52) (e + 1)

theorem of?_carried {m : ℕ} (s : Sign) (e : ℤ) (pos : 0 < m) :
    Place.of? (carried s m e pos) = some (Place.signed s (carriedPlace m e)) := by
  unfold carried carriedPlace
  split <;> rfl

theorem carriedPlace_pos (m : ℕ) (e : ℤ) : 0 < carriedPlace m e := by
  unfold carriedPlace
  split <;> exact Place.ofFinite_pos _ _

theorem ofFinite_le_iff {m n : ℕ} {e f : ℤ} :
    Place.ofFinite m e ≤ Place.ofFinite n f ↔ e < f ∨ e = f ∧ m ≤ n := by
  unfold Place.ofFinite
  rw [Prod.Lex.toLex_le_toLex, Prod.Lex.toLex_le_toLex]
  simp

theorem carriedPlace_mono {m n : ℕ} (e : ℤ) (le : m ≤ n) : carriedPlace m e ≤ carriedPlace n e := by
  unfold carriedPlace
  split <;> split <;> rw [ofFinite_le_iff] <;> omega

/-- A carry does not pass the mantissas of the next power of two. -/
theorem carriedPlace_le_next {m n : ℕ} {e f : ℤ} (full : 2 ^ 52 ≤ n) (lt : e < f) :
    carriedPlace m e ≤ carriedPlace n f := by
  unfold carriedPlace
  split <;> split <;> rw [ofFinite_le_iff] <;> omega

/-- The place of a natural as a float. -/
def placeOfNat (n : ℕ) : Place := if n = 0 then 0 else carriedPlace (mantissa n) (n.log2 - 52)

theorem placeOfNat_nonneg (n : ℕ) : 0 ≤ placeOfNat n := by
  unfold placeOfNat
  split
  · exact le_rfl
  · exact (carriedPlace_pos _ _).le

theorem placeOfNat_mono {m n : ℕ} (le : m ≤ n) : placeOfNat m ≤ placeOfNat n := by
  by_cases zero : m = 0
  · rw [zero]
    exact placeOfNat_nonneg n
  have logs : m.log2 ≤ n.log2 :=
    (Nat.le_log2 (by omega)).2 ((Nat.log2_self_le zero).trans le)
  unfold placeOfNat
  rw [if_neg zero, if_neg (by omega)]
  rcases Nat.lt_or_eq_of_le logs with lt | eq
  · exact carriedPlace_le_next (mantissa_bounds (by omega)).1 (by omega)
  · rw [eq]
    refine carriedPlace_mono _ ?_
    unfold mantissa
    rw [eq]
    exact divToEven_mono _ (Nat.mul_le_mul_right _ le)

/-- The place of an integer as a float. -/
def placeOfInt : ℤ → Place
  | .ofNat n => placeOfNat n
  | .negSucc n => -placeOfNat (n + 1)

/-- **The conversion keeps the order**, though it may take two integers to one float. -/
theorem placeOfInt_mono {m n : ℤ} (le : m ≤ n) : placeOfInt m ≤ placeOfInt n := by
  match m, n with
  | .ofNat m, .ofNat n => exact placeOfNat_mono (Int.ofNat_le.1 le)
  | .ofNat m, .negSucc n =>
    have := (Int.negSucc_lt_zero n).trans_le (Int.natCast_nonneg m)
    exact absurd this le.not_gt
  | .negSucc m, .ofNat n => exact (neg_nonpos.2 (placeOfNat_nonneg _)).trans (placeOfNat_nonneg _)
  | .negSucc m, .negSucc n => exact neg_le_neg (placeOfNat_mono (by omega))

/-- The place of a natural of 53 bits, which has a mantissa of its own. -/
theorem placeOfNat_of_lt {n : ℕ} (pos : 0 < n) (short : n < 2 ^ 53) :
    placeOfNat n = .ofFinite (n * 2 ^ (52 - n.log2)) (n.log2 - 52) := by
  have log := log2_le_of_lt pos short
  unfold placeOfNat
  rw [if_neg pos.ne', mantissa_of_lt log]
  exact if_pos (scaled_bounds pos log).2

/-- Up to `2 ^ 53` no two naturals are taken to one float. -/
theorem placeOfNat_lt {m n : ℕ} (lt : m < n) (small : n ≤ 2 ^ 53) : placeOfNat m < placeOfNat n := by
  have nonzero : n ≠ 0 := by omega
  rcases Nat.eq_zero_or_pos m with rfl | pos
  · unfold placeOfNat
    rw [if_pos rfl, if_neg nonzero]
    exact carriedPlace_pos _ _
  · refine (placeOfNat_mono lt.le).lt_of_not_ge ?_
    rw [placeOfNat_of_lt pos (by omega)]
    have log := log2_le_of_lt pos (by omega : m < 2 ^ 53)
    rcases Nat.lt_or_eq_of_le small with short | full
    · rw [placeOfNat_of_lt (by omega) short, ofFinite_le_iff]
      rintro (less | ⟨same, le⟩)
      · have := (Nat.le_log2 nonzero).2 ((Nat.log2_self_le pos.ne').trans lt.le)
        omega
      · have same : n.log2 = m.log2 := by omega
        rw [same] at le
        exact (Nat.mul_lt_mul_of_pos_right lt (Nat.two_pow_pos _)).not_ge le
    · have log' : n.log2 = 53 := by rw [full, Nat.log2_two_pow]
      unfold placeOfNat carriedPlace
      rw [if_neg nonzero, log']
      split <;> rw [ofFinite_le_iff] <;> omega

/-- **The conversion is exact up to `2 ^ 53`**: there it takes no two integers to one float. -/
theorem placeOfInt_lt {m n : ℤ} (lt : m < n) (low : -2 ^ 53 ≤ m) (high : n ≤ 2 ^ 53) :
    placeOfInt m < placeOfInt n := by
  cases m with
  | ofNat m =>
    cases n with
    | ofNat n =>
      rw [Int.ofNat_eq_natCast] at high
      exact placeOfNat_lt (Int.ofNat_lt.1 lt) (by omega)
    | negSucc n => exact absurd (lt.trans (Int.negSucc_lt_zero n)) (Int.natCast_nonneg m).not_gt
  | negSucc m =>
    cases n with
    | ofNat n =>
      have pos : 0 < placeOfNat (m + 1) := placeOfNat_lt m.succ_pos (by omega)
      exact (neg_neg_of_pos pos).trans_le (placeOfNat_nonneg n)
    | negSucc n => exact neg_lt_neg (placeOfNat_lt (by omega) (by omega))

theorem place?_ofNat {n : ℕ} (small : n < 2 ^ 64) :
    place? (Float.ofNat n) = some (placeOfNat n) := by
  unfold placeOfNat
  split
  case isTrue zero =>
    rw [zero]
    rfl
  case isFalse nonzero =>
    obtain ⟨pos, unpacked⟩ := unpack_ofNat (Nat.pos_of_ne_zero nonzero) small
    rw [place?, unpacked]
    exact of?_carried .positive _ pos

theorem place?_neg_ofNat {n : ℕ} (pos : 0 < n) (small : n < 2 ^ 64) :
    place? (Float.ofNat n).neg = some (-placeOfNat n) := by
  have log := log2_le_of_lt pos small
  obtain ⟨pos', unpacked⟩ := unpack_ofNat pos small
  have negated : (carried .positive (mantissa n) (n.log2 - 52) pos').neg =
      carried .negative (mantissa n) (n.log2 - 52) pos' := by
    unfold carried
    split <;> rfl
  show Place.of? (Float.Model.pack (Float.ofNat n).toModel.unpack.neg).unpack = _
  rw [unpacked, negated, unpack_carried (mantissa_bounds pos).1 (by omega) (by omega), of?_carried]
  unfold placeOfNat
  rw [if_neg pos.ne']
  rfl

/-- An integer of 64 bits is a number as a float. -/
theorem place?_ofInt (n : Int64) : place? (Float.ofInt n.toInt) = some (placeOfInt n.toInt) := by
  have low := Int64.le_toInt n
  have high := Int64.toInt_lt n
  generalize n.toInt = i at *
  cases i with
  | ofNat n =>
    rw [Int.ofNat_eq_natCast] at high
    exact place?_ofNat (by omega)
  | negSucc n => exact place?_neg_ofNat n.succ_pos (by omega)

/-! ## Truth values as floats -/

/-- The place of a truth value as a float is that of zero or one. -/
theorem place?_bit (b : Bool) : place? (if b then 1 else 0) = some (placeOfInt b.toInt) := by
  cases b <;> rfl

/-- Zero and one keep their distance from all integers. -/
theorem compare_bit (b : Bool) (n : ℤ) :
    compare (placeOfInt b.toInt) (placeOfInt n) = compare b.toInt n := by
  have apart : placeOfInt (b.toInt - 1) < placeOfInt b.toInt ∧
      placeOfInt b.toInt < placeOfInt (b.toInt + 1) := by
    cases b <;> decide
  rcases lt_trichotomy b.toInt n with lt | eq | gt
  · rw [compare_lt_iff_lt.2 lt, compare_lt_iff_lt]
    exact apart.2.trans_le (placeOfInt_mono lt)
  · rw [eq, compare_eq_iff_eq.2 rfl, compare_eq_iff_eq.2 rfl]
  · rw [compare_gt_iff_gt.2 gt, compare_gt_iff_gt]
    exact (placeOfInt_mono (Int.le_sub_one_of_lt gt)).trans_lt apart.1

end TextTemplate.Number
