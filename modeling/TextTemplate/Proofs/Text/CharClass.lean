import TextTemplate.Text.CharClass

/-!
# Characters of one class are not of another

Names start with no digit and no white space, and no digit is white space.  For the characters beyond
ASCII this is read off the tables, one range of white space at a time.
-/

namespace TextTemplate.Text

theorem isAlpha_iff {c : Char} :
    c.isAlpha = true ↔ 65 ≤ c.toNat ∧ c.toNat ≤ 90 ∨ 97 ≤ c.toNat ∧ c.toNat ≤ 122 := by
  have upper : c.isUpper = true ↔ 65 ≤ c.val ∧ c.val ≤ 90 := decide_eq_true_iff
  have lower : c.isLower = true ↔ 97 ≤ c.val ∧ c.val ≤ 122 := by
    show (decide (97 ≤ c.val) && decide (c.val ≤ 122)) = true ↔ _
    rw [Bool.and_eq_true, decide_eq_true_eq, decide_eq_true_eq]
  show (c.isUpper || c.isLower) = true ↔ _
  rw [Bool.or_eq_true, upper, lower]
  exact Iff.rfl

theorem isDigit_iff {c : Char} : c.isDigit = true ↔ 48 ≤ c.toNat ∧ c.toNat ≤ 57 := by
  simp only [Char.isDigit, Bool.and_eq_true, decide_eq_true_eq, UInt32.le_iff_toNat_le, ge_iff_le]
  exact Iff.rfl

theorem letter_of_startsName {c : Char} (h : startsName c = true) :
    c.isAlpha = true ∨ 0x80 ≤ c.toNat ∧ inRanges Table.alphabetic c.toNat = true ∨ c = '_' := by
  simpa [startsName, isLetter, or_assoc] using h

/-- No name starts with white space. -/
theorem isWhite_of_startsName {c : Char} (h : startsName c = true) : isWhite c = false := by
  refine Bool.eq_false_iff.2 fun white => ?_
  obtain ⟨r, mem, inside⟩ := List.any_eq_true.1 white
  have bounds : r.1 ≤ c.toNat ∧ c.toNat ≤ r.2 := by simpa using inside
  have codes : ∀ r ∈ whiteRanges, ∀ n ∈ List.range' r.1 (r.2 - r.1 + 1),
      (n < 65 ∨ 122 < n) ∧ (n < 0x80 ∨ inRanges Table.alphabetic n = false) := by
    decide +kernel
  obtain ⟨ascii, others⟩ := codes r mem c.toNat (by
    rw [List.mem_range'_1]
    omega)
  rcases letter_of_startsName h with alpha | ⟨high, letter⟩ | rfl
  · have := isAlpha_iff.1 alpha
    omega
  · rcases others with low | none
    · omega
    · rw [none] at letter
      cases letter
  · revert white
    decide

theorem isDigit_of_startsName {c : Char} (h : startsName c = true) : c.isDigit = false := by
  refine Bool.eq_false_iff.2 fun digit => ?_
  have bounds := isDigit_iff.1 digit
  rcases letter_of_startsName h with alpha | ⟨high, -⟩ | rfl
  · have := isAlpha_iff.1 alpha
    omega
  · omega
  · revert digit
    decide

theorem isWhite_of_isDigit {c : Char} (h : c.isDigit = true) : isWhite c = false := by
  have bounds := isDigit_iff.1 h
  have codes : ∀ n ∈ List.range' 48 10, inRanges whiteRanges n = false := by decide
  refine codes c.toNat ?_
  rw [List.mem_range'_1]
  omega

end TextTemplate.Text
