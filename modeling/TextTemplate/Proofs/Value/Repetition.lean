import Mathlib
import TextTemplate.Eval
import TextTemplate.Proofs.Value.Overflow
import TextTemplate.Proofs.Value.Slice

/-!
# Repetition

A text or a list by a whole number is so many copies of it, one behind the other, with the factor on
either side.  What is refused depends on the room that the copies take (`room`): of a list its items,
but of a text the bytes of its characters, which are more than the characters where not all of them are
ASCII.  So a text of few characters may be refused, and nothing too long is ever built.  The main result
is `repetition_bounded`.
-/

namespace TextTemplate.Value

/-- A text or a list added so many times to the empty one. -/
def addedUp (v : Value) : Nat → Except EvalFault Value
  | 0 =>
    match v with
    | .text _ => .ok (.text "")
    | .list _ => .ok (.list [])
    | v => .ok v
  | n + 1 => do Expr.Arithmetic.add.apply (← addedUp v n) v

/-- The room that a sequence takes: the bytes of a text in UTF-8, the items of a list. -/
def room : Value → Nat
  | .text s => s.utf8ByteSize
  | .list items => items.length
  | _ => 0

/-- The characters of a text, the items of a list. -/
def count : Value → Nat
  | .text s => s.length
  | .list items => items.length
  | _ => 0

/-- So many copies of a sequence, one behind the other. -/
def copied (v : Value) (n : Nat) : Value :=
  match v with
  | .text s => .text (String.join (List.replicate n s))
  | .list items => .list (List.replicate n items).flatten
  | v => v

/-- A sequence repeated. -/
def repeated (v : Value) (factor : Int) : Except EvalFault Value :=
  match v with
  | .text s => repeatText s factor
  | .list items => repeatList items factor
  | v => .ok v

/-! ## Room -/

theorem length_le_utf8Len (cs : List Char) : cs.length ≤ String.utf8Len cs := by
  induction cs with
  | nil => exact Nat.zero_le _
  | cons c cs ih =>
    have := c.utf8Size_pos
    rw [String.utf8Len_cons, List.length_cons]
    omega

/-- A character takes one byte exactly if it is an ASCII character. -/
theorem utf8Len_eq_length_iff {cs : List Char} :
    String.utf8Len cs = cs.length ↔ ∀ c ∈ cs, c.val ≤ 127 := by
  induction cs with
  | nil => simp
  | cons c cs ih =>
    have := c.utf8Size_pos
    have := length_le_utf8Len cs
    rw [List.forall_mem_cons, ← ih, ← Char.utf8Size_eq_one_iff, String.utf8Len_cons, List.length_cons]
    omega

theorem utf8ByteSize_eq (s : String) : s.utf8ByteSize = String.utf8Len s.toList := by
  rw [← String.utf8ByteSize_ofList, String.ofList_toList]

theorem count_le_room (v : Value) : v.count ≤ v.room := by
  cases v with
  | text s =>
    show s.length ≤ s.utf8ByteSize
    rw [utf8ByteSize_eq, ← String.length_toList]
    exact length_le_utf8Len _
  | _ => exact Nat.le_refl _

theorem room_eq_count_iff (v : Value) :
    v.room = v.count ↔ ∀ s, v = .text s → ∀ c ∈ s.toList, c.val ≤ 127 := by
  cases v with
  | text s =>
    show s.utf8ByteSize = s.length ↔ _
    rw [utf8ByteSize_eq, ← String.length_toList, utf8Len_eq_length_iff]
    constructor
    · rintro ascii _ ⟨⟩
      exact ascii
    · exact fun ascii => ascii s rfl
  | _ =>
    refine ⟨fun _ s same => ?_, fun _ => rfl⟩
    cases same

/-! ## Copies -/

section Copies

variable {v : Value} {items : List Value} (sequence : IsSequence v items)
include sequence

/-- `len` gives the characters or items, unless there are too many of them for an integer. -/
theorem checked_len : Checked v.count (Global.len.call [v]) := by
  cases sequence with
  | text s => exact checked_ofInt _
  | list items => exact checked_ofInt _

/-- An integer that came out is exact. -/
theorem count_of_len {k : Int64} (h : Global.len.call [v] = .ok (.int k)) : k.toInt = v.count := by
  obtain ⟨exact, wide⟩ := checked_len sequence
  by_cases fits : Number.Fits v.count
  · obtain ⟨r, eq, same⟩ := exact fits
    rw [h] at eq
    cases eq
    exact same
  · rw [wide fits] at h
    cases h

theorem count_copied (n : Nat) : (v.copied n).count = v.count * n := by
  cases sequence with
  | text s =>
    show (String.join _).length = s.length * n
    rw [String.length_join, List.map_replicate, List.sum_replicate, smul_eq_mul, Nat.mul_comm]
  | list items =>
    show (List.flatten _).length = items.length * n
    rw [List.length_flatten, List.map_replicate, List.sum_replicate, smul_eq_mul, Nat.mul_comm]

theorem isSequence_copied (n : Nat) : ∃ copies, IsSequence (v.copied n) copies := by
  cases sequence with
  | text s => exact ⟨_, .text _⟩
  | list items => exact ⟨_, .list _⟩

/-- Copies are made by adding, one after the other. -/
theorem addedUp_eq (n : Nat) : v.addedUp n = .ok (v.copied n) := by
  induction n with
  | zero => cases sequence <;> rfl
  | succ n ih =>
    rw [addedUp, ih]
    cases sequence with
    | text s =>
      show Except.ok (Value.text (String.join (List.replicate n s) ++ s)) = _
      rw [copied, List.replicate_succ', String.join_append, String.join_cons]
      simp
    | list items =>
      show Except.ok (Value.list ((List.replicate n items).flatten ++ items)) = _
      rw [copied, List.replicate_succ', List.flatten_concat]

/-- A factor makes copies, if they do not take too much room. -/
theorem repeated_eq (filled : 1 ≤ v.count) (factor : Int) :
    v.repeated factor = if v.room * factor.toNat ≤ 2 ^ 24 then .ok (v.copied factor.toNat)
      else .error .longRepetition := by
  have limit : maxSequence = 2 ^ 24 := rfl
  cases sequence with
  | text s =>
    have nonempty : s.isEmpty = false := by
      rw [← Bool.not_eq_true, String.isEmpty_iff]
      rintro rfl
      exact absurd filled (by decide)
    show repeatText s factor = if s.utf8ByteSize * factor.toNat ≤ 2 ^ 24 then _ else _
    rw [repeatText, copies, limit, nonempty]
    split <;> rfl
  | list items =>
    have nonempty : items.isEmpty = false := by
      rw [List.isEmpty_eq_false_iff]
      rintro rfl
      exact absurd filled (by decide)
    show repeatList items factor = if items.length * factor.toNat ≤ 2 ^ 24 then _ else _
    rw [repeatList, copies, limit, nonempty]
    split <;> rfl

/-- The factor may stand on either side. -/
theorem mul_eq {n : Value} {factor : Int} (whole : n.int? = some factor) :
    v.mul n = v.repeated factor ∧ n.mul v = v.repeated factor := by
  cases n with
  | int m => cases whole; cases sequence <;> exact ⟨rfl, rfl⟩
  | bool b => cases whole; cases sequence <;> exact ⟨rfl, rfl⟩
  | _ => cases whole

end Copies

/-! ## The bound -/

/-- **A repetition is bounded by the room of its copies.**  A factor may stand on either side.  A text or
list with something in it is repeated exactly if the copies take room for at most `2 ^ 24` bytes or items
and else refused; then it is what adding it up gives, and its length is the product.  So the number of
characters or items decides, unless that is within the bound and the room is not.  The room is the
length exactly for lists and ASCII texts. -/
theorem repetition_bounded {v n : Value} {items : List Value} {k : Int64} {factor : Int}
    (sequence : IsSequence v items) (length : Global.len.call [v] = .ok (.int k)) (filled : 1 ≤ k.toInt)
    (whole : n.int? = some factor) :
    Expr.Arithmetic.mul.apply n v = Expr.Arithmetic.mul.apply v n ∧
    ((∃ r, Expr.Arithmetic.mul.apply v n = .ok r) ↔ v.room * max factor 0 ≤ 2 ^ 24) ∧
    (∀ r, Expr.Arithmetic.mul.apply v n = .ok r → v.addedUp factor.toNat = .ok r ∧
      ∃ m : Int64, Global.len.call [r] = .ok (.int m) ∧ m.toInt = k.toInt * max factor 0) ∧
    (∀ fault, Expr.Arithmetic.mul.apply v n = .error fault → fault = .longRepetition) ∧
    EvalFault.longRepetition.message = "repeated sequence is too long" ∧
    (((∃ r, Expr.Arithmetic.mul.apply v n = .ok r) ↔ k.toInt * max factor 0 ≤ 2 ^ 24) ↔
      ¬ (k.toInt * max factor 0 ≤ 2 ^ 24 ∧ 2 ^ 24 < v.room * max factor 0)) ∧
    ((v.room : Int) = k.toInt ↔ ∀ s, v = .text s → ∀ c ∈ s.toList, c.val ≤ 127) := by
  have times : max factor 0 = factor.toNat := by omega
  have count := count_of_len sequence length
  have wider := v.count_le_room
  have bound (size : Nat) :
      (size : Int) * max factor 0 ≤ 2 ^ 24 ↔ size * factor.toNat ≤ 2 ^ 24 := by
    rw [times]
    exact_mod_cast Iff.rfl
  obtain ⟨right, left⟩ := mul_eq sequence whole
  have eq := right.trans (repeated_eq sequence (by omega) factor)
  have succeeds : (∃ r, v.mul n = .ok r) ↔ v.room * factor.toNat ≤ 2 ^ 24 := by
    rw [eq]
    split <;> simp_all
  refine ⟨left.trans right.symm, succeeds.trans (bound _).symm, fun r made => ?_, fun fault failed => ?_,
    rfl, ?_, ?_⟩
  · have small := succeeds.1 ⟨r, made⟩
    have made : v.mul n = .ok r := made
    rw [eq, if_pos small] at made
    cases made
    refine ⟨addedUp_eq sequence _, ?_⟩
    have product := count_copied sequence factor.toNat
    -- the copies are within the bound, so their number is an integer
    have fits : Number.Fits (v.copied factor.toNat).count := by
      have := Nat.mul_le_mul_right factor.toNat wider
      unfold Number.Fits
      omega
    obtain ⟨copies, sequence'⟩ := isSequence_copied sequence factor.toNat
    obtain ⟨m, eq, exact⟩ := (checked_len sequence').1 fits
    refine ⟨m, eq, ?_⟩
    rw [exact, product, count, times]
    exact Nat.cast_mul _ _
  · have failed : v.mul n = .error fault := failed
    rw [eq] at failed
    split at failed <;> cases failed
    rfl
  · have within := Nat.mul_le_mul_right factor.toNat wider
    have apart : ¬ (2 ^ 24 < (v.room : Int) * max factor 0) ↔ v.room * factor.toNat ≤ 2 ^ 24 := by
      rw [not_lt, bound]
    rw [not_and, apart, count, bound]
    show ((∃ r, v.mul n = .ok r) ↔ _) ↔ _
    rw [succeeds]
    constructor
    · exact fun same => same.2
    · exact fun enough => ⟨fun small => within.trans small, enough⟩
  · rw [count, ← room_eq_count_iff]
    exact Nat.cast_inj

/-- Three copies of a word of four characters in five bytes. -/
theorem repetition_of_word :
    IsSequence (.text "café") (["c", "a", "f", "é"].map .text) ∧
    Global.len.call [.text "café"] = .ok (.int 4) ∧ (Value.int 3).int? = some 3 ∧
    Expr.Arithmetic.mul.apply (.text "café") (.int 3) = .ok (.text "cafécafécafé") ∧
    (Value.text "café").addedUp 3 = .ok (.text "cafécafécafé") := by
  have length : Global.len.call [.text "café"] = .ok (.int 4) := by rfl
  have made : Expr.Arithmetic.mul.apply (.text "café") (.int 3) = .ok (.text "cafécafécafé") := by
    rfl
  obtain ⟨-, -, sum, -⟩ := repetition_bounded (.text "café") length (by decide) (n := .int 3) rfl
  exact ⟨.text "café", length, rfl, made, (sum _ made).1⟩

/-- **Few characters that are refused**: `2 ^ 23 + 1` copies of a character of two bytes. -/
theorem repetition_refused_early :
    Global.len.call [.text "é"] = .ok (.int 1) ∧ (1 : Int) * max 8388609 0 ≤ 2 ^ 24 ∧
    Expr.Arithmetic.mul.apply (.text "é") (.int 8388609) = .error .longRepetition := by
  refine ⟨by rfl, by decide, by rfl⟩

end TextTemplate.Value
