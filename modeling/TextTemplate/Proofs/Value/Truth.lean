import Mathlib
import TextTemplate.Eval
import TextTemplate.Proofs.Value.Comparison

/-!
# Truth values as numbers

A truth value counts as zero or one (`Counted`).  Most operators ask a number only for its float, for its
integer and whether it is a float, and to all this a truth value answers like the integer that it counts
as.  Comparisons ask for the kind of both operands, but zero and one are next to the same integers as
floats.  The remainder and the power ask for the kinds, too, and compute whole numbers only from two
integers; so with a truth value their result is a float.  The main result is `truth_values_count`.
-/

namespace TextTemplate

/-- Whether an operator computes a whole number only of two integers, the right one of which is `n`, and
a float of other numbers. -/
def Expr.Arithmetic.GoesByKind (op : Expr.Arithmetic) (n : Int64) : Prop :=
  match op with
  | .mod => n ≠ 0
  | .pow => 0 ≤ n
  | _ => False

namespace Value

open Number

/-- The second value is the first one, as the integer that it counts as if it is a truth value. -/
inductive Counted : Value → Value → Prop
  | same (v : Value) : Counted v v
  | truth (b : Bool) : Counted (.bool b) (.int (if b then 1 else 0))

/-! ## What operators ask for -/

section Counted

variable {v v' w w' : Value}

theorem Counted.float?_eq (h : Counted v w) : v.float? = w.float? := by
  cases h with
  | same => rfl
  | truth b => cases b <;> rfl

theorem Counted.int64?_eq (h : Counted v w) : v.int64? = w.int64? := by
  cases h <;> rfl

theorem Counted.int?_eq (h : Counted v w) : v.int? = w.int? :=
  congrArg (Option.map Int64.toInt) h.int64?_eq

theorem Counted.isFloat_eq (h : Counted v w) : v.isFloat = w.isFloat := by
  cases h <;> rfl

theorem Counted.place?_eq (h : Counted v w) : v.place? = w.place? := by
  rw [Value.place?, Value.place?, h.float?_eq]

/-- Two integers count only as themselves. -/
theorem Counted.bothInt (hv : Counted v v') (hw : Counted w w') (both : BothInt v w) :
    v = v' ∧ w = w' := by
  cases hv with
  | same =>
    cases hw with
    | same => exact ⟨rfl, rfl⟩
    | truth => cases both.2
  | truth => cases both.1

/-! ## Arithmetic -/

theorem toOption_bind {ε α β : Type} {x y : Except ε α} (same : x.toOption = y.toOption)
    (f : α → Except ε β) : (x >>= f).toOption = (y >>= f).toOption := by
  cases x with
  | error e =>
    cases y with
    | error e' => rfl
    | ok b => cases same
  | ok a =>
    cases y with
    | error e' => cases same
    | ok b =>
      cases same
      rfl

theorem toOption_map {ε α β : Type} {x y : Except ε α} (same : x.toOption = y.toOption)
    (f : α → β) : (x.map f).toOption = (y.map f).toOption := toOption_bind same fun a => .ok (f a)

theorem Counted.floats (hv : Counted v v') (hw : Counted w w') (op : String) :
    (floats op v w).toOption = (floats op v' w').toOption := by
  unfold Value.floats
  rw [hv.float?_eq, hw.float?_eq]
  split <;> rfl

theorem Counted.numeric (hv : Counted v v') (hw : Counted w w') (op : String)
    (onInts : Int → Int → Int) (onFloats : Float → Float → Float) :
    (numeric op onInts onFloats v w).toOption = (numeric op onInts onFloats v' w').toOption := by
  unfold Value.numeric
  rw [hv.isFloat_eq, hw.isFloat_eq, hv.int?_eq, hw.int?_eq]
  split
  · exact toOption_map (hv.floats hw op) _
  · split <;> rfl

theorem Counted.add (hv : Counted v v') (hw : Counted w w') :
    (v.add w).toOption = (v'.add w').toOption := by
  have numbers := hv.numeric hw "+" (· + ·) (· + ·)
  cases hv with
  | same v =>
    cases hw with
    | same w => rfl
    | truth c => cases v <;> exact numbers
  | truth b =>
    cases hw with
    | same w => cases w <;> exact numbers
    | truth c => exact numbers

theorem Counted.mul (hv : Counted v v') (hw : Counted w w') :
    (v.mul w).toOption = (v'.mul w').toOption := by
  have numbers := hv.numeric hw "*" (· * ·) (· * ·)
  cases hv with
  | same v =>
    cases hw with
    | same w => rfl
    | truth c =>
      cases v with
      | text s => rfl
      | list items => rfl
      | _ => exact numbers
  | truth b =>
    cases hw with
    | same w =>
      cases w with
      | text s => rfl
      | list items => rfl
      | _ => exact numbers
    | truth c => exact numbers

theorem Counted.floorDiv (hv : Counted v v') (hw : Counted w w') :
    (v.floorDiv w).toOption = (v'.floorDiv w').toOption := by
  unfold Value.floorDiv
  rw [hv.int64?_eq, hw.int64?_eq]
  split
  · rfl
  · exact toOption_bind (hv.floats hw "//") _

/-! ## Remainders and powers -/

theorem modulo_of_mixed (mixed : ¬ BothInt v w) : v.modulo w = (do
    let (x, y) ← Value.floats "%" v w
    if y == 0 then throw .zeroModulo
    return .float (floatModulo x y)) := by
  apply modulo.eq_2
  rintro m n rfl rfl
  exact mixed ⟨rfl, rfl⟩

theorem pow_of_mixed (mixed : ¬ BothInt v w) :
    v.pow w = (Value.floats "**" v w).map fun (x, y) => .float (Float.pow x y) := by
  apply pow.eq_2
  rintro m n rfl rfl
  exact mixed ⟨rfl, rfl⟩

/-- No other integer becomes zero as a float. -/
theorem ofInt_beq_zero {n : Int64} : Float.ofInt n.toInt == 0 ↔ n = 0 := by
  have zero : Number.place? 0 = some (placeOfInt false.toInt) := place?_bit false
  rw [beq_iff (place?_ofInt n) zero, eq_comm, ← compare_eq_iff_eq, compare_bit, compare_eq_iff_eq,
    eq_comm]
  exact Int64.toInt_inj (y := 0)

section Integers

variable {m n : Int64}

/-- Two numbers that count as integers, and are not both integers. -/
theorem Counted.modulo_int (hv : Counted v (.int m)) (hw : Counted w (.int n))
    (mixed : ¬ BothInt v w) :
    (v.modulo w).toOption = ((Value.int m).modulo (.int n)).toOption ↔ ¬ n ≠ 0 := by
  rw [not_not]
  rw [modulo_of_mixed mixed, toOption_bind (hv.floats hw "%")]
  show (if Float.ofInt n.toInt == 0 then _ else _ : Except EvalFault Value).toOption =
    (if n = 0 then _ else _ : Except EvalFault Value).toOption ↔ _
  by_cases zero : n = 0
  · rw [if_pos (ofInt_beq_zero.2 zero), if_pos zero]
    exact iff_of_true rfl zero
  · rw [if_neg (mt ofInt_beq_zero.1 zero), if_neg zero]
    refine iff_of_false ?_ zero
    cases floorRemainder? m n <;> nofun

theorem Counted.pow_int (hv : Counted v (.int m)) (hw : Counted w (.int n)) (mixed : ¬ BothInt v w) :
    (v.pow w).toOption = ((Value.int m).pow (.int n)).toOption ↔ ¬ 0 ≤ n := by
  rw [Int64.not_le]
  rw [pow_of_mixed mixed, toOption_map (hv.floats hw "**")]
  show some (Value.float _) = (if n < 0 then _ else _ : Except EvalFault Value).toOption ↔ _
  by_cases negative : n < 0
  · rw [if_pos negative]
    exact iff_of_true rfl negative
  · rw [if_neg negative]
    refine iff_of_false ?_ negative
    split
    · nofun
    · cases intPower? m.toInt n.toInt.toNat <;> nofun

end Integers

/-! ## Comparisons -/

theorem toInt_bit (b : Bool) : (if b then 1 else 0 : Int64).toInt = b.toInt := by
  cases b <;> rfl

/-- Two numbers that count as integers, and are not both integers, have the order of these integers:
one of them is a truth value, which keeps its distance as a float. -/
theorem Counted.compare_places {m n : Int64} (hv : Counted v (.int m)) (hw : Counted w (.int n))
    (mixed : ¬ BothInt v w) :
    Ord.compare (placeOfInt m.toInt) (placeOfInt n.toInt) = Ord.compare m.toInt n.toInt := by
  cases hv with
  | same =>
    cases hw with
    | same => exact absurd ⟨rfl, rfl⟩ mixed
    | truth b =>
      rw [toInt_bit, Std.OrientedOrd.eq_swap, compare_bit, ← Std.OrientedOrd.eq_swap]
  | truth b => rw [toInt_bit, compare_bit]

/-- Where neither pair is one of integers, places decide on both sides. -/
theorem Compares.of_mixed (hv : Counted v v' ∨ Counted v' v) (hw : Counted w w' ∨ Counted w' w)
    (mixed : ¬ BothInt v w) (mixed' : ¬ BothInt v' w') {o : Ordering} (h : Compares v w o) :
    Compares v' w' o := by
  cases h with
  | ints => exact absurd ⟨rfl, rfl⟩ mixed
  | texts s t =>
    obtain rfl : v' = .text s := by rcases hv with hv | hv <;> cases hv <;> rfl
    obtain rfl : w' = .text t := by rcases hw with hw | hw <;> cases hw <;> rfl
    exact .texts s t
  | @lists vs ws o items =>
    obtain rfl : v' = .list vs := by rcases hv with hv | hv <;> cases hv <;> rfl
    obtain rfl : w' = .list ws := by rcases hw with hw | hw <;> cases hw <;> rfl
    exact .lists items
  | numbers hp hq =>
    have left : v'.place? = v.place? := hv.elim (fun h => h.place?_eq.symm) Counted.place?_eq
    have right : w'.place? = w.place? := hw.elim (fun h => h.place?_eq.symm) Counted.place?_eq
    exact .numbers (left.trans hp) (right.trans hq) mixed'

theorem Counted.compares_iff (hv : Counted v v') (hw : Counted w w') {o : Ordering} :
    Compares v w o ↔ Compares v' w' o := by
  by_cases both : BothInt v w
  · obtain ⟨rfl, rfl⟩ := hv.bothInt hw both
    rfl
  by_cases both' : BothInt v' w'
  · obtain ⟨left, right⟩ := both'
    cases v' <;> cases left
    cases w' <;> cases right
    rename_i m n
    have counted : Compares v w (Ord.compare m.toInt n.toInt) := by
      rw [← hv.compare_places hw both]
      exact .numbers (hv.place?_eq.trans (place?_int m)) (hw.place?_eq.trans (place?_int n)) both
    constructor
    · intro h
      rw [h.unique counted]
      exact .ints m n
    · intro h
      rw [h.unique (.ints m n)]
      exact counted
  · exact ⟨.of_mixed (.inl hv) (.inl hw) both both', .of_mixed (.inr hv) (.inr hw) both' both⟩

theorem toOption_eq_of_iff {ε α : Type} {x y : Except ε α} (same : ∀ a, x = .ok a ↔ y = .ok a) :
    x.toOption = y.toOption := by
  cases x with
  | ok a => rw [(same a).1 rfl]
  | error e =>
    cases y with
    | ok b => cases (same b).2 rfl
    | error e' => rfl

theorem Counted.compare (hv : Counted v v') (hw : Counted w w') :
    (v.compare w).toOption = (v'.compare w').toOption :=
  toOption_eq_of_iff fun o => by rw [compare_iff, compare_iff, hv.compares_iff hw]

theorem Counted.equals_int {m n : Int64} (hv : Counted v (.int m)) (hw : Counted w (.int n)) :
    v.equals w = (Value.int m).equals (.int n) := by
  obtain ⟨o, h, -⟩ := exists_compares (hv.place?_eq.trans (place?_int m))
    (hw.place?_eq.trans (place?_int n))
  exact Bool.eq_iff_iff.2 (h.eq_iff.symm.trans ((hv.compares_iff hw).1 h).eq_iff)

theorem Counted.equals (hv : Counted v v') (hw : Counted w w') : v.equals w = v'.equals w' := by
  cases hv with
  | same v =>
    cases hw with
    | same w => rfl
    | truth c =>
      cases v with
      | int m => exact (Counted.same _).equals_int (.truth c)
      | _ => cases c <;> rfl
  | truth b =>
    cases hw with
    | same w =>
      cases w with
      | int n => exact (Counted.truth b).equals_int (.same _)
      | _ => cases b <;> rfl
    | truth c => exact (Counted.truth b).equals_int (.truth c)

/-! ## All operators -/

/-- An operation sees a truth value just where it goes by the kinds of its operands. -/
theorem Counted.same_iff (hv : Counted v v') (hw : Counted w w')
    {f : Value → Value → Except EvalFault Value} {byKind : Int64 → Prop}
    (ints : ∀ m n, v' = .int m → w' = .int n → ¬ BothInt v w →
      ((f v w).toOption = (f v' w').toOption ↔ ¬ byKind n))
    (mixed : ¬ BothInt v w → ¬ BothInt v' w' → (f v w).toOption = (f v' w').toOption) :
    (f v w).toOption = (f v' w').toOption ↔
      ¬ ∃ m n, v' = .int m ∧ w' = .int n ∧ ¬ (v = .int m ∧ w = .int n) ∧ byKind n := by
  by_cases both : BothInt v w
  · obtain ⟨rfl, rfl⟩ := hv.bothInt hw both
    refine iff_of_true rfl ?_
    rintro ⟨m, n, left, right, differ, -⟩
    exact differ ⟨left, right⟩
  · by_cases both' : BothInt v' w'
    · obtain ⟨left, right⟩ := both'
      cases v' <;> cases left
      cases w' <;> cases right
      rename_i m n
      rw [ints m n rfl rfl both, not_iff_not]
      constructor
      · intro seen
        refine ⟨m, n, rfl, rfl, ?_, seen⟩
        rintro ⟨rfl, rfl⟩
        exact both ⟨rfl, rfl⟩
      · rintro ⟨m', n', left, right, -, seen⟩
        cases right
        exact seen
    · refine iff_of_true (mixed both both') ?_
      rintro ⟨m, n, rfl, rfl, -⟩
      exact both' ⟨rfl, rfl⟩

theorem Counted.apply_iff (hv : Counted v v') (hw : Counted w w') (op : Expr.Arithmetic) :
    (op.apply v w).toOption = (op.apply v' w').toOption ↔
      ¬ ∃ m n, v' = .int m ∧ w' = .int n ∧ ¬ (v = .int m ∧ w = .int n) ∧ op.GoesByKind n := by
  cases op with
  | add => exact iff_of_true (hv.add hw) nofun
  | sub => exact iff_of_true (hv.numeric hw "-" _ _) nofun
  | mul => exact iff_of_true (hv.mul hw) nofun
  | div => exact iff_of_true (toOption_bind (hv.floats hw "/") _) nofun
  | floorDiv => exact iff_of_true (hv.floorDiv hw) nofun
  | mod =>
    refine hv.same_iff hw ?_ fun mixed mixed' => ?_
    · rintro m n rfl rfl mixed
      exact hv.modulo_int hw mixed
    · show (v.modulo w).toOption = (v'.modulo w').toOption
      rw [modulo_of_mixed mixed, modulo_of_mixed mixed']
      exact toOption_bind (hv.floats hw "%") _
  | pow =>
    refine hv.same_iff hw ?_ fun mixed mixed' => ?_
    · rintro m n rfl rfl mixed
      exact hv.pow_int hw mixed
    · show (v.pow w).toOption = (v'.pow w').toOption
      rw [pow_of_mixed mixed, pow_of_mixed mixed']
      exact toOption_map (hv.floats hw "**") _

theorem Counted.unary (h : Counted v w) (op : Expr.UnaryOp) :
    (op.apply v).toOption = (op.apply w).toOption := by
  cases h with
  | same => rfl
  | truth b => cases op <;> cases b <;> rfl

theorem Counted.holds (hv : Counted v v') (hw : Counted w w') {op : Expr.Comparison}
    (listed : op ∈ [.eq, .ne, .lt, .le, .gt, .ge]) :
    (op.holds v w).toOption = (op.holds v' w').toOption := by
  have order := hv.compare hw
  cases op with
  | eq => rw [Expr.Comparison.holds, Expr.Comparison.holds, hv.equals hw]
  | ne => rw [Expr.Comparison.holds, Expr.Comparison.holds, hv.equals hw]
  | lt => exact toOption_map order _
  | le => exact toOption_map order _
  | gt => exact toOption_map order _
  | ge => exact toOption_map order _
  | _ => simp at listed

end Counted

/-- **Truth values count as zero and one.**  If truth values among the operands are replaced by the
integers that they count as, then the result stays the same, in value and in kind, or there is none
before and after: with all comparisons and signs, and with all arithmetic but remainders by other numbers
than zero and powers with an exponent of at least zero.  These compute a whole number only of two
integers, so that their result changes just where a truth value among such operands is replaced. -/
theorem truth_values_count {v v' w w' : Value} (hv : Counted v v') (hw : Counted w w') :
    (∀ op : Expr.Arithmetic, (op.apply v w).toOption = (op.apply v' w').toOption ↔
      ¬ ∃ m n, v' = .int m ∧ w' = .int n ∧ ¬ (v = .int m ∧ w = .int n) ∧ op.GoesByKind n) ∧
    (∀ op ∈ [Expr.Comparison.eq, .ne, .lt, .le, .gt, .ge],
      (op.holds v w).toOption = (op.holds v' w').toOption) ∧
    ∀ op : Expr.UnaryOp, (op.apply v).toOption = (op.apply v').toOption := by
  refine ⟨hv.apply_iff hw, ?_, hv.unary⟩
  intro op listed
  exact hv.holds hw listed

/-- A quotient of a float and a truth value, and a comparison with a large integer. -/
theorem truth_as_operand :
    Counted (.bool true) (.int 1) ∧
    (Expr.Arithmetic.floorDiv.apply (.float 2.5) (.bool true)).toOption =
      (Expr.Arithmetic.floorDiv.apply (.float 2.5) (.int 1)).toOption ∧
    (Expr.Comparison.lt.holds (.bool true) (.int 9007199254740993)).toOption =
      (Expr.Comparison.lt.holds (.int 1) (.int 9007199254740993)).toOption := by
  have one : Counted (.bool true) (.int 1) := .truth true
  refine ⟨one, ((truth_values_count (.same _) one).1 .floorDiv).2 ?_,
    (truth_values_count one (.same _)).2.1 .lt (by decide)⟩
  rintro ⟨m, n, eq, -⟩
  cases eq

/-- **Remainders and powers go by kind**: with a truth value they are floats, where the integer that it
counts as gives an integer. -/
theorem truth_changes_kind :
    (Expr.Arithmetic.mod.apply (.bool true) (.int 2) = .ok (.float 1) ∧
      Expr.Arithmetic.mod.apply (.int 1) (.int 2) = .ok (.int 1)) ∧
    (∃ x, Expr.Arithmetic.pow.apply (.int 2) (.bool true) = .ok (.float x)) ∧
      Expr.Arithmetic.pow.apply (.int 2) (.int 1) = .ok (.int 2) :=
  ⟨⟨rfl, rfl⟩, ⟨_, rfl⟩, rfl⟩

end Value

end TextTemplate
