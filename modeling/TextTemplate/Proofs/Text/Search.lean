import TextTemplate.Text.Search

/-!
# What is found in a text

A pattern is found at the front of a text exactly if the text starts with it, and a cut is made at the
first place where the pattern stands (`cut?_eq_some`).
-/

namespace TextTemplate.Text

theorem afterPrefix?_eq_some {w cs rest : List Char} :
    afterPrefix? w cs = some rest ↔ cs = w ++ rest := by
  induction w generalizing cs with
  | nil => simp [afterPrefix?]
  | cons c w ih =>
    cases cs with
    | nil => simp [afterPrefix?]
    | cons d cs =>
      rw [afterPrefix?, List.cons_append, List.cons.injEq]
      by_cases same : c = d
      · rw [if_pos same, ih]
        simp [same]
      · rw [if_neg same]
        simp [Ne.symm same]

theorem afterPrefix?_eq_none {w cs : List Char} : afterPrefix? w cs = none ↔ ¬ w <+: cs := by
  rw [Option.eq_none_iff_forall_ne_some]
  constructor
  · rintro h ⟨rest, same⟩
    exact h rest (afterPrefix?_eq_some.2 same.symm)
  · intro h rest found
    exact h ⟨rest, (afterPrefix?_eq_some.1 found).symm⟩

/-- What stands before a cut, and what behind: the pattern stands between, and at no earlier place. -/
theorem cut?_eq_some {w cs before rest : List Char} (filled : w ≠ []) :
    cut? w cs = some (before, rest) ↔
      cs = before ++ (w ++ rest) ∧ ∀ n < before.length, ¬ w <+: cs.drop n := by
  induction cs generalizing before with
  | nil => simp [cut?, filled]
  | cons c cs ih =>
    rw [cut?]
    cases here : afterPrefix? w (c :: cs) with
    | some behind =>
      have start := afterPrefix?_eq_some.1 here
      constructor
      · intro h
        cases h
        exact ⟨start, fun n lt => absurd lt (Nat.not_lt_zero n)⟩
      · rintro ⟨same, first⟩
        cases before with
        | nil =>
          have same : w ++ behind = w ++ rest := start.symm.trans same
          rw [List.append_cancel_left same]
        | cons d before => exact absurd ⟨behind, start.symm⟩ (first 0 (Nat.succ_pos _))
    | none =>
      have away := afterPrefix?_eq_none.1 here
      dsimp only
      rw [Option.map_eq_some_iff]
      constructor
      · rintro ⟨⟨before, rest⟩, found, same⟩
        cases same
        obtain ⟨same, first⟩ := ih.1 found
        refine ⟨by rw [same]; rfl, fun n lt => ?_⟩
        cases n with
        | zero => exact away
        | succ n => exact first n (Nat.lt_of_succ_lt_succ lt)
      · rintro ⟨same, first⟩
        cases before with
        | nil => exact absurd ⟨rest, same.symm⟩ away
        | cons d before =>
          obtain ⟨rfl, behind⟩ := List.cons.inj same
          refine ⟨(before, rest), ih.2 ⟨behind, fun n lt => ?_⟩, rfl⟩
          exact first (n + 1) (Nat.succ_lt_succ lt)

/-- Nothing is cut exactly if the pattern occurs nowhere. -/
theorem cut?_eq_none {w cs : List Char} (filled : w ≠ []) :
    cut? w cs = none ↔ ¬ w <:+: cs := by
  induction cs with
  | nil => simp [cut?, filled]
  | cons c cs ih =>
    rw [cut?, List.infix_cons_iff, not_or, ← afterPrefix?_eq_none]
    cases afterPrefix? w (c :: cs) with
    | some behind => simp
    | none => simp [ih]

end TextTemplate.Text
