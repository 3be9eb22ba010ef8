import TextTemplate.Proofs.Value.Evaluation

/-!
# Evaluating twice

An expression that is evaluated twice finds its global functions anew, so its two values need not be
equal.  But the second one is the first one with later numbers: what was there before stays, and all that
was found since has moved by the same difference (`Pairing.shift`).  For this the functions of the host
have to be pure: they keep no store, and see of the functions that were found no more than which are the
same (`Environment.Pure`).  `Expr.Tree.eval_again` is the main result; `Expr.Tree.eval_keeps` says what
an evaluation leaves behind.
-/

namespace TextTemplate

variable {σ : Type}

/-- All numbers from one on moved up by a difference; templates stay. -/
def Pairing.shift (start difference : Nat) : Pairing where
  template s t := s = t
  serial k l := l = if k < start then k else k + difference

theorem Pairing.shift_agrees (start difference : Nat) :
    (Pairing.shift start difference).Agrees where
  name same := congrArg TemplateOf.name same
  id same same' := by rw [show _ = _ from same, show _ = _ from same']
  serial {k l k' l'} moved moved' := by
    have hl : l = if k < start then k else k + difference := moved
    have hl' : l' = if k' < start then k' else k' + difference := moved'
    split at hl <;> split at hl' <;> omega

/-! ## Values that were there before -/

namespace Value

/-- A value in which all global functions have numbers below a bound. -/
def Older (bound : Nat) (v : Value) : Prop :=
  v.mentions (fun _ => false) (bound ≤ ·) = false

/-- What was there before stays where it is. -/
theorem Older.paired {bound start difference : Nat} (le : bound ≤ start) {v : Value}
    (older : v.Older bound) : Paired (.shift start difference) v v := by
  refine paired_self (fun _ _ => rfl) (fun k before => ?_) older
  exact (if_pos (Nat.lt_of_lt_of_le (Nat.lt_of_not_le (of_decide_eq_false before)) le)).symm

end Value

/-! ## Pure functions -/

/-- An environment at a moment up to which some number of functions was found: its variables were there
before, and its functions are pure.  They change nothing, and if the arguments hold functions that were
found since, then what they give holds these in the same way, whatever their numbers are. -/
structure Environment.Pure (env : Environment σ) (bound : Nat) : Prop where
  older {name : String} {v : Value} : env.lookup? name = some v → v.Older bound
  keeps (name : String) (serial : Nat) (args : List Value) (store : σ) :
    (env.host name serial args store).2 = store
  blind (name : String) (serial : Nat) {args args' : List Value} (store : σ)
    {start : Nat} (difference : Nat) : bound ≤ start →
    Value.PairedItems (.shift start difference) args args' →
    Ends (Value.Paired (.shift start difference)) (env.host name serial args store).1
      (env.host name serial args' store).1

/-- Memories with a given store, of which the second one has found more by a difference. -/
structure Memory.Ahead (start difference : Nat) (kept : σ) (m m' : Memory σ) : Prop where
  le : start ≤ m.found
  found : m'.found = m.found + difference
  store : m.store = kept
  store_ahead : m'.store = kept

section Pure

variable {env : Environment σ} {bound : Nat} (isPure : env.Pure bound)
include isPure

theorem Environment.Pure.host_paired {start difference : Nat} (le : bound ≤ start) (kept : σ)
    (name : String) (serial : Nat) {args args' : List Value}
    (paired : Value.PairedItems (.shift start difference) args args') :
    Lockstep (Memory.Ahead start difference kept) (Value.Paired (.shift start difference))
      (Evaluation.onStore (env.host name serial args))
      (Evaluation.onStore (env.host name serial args')) := by
  intro m m' ahead
  obtain ⟨after, moved, rfl, stores⟩ := ahead
  have keeps := isPure.keeps name serial args m.store
  have keeps' := isPure.keeps name serial args' m.store
  have same := isPure.blind name serial m.store difference le paired
  unfold Evaluation.onStore
  rw [stores]
  generalize env.host name serial args m.store = x,
    env.host name serial args' m.store = y at keeps keeps' same ⊢
  obtain ⟨result, store⟩ := x
  obtain ⟨result', store'⟩ := y
  obtain rfl : store = m.store := keeps
  obtain rfl : store' = m.store := keeps'
  cases same with
  | ok value => exact .ok value ⟨after, moved, rfl, rfl⟩
  | error fault => exact .error fault ⟨after, moved, rfl, rfl⟩

/-- What was there before stays, and what is found since moves. -/
theorem Environment.Pure.paired {start : Nat} (le : bound ≤ start) (difference : Nat) (kept : σ) :
    env.Paired (.shift start difference) (Memory.Ahead start difference kept) env where
  lookup name := by
    cases h : env.lookup? name with
    | none => exact .none
    | some v => exact .some ((isPure.older h).paired le)
  found ahead := by
    show _ = ite _ _ _
    rw [if_neg (Nat.not_lt.2 ahead.le)]
    exact ahead.found
  next ahead :=
    ⟨Nat.le_succ_of_le ahead.le, by rw [ahead.found]; exact Nat.add_right_comm _ _ _, ahead.store,
      ahead.store_ahead⟩
  host name serial := isPure.host_paired le kept name serial

namespace Expr.Tree

/-- **A second evaluation gives the first value with later numbers**, or the same fault. -/
theorem eval_again (t : Tree) {m m' : Memory σ} (old : bound ≤ m.found)
    (later : m.found ≤ m'.found) (stores : m'.store = m.store) :
    EndsIn (Memory.Ahead m.found (m'.found - m.found) m.store)
      (Value.Paired (.shift m.found (m'.found - m.found))) (t.eval env m) (t.eval env m') :=
  t.eval_paired (Pairing.shift_agrees _ _) (isPure.paired old _ _) m m'
    ⟨Nat.le_refl _, (Nat.add_sub_cancel' later).symm, rfl, stores⟩

/-- An evaluation finds more and more functions, and leaves the store as it is. -/
theorem eval_keeps {t : Tree} {v : Value} {m m' : Memory σ} (old : bound ≤ m.found)
    (h : t.eval env m = .ok v m') : m.found ≤ m'.found ∧ m'.store = m.store := by
  have again := t.eval_again isPure old (Nat.le_refl _) rfl
  rw [h] at again
  cases again with
  | ok _ ahead => exact ⟨ahead.le, ahead.store⟩

end Expr.Tree

end Pure

end TextTemplate
