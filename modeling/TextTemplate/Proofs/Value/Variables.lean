import TextTemplate.Eval

/-!
# The variables of an expression

An expression looks up the names that occur in it as variables, and no others: names of members, of
methods and of the entries of a map are not among them.  Where two environments agree on the
variables of an expression and have the same functions, it has the same value in both, or the same
fault (`Expression.eval_congr`).
-/

namespace TextTemplate

variable {σ : Type}

/-! ## Environments that agree -/

/-- Environments with the same functions, in which some names have the same values. -/
structure Environment.Agrees (env env' : Environment σ) (names : List String) : Prop where
  host : env.host = env'.host
  lookup : ∀ name ∈ names, env.lookup? name = env'.lookup? name

namespace Environment.Agrees

variable {env env' : Environment σ} {names others : List String}

theorem mono (agrees : env.Agrees env' names) (sub : others ⊆ names) : env.Agrees env' others :=
  ⟨agrees.host, fun name mem => agrees.lookup name (sub mem)⟩

theorem left (agrees : env.Agrees env' (names ++ others)) : env.Agrees env' names :=
  agrees.mono (List.subset_append_left names others)

theorem right (agrees : env.Agrees env' (names ++ others)) : env.Agrees env' others :=
  agrees.mono (List.subset_append_right names others)

end Environment.Agrees

/-! ## Calls -/

/-- A function gives the same wherever it is called; only the functions of the program matter. -/
theorem Function.call_congr {env env' : Environment σ} (host : env.host = env'.host) (f : Function)
    (args : List Value) : f.call env args = f.call env' args := by
  unfold call
  rw [host]

theorem Value.call_congr {env env' : Environment σ} (host : env.host = env'.host) (callee : Value)
    (args : List Value) : callee.call env args = callee.call env' args := by
  cases callee with
  | function f => exact f.call_congr host args
  | _ => rfl

theorem Value.callMember_congr {env env' : Environment σ} (host : env.host = env'.host)
    (target : Value) (name : String) (args : List Value) :
    target.callMember env name args = target.callMember env' name args := by
  cases target with
  | map entries =>
    unfold callMember
    dsimp only
    cases entries.get? name with
    | some v => exact v.call_congr host args
    | none => rfl
  | _ => rfl

/-! ## Expressions -/

namespace Expr.Tree

mutual

/-- The names that occur in an expression as variables. -/
def reads : Tree → List String
  | .literal _ => []
  | .name n => [n]
  | .member target _ => reads target
  | .item target index => reads target ++ reads index
  | .slice target start stop step =>
    reads target ++
      (readsOption start ++ (readsOption stop ++ readsOption step))
  | .call callee args => reads callee ++ readsItems args
  | .unary _ operand => reads operand
  | .arithmetic _ left right => reads left ++ reads right
  | .comparison _ left right => reads left ++ reads right
  | .chain first links => reads first ++ readsLinks links
  | .and left right => reads left ++ reads right
  | .or left right => reads left ++ reads right
  | .conditional test body orelse => reads test ++ (reads body ++ reads orelse)
  | .list items => readsItems items
  | .set items => readsItems items
  | .map entries => readsEntries entries

/-- The variables of an optional part. -/
def readsOption : Option Tree → List String
  | none => []
  | some e => reads e

/-- The variables of expressions in order. -/
def readsItems : List Tree → List String
  | [] => []
  | e :: rest => reads e ++ readsItems rest

/-- The variables of the operands of a chain. -/
def readsLinks : List (Comparison × Tree) → List String
  | [] => []
  | (_, e) :: rest => reads e ++ readsLinks rest

/-- The variables of the names and values of a map. -/
def readsEntries : List (Tree × Tree) → List String
  | [] => []
  | (k, e) :: rest => reads k ++ (reads e ++ readsEntries rest)

end

/-- A callee that is no member is evaluated behind the arguments. -/
theorem eval_call (env : Environment σ) {callee : Tree} (args : List Tree)
    (other : ∀ target n, callee ≠ .member target n) :
    eval env (.call callee args) = (do
      let args ← evalItems env args
      let callee ← eval env callee
      callee.call env args) := by
  cases callee with
  | member target n => exact absurd rfl (other target n)
  | _ => rfl

variable {env env' : Environment σ}

mutual

/-- An expression tree has the same value in environments that agree on its variables. -/
theorem eval_congr : ∀ e : Tree, env.Agrees env' e.reads → e.eval env = e.eval env'
  | .literal value, _ => by rw [eval, eval]
  | .name n, agrees => by
    rw [eval, eval, evalName, evalName, agrees.lookup n (.head _)]
  | .member target n, agrees => by
    rw [eval, eval, eval_congr target agrees]
  | .item target index, agrees => by
    rw [eval, eval, eval_congr target agrees.left, eval_congr index agrees.right]
  | .slice target start stop step, agrees => by
    rw [eval, eval, eval_congr target agrees.left, evalOption_congr start agrees.right.left,
      evalOption_congr stop agrees.right.right.left, evalOption_congr step agrees.right.right.right]
  | .call callee args, agrees => by
    have values := evalItems_congr args agrees.right
    have same := eval_congr callee agrees.left
    have called (v : Value) (vs : List Value) := v.call_congr agrees.host vs
    cases callee with
    | member target n =>
      have member (v : Value) (vs : List Value) := v.callMember_congr agrees.host n vs
      simp only [eval, values, eval_congr target agrees.left, member]
    | _ =>
      rw [eval_call env args, eval_call env' args, values, same]
      · simp only [called]
      all_goals exact nofun
  | .unary op operand, agrees => by
    rw [eval, eval, eval_congr operand agrees]
  | .arithmetic op left right, agrees => by
    rw [eval, eval, eval_congr left agrees.left, eval_congr right agrees.right]
  | .comparison op left right, agrees => by
    rw [eval, eval, eval_congr left agrees.left, eval_congr right agrees.right]
  | .chain first links, agrees => by
    simp only [eval, eval_congr first agrees.left, evalLinks_congr links agrees.right]
  | .and left right, agrees => by
    rw [eval, eval, eval_congr left agrees.left, eval_congr right agrees.right]
  | .or left right, agrees => by
    rw [eval, eval, eval_congr left agrees.left, eval_congr right agrees.right]
  | .conditional test body orelse, agrees => by
    rw [eval, eval, eval_congr test agrees.left, eval_congr body agrees.right.left,
      eval_congr orelse agrees.right.right]
  | .list items, agrees => by
    rw [eval, eval, evalItems_congr items agrees]
  | .set items, agrees => by
    rw [eval, eval, evalSet_congr items agrees]
  | .map entries, agrees => by
    rw [eval, eval, evalEntries_congr entries agrees]

theorem evalOption_congr : ∀ e : Option Tree, env.Agrees env' (readsOption e) →
    evalOption env e = evalOption env' e
  | none, _ => by rw [evalOption, evalOption]
  | some e, agrees => by rw [evalOption, evalOption, eval_congr e agrees]

theorem evalItems_congr : ∀ items : List Tree, env.Agrees env' (readsItems items) →
    evalItems env items = evalItems env' items
  | [], _ => by rw [evalItems, evalItems]
  | e :: rest, agrees => by
    rw [evalItems, evalItems, eval_congr e agrees.left, evalItems_congr rest agrees.right]

theorem evalLinks_congr : ∀ links : List (Comparison × Tree),
    env.Agrees env' (readsLinks links) →
    ∀ left, evalLinks env left links = evalLinks env' left links
  | [], _, _ => by rw [evalLinks, evalLinks]
  | (op, e) :: rest, agrees, left => by
    simp only [evalLinks, eval_congr e agrees.left, evalLinks_congr rest agrees.right]

theorem evalSet_congr : ∀ elements : List Tree, env.Agrees env' (readsItems elements) →
    ∀ items, evalSet env items elements = evalSet env' items elements
  | [], _, _ => by rw [evalSet, evalSet]
  | e :: rest, agrees, items => by
    simp only [evalSet, eval_congr e agrees.left, evalSet_congr rest agrees.right]

theorem evalEntries_congr : ∀ elements : List (Tree × Tree),
    env.Agrees env' (readsEntries elements) →
    ∀ entries, evalEntries env entries elements = evalEntries env' entries elements
  | [], _, _ => by rw [evalEntries, evalEntries]
  | (k, e) :: rest, agrees, entries => by
    simp only [evalEntries, eval_congr k agrees.left, eval_congr e agrees.right.left,
      evalEntries_congr rest agrees.right.right]

end

end Expr.Tree

/-- The names that occur in an expression as variables. -/
def Expression.reads (e : Expression) : List String := e.tree.reads

/-- **An expression depends only on its variables.** -/
theorem Expression.eval_congr {env env' : Environment σ} (e : Expression)
    (agrees : env.Agrees env' e.reads) : e.eval env = e.eval env' := e.tree.eval_congr agrees

end TextTemplate
