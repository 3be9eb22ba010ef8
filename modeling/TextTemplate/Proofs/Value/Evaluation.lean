import TextTemplate.Eval
import TextTemplate.Proofs.Value.Operation

/-!
# Evaluating where names have paired values

Two environments are paired if their names have paired values, and their functions give paired values
for paired arguments.  Then every expression has paired values in them, or fails in the same way
(`Expression.eval_paired`): no expression finds out more of a template than its name and which
templates are the same, and no more of a function than that.  Both evaluations change their memories in
lock-step, so that functions which are found at the same moment are paired.
-/

namespace TextTemplate

open Value (Paired PairedItems PairedEntries)
open Evaluation (operate)

variable {R : Pairing} {σ τ : Type}

/-- Environments in which names and functions have paired values, while the memories are related;
what is found next in related memories is paired. -/
structure Environment.Paired (R : Pairing) (M : Memory σ → Memory τ → Prop) (env : Environment σ)
    (env' : Environment τ) : Prop where
  lookup (name : String) : Option.Rel (Value.Paired R) (env.lookup? name) (env'.lookup? name)
  found {m : Memory σ} {m' : Memory τ} : M m m' → R.serial m.found m'.found
  next {m : Memory σ} {m' : Memory τ} : M m m' →
    M { m with found := m.found + 1 } { m' with found := m'.found + 1 }
  host (name : String) (serial : Nat) {vs ws : List Value} : PairedItems R vs ws →
    Lockstep M (Value.Paired R) (Evaluation.onStore (env.host name serial vs))
      (Evaluation.onStore (env'.host name serial ws))

variable {M : Memory σ → Memory τ → Prop}

theorem Ends.operate {α α' : Type} {r : α → α' → Prop} {x : Except EvalFault α}
    {x' : Except EvalFault α'} (h : Ends r x x') :
    Lockstep M r (Evaluation.operate x) (Evaluation.operate x') := by
  cases h with
  | ok h => exact .pure h
  | error cause => exact .throw (Fault.eval cause)

/-- An operation with one result for both. -/
theorem Lockstep.same_operate {α β β' : Type} {r : β → β' → Prop} {x : Except EvalFault α}
    {f : α → Evaluation σ β} {f' : α → Evaluation τ β'} (next : ∀ a, Lockstep M r (f a) (f' a)) :
    Lockstep M r (Evaluation.operate x >>= f) (Evaluation.operate x >>= f') := by
  refine Lockstep.bind (Ends.refl (r := (· = ·)) fun _ _ => rfl).operate fun a a' same => ?_
  cases same
  exact next a

/-! ## Operators -/

theorem Value.Paired.arithmetic {v v' w w' : Value} (hv : Paired R v v') (hw : Paired R w w')
    (op : Expr.Arithmetic) : Ends (Paired R) (op.apply v w) (op.apply v' w') := by
  cases op with
  | add => exact hv.add hw
  | sub => exact hv.numeric hw "-" (· - ·) (· - ·)
  | mul => exact hv.mul hw
  | div => exact hv.div hw
  | floorDiv => exact hv.floorDiv hw
  | mod => exact hv.modulo hw
  | pow => exact hv.pow hw

theorem Value.Paired.holds_eq (agrees : R.Agrees) {v v' w w' : Value} (hv : Paired R v v')
    (hw : Paired R w w') (op : Expr.Comparison) : op.holds v w = op.holds v' w' := by
  unfold Expr.Comparison.holds
  rw [hv.equals_eq agrees hw, hv.compare_eq hw, hw.contains_eq agrees hv, hv.identical_eq agrees hw]

theorem Value.Paired.unary {v w : Value} (h : Paired R v w) (op : Expr.UnaryOp) :
    Ends (Paired R) (op.apply v) (op.apply w) := by
  cases op with
  | neg => exact h.neg
  | pos => exact h.pos
  | not =>
    unfold Expr.UnaryOp.apply
    dsimp only
    rw [h.isTruthy_eq]
    exact .ok (.bool _)

/-! ## Calls -/

section Agreeing

variable (agrees : R.Agrees) {env : Environment σ} {env' : Environment τ}
  (paired : env.Paired R M env')
include agrees paired

theorem Function.Paired.call {f g : Function} (h : f.Paired R g) {vs ws : List Value}
    (args : PairedItems R vs ws) :
    Lockstep M (Value.Paired R) (f.call env vs) (g.call env' ws) := by
  cases h with
  | global g _ => exact (args.global_call agrees g).operate
  | escaper serial =>
    cases args with
    | nil => exact .throw _
    | cons first rest =>
      cases rest with
      | nil =>
        unfold Function.call
        dsimp only
        rw [first.display_eq agrees]
        exact .pure (.text _)
      | cons second rest =>
        have length := (PairedItems.cons first (.cons second rest)).length_eq
        unfold Function.call
        dsimp only
        rw [length]
        exact .throw _
  | host name serial => exact paired.host name serial args

theorem Value.Paired.call {v w : Value} (h : v.Paired R w) {vs ws : List Value}
    (args : PairedItems R vs ws) : Lockstep M (Paired R) (v.call env vs) (w.call env' ws) := by
  cases h with
  | function f => exact f.call agrees paired args
  | _ => exact .throw _

theorem Value.Paired.callMember {v w : Value} (h : v.Paired R w) (name : String)
    {vs ws : List Value} (args : PairedItems R vs ws) :
    Lockstep M (Paired R) (v.callMember env name vs) (w.callMember env' name ws) := by
  have method : Lockstep M (Paired R) _ _ := (h.method_call agrees args name).operate
  cases h with
  | @map a b entries =>
    unfold Value.callMember Dictionary.get?
    dsimp only
    have found := entries.lookup name
    generalize a.lookup name = x, b.lookup name = y at found ⊢
    cases found with
    | none => exact method
    | some member => exact member.call agrees paired args
  | _ => exact method

end Agreeing

/-! ## Expressions -/

namespace Expr.Tree

variable {env : Environment σ} {env' : Environment τ}

/-- What two looks at one name find is paired. -/
theorem find_paired (paired : env.Paired R M env') (g : Global) :
    Lockstep M (Paired R) (Evaluation.find g) (Evaluation.find g) :=
  fun _ _ memories => .ok (.function (.global g (paired.found memories))) (paired.next memories)

theorem evalName_paired (paired : env.Paired R M env') (name : String) :
    Lockstep M (Paired R) (evalName env name) (evalName env' name) := by
  unfold evalName
  have found := paired.lookup name
  generalize env.lookup? name = x, env'.lookup? name = y at found ⊢
  cases found with
  | some value => exact .pure value
  | none =>
    dsimp only
    split
    · exact find_paired paired _
    · exact .throw _

theorem addToSet_paired (agrees : R.Agrees) {vs ws : List Value} (items : PairedItems R vs ws)
    {v w : Value} (h : Paired R v w) : PairedItems R (addToSet vs v) (addToSet ws w) := by
  unfold addToSet
  rw [items.any_equals_eq agrees h]
  split
  · exact items
  · exact items.append (.cons h .nil)

theorem entryName_eq {v w : Value} (h : Paired R v w) : entryName v = entryName w := by
  cases h <;> rfl

mutual

/-- An expression tree has paired values in paired environments. -/
theorem eval_paired (agrees : R.Agrees) (paired : env.Paired R M env') :
    ∀ e : Tree, Lockstep M (Paired R) (e.eval env) (e.eval env')
  | .literal value => by
    cases value with
    | null => exact .pure .null
    | bool b => exact .pure (.bool b)
    | int n => exact .pure (.int n)
    | float x => exact .pure (.float x)
    | text s => exact .pure (.text s)
  | .name n => evalName_paired paired n
  | .member target n =>
    Lockstep.bind (eval_paired agrees paired target) fun _ _ target => (target.member n).operate
  | .item target index =>
    Lockstep.bind (eval_paired agrees paired target) fun _ _ target =>
    Lockstep.bind (eval_paired agrees paired index) fun _ _ index => (target.item index).operate
  | .slice target start stop step =>
    Lockstep.bind (eval_paired agrees paired target) fun _ _ target =>
    Lockstep.bind (evalOption_paired agrees paired start) fun _ _ start =>
    Lockstep.bind (evalOption_paired agrees paired stop) fun _ _ stop =>
    Lockstep.bind (evalOption_paired agrees paired step) fun _ _ step =>
    (target.slice start stop step).operate
  | .call callee args => by
    have args := evalItems_paired agrees paired args
    cases callee with
    | member target n =>
      exact Lockstep.bind args fun _ _ args =>
        Lockstep.bind (eval_paired agrees paired target) fun _ _ target =>
        target.callMember agrees paired n args
    | _ =>
      exact Lockstep.bind args fun _ _ args =>
        Lockstep.bind (eval_paired agrees paired _) fun _ _ callee => callee.call agrees paired args
  | .unary op operand =>
    Lockstep.bind (eval_paired agrees paired operand) fun _ _ v => (v.unary op).operate
  | .arithmetic op left right =>
    Lockstep.bind (eval_paired agrees paired left) fun _ _ l =>
    Lockstep.bind (eval_paired agrees paired right) fun _ _ r => (l.arithmetic r op).operate
  | .comparison op left right =>
    Lockstep.bind (eval_paired agrees paired left) fun _ _ l =>
    Lockstep.bind (eval_paired agrees paired right) fun _ _ r => by
      rw [l.holds_eq agrees r]
      exact .same_operate fun _ => .pure (.bool _)
  | .chain first links =>
    Lockstep.bind (eval_paired agrees paired first) fun _ _ v =>
    Lockstep.bind (evalLinks_paired agrees paired links v) fun _ _ same => by
      cases same
      exact .pure (.bool _)
  | .and left right =>
    Lockstep.bind (eval_paired agrees paired left) fun _ _ l => by
      rw [l.isTruthy_eq]
      split
      · exact eval_paired agrees paired right
      · exact .pure l
  | .or left right =>
    Lockstep.bind (eval_paired agrees paired left) fun _ _ l => by
      rw [l.isTruthy_eq]
      split
      · exact .pure l
      · exact eval_paired agrees paired right
  | .conditional test body orelse =>
    Lockstep.bind (eval_paired agrees paired test) fun _ _ t => by
      rw [t.isTruthy_eq]
      split
      · exact eval_paired agrees paired body
      · exact eval_paired agrees paired orelse
  | .list items => Lockstep.bind (evalItems_paired agrees paired items) fun _ _ vs => .pure (.list vs)
  | .set items => Lockstep.bind (evalSet_paired agrees paired items .nil) fun _ _ vs => .pure (.list vs)
  | .map entries =>
    Lockstep.bind (evalEntries_paired agrees paired entries .nil) fun _ _ pairs => .pure (.map pairs)

theorem evalOption_paired (agrees : R.Agrees) (paired : env.Paired R M env') :
    ∀ e : Option Tree, Lockstep M (Option.Rel (Paired R)) (evalOption env e) (evalOption env' e)
  | none => .pure .none
  | some e => Lockstep.bind (eval_paired agrees paired e) fun _ _ v => .pure (.some v)

theorem evalItems_paired (agrees : R.Agrees) (paired : env.Paired R M env') :
    ∀ items : List Tree, Lockstep M (PairedItems R) (evalItems env items) (evalItems env' items)
  | [] => .pure .nil
  | e :: rest =>
    Lockstep.bind (eval_paired agrees paired e) fun _ _ v =>
    Lockstep.bind (evalItems_paired agrees paired rest) fun _ _ vs => .pure (.cons v vs)

theorem evalLinks_paired (agrees : R.Agrees) (paired : env.Paired R M env') :
    ∀ (links : List (Comparison × Tree)) {left left' : Value}, Paired R left left' →
    Lockstep M (· = ·) (evalLinks env left links) (evalLinks env' left' links)
  | [], _, _, _ => .pure rfl
  | (op, e) :: rest, _, _, left =>
    Lockstep.bind (eval_paired agrees paired e) fun _ _ right => by
      rw [left.holds_eq agrees right]
      refine .same_operate fun holds => ?_
      split
      · exact evalLinks_paired agrees paired rest right
      · exact .pure rfl

theorem evalSet_paired (agrees : R.Agrees) (paired : env.Paired R M env') :
    ∀ (elements : List Tree) {items items' : List Value}, PairedItems R items items' →
    Lockstep M (PairedItems R) (evalSet env items elements) (evalSet env' items' elements)
  | [], _, _, items => .pure items
  | e :: rest, _, _, items =>
    Lockstep.bind (eval_paired agrees paired e) fun _ _ v =>
    evalSet_paired agrees paired rest (addToSet_paired agrees items v)

theorem evalEntries_paired (agrees : R.Agrees) (paired : env.Paired R M env') :
    ∀ (elements : List (Tree × Tree)) {a b : List (String × Value)}, PairedEntries R a b →
    Lockstep M (fun d d' => PairedEntries R d.entries d'.entries)
      (evalEntries env ⟨a⟩ elements) (evalEntries env' ⟨b⟩ elements)
  | [], _, _, entries => .pure entries
  | (k, e) :: rest, _, _, entries =>
    Lockstep.bind (eval_paired agrees paired k) fun _ _ key => by
      rw [entryName_eq key]
      refine .same_operate fun name => ?_
      exact Lockstep.bind (eval_paired agrees paired e) fun _ _ v =>
        evalEntries_paired agrees paired rest (entries.insertEntry name v)

end

end Expr.Tree

/-- **Expressions have paired values in paired environments**, or they fail in the same way. -/
theorem Expression.eval_paired (agrees : R.Agrees) {env : Environment σ} {env' : Environment τ}
    (paired : env.Paired R M env') (e : Expression) :
    Lockstep M (Paired R) (e.eval env) (e.eval env') :=
  e.tree.eval_paired agrees paired

/-! ## One world -/

section

variable {env : Environment σ} {env' : Environment τ}

/-- Environments of one world: the names have the same values, and the functions keep in step. -/
theorem Environment.paired_same (lookup : env.lookup? = env'.lookup?)
    (found : ∀ m m', M m m' → m.found = m'.found)
    (next : ∀ m m', M m m' →
      M { m with found := m.found + 1 } { m' with found := m'.found + 1 })
    (host : ∀ name serial args, Lockstep M (· = ·) (Evaluation.onStore (env.host name serial args))
      (Evaluation.onStore (env'.host name serial args))) : env.Paired .same M env' where
  lookup name := by
    rw [lookup]
    cases env'.lookup? name with
    | none => exact .none
    | some v => exact .some (Value.paired_same_iff.2 rfl)
  found memories := found _ _ memories
  next memories := next _ _ memories
  host name serial vs ws args m m' memories := by
    have same := Value.paired_same_iff.1 (.list args)
    cases same
    exact (host name serial vs m m' memories).mono (fun _ _ => Value.paired_same_iff.2)
      fun _ _ => id

variable (paired : env.Paired .same M env')
include paired

theorem Function.call_same (f : Function) (args : List Value) :
    Lockstep M (· = ·) (f.call env args) (f.call env' args) := by
  intro m m' memories
  have called := (Function.Paired.refl (fun _ _ => Iff.rfl) f).call Pairing.same_agrees paired
    (Value.pairedItems_map (f := id) (fun _ => Value.paired_same_iff.2 rfl) args) m m' memories
  rw [List.map_id] at called
  exact called.mono (fun _ _ => Value.paired_same_iff.1) fun _ _ => id

/-- Expressions have the same values, or fail in the same way. -/
theorem Expression.eval_same (e : Expression) : Lockstep M (· = ·) (e.eval env) (e.eval env') :=
  fun m m' memories => (e.eval_paired Pairing.same_agrees paired m m' memories).mono
    (fun _ _ => Value.paired_same_iff.1) fun _ _ => id

end

end TextTemplate
