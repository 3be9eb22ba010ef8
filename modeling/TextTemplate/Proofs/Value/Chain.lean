import TextTemplate.Proofs.Expr.RoundTrip
import TextTemplate.Proofs.Value.Again

/-!
# Chains of comparisons

A chain of comparisons is short for its comparisons one by one, joined by `and`.  The chain evaluates an
inner operand once, the conjunction twice.  The second time finds other functions than the first, but
no comparison sees more of them than which are the same, and the operands that follow find theirs as
much later.  So both stop at the same comparison, with the same value or the same fault
(`chain_eq_pairwise`).
-/

namespace TextTemplate.Expr

/-! ## Pairs -/

/-- The comparisons of a chain, each with both of its operands. -/
def comparisons (left : Tree) : List (Comparison × Tree) → List Tree
  | [] => []
  | (op, right) :: rest => .comparison op left right :: comparisons right rest

/-- The conjunction of a tree and further ones, as it is read. -/
def conjoined (c : Tree) (cs : List Tree) : Tree := cs.foldl .and c

/-- The comparisons of a chain one by one, joined by `and`. -/
def pairwise (first : Tree) : List (Comparison × Tree) → Tree
  | [] => first
  | (op, second) :: rest => conjoined (.comparison op first second) (comparisons second rest)

section Printable

variable {first : Tree} {links : List (Comparison × Tree)}

theorem printable_comparisons (hf : first.Printable) (hl : ∀ link ∈ links, link.2.Printable) :
    ∀ c ∈ comparisons first links, c.Printable := by
  induction links generalizing first with
  | nil =>
    intro c mem
    cases mem
  | cons link rest ih =>
    have second : link.2.Printable := hl _ (.head _)
    intro c mem
    rcases List.mem_cons.1 mem with rfl | mem
    · exact .comparison hf second
    · exact ih second (fun link mem => hl link (.tail _ mem)) c mem

theorem printable_conjoined {c : Tree} {cs : List Tree} (hc : c.Printable)
    (h : ∀ d ∈ cs, d.Printable) : (conjoined c cs).Printable := by
  induction cs generalizing c with
  | nil => exact hc
  | cons d ds ih => exact ih (.and hc (h d (.head _))) fun e mem => h e (.tail _ mem)

theorem printable_pairwise (hf : first.Printable) (hl : ∀ link ∈ links, link.2.Printable) :
    (pairwise first links).Printable := by
  cases links with
  | nil => exact hf
  | cons link rest =>
    have all := printable_comparisons hf hl
    exact printable_conjoined (all _ (.head _)) fun c mem => all c (.tail _ mem)

end Printable

/-- What is read from the text of a tree is the tree. -/
theorem tree_of_compile_print {t : Tree} {e : Expression} (printable : t.Printable)
    (h : Expression.compile t.print = .ok e) : e.tree = t := by
  rw [Expression.compile, parse, parseWithin_print_eq_ite printable] at h
  split at h
  · cases h
    rfl
  · cases h

/-! ## Values -/

section Values

variable {σ : Type} {env : Environment σ} {m m' : Memory σ}

/-- What an evaluation gives, whatever memory it leaves. -/
def given {α : Type} : EStateM.Result Fault (Memory σ) α → Except Fault α
  | .ok a _ => .ok a
  | .error fault _ => .error fault

/-- The value of a conjunction: that of the first operand that is not true, or else of the last one.
`v` is the value of the operands so far. -/
def evalConjuncts (env : Environment σ) (v : Value) : List Tree → Evaluation σ Value
  | [] => return v
  | c :: cs => if v.isTruthy then c.eval env >>= fun w => evalConjuncts env w cs else return v

theorem evalConjuncts_of_not_truthy {v : Value} (h : v.isTruthy = false) (cs : List Tree) :
    evalConjuncts env v cs = pure v := by
  cases cs with
  | nil => rfl
  | cons c cs => rw [evalConjuncts, h, if_neg Bool.false_ne_true]

theorem eval_conjoined (c : Tree) (cs : List Tree) :
    (conjoined c cs).eval env = c.eval env >>= fun v => evalConjuncts env v cs := by
  induction cs generalizing c with
  | nil => exact (bind_pure (c.eval env)).symm
  | cons d ds ih =>
    show (conjoined (.and c d) ds).eval env = _
    rw [ih, Tree.eval, bind_assoc]
    refine congrArg (c.eval env >>= ·) (funext fun v => ?_)
    rw [evalConjuncts]
    cases truth : v.isTruthy with
    | false =>
      rw [if_neg Bool.false_ne_true, if_neg Bool.false_ne_true, pure_bind]
      exact evalConjuncts_of_not_truthy truth ds
    | true => rw [if_pos rfl, if_pos rfl]

/-- The comparisons of a chain behind an operand.  The chain has evaluated this operand before, from
`m` to `m₁`; the conjunction evaluates it again in a later memory. -/
theorem given_comparisons {bound : Nat} (isPure : env.Pure bound) {left : Tree} {l : Value}
    {m₁ : Memory σ} (h : left.eval env m = .ok l m₁) (old : bound ≤ m.found)
    (later : m.found ≤ m'.found) (stores : m'.store = m.store) (links : List (Comparison × Tree)) :
    given (evalConjuncts env (.bool true) (comparisons left links) m') =
      (given (Tree.evalLinks env l links m₁)).map .bool := by
  induction links generalizing left l m m₁ m' with
  | nil => rfl
  | cons link rest ih =>
    obtain ⟨op, right⟩ := link
    -- the operand again, and the next one behind either
    have again := left.eval_again isPure old later stores
    rw [h] at again
    obtain ⟨l', m₁', hl', left', ahead⟩ := again.exists_ok
    have beside := right.eval_paired (Pairing.shift_agrees _ _) (isPure.paired old _ _) m₁ m₁' ahead
    show given (((Tree.comparison op left right).eval env >>= fun w =>
      evalConjuncts env w (comparisons right rest)) m') = _
    rw [Tree.evalLinks, Tree.eval]
    simp only [bind_apply, hl']
    cases hr : right.eval env m₁ with
    | error fault m₂ =>
      rw [hr] at beside
      obtain ⟨m₂', hr', -⟩ := beside.exists_error
      rw [hr']
      rfl
    | ok r m₂ =>
      rw [hr] at beside
      obtain ⟨r', m₂', hr', right', ahead'⟩ := beside.exists_ok
      simp only [hr', left'.holds_eq (Pairing.shift_agrees _ _) right' op]
      cases holds : op.holds l' r' with
      | error cause => rfl
      | ok b =>
        cases b with
        -- the chain ends here, and so does the conjunction: its operand is not true
        | false =>
          show given (evalConjuncts env (.bool false) (comparisons right rest) m₂') = _
          rw [evalConjuncts_of_not_truthy rfl]
          rfl
        | true =>
          have since := right.eval_keeps isPure (Nat.le_trans old ahead.le) hr
          refine ih hr (Nat.le_trans old ahead.le) ?_ ?_
          · have := ahead'.found
            omega
          · rw [ahead'.store_ahead, ahead.store]

/-- A chain of any length has the value of its comparisons. -/
theorem given_pairwise {links : List (Comparison × Tree)} (some : links ≠ [])
    (isPure : env.Pure m.found) (first : Tree) :
    given ((Tree.chain first links).eval env m) = given ((pairwise first links).eval env m) := by
  cases links with
  | nil => exact absurd rfl some
  | cons link rest =>
    obtain ⟨op, second⟩ := link
    show _ = given ((conjoined (.comparison op first second) (comparisons second rest)).eval env m)
    have conjuncts : (conjoined (.comparison op first second) (comparisons second rest)).eval env =
      evalConjuncts env (.bool true) (comparisons first ((op, second) :: rest)) := eval_conjoined _ _
    rw [conjuncts]
    cases hf : first.eval env m with
    | error fault m₁ =>
      show _ = given (((Tree.comparison op first second).eval env >>= _) m)
      rw [Tree.eval, Tree.eval]
      simp only [bind_apply, hf]
    | ok l m₁ =>
      rw [given_comparisons isPure hf (Nat.le_refl _) (Nat.le_refl _) rfl, Tree.eval]
      simp only [bind_apply, hf]
      cases Tree.evalLinks env l ((op, second) :: rest) m₁ <;> rfl

end Values

/-- **A chain of comparisons is its pairwise expansion.**  A chain of two comparisons or more gives the
value, or the fault, of the conjunction of its comparisons, whatever the operands are and wherever they
are evaluated, if the functions of the host are pure.  Operands that can be written make texts of both
that are read as just these trees, if the limit on nesting leaves the room; so expressions read from the
two texts never differ. -/
theorem chain_eq_pairwise {σ : Type} (first : Tree) {links : List (Comparison × Tree)}
    (several : 2 ≤ links.length) :
    (∀ (env : Environment σ) m, env.Pure m.found →
      given ((Tree.chain first links).eval env m) = given ((pairwise first links).eval env m)) ∧
    (first.Printable → (∀ link ∈ links, link.2.Printable) →
      (∀ limit, parseWithin limit (Tree.chain first links).print =
        if (Tree.chain first links).takes < limit then .ok (Tree.chain first links)
        else .error .tooDeep) ∧
      (∀ limit, parseWithin limit (pairwise first links).print =
        if (pairwise first links).takes < limit then .ok (pairwise first links)
        else .error .tooDeep) ∧
      ∀ chain pairs, Expression.compile (Tree.chain first links).print = .ok chain →
        Expression.compile (pairwise first links).print = .ok pairs →
        ∀ (env : Environment σ) m, env.Pure m.found →
          given (chain.eval env m) = given (pairs.eval env m)) := by
  have some : links ≠ [] := List.ne_nil_of_length_pos (Nat.lt_of_lt_of_le Nat.two_pos several)
  have same : ∀ (env : Environment σ) m, env.Pure m.found →
      given ((Tree.chain first links).eval env m) = given ((pairwise first links).eval env m) :=
    fun env m isPure => given_pairwise some isPure first
  refine ⟨same, fun hf hl => ?_⟩
  have chained : (Tree.chain first links).Printable := .chain hf several hl
  have paired := printable_pairwise hf hl
  refine ⟨parseWithin_print_eq_ite chained, parseWithin_print_eq_ite paired, ?_⟩
  intro chain pairs readChain readPairs env m isPure
  have chainTree := tree_of_compile_print chained readChain
  have pairsTree := tree_of_compile_print paired readPairs
  rw [Expression.eval, Expression.eval, chainTree, pairsTree]
  exact same env m isPure

namespace Ordered

/-- A name with a function that was found before, and functions that give back their first argument. -/
def env : Environment Unit where
  lookup? name := if name = "x" then some (.function (.global .len 0)) else none
  host _ _ args store := (.ok (args.headD .null), store)

theorem env_pure : env.Pure 1 where
  older {name v} h := by
    unfold env at h
    dsimp only at h
    split at h
    · cases h
      rfl
    · cases h
  keeps _ _ _ _ := rfl
  blind _ _ _ _ _ _ _ _ paired := by
    cases paired with
    | nil => exact .ok .null
    | cons first _ => exact .ok first

def links : List (Comparison × Tree) := [(.isNot, .name "len"), (.ne, .name "x")]

/-- Both texts are read, and hold: the conjunction compares another function with `x` than the chain. -/
theorem between_names :
    (pairwise (.name "len") links).print = "len is not len and len != x" ∧
      parse "len is not len != x" = .ok (.chain (.name "len") links) ∧
      given ((Tree.chain (.name "len") links).eval env ⟨1, ()⟩) = .ok (.bool true) ∧
      given ((pairwise (.name "len") links).eval env ⟨1, ()⟩) = .ok (.bool true) := by
  have name : ∀ n ∈ ["len", "x"], Tree.Printable (.name n) := by
    have words : ∀ n ∈ ["len", "x"],
        isIdentifier n = true ∧ isReserved n = false ∧ wordLiteral? n = none := by decide
    exact fun n mem => .name (words n mem).1 (words n mem).2.1 (words n mem).2.2
  have operands : ∀ link ∈ links, link.2.Printable := by
    intro link mem
    rcases List.mem_cons.1 mem with rfl | mem
    · exact name _ (by decide)
    · rw [List.mem_singleton.1 mem]
      exact name _ (by decide)
  have several : 2 ≤ links.length := Nat.le_refl 2
  obtain ⟨same, texts⟩ := chain_eq_pairwise (σ := Unit) (.name "len") several
  obtain ⟨read, -⟩ := texts (name _ (by decide)) operands
  have chained : given ((Tree.chain (.name "len") links).eval env ⟨1, ()⟩) = .ok (.bool true) := rfl
  exact ⟨rfl, read maxNesting, chained, (same env ⟨1, ()⟩ env_pure).symm.trans chained⟩

/-- Each look at a name finds another function. -/
example : given ((Tree.comparison .eq (.name "len") (.name "len")).eval env ⟨1, ()⟩) =
    .ok (.bool false) := rfl

end Ordered

end TextTemplate.Expr
