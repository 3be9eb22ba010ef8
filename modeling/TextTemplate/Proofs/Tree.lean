import TextTemplate.Node
import TextTemplate.Proofs.Dictionary

/-!
# Fragments inside of fragments

A node holds the bodies that stand between its tags.  What a node holds is smaller than the node, so
anything that goes from a fragment to the bodies in it comes to an end.
-/

namespace TextTemplate

/-- The bodies that a node holds; a tag that extends a template holds the blocks behind it. -/
inductive Node.Holds : Node → Fragment → Prop
  | clause {clauses : List (Expression × Fragment)} {orelse : Option Fragment} {test : Expression}
      {body : Fragment} : (test, body) ∈ clauses → Holds (.branch clauses orelse) body
  | orelse {clauses : List (Expression × Fragment)} {body : Fragment} :
      Holds (.branch clauses (some body)) body
  | loop {target : Target} {e : Expression} {body : Fragment} : Holds (.loop target e body) body
  | bind {target : Target} {e : Expression} {body : Fragment} : Holds (.bind target e body) body
  | block {name : String} {body : Fragment} : Holds (.block name body) body
  | declared {parent : Expression} {blocks : Dictionary Fragment} {name : String}
      {body : Fragment} : blocks.get? name = some body → Holds (.extend parent blocks) body

theorem Node.Holds.sizeOf_lt {n : Node} {body : Fragment} (h : n.Holds body) :
    sizeOf body < sizeOf n := by
  cases h with
  | clause h =>
    have := List.sizeOf_lt_of_mem h
    simp only [Node.branch.sizeOf_spec, Prod.mk.sizeOf_spec] at this ⊢
    omega
  | orelse =>
    simp only [Node.branch.sizeOf_spec, Option.some.sizeOf_spec]
    omega
  | loop =>
    simp only [Node.loop.sizeOf_spec]
    omega
  | bind =>
    simp only [Node.bind.sizeOf_spec]
    omega
  | block =>
    simp only [Node.block.sizeOf_spec]
    omega
  | @declared parent blocks name body h =>
    have := List.sizeOf_lt_of_mem (Dictionary.mem_of_get? h)
    cases blocks
    simp only [Node.extend.sizeOf_spec, Dictionary.mk.sizeOf_spec, Prod.mk.sizeOf_spec] at this ⊢
    omega

theorem Fragment.sizeOf_node_lt {f : Fragment} {line : Nat} {n : Node} (h : (line, n) ∈ f.nodes) :
    sizeOf n < sizeOf f := by
  have := List.sizeOf_lt_of_mem h
  cases f
  simp only [Fragment.mk.sizeOf_spec, Prod.mk.sizeOf_spec] at this ⊢
  omega

/-- A fragment and all bodies in it, at any depth. -/
inductive Fragment.Part (f : Fragment) : Fragment → Prop
  | self : Part f f
  | inner {g body : Fragment} {line : Nat} {n : Node} :
      Part f g → (line, n) ∈ g.nodes → n.Holds body → Part f body

end TextTemplate
