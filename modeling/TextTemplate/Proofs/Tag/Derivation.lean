import TextTemplate.Proofs.Tree
import TextTemplate.Tag.Standard

/-!
# The grammar of templates

`Derives` says which tokens make up which nodes, without a parser: text and placeholders stand for
themselves, a tag stands for the node of the standard macro that takes it, and a body reaches up to a
tag that no macro takes.  A derivation also lists the blocks that are declared in its tokens, at any
depth, in the order in which they end.

All that is said of a compiled template comes by induction on its derivation: every body in it is
derived itself, from tokens of the template (`Derives.isBody_of_part`), no body extends another
template (`IsBody.not_extend`), and the blocks listed are declared in its tokens
(`Derives.declares`).
-/

namespace TextTemplate.Tag

open TextTemplate.Markup

/-! ## Tags -/

/-- The standard macro that takes a tag, with what it captures. -/
def taken? (tag : String) : Option (Macro × Captures) :=
  standard.findSome? fun m => (fitAny? m.patterns tag).map fun captures => (m, captures)

/-- The nodes of tags without a body. -/
inductive Plain (tag : String) : Node → Prop
  | assign {captures : Captures} {e : Expression} {target : Target} :
      taken? tag = some (setTag, captures) → Expression.compile (captures.group 0) = .ok e →
      Target.parse (captures.group 1) = .ok target → Plain tag (.assign target e)
  | print {captures : Captures} {e : Expression} :
      taken? tag = some (printTag, captures) → Expression.compile (captures.group 0) = .ok e →
      Plain tag (.print e)
  | include {captures : Captures} {e : Expression} :
      taken? tag = some (includeTag, captures) → Expression.compile (captures.group 0) = .ok e →
      Plain tag (.include e)
  | super {captures : Captures} : taken? tag = some (superTag, captures) → Plain tag .super

/-- A tag at the end of a body: no macro takes it, and it is read as an end. -/
structure Ends {α : Type} (ending : Token) (ending? : String → Option α) (what : α) : Prop where
  kind : ending.kind = .tag
  untaken : taken? ending.text = none
  read : ending? ending.text = some what

/-- Blocks with their bodies. -/
abbrev Blocks := List (String × Fragment)

/-- Declares blocks in order; each name must be new. -/
inductive Registers : Dictionary Fragment → Blocks → Dictionary Fragment → Prop
  | nil (d : Dictionary Fragment) : Registers d [] d
  | cons {d d' : Dictionary Fragment} {x : String} {body : Fragment} {rest : Blocks} :
      d.get? x = none → Registers (d.insert x body) rest d' → Registers d ((x, body) :: rest) d'

/-! ## Derivations -/

/-- What tokens may be derived as. -/
inductive Form where
  /-- Nodes; at the start nothing but white space has been met. -/
  | nodes (start : Bool) (nodes : List (Nat × Node))
  /-- The clauses of `if` behind a test, with the end of the last body. -/
  | clauses (test : Expression) (clauses : List (Expression × Fragment)) (orelse : Option Fragment)

/-- Whether a text is white space. -/
def isBlankText (text : String) : Bool := (Text.trim text.toList).isEmpty

/-- The tokens that are derived as a form in a template of a given name, with the blocks that are
declared in them. -/
inductive Derives (name : String) : Form → List Token → Blocks → Prop
  | done {start : Bool} : Derives name (.nodes start []) [] []
  | empty {start : Bool} {line : Nat} {nodes : List (Nat × Node)} {tokens : List Token}
      {blocks : Blocks} :
      Derives name (.nodes start nodes) tokens blocks →
      Derives name (.nodes start nodes) (⟨line, .literal, ""⟩ :: tokens) blocks
  | text {start : Bool} {line : Nat} {text : String} {nodes : List (Nat × Node)}
      {tokens : List Token} {blocks : Blocks} :
      text.isEmpty = false → Derives name (.nodes (start && isBlankText text) nodes) tokens blocks →
      Derives name (.nodes start ((line, .text text) :: nodes)) (⟨line, .literal, text⟩ :: tokens)
        blocks
  | output {start : Bool} {line : Nat} {text : String} {e : Expression}
      {nodes : List (Nat × Node)} {tokens : List Token} {blocks : Blocks} :
      Expression.compile text = .ok e → Derives name (.nodes false nodes) tokens blocks →
      Derives name (.nodes start ((line, .output e) :: nodes)) (⟨line, .expression, text⟩ :: tokens)
        blocks
  | plain {start : Bool} {line : Nat} {tag : String} {n : Node} {nodes : List (Nat × Node)}
      {tokens : List Token} {blocks : Blocks} :
      Plain tag n → Derives name (.nodes false nodes) tokens blocks →
      Derives name (.nodes start ((line, n) :: nodes)) (⟨line, .tag, tag⟩ :: tokens) blocks
  | branch {start : Bool} {line : Nat} {tag : String} {captures : Captures} {test : Expression}
      {clauses : List (Expression × Fragment)} {orelse : Option Fragment}
      {nodes : List (Nat × Node)} {inner tokens : List Token} {blocks later : Blocks} :
      taken? tag = some (ifTag, captures) → Expression.compile (captures.group 0) = .ok test →
      Derives name (.clauses test clauses orelse) inner blocks →
      Derives name (.nodes false nodes) tokens later →
      Derives name (.nodes start ((line, .branch clauses orelse) :: nodes))
        (⟨line, .tag, tag⟩ :: (inner ++ tokens)) (blocks ++ later)
  | loop {start : Bool} {line : Nat} {tag : String} {captures : Captures} {target : Target}
      {e : Expression} {body nodes : List (Nat × Node)} {ending : Token} {what : Unit}
      {inner tokens : List Token} {blocks later : Blocks} :
      taken? tag = some (forTag, captures) → Target.parse (captures.group 0) = .ok target →
      Expression.compile (captures.group 1) = .ok e →
      Derives name (.nodes false body) inner blocks → Ends ending (isWord "endfor") what →
      Derives name (.nodes false nodes) tokens later →
      Derives name (.nodes start ((line, .loop target e ⟨name, body⟩) :: nodes))
        (⟨line, .tag, tag⟩ :: (inner ++ ending :: tokens)) (blocks ++ later)
  | bind {start : Bool} {line : Nat} {tag : String} {captures : Captures} {target : Target}
      {e : Expression} {body nodes : List (Nat × Node)} {ending : Token} {what : Unit}
      {inner tokens : List Token} {blocks later : Blocks} :
      taken? tag = some (withTag, captures) → Expression.compile (captures.group 0) = .ok e →
      Target.parse (captures.group 1) = .ok target →
      Derives name (.nodes false body) inner blocks → Ends ending (isWord "endwith") what →
      Derives name (.nodes false nodes) tokens later →
      Derives name (.nodes start ((line, .bind target e ⟨name, body⟩) :: nodes))
        (⟨line, .tag, tag⟩ :: (inner ++ ending :: tokens)) (blocks ++ later)
  | block {start : Bool} {line : Nat} {tag : String} {captures : Captures}
      {body nodes : List (Nat × Node)} {ending : Token} {what : Unit} {inner tokens : List Token}
      {blocks later : Blocks} :
      taken? tag = some (blockTag, captures) →
      Derives name (.nodes false body) inner blocks →
      Ends ending (readEndblock? (captures.group 0)) what →
      Derives name (.nodes false nodes) tokens later →
      Derives name (.nodes start ((line, .block (captures.group 0) ⟨name, body⟩) :: nodes))
        (⟨line, .tag, tag⟩ :: (inner ++ ending :: tokens))
        (blocks ++ (captures.group 0, ⟨name, body⟩) :: later)
  /-- Of the rest of a template that extends another one only the blocks count. -/
  | extend {line : Nat} {tag : String} {captures : Captures} {parent : Expression}
      {nodes : List (Nat × Node)} {tokens : List Token} {blocks : Blocks}
      {registry : Dictionary Fragment} :
      taken? tag = some (extendsTag, captures) →
      Expression.compile (captures.group 0) = .ok parent →
      Derives name (.nodes true nodes) tokens blocks → Registers .empty blocks registry →
      Derives name (.nodes true [(line, .extend parent registry)]) (⟨line, .tag, tag⟩ :: tokens)
        blocks
  | elif {test next : Expression} {source : String} {body : List (Nat × Node)} {ending : Token}
      {clauses : List (Expression × Fragment)} {orelse : Option Fragment}
      {inner tokens : List Token} {blocks later : Blocks} :
      Derives name (.nodes false body) inner blocks →
      Ends ending Clause.read? (.elif source) → Expression.compile source = .ok next →
      Derives name (.clauses next clauses orelse) tokens later →
      Derives name (.clauses test ((test, ⟨name, body⟩) :: clauses) orelse)
        (inner ++ ending :: tokens) (blocks ++ later)
  | orelse {test : Expression} {body other : List (Nat × Node)} {ending last : Token}
      {inner tokens : List Token} {blocks later : Blocks} :
      Derives name (.nodes false body) inner blocks → Ends ending Clause.read? .orelse →
      Derives name (.nodes false other) tokens later → Ends last Clause.read? .endif →
      Derives name (.clauses test [(test, ⟨name, body⟩)] (some ⟨name, other⟩))
        (inner ++ ending :: (tokens ++ [last])) (blocks ++ later)
  | endif {test : Expression} {body : List (Nat × Node)} {ending : Token} {inner : List Token}
      {blocks : Blocks} :
      Derives name (.nodes false body) inner blocks → Ends ending Clause.read? .endif →
      Derives name (.clauses test [(test, ⟨name, body⟩)] none) (inner ++ [ending]) blocks

/-! ## Declared blocks -/

theorem Registers.append {d e f : Dictionary Fragment} {blocks later : Blocks}
    (first : Registers d blocks e) (second : Registers e later f) :
    Registers d (blocks ++ later) f := by
  induction first with
  | nil => exact second
  | cons new _ ih => exact .cons new (ih second)

/-- What is found afterwards was declared, or it was found before. -/
theorem Registers.get?_eq_some {d d' : Dictionary Fragment} {blocks : Blocks}
    (h : Registers d blocks d') (x : String) (body : Fragment) :
    d'.get? x = some body ↔ (x, body) ∈ blocks ∨ d.get? x = some body := by
  induction h with
  | nil => simp
  | @cons d d' y other rest new _ ih =>
    rw [ih, Dictionary.get?_insert, List.mem_cons, Prod.mk.injEq]
    by_cases same : x = y
    · subst same
      rw [if_pos rfl, new]
      simp only [true_and, reduceCtorEq, or_false, Option.some.injEq]
      rw [or_comm, eq_comm]
    · rw [if_neg same]
      simp only [same, false_and, false_or]

/-- A block that is declared in tokens, with its body: there is a tag for it, tokens of which the body
is derived, and a tag that ends it. -/
inductive Declares (name : String) (tokens : List Token) : String → Fragment → Prop
  | intro {before inner after : List Token} {line : Nat} {tag : String} {captures : Captures}
      {body : List (Nat × Node)} {blocks : Blocks} {ending : Token} {what : Unit} :
      taken? tag = some (blockTag, captures) → Derives name (.nodes false body) inner blocks →
      Ends ending (readEndblock? (captures.group 0)) what →
      tokens = before ++ ⟨line, .tag, tag⟩ :: (inner ++ ending :: after) →
      Declares name tokens (captures.group 0) ⟨name, body⟩

theorem Declares.mono {name x : String} {tokens more : List Token} {body : Fragment}
    (h : Declares name tokens x body) (inside : tokens <:+: more) : Declares name more x body := by
  cases h with
  | @intro before inner after line tag _ _ _ ending _ taken derived ends eq =>
    obtain ⟨front, back, rfl⟩ := inside
    have split : front ++ tokens ++ back =
        front ++ before ++ ⟨line, .tag, tag⟩ :: (inner ++ ending :: (after ++ back)) := by
      rw [eq]
      simp only [List.append_assoc, List.cons_append]
    exact .intro taken derived ends split

theorem infix_inner {α : Type} (a : α) (inner rest : List α) : inner <:+: a :: (inner ++ rest) :=
  List.infix_cons (List.prefix_append inner rest).isInfix

theorem infix_rest {α : Type} (a : α) (inner : List α) (b : α) (rest : List α) :
    rest <:+: a :: (inner ++ b :: rest) :=
  List.infix_cons ((List.suffix_cons b rest).trans (List.suffix_append inner (b :: rest))).isInfix

/-- Blocks that a derivation lists are declared in its tokens. -/
theorem Derives.declares {name : String} {form : Form} {tokens : List Token} {blocks : Blocks}
    (d : Derives name form tokens blocks) {x : String} {body : Fragment} (h : (x, body) ∈ blocks) :
    Declares name tokens x body := by
  induction d with
  | done => cases h
  | empty _ ih => exact (ih h).mono (List.infix_cons List.infix_rfl)
  | text _ _ ih => exact (ih h).mono (List.infix_cons List.infix_rfl)
  | output _ _ ih => exact (ih h).mono (List.infix_cons List.infix_rfl)
  | plain _ _ ih => exact (ih h).mono (List.infix_cons List.infix_rfl)
  | extend _ _ _ _ ih => exact (ih h).mono (List.infix_cons List.infix_rfl)
  | branch _ _ _ _ ihInner ihRest =>
    rcases List.mem_append.1 h with h | h
    · exact (ihInner h).mono (infix_inner _ _ _)
    · exact (ihRest h).mono (List.infix_cons (List.suffix_append _ _).isInfix)
  | loop _ _ _ _ _ _ ihInner ihRest =>
    rcases List.mem_append.1 h with h | h
    · exact (ihInner h).mono (infix_inner _ _ _)
    · exact (ihRest h).mono (infix_rest _ _ _ _)
  | bind _ _ _ _ _ _ ihInner ihRest =>
    rcases List.mem_append.1 h with h | h
    · exact (ihInner h).mono (infix_inner _ _ _)
    · exact (ihRest h).mono (infix_rest _ _ _ _)
  | block taken derived ends _ ihInner ihRest =>
    rcases List.mem_append.1 h with h | h
    · exact (ihInner h).mono (infix_inner _ _ _)
    · rcases List.mem_cons.1 h with h | h
      · cases h
        exact .intro taken derived ends (List.nil_append _).symm
      · exact (ihRest h).mono (infix_rest _ _ _ _)
  | @elif _ _ _ _ ending _ _ inner tokens _ _ _ _ _ _ ihInner ihRest =>
    rcases List.mem_append.1 h with h | h
    · exact (ihInner h).mono (List.prefix_append _ _).isInfix
    · refine (ihRest h).mono ?_
      exact ((List.suffix_cons ending tokens).trans (List.suffix_append inner _)).isInfix
  | @orelse _ _ _ ending last inner tokens _ _ _ _ _ _ ihInner ihRest =>
    rcases List.mem_append.1 h with h | h
    · exact (ihInner h).mono (List.prefix_append _ _).isInfix
    · exact (ihRest h).mono ⟨inner ++ [ending], [last], by simp⟩
  | endif _ _ ih => exact (ih h).mono (List.prefix_append _ _).isInfix

theorem taken?_ne {tag : String} {m : Macro} {captures captures' : Captures}
    (h : taken? tag = some (m, captures)) (ne : m.name ≠ "block") :
    taken? tag ≠ some (blockTag, captures') := by
  intro h'
  rw [h] at h'
  cases h'
  exact ne rfl

theorem Ends.taken?_ne {α : Type} {ending : Token} {ending? : String → Option α} {what : α}
    {m : Macro} {captures : Captures} (ends : Ends ending ending? what) :
    taken? ending.text ≠ some (m, captures) := by
  rw [ends.untaken]
  exact fun h => by cases h

/-! ## Bodies -/

/-- A body that is derived from tokens of a template. -/
def IsBody (name : String) (tokens : List Token) (body : Fragment) : Prop :=
  ∃ nodes inner blocks, body = ⟨name, nodes⟩ ∧ Derives name (.nodes false nodes) inner blocks ∧
    inner <:+: tokens

theorem IsBody.mono {name : String} {tokens more : List Token} {body : Fragment}
    (h : IsBody name tokens body) (inside : tokens <:+: more) : IsBody name more body := by
  obtain ⟨nodes, inner, blocks, rfl, derived, within⟩ := h
  exact ⟨nodes, inner, blocks, rfl, derived, within.trans inside⟩

theorem Derives.isBody {name : String} {body : List (Nat × Node)} {inner tokens : List Token}
    {blocks : Blocks} (d : Derives name (.nodes false body) inner blocks)
    (inside : inner <:+: tokens) : IsBody name tokens ⟨name, body⟩ :=
  ⟨body, inner, blocks, rfl, d, inside⟩

theorem Declares.isBody {name x : String} {tokens : List Token} {body : Fragment}
    (h : Declares name tokens x body) : IsBody name tokens body := by
  obtain ⟨-, derived, -, rfl⟩ := h
  refine derived.isBody ?_
  exact (infix_inner _ _ _).trans (List.suffix_append _ _).isInfix

/-- The bodies that a form holds. -/
def Form.Holds : Form → Fragment → Prop
  | .nodes _ list, body => ∃ line n, (line, n) ∈ list ∧ n.Holds body
  | .clauses _ list orelse, body => (∃ test, (test, body) ∈ list) ∨ orelse = some body

theorem Plain.not_holds {tag : String} {n : Node} {body : Fragment} (h : Plain tag n) :
    ¬ n.Holds body := by
  intro holds
  cases h <;> cases holds

/-- The body of the first node, or one of the others. -/
theorem Form.holds_cons {start later : Bool} {line : Nat} {n : Node} {nodes : List (Nat × Node)}
    {body : Fragment} (h : Form.Holds (.nodes start ((line, n) :: nodes)) body) :
    n.Holds body ∨ Form.Holds (.nodes later nodes) body := by
  obtain ⟨line', n', mem, holds⟩ := h
  cases mem with
  | head => exact .inl holds
  | tail _ mem => exact .inr ⟨line', n', mem, holds⟩

/-- Every body in what is derived is derived itself. -/
theorem Derives.isBody_of_holds {name : String} {form : Form} {tokens : List Token}
    {blocks : Blocks} (d : Derives name form tokens blocks) {body : Fragment}
    (h : form.Holds body) : IsBody name tokens body := by
  induction d with
  | done =>
    obtain ⟨_, _, mem, _⟩ := h
    cases mem
  | empty _ ih => exact (ih h).mono (List.infix_cons List.infix_rfl)
  | text _ _ ih =>
    rcases Form.holds_cons h with holds | h
    · cases holds
    · exact (ih h).mono (List.infix_cons List.infix_rfl)
  | output _ _ ih =>
    rcases Form.holds_cons h with holds | h
    · cases holds
    · exact (ih h).mono (List.infix_cons List.infix_rfl)
  | plain plain _ ih =>
    rcases Form.holds_cons h with holds | h
    · exact absurd holds plain.not_holds
    · exact (ih h).mono (List.infix_cons List.infix_rfl)
  | branch _ _ _ _ ihInner ihRest =>
    rcases Form.holds_cons h with holds | h
    · refine (ihInner ?_).mono (infix_inner _ _ _)
      cases holds with
      | clause h => exact .inl ⟨_, h⟩
      | orelse => exact .inr rfl
    · exact (ihRest h).mono (List.infix_cons (List.suffix_append _ _).isInfix)
  | loop _ _ _ inner _ _ _ ihRest =>
    rcases Form.holds_cons h with holds | h
    · cases holds
      exact inner.isBody (infix_inner _ _ _)
    · exact (ihRest h).mono (infix_rest _ _ _ _)
  | bind _ _ _ inner _ _ _ ihRest =>
    rcases Form.holds_cons h with holds | h
    · cases holds
      exact inner.isBody (infix_inner _ _ _)
    · exact (ihRest h).mono (infix_rest _ _ _ _)
  | block _ inner _ _ _ ihRest =>
    rcases Form.holds_cons h with holds | h
    · cases holds
      exact inner.isBody (infix_inner _ _ _)
    · exact (ihRest h).mono (infix_rest _ _ _ _)
  | extend _ _ rest registers _ =>
    obtain ⟨_, _, mem, holds⟩ := h
    cases List.mem_singleton.1 mem
    cases holds with
    | declared found =>
      rcases (registers.get?_eq_some _ _).1 found with mem | old
      · exact (rest.declares mem).isBody.mono (List.infix_cons List.infix_rfl)
      · cases old
  | @elif test _ _ _ ending _ _ inner tokens _ _ first _ _ _ _ ihRest =>
    have later : tokens <:+: inner ++ ending :: tokens :=
      ((List.suffix_cons ending tokens).trans (List.suffix_append inner _)).isInfix
    rcases h with ⟨test', mem⟩ | same
    · cases mem with
      | head => exact first.isBody (List.prefix_append _ _).isInfix
      | tail _ mem => exact (ihRest (.inl ⟨test', mem⟩)).mono later
    · exact (ihRest (.inr same)).mono later
  | @orelse _ _ _ ending last inner tokens _ _ first _ second _ _ _ =>
    rcases h with ⟨test, mem⟩ | same
    · cases List.mem_singleton.1 mem
      exact first.isBody (List.prefix_append _ _).isInfix
    · cases same
      exact second.isBody ⟨inner ++ [ending], [last], by simp⟩
  | endif first _ _ =>
    rcases h with ⟨test, mem⟩ | same
    · cases List.mem_singleton.1 mem
      exact first.isBody (List.prefix_append _ _).isInfix
    · cases same

/-- A part of a derived fragment is all of it or a body in it. -/
theorem Derives.isBody_of_part {name : String} {start : Bool} {nodes : List (Nat × Node)}
    {tokens : List Token} {blocks : Blocks} (d : Derives name (.nodes start nodes) tokens blocks)
    {part : Fragment} (h : Fragment.Part ⟨name, nodes⟩ part) :
    part = ⟨name, nodes⟩ ∨ IsBody name tokens part := by
  induction h with
  | self => exact .inl rfl
  | inner _ mem holds ih =>
    right
    rcases ih with rfl | ⟨_, _, _, rfl, derived, within⟩
    · exact d.isBody_of_holds ⟨_, _, mem, holds⟩
    · exact (derived.isBody_of_holds ⟨_, _, mem, holds⟩).mono within

/-! ## Extending -/

/-- A node that extends a template stands at the start, and has all blocks that are declared. -/
theorem Derives.registers_of_extend {name : String} {form : Form} {tokens : List Token}
    {blocks : Blocks} (d : Derives name form tokens blocks) {start : Bool}
    {nodes : List (Nat × Node)} (same : form = .nodes start nodes) {line : Nat}
    {parent : Expression} {registry : Dictionary Fragment}
    (mem : (line, .extend parent registry) ∈ nodes) :
    start = true ∧ Registers .empty blocks registry := by
  induction d generalizing start nodes with
  | done => cases same; cases mem
  | empty _ ih => cases same; exact ih rfl mem
  | text _ _ ih =>
    cases same
    cases mem with
    | tail _ mem =>
      have := ih rfl mem
      exact ⟨(Bool.and_eq_true_iff.1 this.1).1, this.2⟩
  | output _ _ ih =>
    cases same
    cases mem with
    | tail _ mem => exact absurd (ih rfl mem).1 (by decide)
  | plain plain _ ih =>
    cases same
    cases mem with
    | head => cases plain
    | tail _ mem => exact absurd (ih rfl mem).1 (by decide)
  | branch _ _ _ _ _ ih =>
    cases same
    cases mem with
    | tail _ mem => exact absurd (ih rfl mem).1 (by decide)
  | loop _ _ _ _ _ _ _ ih =>
    cases same
    cases mem with
    | tail _ mem => exact absurd (ih rfl mem).1 (by decide)
  | bind _ _ _ _ _ _ _ ih =>
    cases same
    cases mem with
    | tail _ mem => exact absurd (ih rfl mem).1 (by decide)
  | block _ _ _ _ _ ih =>
    cases same
    cases mem with
    | tail _ mem => exact absurd (ih rfl mem).1 (by decide)
  | extend _ _ _ registers _ =>
    cases same
    cases List.mem_singleton.1 mem
    exact ⟨rfl, registers⟩
  | elif => cases same
  | orelse => cases same
  | endif => cases same

/-- No body extends a template. -/
theorem IsBody.not_extend {name : String} {tokens : List Token} {body : Fragment}
    (h : IsBody name tokens body) {line : Nat} {parent : Expression}
    {registry : Dictionary Fragment} : (line, .extend parent registry) ∉ body.nodes := by
  obtain ⟨nodes, inner, blocks, rfl, derived, -⟩ := h
  intro mem
  exact absurd (derived.registers_of_extend rfl mem).1 (by decide)

end TextTemplate.Tag
