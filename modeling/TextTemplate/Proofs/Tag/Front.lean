import TextTemplate.Proofs.Tag.Position
import TextTemplate.Proofs.Tag.Recount

/-!
# Where a template may be extended

In a template that is compiled a tag that extends another template stands at the front: before it there
is only white space, and other such tags (`Derives.front`).  So what comes first is one run of white
space and of tags that extend templates, and no such tag is behind it.  In that run there may be more
than one tag, since content is only noted when the node of a tag has been built, and the first tag that
extends a template builds its node from all that follows (`Grammar.Extending.compiled_twice`).
-/

namespace TextTemplate.Tag

open TextTemplate.Markup

/-- A tag that extends a template. -/
def IsExtend (token : Token) : Prop := ∃ parent, sign? token = some (.extend parent)

/-- White space between tags. -/
def IsBlank (token : Token) : Prop := token.kind = .literal ∧ isBlankText token.text = true

/-- Only the first content of a template extends another one: there is white space before the tag, and no
such tag behind it. -/
def ExtendsFirst (tokens : List Token) : Prop :=
  ∀ before token after, tokens = before ++ token :: after → IsExtend token →
    (∀ t ∈ before, IsBlank t) ∧ ∀ t ∈ after, ¬ IsExtend t

/-- Two tags extend templates, with nothing but white space between them. -/
def ExtendsTwice (tokens : List Token) : Prop :=
  ∃ before first between second after, tokens = before ++ first :: (between ++ second :: after) ∧
    IsExtend first ∧ (∀ t ∈ between, IsBlank t) ∧ IsExtend second

/-! ## Tags that extend templates -/

theorem isExtend_tag {line : Nat} {tag : String} :
    IsExtend ⟨line, .tag, tag⟩ ↔ ∃ captures, taken? tag = some (extendsTag, captures) := by
  constructor
  · rintro ⟨parent, is⟩
    obtain ⟨captures, taken, -⟩ := sign?_eq_some.1 is
    exact ⟨captures, taken⟩
  · rintro ⟨captures, taken⟩
    exact ⟨_, sign?_of_taken taken⟩

theorem not_isExtend_literal {line : Nat} {text : String} : ¬ IsExtend ⟨line, .literal, text⟩ :=
  fun ⟨_, is⟩ => nomatch is

theorem not_isExtend_expression {line : Nat} {text : String} :
    ¬ IsExtend ⟨line, .expression, text⟩ := fun ⟨_, is⟩ => nomatch is

theorem IsBlank.not_isExtend {token : Token} (h : IsBlank token) : ¬ IsExtend token := by
  obtain ⟨line, kind, text⟩ := token
  obtain rfl : kind = .literal := h.1
  exact not_isExtend_literal

/-- A tag of another macro extends no template. -/
theorem not_isExtend_of_taken {line : Nat} {tag : String} {m : Macro} {captures : Captures}
    (taken : taken? tag = some (m, captures)) (other : m.name ≠ "extends") :
    ¬ IsExtend ⟨line, .tag, tag⟩ := by
  rw [isExtend_tag, taken]
  rintro ⟨_, same⟩
  cases same
  exact other rfl

theorem Plain.not_isExtend {tag : String} {n : Node} (h : Plain tag n) (line : Nat) :
    ¬ IsExtend ⟨line, .tag, tag⟩ := by
  cases h with
  | assign taken => exact not_isExtend_of_taken taken (by decide)
  | print taken => exact not_isExtend_of_taken taken (by decide)
  | «include» taken => exact not_isExtend_of_taken taken (by decide)
  | super taken => exact not_isExtend_of_taken taken (by decide)

theorem Ends.not_isExtend {α : Type} {ending : Token} {ending? : String → Option α} {what : α}
    (h : Ends ending ending? what) : ¬ IsExtend ending := by
  obtain ⟨line, kind, tag⟩ := ending
  obtain rfl : kind = .tag := h.kind
  rw [isExtend_tag]
  exact fun ⟨_, taken⟩ => h.taken?_ne taken

/-! ## The front of a template -/

/-- Whether a form stands at the start of a template. -/
def Form.atStart : Form → Bool
  | .nodes start _ => start
  | .clauses .. => false

/-- Tokens in which only the front may extend a template, and only at the start of a template. -/
inductive Front : Bool → List Token → Prop
  | rest {start : Bool} {tokens : List Token} : (∀ t ∈ tokens, ¬ IsExtend t) → Front start tokens
  | cons {token : Token} {tokens : List Token} : IsBlank token ∨ IsExtend token → Front true tokens →
      Front true (token :: tokens)

namespace Front

theorem not_isExtend {tokens : List Token} (h : Front false tokens) :
    ∀ token ∈ tokens, ¬ IsExtend token := by
  cases h with
  | rest none => exact none

theorem blank {start : Bool} {token : Token} {tokens : List Token} (blank : IsBlank token)
    (h : Front start tokens) : Front start (token :: tokens) := by
  cases start with
  | true => exact .cons (.inl blank) h
  | false => exact .rest (List.forall_mem_cons.2 ⟨blank.not_isExtend, h.not_isExtend⟩)

/-- Before a tag that extends a template there are such tags and white space. -/
theorem before {start : Bool} {tokens before after : List Token} {token : Token}
    (h : Front start tokens) (split : tokens = before ++ token :: after) (extend : IsExtend token) :
    ∀ t ∈ before, IsBlank t ∨ IsExtend t := by
  induction h generalizing before with
  | rest none => exact absurd extend (none token (by rw [split]; simp))
  | cons first _ ih =>
    cases before with
    | nil => exact List.forall_mem_nil _
    | cons t before =>
      obtain ⟨rfl, rest⟩ := List.cons.inj split
      exact List.forall_mem_cons.2 ⟨first, ih rest⟩

end Front

/-- **A template is extended at its front.** -/
theorem Derives.front {name : String} {form : Form} {tokens : List Token} {blocks : Blocks}
    (d : Derives name form tokens blocks) : Front form.atStart tokens := by
  induction d with
  | done => exact .rest (List.forall_mem_nil _)
  | empty _ ih => exact ih.blank ⟨rfl, rfl⟩
  | @text start line text nodes tokens blocks _ _ ih =>
    cases blank : isBlankText text with
    | true =>
      rw [blank, Bool.and_true] at ih
      exact ih.blank ⟨rfl, blank⟩
    | false =>
      rw [blank, Bool.and_false] at ih
      exact .rest (List.forall_mem_cons.2 ⟨not_isExtend_literal, ih.not_isExtend⟩)
  | output _ _ ih => exact .rest (List.forall_mem_cons.2 ⟨not_isExtend_expression, ih.not_isExtend⟩)
  | plain node _ ih => exact .rest (List.forall_mem_cons.2 ⟨node.not_isExtend _, ih.not_isExtend⟩)
  | branch taken _ _ _ ihInner ihRest =>
    refine .rest ?_
    rw [List.forall_mem_cons, List.forall_mem_append]
    exact ⟨not_isExtend_of_taken taken (by decide), ihInner.not_isExtend, ihRest.not_isExtend⟩
  | loop taken _ _ _ ends _ ihInner ihRest | bind taken _ _ _ ends _ ihInner ihRest
  | block taken _ ends _ ihInner ihRest =>
    refine .rest ?_
    rw [List.forall_mem_cons, List.forall_mem_append, List.forall_mem_cons]
    exact ⟨not_isExtend_of_taken taken (by decide), ihInner.not_isExtend, ends.not_isExtend,
      ihRest.not_isExtend⟩
  | extend taken _ _ _ ih => exact .cons (.inr (isExtend_tag.2 ⟨_, taken⟩)) ih
  | elif _ ends _ _ ihInner ihRest =>
    refine .rest ?_
    rw [List.forall_mem_append, List.forall_mem_cons]
    exact ⟨ihInner.not_isExtend, ends.not_isExtend, ihRest.not_isExtend⟩
  | orelse _ ends _ last ihInner ihRest =>
    refine .rest ?_
    rw [List.forall_mem_append, List.forall_mem_cons, List.forall_mem_append, List.forall_mem_singleton]
    exact ⟨ihInner.not_isExtend, ends.not_isExtend, ihRest.not_isExtend, last.not_isExtend⟩
  | endif _ ends ih =>
    refine .rest ?_
    rw [List.forall_mem_append, List.forall_mem_singleton]
    exact ⟨ih.not_isExtend, ends.not_isExtend⟩

/-! ## More than one tag -/

/-- The first tag that extends a template. -/
theorem exists_first_extend {tokens : List Token} {token : Token} (mem : token ∈ tokens)
    (extend : IsExtend token) :
    ∃ before first after, tokens = before ++ first :: after ∧ (∀ t ∈ before, ¬ IsExtend t) ∧
      IsExtend first := by
  induction tokens with
  | nil => cases mem
  | cons head tokens ih =>
    by_cases here : IsExtend head
    · exact ⟨[], head, tokens, rfl, List.forall_mem_nil _, here⟩
    · have later : token ∈ tokens := by
        cases mem with
        | head => exact absurd extend here
        | tail _ mem => exact mem
      obtain ⟨before, first, after, rfl, none, is⟩ := ih later
      exact ⟨head :: before, first, after, rfl, List.forall_mem_cons.2 ⟨here, none⟩, is⟩

/-- Of the tags behind one that extends a template the next that extends one has only white space before
it. -/
theorem Front.twice {tokens before behind : List Token} {first token : Token}
    (front : Front true tokens) (split : tokens = before ++ first :: behind) (is : IsExtend first)
    (mem : token ∈ behind) (extend : IsExtend token) : ExtendsTwice tokens := by
  obtain ⟨between, second, after, rfl, none, is'⟩ := exists_first_extend mem extend
  refine ⟨before, first, between, second, after, split, is, fun t mem => ?_, is'⟩
  have split' : tokens = (before ++ first :: between) ++ second :: after := by
    rw [split, List.append_assoc, List.cons_append]
  rcases front.before split' is' t (by simp [mem]) with blank | extend
  · exact blank
  · exact absurd extend (none t mem)

/-- What extends a template only once does so with its first content. -/
theorem Front.extendsFirst_iff {tokens : List Token} (front : Front true tokens) :
    ExtendsFirst tokens ↔ ¬ ExtendsTwice tokens := by
  constructor
  · rintro first ⟨before, tag, between, second, after, split, is, -, is'⟩
    exact (first before tag _ split is).2 second (by simp) is'
  · intro once before token after split extend
    constructor
    · intro t mem
      rcases front.before split extend t mem with blank | is
      · exact blank
      · obtain ⟨front', rest, rfl⟩ := List.append_of_mem mem
        have split' : tokens = front' ++ t :: (rest ++ token :: after) := by
          rw [split, List.append_assoc, List.cons_append]
        exact absurd (front.twice split' is (by simp) extend) once
    · exact fun t mem is => once (front.twice split extend mem is)

end TextTemplate.Tag

namespace TextTemplate.Grammar

open Markup Tag

section Compile

variable {g : Grammar} {id : TemplateId} {source name : String} {defaults further : Dictionary Value}
  {t : Template}

/-- **Templates are extended at their front.**  In a template that is compiled there is nothing but white
space and tags that extend templates before such a tag.  So what extends a template is its first content,
and nothing behind it does, exactly if no two such tags have only white space between them. -/
theorem extend_at_front (compiled : g.compile id source name defaults further = .ok t)
    (standard : g.macros = Tag.standard) :
    (∀ before token after, tokenize source = before ++ token :: after → IsExtend token →
      ∀ t ∈ before, IsBlank t ∨ IsExtend t) ∧
    (ExtendsFirst (tokenize source) ↔ ¬ ExtendsTwice (tokenize source)) := by
  obtain ⟨-, nodes, blocks, -, derived⟩ := derives_of_compile compiled standard
  have front : Front true (tokenize source) := derived.front
  exact ⟨fun _ _ _ split extend => front.before split extend, front.extendsFirst_iff⟩

end Compile

/-! ### A template with one parent, and one with two -/

namespace Extending

def grammar : Grammar := .standard (.escaper 0)

/-- Extends a template behind white space. -/
def source : String := "\n\x7b% extends 'a' %\x7d\x7b% block x %\x7dy\x7b% endblock %\x7d"

def tokens : List Token :=
  [⟨1, .literal, "\n"⟩, ⟨2, .tag, "extends 'a'"⟩, ⟨2, .tag, "block x"⟩, ⟨2, .literal, "y"⟩,
    ⟨2, .tag, "endblock"⟩, ⟨2, .literal, ""⟩]

def nodes : List (Nat × Node) :=
  [(1, .text "\n"), (2, .extend ⟨"'a'", .literal (.text "a")⟩ ⟨[("x", ⟨unnamed, [(2, .text "y")]⟩)]⟩)]

/-- Extends two templates. -/
def twice : String := "\x7b% extends 'a' %\x7d\x7b% extends 'b' %\x7d"

def tokensTwice : List Token :=
  [⟨1, .tag, "extends 'a'"⟩, ⟨1, .tag, "extends 'b'"⟩, ⟨1, .literal, ""⟩]

/-- The second parent is lost. -/
def nodesTwice : List (Nat × Node) := [(1, .extend ⟨"'a'", .literal (.text "a")⟩ .empty)]

set_option maxRecDepth 100000 in
theorem tokenize_source : tokenize source = tokens := by
  cbv

set_option maxRecDepth 100000 in
theorem parse_source : parseTemplate Tag.standard source unnamed = .ok ⟨unnamed, nodes⟩ := by
  cbv

set_option maxRecDepth 100000 in
theorem tokenize_twice : tokenize twice = tokensTwice := by
  cbv

set_option maxRecDepth 100000 in
theorem parse_twice : parseTemplate Tag.standard twice unnamed = .ok ⟨unnamed, nodesTwice⟩ := by
  cbv

set_option maxRecDepth 100000 in
theorem isExtend_a (line : Nat) : IsExtend ⟨line, .tag, "extends 'a'"⟩ := ⟨"'a'", by cbv⟩

set_option maxRecDepth 100000 in
theorem isExtend_b (line : Nat) : IsExtend ⟨line, .tag, "extends 'b'"⟩ := ⟨"'b'", by cbv⟩

/-- The template is compiled, and before its tag there is white space. -/
theorem front_source : tokenize source = tokens ∧ ∀ t ∈ tokens.take 1, IsBlank t ∨ IsExtend t := by
  have compiled := compile_of_parse (g := grammar) ⟨none, 0⟩ .empty .empty parse_source
  have front := (extend_at_front compiled rfl).1
  rw [tokenize_source] at front
  exact ⟨tokenize_source, front _ ⟨2, .tag, "extends 'a'"⟩ _ rfl (isExtend_a 2)⟩

/-- A template with two parents is compiled. -/
theorem compiled_twice :
    (∃ t, grammar.compile ⟨none, 0⟩ twice unnamed .empty .empty = .ok t) ∧
      ¬ ExtendsFirst (tokenize twice) := by
  refine ⟨⟨_, compile_of_parse (g := grammar) ⟨none, 0⟩ .empty .empty parse_twice⟩, ?_⟩
  rw [tokenize_twice]
  intro first
  exact (first [] _ _ rfl (isExtend_a 1)).2 _ (.head _) (isExtend_b 1)

end Extending

end TextTemplate.Grammar
