import TextTemplate.Proofs.Tag.Front

/-!
# The blocks of a template

The registry of a template has one entry for each of its blocks (`Registers.isRegistry`): the blocks of
its tree, at any depth (`Derives.declared_eq`), which are the ones that its tags open
(`Derives.collects`).  A template that extends another one keeps no tree but for that registry
(`Derives.of_extend`).  A name that is declared twice has no registry, so such a template is not
compiled.
-/

namespace TextTemplate.Tag

open TextTemplate.Markup

/-! ## The blocks of a tree -/

mutual

/-- The blocks in nodes, at any depth, in the order in which they end. -/
def declared : List (Nat × Node) → Blocks
  | [] => []
  | (_, n) :: rest => nodeBlocks n ++ declared rest

/-- The blocks of a node.  A tag that extends a template has none: the blocks behind it are in its
registry. -/
def nodeBlocks : Node → Blocks
  | .text _ | .output _ | .print _ | .assign .. | .include _ | .super | .extend .. => []
  | .branch clauses orelse => clauseBlocks clauses ++ elseBlocks orelse
  | .loop _ _ body | .bind _ _ body => bodyBlocks body
  | .block x body => bodyBlocks body ++ [(x, body)]

/-- The blocks in a body. -/
def bodyBlocks : Fragment → Blocks
  | ⟨_, nodes⟩ => declared nodes

/-- The blocks in the clauses of `if`. -/
def clauseBlocks : List (Expression × Fragment) → Blocks
  | [] => []
  | (_, body) :: clauses => bodyBlocks body ++ clauseBlocks clauses

/-- The blocks in the body behind `else`. -/
def elseBlocks : Option Fragment → Blocks
  | none => []
  | some body => bodyBlocks body

end

/-- The blocks in what tokens are derived as. -/
def Form.declared : Form → Blocks
  | .nodes _ list => Tag.declared list
  | .clauses _ list orelse => clauseBlocks list ++ elseBlocks orelse

theorem Plain.nodeBlocks {tag : String} {n : Node} (h : Plain tag n) : Tag.nodeBlocks n = [] := by
  cases h <;> rw [Tag.nodeBlocks]

/-- **Nothing is declared but the blocks of the tree**, if no tag extends a template. -/
theorem Derives.declared_eq {name : String} {form : Form} {tokens : List Token} {blocks : Blocks}
    (d : Derives name form tokens blocks) (own : ∀ token ∈ tokens, ¬ IsExtend token) :
    form.declared = blocks := by
  induction d with
  | done => rfl
  | empty _ ih => exact ih (List.forall_mem_cons.1 own).2
  | text _ _ ih | output _ _ ih => exact ih (List.forall_mem_cons.1 own).2
  | plain node _ ih =>
    rw [← ih (List.forall_mem_cons.1 own).2]
    show nodeBlocks _ ++ declared _ = declared _
    rw [node.nodeBlocks, List.nil_append]
  | branch _ _ _ _ ihInner ihRest =>
    rw [List.forall_mem_cons, List.forall_mem_append] at own
    rw [← ihInner own.2.1, ← ihRest own.2.2]
    rfl
  | loop _ _ _ _ _ _ ihInner ihRest | bind _ _ _ _ _ _ ihInner ihRest =>
    rw [List.forall_mem_cons, List.forall_mem_append, List.forall_mem_cons] at own
    rw [← ihInner own.2.1, ← ihRest own.2.2.2]
    rfl
  | block _ _ _ _ ihInner ihRest =>
    rw [List.forall_mem_cons, List.forall_mem_append, List.forall_mem_cons] at own
    rw [← ihInner own.2.1, ← ihRest own.2.2.2]
    show (declared _ ++ [_]) ++ declared _ = declared _ ++ _ :: declared _
    rw [List.append_assoc, List.singleton_append]
  | extend taken => exact absurd (isExtend_tag.2 ⟨_, taken⟩) (own _ (.head _))
  | elif _ _ _ _ ihInner ihRest =>
    rw [List.forall_mem_append, List.forall_mem_cons] at own
    rw [← ihInner own.1, ← ihRest own.2.2]
    exact List.append_assoc ..
  | orelse _ _ _ _ ihInner ihRest =>
    rw [List.forall_mem_append, List.forall_mem_cons, List.forall_mem_append] at own
    rw [← ihInner own.1, ← ihRest own.2.2.1]
    show (declared _ ++ []) ++ declared _ = declared _ ++ declared _
    rw [List.append_nil]
  | endif _ _ ih =>
    rw [← ih (List.forall_mem_append.1 own).1]
    show (declared _ ++ []) ++ [] = declared _
    rw [List.append_nil, List.append_nil]

/-! ## Registries -/

/-- A registry with one entry for each of some blocks, and no others. -/
structure IsRegistry (registry : Dictionary Fragment) (blocks : Blocks) : Prop where
  once : (blocks.map Prod.fst).Nodup
  keys : registry.keys.Perm (blocks.map Prod.fst)
  get? : ∀ x body, registry.get? x = some body ↔ (x, body) ∈ blocks

theorem Registers.perm_keys {d d' : Dictionary Fragment} {blocks : Blocks}
    (h : Registers d blocks d') : d'.keys.Perm (blocks.map Prod.fst ++ d.keys) := by
  induction h with
  | nil => exact .refl _
  | cons new _ ih =>
    rw [List.map_cons, List.cons_append]
    exact (ih.trans ((Dictionary.perm_keys_insert _ new).append_left _)).trans List.perm_middle

/-- **Blocks that are declared make up a registry.** -/
theorem Registers.isRegistry {registry : Dictionary Fragment} {blocks : Blocks}
    (h : Registers .empty blocks registry) : IsRegistry registry blocks where
  once := (exists_registers_iff.1 ⟨registry, h⟩).2
  keys := by
    have keys := h.perm_keys
    rwa [show (Dictionary.empty : Dictionary Fragment).keys = [] from rfl, List.append_nil] at keys
  get? x body := by
    rw [h.get?_eq_some]
    exact or_iff_left fun old => nomatch old

/-! ## The tags of blocks -/

/-- Blocks that stand for the tags of blocks in some tokens, at any depth: one for each of them, with what
is derived from the tokens up to the tag that ends it. -/
structure Collects (name : String) (tokens : List Token) (blocks : Blocks) : Prop where
  names : (blocks.map Prod.fst).Perm (tokens.filterMap blockName?)
  body : ∀ before tag x rest, tokens = before ++ tag :: rest → blockName? tag = some x →
    ∃ inner ending after body within, rest = inner ++ ending :: after ∧
      Derives name (.nodes false body) inner within ∧ Ends ending (readEndblock? x) () ∧
      (x, ⟨name, body⟩) ∈ blocks

/-- What stands for a name that occurs once stands in one place. -/
theorem split_unique {α β : Type} {f : α → Option β} {before before' after after' : List α} {a a' : α}
    {b : β} (once : ((before ++ a :: after).filterMap f).Nodup)
    (same : before ++ a :: after = before' ++ a' :: after') (h : f a = some b) (h' : f a' = some b) :
    before = before' ∧ a = a' ∧ after = after' := by
  induction before generalizing before' with
  | nil =>
    cases before' with
    | nil => exact ⟨rfl, List.cons.inj same⟩
    | cons c before' =>
      obtain ⟨rfl, rfl⟩ := List.cons.inj same
      rw [List.nil_append, List.filterMap_cons_some h, List.nodup_cons] at once
      exact absurd (List.mem_filterMap.2 ⟨a', by simp, h'⟩) once.1
  | cons c before ih =>
    cases before' with
    | nil =>
      obtain ⟨rfl, rfl⟩ := List.cons.inj same
      rw [List.cons_append, List.filterMap_cons_some h', List.nodup_cons] at once
      exact absurd (List.mem_filterMap.2 ⟨a, by simp, h⟩) once.1
    | cons c' before' =>
      obtain ⟨rfl, rest⟩ := List.cons.inj same
      have once' : ((before ++ a :: after).filterMap f).Nodup := by
        rw [List.cons_append, List.filterMap_cons] at once
        split at once
        · exact once
        · exact (List.nodup_cons.1 once).2
      obtain ⟨rfl, rfl, rfl⟩ := ih once' rest
      exact ⟨rfl, rfl, rfl⟩

/-- **Blocks with different names are those that tags open.** -/
theorem Derives.collects {name : String} {form : Form} {tokens : List Token} {blocks : Blocks}
    (d : Derives name form tokens blocks) (once : (blocks.map Prod.fst).Nodup) :
    Collects name tokens blocks where
  names := d.names
  body := by
    intro before tag x rest split opens
    obtain ⟨kind, captures, taken, rfl⟩ := blockName?_eq_some.1 opens
    obtain ⟨body, mem⟩ := d.exists_mem_of_tag (by rw [split]; simp) kind taken
    have declares := d.declares mem
    rw [d.names.nodup_iff, split] at once
    generalize same : captures.group 0 = x at *
    cases declares with
    | @intro before' inner after line tag' captures' body within ending _ taken' derived ends split' =>
      -- there is no other tag for the name
      have opens' : blockName? ⟨line, .tag, tag'⟩ = some (captures'.group 0) :=
        blockName?_eq_some.2 ⟨rfl, captures', taken', rfl⟩
      obtain ⟨-, -, rfl⟩ := split_unique once (split.symm.trans split') opens opens'
      exact ⟨inner, ending, after, body, within, rfl, derived, ends, mem⟩

/-! ## Templates that extend another one -/

/-- White space as it stands in a tree; an empty literal has no node. -/
def spaces (tokens : List Token) : List (Nat × Node) :=
  (filled tokens).map fun token => (token.line, .text token.text)

/-- **Of what is behind the first tag that extends a template only the registry is kept.** -/
theorem Derives.of_extend {name : String} {start : Bool} {nodes : List (Nat × Node)}
    {before after : List Token} {tag : Token} {blocks : Blocks}
    (d : Derives name (.nodes start nodes) (before ++ tag :: after) blocks)
    (blank : ∀ t ∈ before, IsBlank t) (extend : IsExtend tag) :
    ∃ parent registry others, nodes = spaces before ++ [(tag.line, .extend parent registry)] ∧
      Derives name (.nodes true others) after blocks ∧ Registers .empty blocks registry := by
  induction before generalizing start nodes with
  | nil =>
    rw [List.nil_append] at d
    cases d with
    | empty | text => exact absurd extend not_isExtend_literal
    | output => exact absurd extend not_isExtend_expression
    | plain node => exact absurd extend (node.not_isExtend _)
    | branch taken | loop taken | bind taken | block taken =>
      exact absurd extend (not_isExtend_of_taken taken (by decide))
    | extend _ _ others registers => exact ⟨_, _, _, rfl, others, registers⟩
  | cons first before ih =>
    rw [List.forall_mem_cons] at blank
    obtain ⟨line, kind, text⟩ := first
    obtain rfl : kind = .literal := blank.1.1
    rw [List.cons_append] at d
    cases d with
    | empty rest =>
      obtain ⟨parent, registry, others, rfl, behind⟩ := ih rest blank.2
      exact ⟨parent, registry, others, rfl, behind⟩
    | text full rest =>
      obtain ⟨parent, registry, others, rfl, behind⟩ := ih rest blank.2
      refine ⟨parent, registry, others, ?_, behind⟩
      unfold spaces
      rw [filled_cons (by simp [full])]
      rfl

end TextTemplate.Tag

namespace TextTemplate.Grammar

open Markup Tag

section Compile

variable {g : Grammar} {id : TemplateId} {source name : String} {defaults further : Dictionary Value}

/-- The run that parses a template ends with a registry of its blocks. -/
theorem run_of_compile {t : Template} (standard : g.macros = Tag.standard)
    (compiled : g.compile id source name defaults further = .ok t) :
    ∃ s nodes blocks, (parseAll (parseChunk g.macros)).run (.start source name) = .ok t.body s ∧
      t.body = ⟨name, nodes⟩ ∧ Derives name (.nodes true nodes) (tokenize source) blocks ∧
      Registers .empty blocks s.blocks := by
  obtain ⟨body, parsed, rfl⟩ := compile_eq_ok compiled
  obtain ⟨s, run⟩ := parseTemplate_eq_ok.1 parsed
  rw [standard] at run ⊢
  obtain ⟨nodes, blocks, same, derived, registers⟩ := run_sound run
  exact ⟨s, nodes, blocks, run, same, derived, registers⟩

/-- **The registry is the set of the declared blocks.**  For a template that extends no other one, the run
that parses it ends with a registry of the blocks in the tree, at any depth.  For a template with one tag
that extends another one, that tag has a registry of the blocks that are opened behind it, each with its
body.  A template with two tags that open blocks of one name is not compiled. -/
theorem registry_of_blocks (standard : g.macros = Tag.standard) :
    (∀ t, g.compile id source name defaults further = .ok t →
      (∀ token ∈ tokenize source, ¬ IsExtend token) →
      ∃ s, (parseAll (parseChunk g.macros)).run (.start source name) = .ok t.body s ∧
        IsRegistry s.blocks (declared t.body.nodes) ∧
        Collects name (tokenize source) (declared t.body.nodes)) ∧
    (∀ t before tag after, g.compile id source name defaults further = .ok t →
      tokenize source = before ++ tag :: after → IsExtend tag →
      (∀ token ∈ before ++ after, ¬ IsExtend token) →
      ∃ parent registry blocks,
        t.body.nodes = spaces before ++ [(tag.line, .extend parent registry)] ∧
        IsRegistry registry blocks ∧ Collects name after blocks) ∧
    ∀ before first between second after x,
      tokenize source = before ++ first :: (between ++ second :: after) →
      blockName? first = some x → blockName? second = some x →
      ∃ fault, g.compile id source name defaults further = .error fault := by
  refine ⟨?_, ?_, ?_⟩
  · intro t compiled own
    obtain ⟨s, nodes, blocks, run, same, derived, registers⟩ := run_of_compile standard compiled
    have all : declared t.body.nodes = blocks := by
      rw [same]
      exact derived.declared_eq own
    rw [all]
    have is := registers.isRegistry
    exact ⟨s, run, is, derived.collects is.once⟩
  · intro t before tag after compiled split extend once
    obtain ⟨s, nodes, blocks, run, same, derived, -⟩ := run_of_compile standard compiled
    rw [List.forall_mem_append] at once
    have blank : ∀ t ∈ before, IsBlank t := fun t mem =>
      (derived.front.before split extend t mem).resolve_right (once.1 t mem)
    rw [split] at derived
    obtain ⟨parent, registry, others, rfl, behind, registers⟩ := derived.of_extend blank extend
    have is := registers.isRegistry
    exact ⟨parent, registry, blocks, by rw [same], is, behind.collects is.once⟩
  · intro before first between second after x split opens opens'
    cases compiled : g.compile id source name defaults further with
    | error fault => exact ⟨fault, rfl⟩
    | ok t =>
      obtain ⟨s, nodes, blocks, -, -, derived, registers⟩ := run_of_compile standard compiled
      have once := derived.names.nodup_iff.1 registers.isRegistry.once
      have split' : tokenize source = (before ++ first :: between) ++ second :: after := by
        rw [split, List.append_assoc, List.cons_append]
      -- the two tags would stand in the same place
      rw [split] at once
      have same := (split_unique once (split.symm.trans split') opens opens').1
      have := congrArg List.length same
      rw [List.length_append, List.length_cons] at this
      omega

end Compile

/-! ### Blocks in blocks -/

namespace Nested

def grammar : Grammar := .standard (.escaper 0)

/-- A block in a block in a clause. -/
def source : String :=
  "\x7b% if a %\x7d\x7b% block x %\x7d\n\x7b% block y %\x7db\x7b% endblock %\x7d\x7b% endblock x %\x7d" ++
    "\x7b% endif %\x7d"

def tokens : List Token :=
  [⟨1, .tag, "if a"⟩, ⟨1, .tag, "block x"⟩, ⟨1, .literal, "\n"⟩, ⟨2, .tag, "block y"⟩, ⟨2, .literal, "b"⟩,
    ⟨2, .tag, "endblock"⟩, ⟨2, .tag, "endblock x"⟩, ⟨2, .tag, "endif"⟩, ⟨2, .literal, ""⟩]

def inner : Fragment := ⟨unnamed, [(2, .text "b")]⟩

def outer : Fragment := ⟨unnamed, [(1, .text "\n"), (2, .block "y" inner)]⟩

def nodes : List (Nat × Node) :=
  [(1, .branch [(⟨"a", .name "a"⟩, ⟨unnamed, [(1, .block "x" outer)]⟩)] none)]

/-- A block in a block of its name, in a template that extends another one. -/
def repeated : String :=
  "\x7b% extends 'a' %\x7d\x7b% block x %\x7d\x7b% block x %\x7d\x7b% endblock %\x7d\x7b% endblock %\x7d"

def tokensRepeated : List Token :=
  [⟨1, .tag, "extends 'a'"⟩, ⟨1, .tag, "block x"⟩, ⟨1, .tag, "block x"⟩, ⟨1, .tag, "endblock"⟩,
    ⟨1, .tag, "endblock"⟩, ⟨1, .literal, ""⟩]

set_option maxRecDepth 100000 in
theorem tokenize_source : tokenize source = tokens := by
  cbv

set_option maxRecDepth 100000 in
theorem parse_source : parseTemplate Tag.standard source unnamed = .ok ⟨unnamed, nodes⟩ := by
  cbv

set_option maxRecDepth 100000 in
theorem tokenize_repeated : tokenize repeated = tokensRepeated := by
  cbv

set_option maxRecDepth 100000 in
theorem blockName?_x (line : Nat) : blockName? ⟨line, .tag, "block x"⟩ = some "x" := by
  cbv

/-- The registry has both blocks, and a block in another one of its name is refused. -/
theorem registry_source :
    (∃ s, (parseAll (parseChunk grammar.macros)).run (.start source unnamed) = .ok ⟨unnamed, nodes⟩ s ∧
      IsRegistry s.blocks [("y", inner), ("x", outer)]) ∧
    (∃ parent registry blocks, Extending.nodes = [(1, .text "\n"), (2, .extend parent registry)] ∧
      IsRegistry registry blocks ∧ Collects unnamed (Extending.tokens.drop 2) blocks) ∧
    ∃ fault, grammar.compile ⟨none, 0⟩ repeated unnamed .empty .empty = .error fault := by
  refine ⟨?_, ?_, ?_⟩
  · have compiled := compile_of_parse (g := grammar) ⟨none, 0⟩ .empty .empty parse_source
    have own : ∀ token ∈ tokenize source, ¬ IsExtend token := by
      rw [tokenize_source]
      intro token mem
      simp only [tokens, List.mem_cons, List.not_mem_nil, or_false] at mem
      rcases mem with rfl | rfl | rfl | rfl | rfl | rfl | rfl | rfl | rfl <;>
        exact fun ⟨_, is⟩ => nomatch is
    obtain ⟨s, run, registry, -⟩ := (registry_of_blocks rfl).1 _ compiled own
    exact ⟨s, run, registry⟩
  · have compiled := compile_of_parse (g := grammar) ⟨none, 0⟩ .empty .empty Extending.parse_source
    have once : ∀ token ∈ Extending.tokens.take 1 ++ Extending.tokens.drop 2, ¬ IsExtend token := by
      intro token mem
      simp only [Extending.tokens, List.take, List.drop, List.mem_append, List.mem_cons,
        List.not_mem_nil, or_false] at mem
      rcases mem with rfl | rfl | rfl | rfl | rfl <;> exact fun ⟨_, is⟩ => nomatch is
    obtain ⟨parent, registry, blocks, same, is, collects⟩ :=
      (registry_of_blocks rfl).2.1 _ [⟨1, .literal, "\n"⟩] ⟨2, .tag, "extends 'a'"⟩ _ compiled
        Extending.tokenize_source (Extending.isExtend_a 2) once
    exact ⟨parent, registry, blocks, same, is, collects⟩
  · exact (registry_of_blocks rfl).2.2 [⟨1, .tag, "extends 'a'"⟩] _ [] _ _ "x" tokenize_repeated
      (blockName?_x 1) (blockName?_x 1)

end Nested

end TextTemplate.Grammar
