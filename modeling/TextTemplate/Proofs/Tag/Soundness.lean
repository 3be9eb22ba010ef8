import TextTemplate.Proofs.Steps
import TextTemplate.Proofs.Tag.Derivation

/-!
# The parser follows the grammar

Whatever the parser accepts with the standard tags is derived: a chunk from the tokens up to the tag
that ends it (`Sound`), and so a whole template from all of its tokens (`parseTemplate_sound`).  The
proof goes along the calls of the parser.  Each step is described by what it takes from the tokens and
what it adds to the blocks (`Moves`), with the chunk parser it is given as a parameter.
-/

namespace TextTemplate.Tag

open TextTemplate.Markup

/-! ## Steps of a run that succeed -/

section Steps

variable {α : Type} {s s' : RunState}

theorem failSyntax_ne_ok {cause : SyntaxFault} {a : α} :
    (failSyntax cause : Run α) s ≠ .ok a s' := fun h => nomatch h

theorem atLine_eq_ok {line : Nat} {step : Run α} {a : α} :
    atLine line step s = .ok a s' ↔ step s = .ok a s' := by
  unfold atLine
  cases step s with
  | ok _ _ => exact Iff.rfl
  | error _ _ => exact ⟨(fun h => nomatch h), fun h => nomatch h⟩

theorem expression_eq_ok {source : String} {e : Expression} :
    expression source s = .ok e s' ↔ Expression.compile source = .ok e ∧ s = s' := by
  unfold expression
  cases Expression.compile source with
  | ok e' => rw [pure_eq_ok, Except.ok.injEq]
  | error cause => exact ⟨fun h => absurd h failSyntax_ne_ok, fun h => nomatch h.1⟩

theorem target_eq_ok {source : String} {t : Target} :
    target source s = .ok t s' ↔ Target.parse source = .ok t ∧ s = s' := by
  unfold target
  cases Target.parse source with
  | ok t' => rw [pure_eq_ok, Except.ok.injEq]
  | error cause => exact ⟨fun h => absurd h failSyntax_ne_ok, fun h => nomatch h.1⟩

theorem fragment_eq_ok {nodes : List (Nat × Node)} {f : Fragment} :
    fragment nodes s = .ok f s' ↔ ⟨s.name, nodes⟩ = f ∧ s = s' := by
  show EStateM.Result.ok _ _ = _ ↔ _
  rw [EStateM.Result.ok.injEq]

theorem inBody_eq_ok {step : Run α} {a : α} (h : inBody step s = .ok a s') :
    ∃ t, step { s with depth := s.depth + 1 } = .ok a t ∧ s' = { t with depth := t.depth - 1 } := by
  unfold inBody at h
  cases hs : step { s with depth := s.depth + 1 } with
  | ok b t =>
    rw [hs] at h
    cases h
    exact ⟨t, rfl, rfl⟩
  | error fault t =>
    rw [hs] at h
    cases h

end Steps

/-! ## What a step does to a run -/

/-- Whether a tag that extends a template may stand here. -/
def RunState.atStart (s : RunState) : Bool := s.depth = 0 && !s.seenContent

/-- A step that takes tokens and declares blocks. -/
structure Moves (s : RunState) (taken : List Token) (blocks : Blocks) (s' : RunState) : Prop where
  tokens : s.tokens = taken ++ s'.tokens
  registers : Registers s.blocks blocks s'.blocks
  name : s'.name = s.name
  depth : s'.depth = s.depth
  seen : s.seenContent = true → s'.seenContent = true

theorem Moves.refl (s : RunState) : Moves s [] [] s :=
  ⟨rfl, .nil _, rfl, rfl, id⟩

theorem Moves.trans {s s' s'' : RunState} {taken more : List Token} {blocks later : Blocks}
    (first : Moves s taken blocks s') (second : Moves s' more later s'') :
    Moves s (taken ++ more) (blocks ++ later) s'' where
  tokens := by rw [first.tokens, second.tokens, List.append_assoc]
  registers := first.registers.append second.registers
  name := second.name.trans first.name
  depth := second.depth.trans first.depth
  seen h := second.seen (first.seen h)

theorem Moves.length_le {s s' : RunState} {taken : List Token} {blocks : Blocks}
    (h : Moves s taken blocks s') : s'.tokens.length ≤ s.tokens.length := by
  rw [h.tokens, List.length_append]
  omega

theorem atTemplateStart_eq_ok {s s' : RunState} {b : Bool} :
    atTemplateStart s = .ok b s' ↔ s.atStart = b ∧ s = s' := by
  show EStateM.Result.ok _ _ = _ ↔ _
  rw [EStateM.Result.ok.injEq]
  rfl

/-- What a step declares before any content is all that is declared. -/
def RunState.Fresh (s : RunState) : Prop := s.atStart = true → s.blocks = .empty

/-- Where a chunk stops: behind some tokens and a tag that no macro takes, or at the end. -/
def Stops (c : Chunk) (s : RunState) (taken : List Token) (blocks : Blocks) (s' : RunState) :
    Prop :=
  match c.tag with
  | none => s'.tokens = [] ∧ Moves s taken blocks s'
  | some tag => taken? tag = none ∧ Moves s (taken ++ [⟨c.line, .tag, tag⟩]) blocks s'

theorem Stops.before {c : Chunk} {s t s' : RunState} {first taken : List Token}
    {blocks later : Blocks} (moves : Moves s first blocks t) (stops : Stops c t taken later s') :
    Stops c s (first ++ taken) (blocks ++ later) s' := by
  unfold Stops at stops ⊢
  cases tag : c.tag with
  | none =>
    rw [tag] at stops
    exact ⟨stops.1, moves.trans stops.2⟩
  | some tag' =>
    rw [tag] at stops
    constructor
    · exact stops.1
    · rw [List.append_assoc]
      exact moves.trans stops.2

/-- A parser of chunks that follows the grammar while there are fewer tokens than a bound: the nodes
are derived from the tokens up to where the chunk stops. -/
def Sound (bound : Nat) (chunk : Run Chunk) : Prop :=
  ∀ s c s', s.tokens.length < bound → s.Fresh → chunk s = .ok c s' →
    ∃ taken blocks, Derives s.name (.nodes s.atStart c.nodes) taken blocks ∧
      Stops c s taken blocks s'

section Macros

variable {bound : Nat} {chunk : Run Chunk} (sound : Sound bound chunk) {s s' : RunState}

include sound

/-- A body is derived, and a tag ends it that is read as its end. -/
theorem parseBody_sound {α : Type} {opening closing : String} {ending? : String → Option α}
    {ending : Terminator α} {body : Fragment} (short : s.tokens.length < bound)
    (h : parseBody chunk opening closing ending? s = .ok (ending, body) s') :
    ∃ inner nodes last blocks, body = ⟨s.name, nodes⟩ ∧
      Derives s.name (.nodes false nodes) inner blocks ∧ Ends last ending? ending.what ∧
      Moves s (inner ++ [last]) blocks s' := by
  obtain ⟨c, t, parsed, h⟩ := bind_eq_ok.1 h
  obtain ⟨u, run, rfl⟩ := inBody_eq_ok parsed
  -- inside of a body nothing counts as the start
  have inside : RunState.atStart { s with depth := s.depth + 1 } = false := by
    simp [RunState.atStart]
  obtain ⟨taken, blocks, derived, rest⟩ := sound { s with depth := s.depth + 1 } c u short
    (fun start => by rw [inside] at start; cases start) run
  rw [inside] at derived
  unfold Stops at rest
  cases tag : c.tag with
  | none =>
    rw [tag] at h
    exact absurd h failSyntax_ne_ok
  | some tag' =>
    rw [tag] at h rest
    obtain ⟨untaken, moves⟩ := rest
    dsimp only at h
    cases what : ending? tag' with
    | none =>
      rw [what] at h
      exact absurd (atLine_eq_ok.1 h) failSyntax_ne_ok
    | some what' =>
      rw [what] at h
      obtain ⟨f, t, made, h⟩ := bind_eq_ok.1 h
      obtain ⟨rfl, rfl⟩ := fragment_eq_ok.1 made
      obtain ⟨eq, rfl⟩ := pure_eq_ok.1 h
      cases eq
      refine ⟨taken, c.nodes, ⟨c.line, .tag, tag'⟩, blocks, ?_, derived, ⟨rfl, untaken, what⟩, ?_⟩
      · dsimp only
        rw [moves.name]
      · refine ⟨moves.tokens, moves.registers, moves.name, ?_, moves.seen⟩
        dsimp only
        rw [moves.depth]
        rfl

theorem parseElse_sound {body : Fragment} (short : s.tokens.length < bound)
    (h : parseElse chunk s = .ok body s') :
    ∃ inner nodes last blocks, body = ⟨s.name, nodes⟩ ∧
      Derives s.name (.nodes false nodes) inner blocks ∧ Ends last Clause.read? .endif ∧
      Moves s (inner ++ [last]) blocks s' := by
  obtain ⟨⟨ending, body'⟩, t, parsed, h⟩ := bind_eq_ok.1 h
  obtain ⟨inner, nodes, last, blocks, same, derived, ends, moves⟩ :=
    parseBody_sound sound short parsed
  dsimp only at h
  cases what : ending.what with
  | elif _ =>
    rw [what] at h
    exact absurd (atLine_eq_ok.1 h) failSyntax_ne_ok
  | orelse =>
    rw [what] at h
    exact absurd (atLine_eq_ok.1 h) failSyntax_ne_ok
  | endif =>
    rw [what] at h ends
    obtain ⟨rfl, rfl⟩ := pure_eq_ok.1 h
    exact ⟨inner, nodes, last, blocks, same, derived, ends, moves⟩

theorem parseClauses_sound {steps : Nat} {test : Expression}
    {clauses : List (Expression × Fragment)} {orelse : Option Fragment}
    (short : s.tokens.length < bound)
    (h : parseClauses chunk steps test s = .ok (clauses, orelse) s') :
    ∃ inner blocks, Derives s.name (.clauses test clauses orelse) inner blocks ∧
      Moves s inner blocks s' := by
  induction steps generalizing test clauses orelse s with
  | zero => exact absurd h failSyntax_ne_ok
  | succ steps ih =>
    obtain ⟨⟨ending, body⟩, t, parsed, h⟩ := bind_eq_ok.1 h
    obtain ⟨inner, nodes, last, blocks, rfl, derived, ends, moves⟩ :=
      parseBody_sound sound short parsed
    have short' : t.tokens.length < bound := Nat.lt_of_le_of_lt moves.length_le short
    dsimp only at h
    cases what : ending.what with
    | elif source =>
      rw [what] at h ends
      obtain ⟨next, u, read, h⟩ := bind_eq_ok.1 h
      obtain ⟨compiled, rfl⟩ := expression_eq_ok.1 (atLine_eq_ok.1 read)
      obtain ⟨⟨later, orelse'⟩, u, parsed, h⟩ := bind_eq_ok.1 h
      obtain ⟨eq, rfl⟩ := pure_eq_ok.1 h
      cases eq
      obtain ⟨tokens, more, rest, moves'⟩ := ih short' parsed
      rw [moves.name] at rest
      refine ⟨inner ++ last :: tokens, blocks ++ more, .elif derived ends compiled rest, ?_⟩
      have := moves.trans moves'
      rwa [List.append_assoc] at this
    | orelse =>
      rw [what] at h ends
      obtain ⟨other, u, parsed, h⟩ := bind_eq_ok.1 h
      obtain ⟨eq, rfl⟩ := pure_eq_ok.1 h
      cases eq
      obtain ⟨tokens, nodes', last', more, rfl, derived', ends', moves'⟩ :=
        parseElse_sound sound short' parsed
      rw [moves.name] at derived' ⊢
      refine ⟨inner ++ last :: (tokens ++ [last']), blocks ++ more,
        .orelse derived ends derived' ends', ?_⟩
      have := moves.trans moves'
      rwa [List.append_assoc] at this
    | endif =>
      rw [what] at h ends
      obtain ⟨eq, rfl⟩ := pure_eq_ok.1 h
      cases eq
      exact ⟨inner ++ [last], blocks, .endif derived ends, moves⟩

end Macros

/-! ## Tags -/

/-- What the macro of a tag does: it takes the tokens of the node, or, if the node extends a template,
all tokens. -/
inductive Built (s : RunState) (tag : String) (n : Node) (s' : RunState) : Prop
  | node {inner : List Token} {blocks : Blocks} : Moves s inner blocks s' →
      (∀ start line nodes rest later, Derives s.name (.nodes false nodes) rest later →
        Derives s.name (.nodes start ((line, n) :: nodes)) (⟨line, .tag, tag⟩ :: (inner ++ rest))
          (blocks ++ later)) →
      Built s tag n s'
  | extend {inner : List Token} {blocks : Blocks} : s.atStart = true → s'.tokens = [] →
      Moves s inner blocks s' →
      (∀ line, Derives s.name (.nodes true [(line, n)]) (⟨line, .tag, tag⟩ :: inner) blocks) →
      Built s tag n s'

theorem built_of_plain {s : RunState} {tag : String} {n : Node} (h : Plain tag n) :
    Built s tag n s :=
  .node (.refl s) fun _ _ _ _ _ rest => .plain h rest

section Macros

variable {bound : Nat} {chunk : Run Chunk} (sound : Sound bound chunk) {s s' : RunState}
  {tag : String} {captures : Captures} {n : Node}

theorem setTag_built (taken : taken? tag = some (setTag, captures))
    (h : setTag.build chunk captures s = .ok n s') : Built s tag n s' := by
  obtain ⟨e, t, read, h⟩ := bind_eq_ok.1 h
  obtain ⟨compiled, rfl⟩ := expression_eq_ok.1 read
  obtain ⟨target, t, read, h⟩ := bind_eq_ok.1 h
  obtain ⟨parsed, rfl⟩ := target_eq_ok.1 read
  obtain ⟨rfl, rfl⟩ := pure_eq_ok.1 h
  exact built_of_plain (.assign taken compiled parsed)

theorem printTag_built (taken : taken? tag = some (printTag, captures))
    (h : printTag.build chunk captures s = .ok n s') : Built s tag n s' := by
  obtain ⟨e, t, read, h⟩ := bind_eq_ok.1 h
  obtain ⟨compiled, rfl⟩ := expression_eq_ok.1 read
  obtain ⟨rfl, rfl⟩ := pure_eq_ok.1 h
  exact built_of_plain (.print taken compiled)

theorem includeTag_built (taken : taken? tag = some (includeTag, captures))
    (h : includeTag.build chunk captures s = .ok n s') : Built s tag n s' := by
  obtain ⟨e, t, read, h⟩ := bind_eq_ok.1 h
  obtain ⟨compiled, rfl⟩ := expression_eq_ok.1 read
  obtain ⟨rfl, rfl⟩ := pure_eq_ok.1 h
  exact built_of_plain (.include taken compiled)

theorem superTag_built (taken : taken? tag = some (superTag, captures))
    (h : superTag.build chunk captures s = .ok n s') : Built s tag n s' := by
  obtain ⟨rfl, rfl⟩ := pure_eq_ok.1 h
  exact built_of_plain (.super taken)

include sound

theorem ifTag_built (short : s.tokens.length < bound)
    (taken : taken? tag = some (ifTag, captures))
    (h : ifTag.build chunk captures s = .ok n s') : Built s tag n s' := by
  obtain ⟨test, t, read, h⟩ := bind_eq_ok.1 h
  obtain ⟨compiled, rfl⟩ := expression_eq_ok.1 read
  obtain ⟨u, t, got, h⟩ := bind_eq_ok.1 h
  obtain ⟨rfl, rfl⟩ := get_eq_ok.1 got
  obtain ⟨⟨clauses, orelse⟩, t, parsed, h⟩ := bind_eq_ok.1 h
  obtain ⟨rfl, rfl⟩ := pure_eq_ok.1 h
  obtain ⟨inner, blocks, derived, moves⟩ := parseClauses_sound sound short parsed
  exact .node moves fun _ _ _ _ _ rest => .branch taken compiled derived rest

theorem forTag_built (short : s.tokens.length < bound)
    (taken : taken? tag = some (forTag, captures))
    (h : forTag.build chunk captures s = .ok n s') : Built s tag n s' := by
  obtain ⟨target, t, read, h⟩ := bind_eq_ok.1 h
  obtain ⟨parsed, rfl⟩ := target_eq_ok.1 read
  obtain ⟨e, t, read, h⟩ := bind_eq_ok.1 h
  obtain ⟨compiled, rfl⟩ := expression_eq_ok.1 read
  obtain ⟨⟨ending, body⟩, t, run, h⟩ := bind_eq_ok.1 h
  obtain ⟨rfl, rfl⟩ := pure_eq_ok.1 h
  obtain ⟨inner, nodes, last, blocks, rfl, derived, ends, moves⟩ := parseBody_sound sound short run
  refine .node moves fun _ _ _ _ _ rest => ?_
  rw [List.append_assoc]
  exact .loop taken parsed compiled derived ends rest

theorem withTag_built (short : s.tokens.length < bound)
    (taken : taken? tag = some (withTag, captures))
    (h : withTag.build chunk captures s = .ok n s') : Built s tag n s' := by
  obtain ⟨e, t, read, h⟩ := bind_eq_ok.1 h
  obtain ⟨compiled, rfl⟩ := expression_eq_ok.1 read
  obtain ⟨target, t, read, h⟩ := bind_eq_ok.1 h
  obtain ⟨parsed, rfl⟩ := target_eq_ok.1 read
  obtain ⟨⟨ending, body⟩, t, run, h⟩ := bind_eq_ok.1 h
  obtain ⟨rfl, rfl⟩ := pure_eq_ok.1 h
  obtain ⟨inner, nodes, last, blocks, rfl, derived, ends, moves⟩ := parseBody_sound sound short run
  refine .node moves fun _ _ _ _ _ rest => ?_
  rw [List.append_assoc]
  exact .bind taken compiled parsed derived ends rest

omit sound in
/-- Declaring a block takes no tokens. -/
theorem registerBlock_moves {x : String} {body : Fragment} {u : Unit}
    (h : registerBlock x body s = .ok u s') : Moves s [] [(x, body)] s' := by
  obtain ⟨t, t', got, h⟩ := bind_eq_ok.1 h
  obtain ⟨rfl, rfl⟩ := get_eq_ok.1 got
  cases known : s.blocks.get? x with
  | some _ =>
    rw [if_pos (by rw [Dictionary.contains, known]; rfl)] at h
    obtain ⟨_, _, failed, _⟩ := bind_eq_ok.1 h
    exact absurd failed failSyntax_ne_ok
  | none =>
    rw [if_neg (by rw [Dictionary.contains, known]; decide)] at h
    obtain rfl := modify_eq_ok.1 h
    exact ⟨rfl, .cons known (.nil _), rfl, rfl, id⟩

theorem blockTag_built (short : s.tokens.length < bound)
    (taken : taken? tag = some (blockTag, captures))
    (h : blockTag.build chunk captures s = .ok n s') : Built s tag n s' := by
  obtain ⟨⟨ending, body⟩, t, run, h⟩ := bind_eq_ok.1 h
  obtain ⟨u, t', registered, h⟩ := bind_eq_ok.1 h
  obtain ⟨rfl, rfl⟩ := pure_eq_ok.1 h
  obtain ⟨inner, nodes, last, blocks, rfl, derived, ends, moves⟩ := parseBody_sound sound short run
  have all := moves.trans (registerBlock_moves registered)
  rw [List.append_nil] at all
  refine .node all fun _ _ _ _ _ rest => ?_
  rw [List.append_assoc, List.append_assoc]
  exact .block taken derived ends rest

/-- All that is left is derived, and taken. -/
theorem parseAll_sound {body : Fragment} (short : s.tokens.length < bound) (fresh : s.Fresh)
    (h : parseAll chunk s = .ok body s') :
    ∃ tokens nodes blocks, body = ⟨s.name, nodes⟩ ∧
      Derives s.name (.nodes s.atStart nodes) tokens blocks ∧ s'.tokens = [] ∧
      Moves s tokens blocks s' := by
  obtain ⟨c, t, parsed, h⟩ := bind_eq_ok.1 h
  obtain ⟨tokens, blocks, derived, rest⟩ := sound s c t short fresh parsed
  unfold Stops at rest
  cases tag : c.tag with
  | some tag' =>
    rw [tag] at h
    exact absurd (atLine_eq_ok.1 h) failSyntax_ne_ok
  | none =>
    rw [tag] at h rest
    obtain ⟨ended, moves⟩ := rest
    obtain ⟨rfl, rfl⟩ := fragment_eq_ok.1 h
    exact ⟨tokens, c.nodes, blocks, by rw [moves.name], derived, ended, moves⟩

theorem extendsTag_built (short : s.tokens.length < bound) (fresh : s.Fresh)
    (taken : taken? tag = some (extendsTag, captures))
    (h : extendsTag.build chunk captures s = .ok n s') : Built s tag n s' := by
  obtain ⟨start, t, asked, h⟩ := bind_eq_ok.1 h
  obtain ⟨here, rfl⟩ := atTemplateStart_eq_ok.1 asked
  cases start with
  | false =>
    obtain ⟨_, _, failed, _⟩ := bind_eq_ok.1 h
    exact absurd failed failSyntax_ne_ok
  | true =>
    obtain ⟨parent, t, read, h⟩ := bind_eq_ok.1 h
    obtain ⟨compiled, rfl⟩ := expression_eq_ok.1 read
    obtain ⟨body, t, run, h⟩ := bind_eq_ok.1 h
    obtain ⟨u, t', got, h⟩ := bind_eq_ok.1 h
    obtain ⟨rfl, rfl⟩ := get_eq_ok.1 got
    obtain ⟨rfl, rfl⟩ := pure_eq_ok.1 h
    obtain ⟨tokens, nodes, blocks, -, derived, ended, moves⟩ := parseAll_sound sound short fresh run
    have registers := moves.registers
    rw [fresh here] at registers
    rw [here] at derived
    exact .extend here ended moves fun _ => .extend taken compiled derived registers

/-- What the macro of a tag builds is derived. -/
theorem built_of_taken {m : Macro} (short : s.tokens.length < bound) (fresh : s.Fresh)
    (taken : taken? tag = some (m, captures)) (h : m.build chunk captures s = .ok n s') :
    Built s tag n s' := by
  obtain ⟨m', mem, eq⟩ := List.exists_of_findSome?_eq_some taken
  obtain ⟨_, _, same⟩ := Option.map_eq_some_iff.1 eq
  obtain rfl : m' = m := congrArg Prod.fst same
  simp only [standard_eq, List.mem_cons, List.not_mem_nil, or_false] at mem
  rcases mem with rfl | rfl | rfl | rfl | rfl | rfl | rfl | rfl | rfl
  · exact setTag_built taken h
  · exact printTag_built taken h
  · exact ifTag_built sound short taken h
  · exact forTag_built sound short taken h
  · exact withTag_built sound short taken h
  · exact includeTag_built taken h
  · exact blockTag_built sound short taken h
  · exact superTag_built taken h
  · exact extendsTag_built sound short fresh taken h

end Macros

/-! ## Chunks -/

theorem noteContent_eq_ok {s s' : RunState} {u : Unit} :
    noteContent s = .ok u s' ↔ { s with seenContent := true } = s' := modify_eq_ok

theorem dispatch_eq_ok {chunk : Run Chunk} {tag : String} {s s' : RunState} {found : Option Node}
    (h : dispatch standard chunk tag s = .ok found s') :
    (found = none ∧ taken? tag = none ∧ s = s') ∨ ∃ m captures n, found = some n ∧
      taken? tag = some (m, captures) ∧ m.build chunk captures s = .ok n s' := by
  unfold dispatch at h
  cases taken : taken? tag with
  | none =>
    rw [show standard.findSome? _ = none from taken] at h
    obtain ⟨rfl, rfl⟩ := pure_eq_ok.1 h
    exact .inl ⟨rfl, rfl, rfl⟩
  | some found' =>
    obtain ⟨m, captures⟩ := found'
    rw [show standard.findSome? _ = some (m, captures) from taken] at h
    obtain ⟨n, t, built, h⟩ := bind_eq_ok.1 h
    obtain ⟨rfl, rfl⟩ := pure_eq_ok.1 h
    exact .inr ⟨m, captures, n, rfl, rfl, built⟩

theorem Derives.of_nil {name : String} {start : Bool} {nodes : List (Nat × Node)} {blocks : Blocks}
    (d : Derives name (.nodes start nodes) [] blocks) : nodes = [] ∧ blocks = [] := by
  cases d
  exact ⟨rfl, rfl⟩

theorem Stops.eq_nil {c : Chunk} {s s' : RunState} {taken : List Token} {blocks : Blocks}
    (stops : Stops c s taken blocks s') (ended : s.tokens = []) : taken = [] := by
  unfold Stops at stops
  cases tag : c.tag with
  | none =>
    rw [tag] at stops
    have := stops.2.tokens
    rw [ended] at this
    exact (List.append_eq_nil_iff.1 this.symm).1
  | some tag' =>
    rw [tag] at stops
    have := stops.2.tokens
    rw [ended] at this
    simp at this

/-- A chunk behind a token is derived with it. -/
def Continues (s : RunState) (token : Token) (c : Chunk) (s' : RunState) : Prop :=
  ∃ taken blocks, Derives s.name (.nodes s.atStart c.nodes) (token :: taken) blocks ∧
    Stops c s taken blocks s'

section Chunks

variable {steps : Nat} {chunk : Run Chunk} (sound : Sound steps chunk) {s s' : RunState}
  {token : Token} {c : Chunk}

include sound

theorem continues_of_blank (short : s.tokens.length < steps) (fresh : s.Fresh)
    (kind : token.kind = .literal) (blank : token.text.isEmpty = true)
    (h : chunk s = .ok c s') : Continues s token c s' := by
  obtain ⟨taken, blocks, derived, stops⟩ := sound s c s' short fresh h
  obtain ⟨line, _, text⟩ := token
  cases kind
  obtain rfl : text = "" := String.isEmpty_iff.1 blank
  exact ⟨taken, blocks, .empty derived, stops⟩

/-- Content that has been met is not met for the first time. -/
theorem continues_of_note {n : Node} {line : Nat} (seen : Bool)
    (short : s.tokens.length < steps) (fresh : s.Fresh)
    (node : ∀ nodes rest later,
      Derives s.name (.nodes (s.atStart && !seen) nodes) rest later →
      Derives s.name (.nodes s.atStart ((line, n) :: nodes)) (token :: rest) later)
    (h : chunk { s with seenContent := s.seenContent || seen } = .ok c s') :
    Continues s token { c with nodes := (line, n) :: c.nodes } s' := by
  have start : RunState.atStart { s with seenContent := s.seenContent || seen } =
      (s.atStart && !seen) := by
    simp only [RunState.atStart, Bool.not_or, Bool.and_assoc]
  obtain ⟨taken, blocks, derived, stops⟩ := sound { s with seenContent := s.seenContent || seen } c s'
    short (fun here => fresh (by rw [start] at here; exact (Bool.and_eq_true_iff.1 here).1)) h
  rw [start] at derived
  have note : Moves s [] [] { s with seenContent := s.seenContent || seen } :=
    ⟨rfl, .nil _, rfl, rfl, fun h => by simp [h]⟩
  exact ⟨taken, blocks, node _ _ _ derived, stops.before note⟩

theorem continues_of_built {n : Node} {line : Nat} {tag : String} {t : RunState}
    (short : s.tokens.length < steps) (same : token = ⟨line, .tag, tag⟩) (built : Built s tag n t)
    (h : chunk { t with seenContent := true } = .ok c s') :
    Continues s token { c with nodes := (line, n) :: c.nodes } s' := by
  subst same
  have behind : RunState.atStart { t with seenContent := true } = false := by
    simp [RunState.atStart]
  have note : Moves t [] [] { t with seenContent := true } :=
    ⟨rfl, .nil _, rfl, rfl, fun _ => rfl⟩
  have within : t.tokens.length ≤ s.tokens.length := by
    cases built with
    | node moves _ => exact moves.length_le
    | extend _ _ moves _ => exact moves.length_le
  obtain ⟨taken, later, derived, stops⟩ := sound { t with seenContent := true } c s'
    (Nat.lt_of_le_of_lt within short) (fun here => by rw [behind] at here; cases here) h
  rw [behind] at derived
  cases built with
  | @node inner blocks moves node =>
    rw [show RunState.name { t with seenContent := true } = s.name from moves.name] at derived
    have all := moves.trans note
    rw [List.append_nil, List.append_nil] at all
    exact ⟨inner ++ taken, blocks ++ later, node _ _ _ _ _ derived, stops.before all⟩
  | @extend inner blocks here ended moves node =>
    -- nothing is left behind the blocks
    obtain rfl := stops.eq_nil ended
    obtain ⟨none, rfl⟩ := derived.of_nil
    have all := moves.trans note
    have stops' := stops.before all
    simp only [List.append_nil] at stops'
    refine ⟨inner, blocks, ?_, stops'⟩
    rw [here]
    dsimp only
    rw [none]
    exact node line

/-- A node and what follows it are derived together. -/
theorem continues_of_step {n : Node} {t : RunState} (short : s.tokens.length < steps)
    (fresh : s.Fresh) (h : step standard chunk token s = .ok (.node n) t)
    (next : chunk t = .ok c s') :
    Continues s token { c with nodes := (token.line, n) :: c.nodes } s' := by
  obtain ⟨line, kind, text⟩ := token
  cases kind with
  | literal =>
    by_cases empty : text.isEmpty = true
    · rw [step, if_pos empty] at h
      exact absurd (pure_eq_ok.1 h).1 (by simp)
    · rw [step, if_neg empty] at h
      have filled : text.isEmpty = false := Bool.eq_false_iff.2 empty
      -- content is noted exactly if the text is not blank
      have after : n = .text text ∧
          t = { s with seenContent := s.seenContent || !isBlankText text } := by
        dsimp only at h
        by_cases blank : isBlankText text = true
        · rw [if_pos (show (Text.trim text.toList).isEmpty = true from blank)] at h
          obtain ⟨same, rfl⟩ := pure_eq_ok.1 h
          cases same
          simp [blank]
        · rw [if_neg (show ¬ (Text.trim text.toList).isEmpty = true from blank)] at h
          obtain ⟨u, t', noted, h⟩ := bind_eq_ok.1 h
          obtain rfl := noteContent_eq_ok.1 noted
          obtain ⟨same, rfl⟩ := pure_eq_ok.1 h
          cases same
          simp [blank]
      obtain ⟨rfl, rfl⟩ := after
      refine continues_of_note sound (!isBlankText text) short fresh (fun _ _ _ rest => ?_) next
      rw [Bool.not_not] at rest
      exact .text filled rest
  | expression =>
    obtain ⟨u, t', noted, h⟩ := bind_eq_ok.1 h
    obtain rfl := noteContent_eq_ok.1 noted
    obtain ⟨e, t', read, h⟩ := bind_eq_ok.1 h
    obtain ⟨compiled, rfl⟩ := expression_eq_ok.1 (atLine_eq_ok.1 read)
    obtain ⟨same, rfl⟩ := pure_eq_ok.1 h
    cases same
    refine continues_of_note sound true short fresh (fun _ _ _ rest => ?_) ?_
    · rw [Bool.not_true, Bool.and_false] at rest
      exact .output compiled rest
    · rwa [Bool.or_true]
  | tag =>
    obtain ⟨found, t', dispatched, h⟩ := bind_eq_ok.1 h
    obtain ⟨rfl, -, rfl⟩ | ⟨m, captures, n', rfl, taken, built⟩ :=
      dispatch_eq_ok (atLine_eq_ok.1 dispatched)
    · exact absurd (pure_eq_ok.1 h).1 (by simp)
    · obtain ⟨u, t'', noted, h⟩ := bind_eq_ok.1 h
      obtain rfl := noteContent_eq_ok.1 noted
      obtain ⟨same, rfl⟩ := pure_eq_ok.1 h
      cases same
      exact continues_of_built sound short rfl (built_of_taken sound short fresh taken built) next

end Chunks

/-- A token without a node is left out; a tag that no macro takes stays where it is. -/
theorem step_eq_ok {chunk : Run Chunk} {token : Token} {s t : RunState} {result : Step}
    (h : step standard chunk token s = .ok result t) :
    match result with
    | .node _ => True
    | .nothing => s = t ∧ token.kind = .literal ∧ token.text.isEmpty = true
    | .unknown tag => s = t ∧ token.kind = .tag ∧ token.text = tag ∧ taken? tag = none := by
  obtain ⟨line, kind, text⟩ := token
  cases kind with
  | literal =>
    by_cases empty : text.isEmpty = true
    · rw [step, if_pos empty] at h
      obtain ⟨rfl, rfl⟩ := pure_eq_ok.1 h
      exact ⟨rfl, rfl, empty⟩
    · rw [step, if_neg empty] at h
      dsimp only at h
      split at h
      · obtain ⟨rfl, -⟩ := pure_eq_ok.1 h
        trivial
      · obtain ⟨u, t', -, h⟩ := bind_eq_ok.1 h
        obtain ⟨rfl, -⟩ := pure_eq_ok.1 h
        trivial
  | expression =>
    obtain ⟨u, t', -, h⟩ := bind_eq_ok.1 h
    obtain ⟨e, t', -, h⟩ := bind_eq_ok.1 h
    obtain ⟨rfl, -⟩ := pure_eq_ok.1 h
    trivial
  | tag =>
    obtain ⟨found, t', dispatched, h⟩ := bind_eq_ok.1 h
    obtain ⟨rfl, untaken, rfl⟩ | ⟨m, captures, n', rfl, -, -⟩ :=
      dispatch_eq_ok (atLine_eq_ok.1 dispatched)
    · obtain ⟨rfl, rfl⟩ := pure_eq_ok.1 h
      exact ⟨rfl, rfl, rfl, untaken⟩
    · obtain ⟨u, t'', -, h⟩ := bind_eq_ok.1 h
      obtain ⟨rfl, -⟩ := pure_eq_ok.1 h
      trivial

/-- **Chunks follow the grammar**, with more steps than there are tokens. -/
theorem sound_parseChunkWithin (steps : Nat) : Sound steps (parseChunkWithin standard steps) := by
  induction steps with
  | zero => exact fun s _ _ short => absurd short (Nat.not_lt_zero _)
  | succ steps ih =>
    intro s c s' short fresh h
    obtain ⟨u, t, got, h⟩ := bind_eq_ok.1 h
    obtain ⟨rfl, rfl⟩ := get_eq_ok.1 got
    cases tokens : s.tokens with
    | nil =>
      rw [tokens] at h
      obtain ⟨u, t, got, h⟩ := bind_eq_ok.1 h
      obtain ⟨rfl, rfl⟩ := get_eq_ok.1 got
      obtain ⟨rfl, rfl⟩ := pure_eq_ok.1 h
      exact ⟨[], [], .done, tokens, .refl s⟩
    | cons token rest =>
      rw [tokens] at h short
      obtain ⟨u, t, modified, h⟩ := bind_eq_ok.1 h
      obtain rfl := modify_eq_ok.1 modified
      obtain ⟨result, t, stepped, h⟩ := bind_eq_ok.1 h
      -- the state behind the token
      have first : Moves s [token] [] { s with tokens := rest } :=
        ⟨tokens, .nil _, rfl, rfl, id⟩
      have short' : rest.length < steps := Nat.lt_of_succ_lt_succ short
      have fresh' : RunState.Fresh { s with tokens := rest } := fresh
      have finish : Continues { s with tokens := rest } token c s' → ∃ taken blocks,
          Derives s.name (.nodes s.atStart c.nodes) taken blocks ∧ Stops c s taken blocks s' := by
        rintro ⟨taken, blocks, derived, stops⟩
        exact ⟨token :: taken, blocks, derived, stops.before first⟩
      cases result with
      | unknown tag =>
        obtain ⟨rfl, kind, rfl, untaken⟩ := step_eq_ok stepped
        obtain ⟨rfl, rfl⟩ := pure_eq_ok.1 h
        obtain ⟨line, _, text⟩ := token
        cases kind
        exact ⟨[], [], .done, untaken, first⟩
      | nothing =>
        obtain ⟨rfl, kind, blank⟩ := step_eq_ok stepped
        exact finish (continues_of_blank ih short' fresh' kind blank h)
      | node n =>
        obtain ⟨c', t', parsed, h⟩ := bind_eq_ok.1 h
        obtain ⟨rfl, rfl⟩ := pure_eq_ok.1 h
        exact finish (continues_of_step ih short' fresh' stepped parsed)

theorem sound_parseChunk (bound : Nat) : Sound bound (parseChunk standard) := by
  intro s c s' _ fresh h
  obtain ⟨u, t, got, h⟩ := bind_eq_ok.1 h
  obtain ⟨rfl, rfl⟩ := get_eq_ok.1 got
  exact sound_parseChunkWithin _ s c s' (Nat.lt_succ_self _) fresh h

/-- A run over a whole template takes all of its tokens, and ends with a registry of their blocks. -/
theorem run_sound {source name : String} {body : Fragment} {s : RunState}
    (run : (parseAll (parseChunk standard)).run (.start source name) = .ok body s) :
    ∃ nodes blocks, body = ⟨name, nodes⟩ ∧
      Derives name (.nodes true nodes) (tokenize source) blocks ∧
      Registers .empty blocks s.blocks := by
  obtain ⟨tokens, nodes, blocks, rfl, derived, ended, moves⟩ :=
    parseAll_sound (sound_parseChunk _) (Nat.lt_succ_self _) (fun _ => rfl) run
  have all : tokenize source = tokens := by
    have := moves.tokens
    rwa [ended, List.append_nil] at this
  exact ⟨nodes, blocks, rfl, all ▸ derived, moves.registers⟩

/-- What a template is parsed to is what a run ends with. -/
theorem parseTemplate_eq_ok {macros : List Macro} {source name : String} {body : Fragment} :
    parseTemplate macros source name = .ok body ↔
      ∃ s, (parseAll (parseChunk macros)).run (.start source name) = .ok body s := by
  unfold parseTemplate
  cases (parseAll (parseChunk macros)).run (.start source name) with
  | error fault s => exact ⟨(fun h => nomatch h), fun ⟨_, h⟩ => nomatch h⟩
  | ok body' s =>
    constructor
    · intro h
      cases h
      exact ⟨s, rfl⟩
    · rintro ⟨_, h⟩
      cases h
      rfl

/-- **A template follows the grammar.**  What it is compiled to is derived from all of its tokens, and
the blocks in them can be declared. -/
theorem parseTemplate_sound {source name : String} {body : Fragment}
    (h : parseTemplate standard source name = .ok body) :
    ∃ nodes blocks registry, body = ⟨name, nodes⟩ ∧
      Derives name (.nodes true nodes) (tokenize source) blocks ∧
      Registers .empty blocks registry := by
  obtain ⟨s, run⟩ := parseTemplate_eq_ok.1 h
  obtain ⟨nodes, blocks, same, derived, registers⟩ := run_sound run
  exact ⟨nodes, blocks, s.blocks, same, derived, registers⟩

end TextTemplate.Tag
