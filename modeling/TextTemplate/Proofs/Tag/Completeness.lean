import TextTemplate.Proofs.Tag.Soundness

/-!
# The parser finds every derivation

What is derived from the tokens of a template is what the parser builds, if the blocks in it have
different names (`parseTemplate_complete`).  The proof goes along the calls of the parser, as the one
in the other direction does: `Complete` says of a chunk parser that it finds the nodes that are derived
up to where a chunk ends, and each step is shown to take the tokens of its part of the derivation.
-/

namespace TextTemplate.Tag

open TextTemplate.Markup

/-! ## Declaring blocks -/

/-- The blocks decide what a registry becomes. -/
theorem Registers.unique {d e e' : Dictionary Fragment} {blocks : Blocks}
    (h : Registers d blocks e) (h' : Registers d blocks e') : e = e' := by
  induction h with
  | nil =>
    cases h'
    rfl
  | cons _ _ ih =>
    cases h' with
    | cons _ h' => exact ih h'

theorem Registers.split {d e : Dictionary Fragment} {blocks later : Blocks}
    (h : Registers d (blocks ++ later) e) :
    ∃ m, Registers d blocks m ∧ Registers m later e := by
  induction blocks generalizing d with
  | nil => exact ⟨d, .nil d, h⟩
  | cons block blocks ih =>
    cases h with
    | cons new h =>
      obtain ⟨m, first, second⟩ := ih h
      exact ⟨m, .cons new first, second⟩

/-- Blocks can be declared exactly if their names are new and different. -/
theorem exists_registers_iff {d : Dictionary Fragment} {blocks : Blocks} :
    (∃ e, Registers d blocks e) ↔
      (∀ block ∈ blocks, d.get? block.1 = none) ∧ (blocks.map Prod.fst).Nodup := by
  induction blocks generalizing d with
  | nil => simp [show ∃ e, Registers d [] e from ⟨d, .nil d⟩]
  | cons block blocks ih =>
    obtain ⟨x, body⟩ := block
    rw [List.map_cons, List.nodup_cons, List.forall_mem_cons]
    constructor
    · rintro ⟨e, h⟩
      cases h with
      | cons new h =>
        obtain ⟨others, nodup⟩ := ih.1 ⟨e, h⟩
        have other : ∀ block ∈ blocks, block.1 ≠ x := by
          intro block mem same
          have := others block mem
          rw [same, Dictionary.get?_insert_self] at this
          cases this
        refine ⟨⟨new, fun block mem => ?_⟩, fun mem => ?_, nodup⟩
        · have := others block mem
          rwa [Dictionary.get?_insert_of_ne _ _ (other block mem)] at this
        · obtain ⟨block, mem, same⟩ := List.mem_map.1 mem
          exact other block mem same
    · rintro ⟨⟨new, others⟩, fresh, nodup⟩
      have free : ∀ block ∈ blocks, (d.insert x body).get? block.1 = none := by
        intro block mem
        have other : block.1 ≠ x := by
          rintro rfl
          exact fresh (List.mem_map.2 ⟨block, mem, rfl⟩)
        rw [Dictionary.get?_insert_of_ne _ _ other]
        exact others block mem
      obtain ⟨e, h⟩ := ih.2 ⟨free, nodup⟩
      exact ⟨e, .cons new h⟩

/-! ## Steps that succeed -/

/-- A run in which some tokens come next, with others behind, and in which blocks can be declared. -/
structure Ready (s : RunState) (taken rest : List Token) (blocks : Blocks) : Prop where
  tokens : s.tokens = taken ++ rest
  registers : ∃ d, Registers s.blocks blocks d

/-- A step gives a result, takes tokens and declares blocks. -/
def Succeeds {α : Type} (step : Run α) (s : RunState) (a : α) (taken : List Token)
    (blocks : Blocks) : Prop :=
  ∃ s', step s = .ok a s' ∧ Moves s taken blocks s'

section Steps

variable {α β : Type} {s : RunState} {a : α} {b : β} {taken more rest : List Token}
  {blocks later : Blocks}

theorem Ready.left (h : Ready s (taken ++ more) rest (blocks ++ later)) :
    Ready s taken (more ++ rest) blocks := by
  obtain ⟨d, registers⟩ := h.registers
  obtain ⟨m, first, -⟩ := registers.split
  exact ⟨by rw [h.tokens, List.append_assoc], m, first⟩

/-- The second part can be taken once the first one is. -/
theorem Ready.right (h : Ready s (taken ++ more) rest (blocks ++ later)) {t : RunState}
    (moves : Moves s taken blocks t) : Ready t more rest later := by
  obtain ⟨d, registers⟩ := h.registers
  obtain ⟨m, first, second⟩ := registers.split
  refine ⟨?_, d, ?_⟩
  · have same : taken ++ t.tokens = taken ++ (more ++ rest) := by
      rw [← moves.tokens, h.tokens, List.append_assoc]
    exact List.append_cancel_left same
  · rwa [moves.registers.unique first]

theorem Succeeds.bind {step : Run α} {next : α → Run β} (h : Succeeds step s a taken blocks)
    (h' : ∀ t, Moves s taken blocks t → Succeeds (next a) t b more later) :
    Succeeds (step >>= next) s b (taken ++ more) (blocks ++ later) := by
  obtain ⟨t, run, moves⟩ := h
  obtain ⟨s', run', moves'⟩ := h' t moves
  exact ⟨s', bind_eq_ok.2 ⟨a, t, run, run'⟩, moves.trans moves'⟩

/-- A step that only reads comes first. -/
theorem Succeeds.step {step : Run α} {next : α → Run β} (h : step s = .ok a s)
    (h' : Succeeds (next a) s b taken blocks) : Succeeds (step >>= next) s b taken blocks := by
  obtain ⟨s', run, moves⟩ := h'
  exact ⟨s', bind_eq_ok.2 ⟨a, s, h, run⟩, moves⟩

/-- What is done with a result comes last. -/
theorem Succeeds.map {step : Run α} {next : α → Run β} (h : Succeeds step s a taken blocks)
    (h' : ∀ t, Moves s taken blocks t → next a t = .ok b t) :
    Succeeds (step >>= next) s b taken blocks := by
  obtain ⟨t, run, moves⟩ := h
  exact ⟨t, bind_eq_ok.2 ⟨a, t, run, h' t moves⟩, moves⟩

end Steps

/-! ## Bodies -/

/-- Where a chunk ends: at the end of the template, or with a tag that no macro takes. -/
inductive Halts : List Token → List Token → Option String → Prop
  | finished : Halts [] [] none
  | tag {ending : Token} {rest : List Token} : ending.kind = .tag → taken? ending.text = none →
      Halts [ending] rest (some ending.text)

/-- A parser of chunks that finds what is derived, while there are fewer tokens than a bound.  At the
start of a template only its end ends a chunk. -/
def Complete (bound : Nat) (chunk : Run Chunk) : Prop :=
  ∀ {s : RunState} {nodes : List (Nat × Node)} {taken closing rest : List Token} {blocks : Blocks}
    {tag : Option String}, s.tokens.length < bound → s.Fresh →
    Derives s.name (.nodes s.atStart nodes) taken blocks → Halts closing rest tag →
    (s.atStart = true → closing = []) → Ready s (taken ++ closing) rest blocks →
    ∃ line, Succeeds chunk s ⟨line, tag, nodes⟩ (taken ++ closing) blocks

section Macros

variable {bound : Nat} {chunk : Run Chunk} (complete : Complete bound chunk) {s : RunState}
  {inner rest : List Token} {blocks : Blocks}

include complete

theorem parseBody_succeeds {α : Type} (opening closing : String) {ending? : String → Option α}
    {what : α} {last : Token} {nodes : List (Nat × Node)} (short : s.tokens.length < bound)
    (derived : Derives s.name (.nodes false nodes) inner blocks) (ends : Ends last ending? what)
    (ready : Ready s (inner ++ [last]) rest blocks) :
    ∃ line, Succeeds (parseBody chunk opening closing ending?) s (⟨line, what⟩, ⟨s.name, nodes⟩)
      (inner ++ [last]) blocks := by
  have inside : RunState.atStart { s with depth := s.depth + 1 } = false := by
    simp [RunState.atStart]
  obtain ⟨line, t, run, moves⟩ := complete (s := { s with depth := s.depth + 1 }) short
    (fun start => by rw [inside] at start; cases start) (by rwa [inside])
    (.tag ends.kind ends.untaken) (fun start => by rw [inside] at start; cases start)
    ⟨ready.tokens, ready.registers⟩
  have body : Succeeds (inBody chunk) s ⟨line, some last.text, nodes⟩ (inner ++ [last]) blocks := by
    refine ⟨{ t with depth := t.depth - 1 }, ?_, moves.tokens, moves.registers, moves.name, ?_,
      moves.seen⟩
    · rw [inBody, run]
    · dsimp only
      rw [moves.depth]
      rfl
  refine ⟨line, body.map fun t moves => ?_⟩
  dsimp only
  rw [ends.read]
  dsimp only
  refine bind_eq_ok.2 ⟨⟨s.name, nodes⟩, t, fragment_eq_ok.2 ⟨?_, rfl⟩, rfl⟩
  rw [moves.name]

/-- All clauses behind a test are found: by induction on the number of steps, one for each body that
ends. -/
theorem parseClauses_succeeds {test : Expression} {clauses : List (Expression × Fragment)}
    {orelse : Option Fragment} {steps : Nat} (short : s.tokens.length < bound)
    (enough : s.tokens.length < steps)
    (derived : Derives s.name (.clauses test clauses orelse) inner blocks)
    (ready : Ready s inner rest blocks) :
    Succeeds (parseClauses chunk steps test) s (clauses, orelse) inner blocks := by
  induction steps generalizing s test clauses inner blocks with
  | zero => omega
  | succ steps ih =>
    cases derived with
    | @elif _ next source body ending clauses _ inner tokens blocks later derived ends compiled
        others =>
      rw [List.append_cons inner ending] at ready ⊢
      obtain ⟨line, first⟩ := parseBody_succeeds complete "if" "endif" short derived ends ready.left
      refine first.bind fun t moves => ?_
      have fewer : t.tokens.length < s.tokens.length := by
        rw [moves.tokens]
        simp only [List.length_append, List.length_singleton]
        omega
      rw [← moves.name] at others
      refine .step (atLine_eq_ok.2 (expression_eq_ok.2 ⟨compiled, rfl⟩)) ?_
      exact (ih (by omega) (by omega) others (ready.right moves)).map fun _ _ => rfl
    | @orelse _ body other ending last inner tokens blocks later derived ends others ends' =>
      rw [List.append_cons inner ending] at ready ⊢
      obtain ⟨line, first⟩ := parseBody_succeeds complete "if" "endif" short derived ends ready.left
      refine first.bind fun t moves => ?_
      have fewer := moves.length_le
      rw [← moves.name] at others ⊢
      obtain ⟨line, second⟩ := parseBody_succeeds complete "if" "endif" (by omega) others ends'
        (ready.right moves)
      have otherwise : Succeeds (parseElse chunk) t ⟨t.name, other⟩ (tokens ++ [last]) later :=
        second.map fun _ _ => rfl
      exact otherwise.map fun _ _ => rfl
    | endif derived ends =>
      obtain ⟨line, first⟩ := parseBody_succeeds complete "if" "endif" short derived ends ready
      exact first.map fun _ _ => rfl

end Macros

/-! ## Tags -/

section Tags

variable {bound : Nat} {chunk : Run Chunk} {s : RunState} {tag : String} {captures : Captures}

/-- A tag without a body is read as its node. -/
theorem dispatch_of_plain {n : Node} (h : Plain tag n) :
    dispatch standard chunk tag s = .ok (some n) s := by
  have read : ∀ {m : Macro} {captures : Captures}, taken? tag = some (m, captures) →
      m.build chunk captures s = .ok n s → dispatch standard chunk tag s = .ok (some n) s := by
    intro m captures taken built
    unfold dispatch
    rw [show standard.findSome? _ = some (m, captures) from taken]
    exact bind_eq_ok.2 ⟨n, s, built, rfl⟩
  cases h with
  | assign taken compiled parsed =>
    refine read taken (bind_eq_ok.2 ⟨_, s, expression_eq_ok.2 ⟨compiled, rfl⟩, ?_⟩)
    exact bind_eq_ok.2 ⟨_, s, target_eq_ok.2 ⟨parsed, rfl⟩, rfl⟩
  | print taken compiled =>
    exact read taken (bind_eq_ok.2 ⟨_, s, expression_eq_ok.2 ⟨compiled, rfl⟩, rfl⟩)
  | «include» taken compiled =>
    exact read taken (bind_eq_ok.2 ⟨_, s, expression_eq_ok.2 ⟨compiled, rfl⟩, rfl⟩)
  | super taken => exact read taken rfl

/-- A tag that a macro takes is read as the node that the macro builds. -/
theorem dispatch_succeeds {m : Macro} {n : Node} {inner : List Token} {blocks : Blocks}
    (taken : taken? tag = some (m, captures))
    (h : Succeeds (m.build chunk captures) s n inner blocks) :
    Succeeds (dispatch standard chunk tag) s (some n) inner blocks := by
  unfold dispatch
  rw [show standard.findSome? _ = some (m, captures) from taken]
  exact h.map fun _ _ => rfl

theorem registerBlock_succeeds {x : String} {body : Fragment} {rest : List Token}
    (ready : Ready s [] rest [(x, body)]) : Succeeds (registerBlock x body) s () [] [(x, body)] := by
  obtain ⟨d, registers⟩ := ready.registers
  cases registers with
  | cons new registers =>
    refine ⟨{ s with blocks := s.blocks.insert x body }, ?_, rfl, .cons new (.nil _), rfl, rfl, id⟩
    refine bind_eq_ok.2 ⟨s, s, rfl, ?_⟩
    rw [if_neg (by rw [Dictionary.contains, new]; decide)]
    rfl

variable (complete : Complete bound chunk) {nodes : List (Nat × Node)} {e : Expression}
  {inner rest : List Token} {blocks : Blocks} {last : Token} {what : Unit}

include complete

theorem ifTag_succeeds {clauses : List (Expression × Fragment)} {orelse : Option Fragment}
    (short : s.tokens.length < bound) (compiled : Expression.compile (captures.group 0) = .ok e)
    (derived : Derives s.name (.clauses e clauses orelse) inner blocks)
    (ready : Ready s inner rest blocks) :
    Succeeds (ifTag.build chunk captures) s (.branch clauses orelse) inner blocks := by
  refine .step (expression_eq_ok.2 ⟨compiled, rfl⟩) (.step rfl ?_)
  exact (parseClauses_succeeds complete short (Nat.lt_succ_self _) derived ready).map fun _ _ => rfl

theorem forTag_succeeds {target : Target} (short : s.tokens.length < bound)
    (parsed : Target.parse (captures.group 0) = .ok target)
    (compiled : Expression.compile (captures.group 1) = .ok e)
    (derived : Derives s.name (.nodes false nodes) inner blocks)
    (ends : Ends last (isWord "endfor") what) (ready : Ready s (inner ++ [last]) rest blocks) :
    Succeeds (forTag.build chunk captures) s (.loop target e ⟨s.name, nodes⟩) (inner ++ [last])
      blocks := by
  refine .step (target_eq_ok.2 ⟨parsed, rfl⟩) (.step (expression_eq_ok.2 ⟨compiled, rfl⟩) ?_)
  obtain ⟨line, body⟩ := parseBody_succeeds complete "for" "endfor" short derived ends ready
  exact body.map fun _ _ => rfl

theorem withTag_succeeds {target : Target} (short : s.tokens.length < bound)
    (compiled : Expression.compile (captures.group 0) = .ok e)
    (parsed : Target.parse (captures.group 1) = .ok target)
    (derived : Derives s.name (.nodes false nodes) inner blocks)
    (ends : Ends last (isWord "endwith") what) (ready : Ready s (inner ++ [last]) rest blocks) :
    Succeeds (withTag.build chunk captures) s (.bind target e ⟨s.name, nodes⟩) (inner ++ [last])
      blocks := by
  refine .step (expression_eq_ok.2 ⟨compiled, rfl⟩) (.step (target_eq_ok.2 ⟨parsed, rfl⟩) ?_)
  obtain ⟨line, body⟩ := parseBody_succeeds complete "with" "endwith" short derived ends ready
  exact body.map fun _ _ => rfl

/-- A block is declared behind the blocks in its body. -/
theorem blockTag_succeeds (short : s.tokens.length < bound)
    (derived : Derives s.name (.nodes false nodes) inner blocks)
    (ends : Ends last (readEndblock? (captures.group 0)) what)
    (ready : Ready s (inner ++ [last]) rest (blocks ++ [(captures.group 0, ⟨s.name, nodes⟩)])) :
    Succeeds (blockTag.build chunk captures) s (.block (captures.group 0) ⟨s.name, nodes⟩)
      (inner ++ [last]) (blocks ++ [(captures.group 0, ⟨s.name, nodes⟩)]) := by
  rw [← List.append_nil (inner ++ [last])] at ready ⊢
  obtain ⟨line, body⟩ := parseBody_succeeds complete "block" "endblock" short derived ends ready.left
  refine body.bind fun t moves => ?_
  exact (registerBlock_succeeds (ready.right moves)).map fun _ _ => rfl

/-- All that is left belongs to a template that extends another one. -/
theorem extendsTag_succeeds {registry : Dictionary Fragment} (short : s.tokens.length < bound)
    (here : s.atStart = true) (fresh : s.Fresh)
    (compiled : Expression.compile (captures.group 0) = .ok e)
    (derived : Derives s.name (.nodes true nodes) inner blocks)
    (registers : Registers .empty blocks registry) (ready : Ready s inner [] blocks) :
    Succeeds (extendsTag.build chunk captures) s (.extend e registry) inner blocks := by
  refine .step (atTemplateStart_eq_ok.2 ⟨here, rfl⟩) (.step (expression_eq_ok.2 ⟨compiled, rfl⟩) ?_)
  rw [← here] at derived
  rw [← List.append_nil inner] at ready ⊢
  obtain ⟨line, all⟩ := complete short fresh derived .finished (fun _ => rfl) ready
  have body : Succeeds (parseAll chunk) s ⟨s.name, nodes⟩ (inner ++ []) blocks := by
    refine all.map fun t moves => ?_
    rw [← moves.name]
    rfl
  refine body.map fun t moves => ?_
  have same := moves.registers
  rw [fresh here] at same
  refine bind_eq_ok.2 ⟨t, t, rfl, ?_⟩
  rw [same.unique registers]
  rfl

end Tags

/-! ## Chunks -/

section Chunks

variable {steps : Nat} {s : RunState} {token : Token} {line : Nat} {nodes : List (Nat × Node)}
  {tokens closing rest : List Token} {blocks later : Blocks} {stop : Option String}

/-- A run behind its first token. -/
def RunState.behind (s : RunState) : RunState := { s with tokens := s.tokens.tail }

theorem parseChunkWithin_nil {macros : List Macro} (steps : Nat) (h : s.tokens = []) :
    parseChunkWithin macros steps s = .ok ⟨s.lineCount, none, []⟩ s := by
  cases steps with
  | zero => rfl
  | succ steps =>
    rw [parseChunkWithin, get_bind_apply, h]
    rfl

theorem parseChunkWithin_cons {macros : List Macro} {more : List Token} (h : s.tokens = token :: more) :
    parseChunkWithin macros (steps + 1) s = (do
      match ← step macros (parseChunkWithin macros steps) token with
      | .unknown tag => return ⟨token.line, some tag, []⟩
      | .nothing => parseChunkWithin macros steps
      | .node node =>
        let chunk ← parseChunkWithin macros steps
        return { chunk with nodes := (token.line, node) :: chunk.nodes } : Run Chunk) s.behind := by
  rw [parseChunkWithin, get_bind_apply, RunState.behind, h]
  rfl

/-- A first token that has a node. -/
theorem parseChunkWithin_node {macros : List Macro} {more : List Token} {n : Node} {chunk : Chunk}
    {t s' : RunState} (h : s.tokens = token :: more)
    (stepped : step macros (parseChunkWithin macros steps) token s.behind = .ok (.node n) t)
    (run : parseChunkWithin macros steps t = .ok chunk s') :
    parseChunkWithin macros (steps + 1) s =
      .ok { chunk with nodes := (token.line, n) :: chunk.nodes } s' := by
  rw [parseChunkWithin_cons h]
  exact bind_eq_ok.2 ⟨.node n, t, stepped, bind_eq_ok.2 ⟨chunk, s', run, rfl⟩⟩

/-- Text is a node, and content unless it is blank. -/
theorem step_text {text : String} (macros : List Macro) (chunk : Run Chunk) (line : Nat)
    (filled : text.isEmpty = false) (s : RunState) :
    step macros chunk ⟨line, .literal, text⟩ s =
      .ok (.node (.text text)) { s with seenContent := s.seenContent || !isBlankText text } := by
  rw [step, if_neg (by rw [filled]; decide)]
  dsimp only
  by_cases blank : isBlankText text = true
  · rw [if_pos (show (Text.trim text.toList).isEmpty = true from blank), blank, Bool.not_true,
      Bool.or_false]
    rfl
  · rw [if_neg (show ¬ (Text.trim text.toList).isEmpty = true from blank),
      Bool.eq_false_iff.2 blank, Bool.not_false, Bool.or_true]
    rfl

/-- A placeholder is a node and content. -/
theorem step_output {text : String} {e : Expression} (macros : List Macro) (chunk : Run Chunk)
    (line : Nat) (compiled : Expression.compile text = .ok e) (s : RunState) :
    step macros chunk ⟨line, .expression, text⟩ s =
      .ok (.node (.output e)) { s with seenContent := true } := by
  refine bind_eq_ok.2 ⟨(), _, rfl, bind_eq_ok.2 ⟨e, _, ?_, rfl⟩⟩
  exact atLine_eq_ok.2 (expression_eq_ok.2 ⟨compiled, rfl⟩)

theorem Ready.behind (h : Ready s (token :: tokens) rest blocks) :
    s.tokens = token :: (tokens ++ rest) ∧ Ready s.behind tokens rest blocks ∧
      Moves s [token] [] s.behind ∧ s.behind.tokens.length < s.tokens.length := by
  have first : s.tokens = token :: (tokens ++ rest) := h.tokens
  have behind : s.behind.tokens = tokens ++ rest := by rw [RunState.behind, first]; rfl
  refine ⟨first, ⟨behind, h.registers⟩, ⟨?_, .nil _, rfl, rfl, id⟩, ?_⟩
  · rw [behind, first]
    rfl
  · rw [behind, first]
    exact Nat.lt_succ_self _

variable (complete : Complete steps (parseChunkWithin standard steps))

include complete

/-- A chunk that starts with the node of its first token. -/
theorem chunk_of_node (inner : List Token) (blocks : Blocks) {n : Node} {t : RunState}
    (short : s.tokens.length < steps + 1)
    (ready : Ready s (token :: (inner ++ (tokens ++ closing))) rest (blocks ++ later))
    (stepped : step standard (parseChunkWithin standard steps) token s.behind = .ok (.node n) t)
    (moves : Moves s.behind inner blocks t) (fresh : t.Fresh)
    (derived : Derives s.name (.nodes t.atStart nodes) tokens later)
    (halts : Halts closing rest stop) (stays : t.atStart = true → closing = []) :
    ∃ l, Succeeds (parseChunkWithin standard (steps + 1)) s ⟨l, stop, (token.line, n) :: nodes⟩
      (token :: (inner ++ (tokens ++ closing))) (blocks ++ later) := by
  obtain ⟨first, ready, moves', fewer⟩ := ready.behind
  have name : t.name = s.name := moves.name
  have shorter := moves.length_le
  rw [← name] at derived
  obtain ⟨l, s', run, moves''⟩ := complete (by omega) fresh derived halts stays (ready.right moves)
  exact ⟨l, s', parseChunkWithin_node first stepped run, moves'.trans (moves.trans moves'')⟩

/-- A chunk that starts with the node of a tag. -/
theorem chunk_of_tag (inner : List Token) (blocks : Blocks) {tag : String} {n : Node}
    (short : s.tokens.length < steps + 1)
    (ready : Ready s (⟨line, .tag, tag⟩ :: (inner ++ (tokens ++ closing))) rest (blocks ++ later))
    (dispatched : s.behind.tokens.length < steps →
      Ready s.behind inner (tokens ++ closing ++ rest) blocks →
      Succeeds (dispatch standard (parseChunkWithin standard steps) tag) s.behind (some n) inner
        blocks)
    (derived : Derives s.name (.nodes false nodes) tokens later) (halts : Halts closing rest stop) :
    ∃ l, Succeeds (parseChunkWithin standard (steps + 1)) s ⟨l, stop, (line, n) :: nodes⟩
      (⟨line, .tag, tag⟩ :: (inner ++ (tokens ++ closing))) (blocks ++ later) := by
  obtain ⟨-, behind, -, fewer⟩ := ready.behind
  obtain ⟨t, run, moves⟩ := dispatched (by omega) behind.left
  have seen : RunState.atStart { t with seenContent := true } = false := by simp [RunState.atStart]
  have stepped : step standard (parseChunkWithin standard steps) ⟨line, .tag, tag⟩ s.behind =
      .ok (.node n) { t with seenContent := true } :=
    bind_eq_ok.2 ⟨some n, t, atLine_eq_ok.2 run, rfl⟩
  have moves' : Moves s.behind inner blocks { t with seenContent := true } :=
    ⟨moves.tokens, moves.registers, moves.name, moves.depth, fun _ => rfl⟩
  refine chunk_of_node complete inner blocks short ready stepped moves' ?_ (by rwa [seen]) halts ?_
  · intro here
    rw [seen] at here
    cases here
  · intro here
    rw [seen] at here
    cases here

end Chunks

/-- A tag with the body behind it and the tag that ends it, and what is behind them. -/
theorem body_split (head ending : Token) (inner tokens closing : List Token) :
    head :: (inner ++ ending :: tokens) ++ closing =
      head :: ((inner ++ [ending]) ++ (tokens ++ closing)) := by simp

/-- **Chunks are found**, with more steps than there are tokens: by induction on the steps, one case
for each way in which a derivation may start. -/
theorem complete_parseChunkWithin (steps : Nat) :
    Complete steps (parseChunkWithin standard steps) := by
  induction steps with
  | zero =>
    intro s nodes taken closing rest blocks tag short
    omega
  | succ steps ih =>
    intro s nodes taken closing rest blocks tag short fresh derived halts stays ready
    generalize start : s.atStart = b at derived
    have behind : s.behind.atStart = b := start
    cases derived with
    | done =>
      cases halts with
      | finished =>
        exact ⟨s.lineCount, s, parseChunkWithin_nil _ ready.tokens, .refl s⟩
      | @tag ending rest kind untaken =>
        obtain ⟨first, -, moves, -⟩ := Ready.behind ready
        refine ⟨ending.line, s.behind, ?_, moves⟩
        rw [parseChunkWithin_cons first]
        refine bind_eq_ok.2 ⟨.unknown ending.text, s.behind, ?_, rfl⟩
        have passed : dispatch standard (parseChunkWithin standard steps) ending.text s.behind =
            .ok none s.behind := by
          unfold dispatch
          rw [show standard.findSome? _ = none from untaken]
          rfl
        rw [step, kind]
        exact bind_eq_ok.2 ⟨none, s.behind, atLine_eq_ok.2 passed, rfl⟩
    | @empty _ line _ tokens _ derived =>
      obtain ⟨first, ready', moves, fewer⟩ := Ready.behind ready
      rw [← behind] at derived
      obtain ⟨l, s', run, moves'⟩ := ih (s := s.behind) (by omega) fresh derived halts stays ready'
      refine ⟨l, s', ?_, moves.trans moves'⟩
      rw [parseChunkWithin_cons first]
      exact bind_eq_ok.2 ⟨.nothing, s.behind, rfl, run⟩
    | @text _ line text _ tokens _ filled derived =>
      have after : RunState.atStart
          { s.behind with seenContent := s.behind.seenContent || !isBlankText text } =
            (b && isBlankText text) := by
        rw [← behind]
        simp only [RunState.atStart, Bool.not_or, Bool.and_assoc, Bool.not_not]
      have early : RunState.atStart
          { s.behind with seenContent := s.behind.seenContent || !isBlankText text } = true →
            s.atStart = true := by
        intro here
        rw [after, Bool.and_eq_true] at here
        exact start.trans here.1
      refine chunk_of_node ih [] [] short ready (step_text _ _ line filled _) ?_
        (fun here => fresh (early here)) ?_ halts
        fun here => stays (early here)
      · exact ⟨rfl, .nil _, rfl, rfl, fun h => by simp [h]⟩
      · rwa [after]
    | @output _ line text e _ tokens _ compiled derived =>
      have seen : RunState.atStart { s.behind with seenContent := true } = false := by
        simp [RunState.atStart]
      have never : ∀ {p : Prop}, RunState.atStart { s.behind with seenContent := true } = true → p := by
        intro p here
        rw [seen] at here
        cases here
      refine chunk_of_node ih [] [] short ready (step_output _ _ line compiled _) ?_ never
        (by rwa [seen]) halts never
      exact ⟨rfl, .nil _, rfl, rfl, fun _ => rfl⟩
    | @plain _ line tag n _ tokens _ plain derived =>
      refine chunk_of_tag ih [] [] short ready (fun _ _ => ?_) derived halts
      exact ⟨s.behind, dispatch_of_plain plain, .refl _⟩
    | @branch _ line tag captures test clauses orelse _ inner tokens blocks later taken compiled
        clausesDerived derived =>
      rw [List.cons_append, List.append_assoc] at ready ⊢
      refine chunk_of_tag ih _ _ short ready (fun short ready => ?_) derived halts
      exact dispatch_succeeds taken (ifTag_succeeds ih short compiled clausesDerived ready)
    | @loop _ line tag captures target e body _ ending what inner tokens blocks later taken parsed
        compiled bodyDerived ends derived =>
      rw [body_split] at ready ⊢
      refine chunk_of_tag ih _ _ short ready (fun short ready => ?_) derived halts
      exact dispatch_succeeds taken (forTag_succeeds ih short parsed compiled bodyDerived ends ready)
    | @bind _ line tag captures target e body _ ending what inner tokens blocks later taken compiled
        parsed bodyDerived ends derived =>
      rw [body_split] at ready ⊢
      refine chunk_of_tag ih _ _ short ready (fun short ready => ?_) derived halts
      exact dispatch_succeeds taken (withTag_succeeds ih short compiled parsed bodyDerived ends ready)
    | @block _ line tag captures body _ ending what inner tokens blocks later taken bodyDerived ends
        derived =>
      have declared : blocks ++ (captures.group 0, ⟨s.name, body⟩) :: later =
          blocks ++ [(captures.group 0, ⟨s.name, body⟩)] ++ later := by simp
      rw [body_split, declared] at ready ⊢
      refine chunk_of_tag ih _ _ short ready (fun short ready => ?_) derived halts
      exact dispatch_succeeds taken (blockTag_succeeds ih short bodyDerived ends ready)
    | @extend line tag captures parent _ tokens _ registry taken compiled others registers =>
      obtain rfl := stays start
      cases halts
      -- nothing is left behind the blocks
      have nothing : tokens ++ [] = tokens ++ ([] ++ []) := rfl
      have none : blocks = blocks ++ [] := by simp
      rw [List.cons_append, nothing, none] at ready ⊢
      refine chunk_of_tag ih _ _ short ready (fun short ready => ?_) .done .finished
      exact dispatch_succeeds taken
        (extendsTag_succeeds ih short behind fresh compiled others registers ready)

/-- **Every derivation is found.**  What is derived from all tokens of a template is what the template
is compiled to, if the blocks in it can be declared. -/
theorem parseTemplate_complete {source name : String} {nodes : List (Nat × Node)} {blocks : Blocks}
    {registry : Dictionary Fragment} (derived : Derives name (.nodes true nodes) (tokenize source) blocks)
    (registers : Registers .empty blocks registry) :
    parseTemplate standard source name = .ok ⟨name, nodes⟩ := by
  have ready : Ready (.start source name) (tokenize source ++ []) [] blocks :=
    ⟨by simp [RunState.start], registry, registers⟩
  obtain ⟨line, s', run, moves⟩ := complete_parseChunkWithin ((tokenize source).length + 1)
    (s := .start source name) (Nat.lt_succ_self _) (fun _ => rfl) derived .finished (fun _ => rfl)
    ready
  have all : parseAll (parseChunk standard) (.start source name) = .ok ⟨name, nodes⟩ s' := by
    refine bind_eq_ok.2 ⟨⟨line, none, nodes⟩, s', run, ?_⟩
    exact fragment_eq_ok.2 ⟨by rw [moves.name]; rfl, rfl⟩
  unfold parseTemplate
  rw [show (parseAll (parseChunk standard)).run (.start source name) = _ from all]

/-- The parser accepts a template exactly if it is derived. -/
theorem parseTemplate_eq_ok_iff {source name : String} {body : Fragment} :
    parseTemplate standard source name = .ok body ↔
      ∃ nodes blocks registry, body = ⟨name, nodes⟩ ∧
        Derives name (.nodes true nodes) (tokenize source) blocks ∧
        Registers .empty blocks registry := by
  constructor
  · exact parseTemplate_sound
  · rintro ⟨nodes, blocks, registry, rfl, derived, registers⟩
    exact parseTemplate_complete derived registers

end TextTemplate.Tag
