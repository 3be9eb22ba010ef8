import TextTemplate.Proofs.Tag.Recount

/-!
# What the parser does not look at

The parser tells where a token comes from, but builds the same nodes whatever lines its tokens have and
whatever empty literals stand between them (`parseTokens_unlined`).  Two runs over such tokens are alike
(`RunState.Alike`), and each step leaves them alike, up to lines in its result or in its fault
(`Together`).  One run may go on over an empty literal while the other one waits; so the steps that are
left are counted for each run on its own.

A macro gets the whole run, so for a macro this is something that it has to keep to
(`Macro.IgnoresLines`).  The standard macros do.
-/

namespace TextTemplate

/-! ## Without lines -/

mutual

/-- A fragment whose lines are left out. -/
def Fragment.unlined : Fragment → Fragment
  | ⟨name, nodes⟩ => ⟨name, unlinedNodes nodes⟩

/-- Nodes without their lines. -/
def unlinedNodes : List (Nat × Node) → List (Nat × Node)
  | [] => []
  | (_, n) :: rest => (0, n.unlined) :: unlinedNodes rest

/-- A node whose bodies have no lines. -/
def Node.unlined : Node → Node
  | .text text => .text text
  | .output e => .output e
  | .print e => .print e
  | .assign t e => .assign t e
  | .branch clauses orelse => .branch (unlinedClauses clauses) (unlinedElse orelse)
  | .loop t e body => .loop t e body.unlined
  | .bind t e body => .bind t e body.unlined
  | .include e => .include e
  | .block x body => .block x body.unlined
  | .extend parent blocks => .extend parent (unlinedBlocks blocks)
  | .super => .super

/-- The clauses of `if` without lines. -/
def unlinedClauses : List (Expression × Fragment) → List (Expression × Fragment)
  | [] => []
  | (test, body) :: rest => (test, body.unlined) :: unlinedClauses rest

/-- The body behind `else` without lines. -/
def unlinedElse : Option Fragment → Option Fragment
  | none => none
  | some body => some body.unlined

/-- Declared blocks without lines. -/
def unlinedBlocks : Dictionary Fragment → Dictionary Fragment
  | ⟨entries⟩ => ⟨unlinedEntries entries⟩

/-- Blocks under their names, without lines. -/
def unlinedEntries : List (String × Fragment) → List (String × Fragment)
  | [] => []
  | (x, body) :: rest => (x, body.unlined) :: unlinedEntries rest

end

/-- A fault without its line. -/
def Fault.unlined : Fault → Fault
  | .compile message template _ => .compile message template 0
  | .render message template _ => .render message template 0
  | fault => fault

/-- A token without its line. -/
def Markup.Token.unlined (token : Markup.Token) : Markup.Token := { token with line := 0 }

theorem unlinedEntries_eq_map (entries : List (String × Fragment)) :
    unlinedEntries entries = entries.map fun entry => (entry.1, entry.2.unlined) := by
  induction entries with
  | nil => rfl
  | cons entry rest ih => rw [unlinedEntries, ih, List.map_cons]

theorem unlinedBlocks_insert (blocks : Dictionary Fragment) (x : String) (body : Fragment) :
    unlinedBlocks (blocks.insert x body) = (unlinedBlocks blocks).insert x body.unlined := by
  obtain ⟨entries⟩ := blocks
  show Dictionary.mk (unlinedEntries (Dictionary.insertEntry x body entries)) =
    ⟨Dictionary.insertEntry x body.unlined (unlinedEntries entries)⟩
  rw [unlinedEntries_eq_map, unlinedEntries_eq_map, Dictionary.insertEntry_map]

theorem contains_unlinedBlocks (blocks : Dictionary Fragment) (x : String) :
    (unlinedBlocks blocks).contains x = blocks.contains x := by
  obtain ⟨entries⟩ := blocks
  show (Dictionary.get? ⟨unlinedEntries entries⟩ x).isSome = _
  rw [unlinedEntries_eq_map, Dictionary.get?_map, Option.isSome_map]
  rfl

namespace Fault

variable {f f' : Fault}

theorem isLocated_unlined (f : Fault) : f.unlined.isLocated = f.isLocated := by
  cases f <;> rfl

theorem unlined_of_not_isLocated (h : f.isLocated = false) : f.unlined = f := by
  cases f with
  | compile | render => cases h
  | _ => rfl

/-- Faults that differ in their lines stay so when they are located. -/
theorem unlined_atCompile (same : f.unlined = f'.unlined) (template : String) (line line' : Nat) :
    (f.atCompile template line).unlined = (f'.atCompile template line').unlined := by
  have both : f.isLocated = f'.isLocated := by
    rw [← isLocated_unlined f, same, isLocated_unlined]
  unfold atCompile
  rw [← both]
  cases located : f.isLocated with
  | true =>
    rw [if_pos rfl, if_pos rfl]
    exact same
  | false =>
    rw [if_neg Bool.false_ne_true, if_neg Bool.false_ne_true]
    rw [unlined_of_not_isLocated located, unlined_of_not_isLocated (both ▸ located)] at same
    rw [same]
    rfl

end Fault

namespace Tag

open TextTemplate.Markup

/-! ## Parsing tokens -/

/-- The start of a run over some tokens. -/
def RunState.of (tokens : List Token) (lineCount : Nat) (name : String) : RunState where
  tokens := tokens
  lineCount := lineCount
  name := name
  blocks := .empty
  seenContent := false
  depth := 0

/-- Parses a whole template from its tokens. -/
def parseTokens (macros : List Macro) (tokens : List Token) (lineCount : Nat) (name : String) :
    Except Fault Fragment :=
  match (parseAll (parseChunk macros)).run (.of tokens lineCount name) with
  | .ok fragment _ => .ok fragment
  | .error fault _ => .error fault

theorem parseTemplate_eq_parseTokens (macros : List Macro) (source name : String) :
    parseTemplate macros source name =
      parseTokens macros (tokenize source) (Markup.lineCount source) name := rfl

/-! ## Runs that are alike -/

/-- Tokens without lines, and without the empty literals among them. -/
def unlinedTokens (tokens : List Token) : List Token := (filled tokens).map Token.unlined

/-- Two runs that differ in lines and in empty literals only. -/
structure RunState.Alike (s s' : RunState) : Prop where
  tokens : unlinedTokens s.tokens = unlinedTokens s'.tokens
  name : s.name = s'.name
  blocks : unlinedBlocks s.blocks = unlinedBlocks s'.blocks
  seenContent : s.seenContent = s'.seenContent
  depth : s.depth = s'.depth

/-- Two runs are alike behind a step, and each has taken some tokens at least. -/
structure Onward (taken : Nat) (s s' t t' : RunState) : Prop where
  alike : t.Alike t'
  left : t.tokens.length + taken ≤ s.tokens.length
  right : t'.tokens.length + taken ≤ s'.tokens.length

/-- Two steps end alike: with results and runs in a relation, or with the same fault but for its line. -/
inductive EndsAlike {α α' : Type} (post : α → RunState → α' → RunState → Prop) :
    EStateM.Result Fault RunState α → EStateM.Result Fault RunState α' → Prop
  | ok {a : α} {a' : α'} {t t' : RunState} : post a t a' t' → EndsAlike post (.ok a t) (.ok a' t')
  | error {f f' : Fault} {t t' : RunState} : f.unlined = f'.unlined → t.name = t'.name →
      EndsAlike post (.error f t) (.error f' t')

/-- Two steps go alike on runs that are alike and have fewer tokens than a bound each: their results are
related, and they take as many tokens at least as the result says. -/
def Together {α α' : Type} (b b' : Nat) (taken : α → Nat) (r : α → α' → Prop) (step : Run α)
    (step' : Run α') : Prop :=
  ∀ s s', s.Alike s' → s.tokens.length < b → s'.tokens.length < b' →
    EndsAlike (fun a t a' t' => r a a' ∧ Onward (taken a) s s' t t') (step s) (step' s')

/-- Results that take no tokens of their own. -/
abbrev free {α : Type} (_ : α) : Nat := 0

section Steps

variable {α α' β β' : Type} {b b' : Nat} {taken : α → Nat} {r : α → α' → Prop} {step : Run α}
  {step' : Run α'}

theorem EndsAlike.mono {post post' : α → RunState → α' → RunState → Prop}
    {x : EStateM.Result Fault RunState α} {x' : EStateM.Result Fault RunState α'}
    (h : EndsAlike post x x') (le : ∀ a t a' t', post a t a' t' → post' a t a' t') :
    EndsAlike post' x x' := by
  cases h with
  | ok h => exact .ok (le _ _ _ _ h)
  | error same name => exact .error same name

/-- Steps that go alike do so on fewer tokens, and with less said of what they take. -/
theorem Together.mono {c c' : Nat} {fewer : α → Nat} (h : Together b b' taken r step step')
    (le : c ≤ b) (le' : c' ≤ b') (less : ∀ a, fewer a ≤ taken a) :
    Together c c' fewer r step step' := by
  intro s s' alike short short'
  refine (h s s' alike (by omega) (by omega)).mono fun a t a' t' both => ?_
  obtain ⟨related, onward⟩ := both
  have := less a
  have := onward.left
  have := onward.right
  exact ⟨related, onward.alike, by omega, by omega⟩

theorem Together.within {c c' : Nat} (h : Together b b' taken r step step') (le : c ≤ b)
    (le' : c' ≤ b') : Together c c' taken r step step' :=
  h.mono le le' fun _ => Nat.le_refl _

theorem together_pure {a : α} {a' : α'} (h : r a a') :
    Together b b' free r (pure a) (pure a') :=
  fun _ _ alike _ _ => .ok ⟨h, alike, Nat.le_refl _, Nat.le_refl _⟩

/-- The tokens of the first step count for both. -/
theorem Together.bind {taken' : β → Nat} {r' : β → β' → Prop} {next : α → Run β}
    {next' : α' → Run β'} (first : Together b b' taken r step step')
    (second : ∀ a a', r a a' → Together (b - taken a) (b' - taken a)
      (fun c => taken' c - taken a) r' (next a) (next' a')) :
    Together b b' taken' r' (step >>= next) (step' >>= next') := by
  intro s s' alike short short'
  have ended := first s s' alike short short'
  rw [bind_apply, bind_apply]
  generalize step s = x at ended ⊢
  generalize step' s' = x' at ended ⊢
  cases ended with
  | error same name => exact .error same name
  | @ok a a' t t' both =>
    obtain ⟨related, onward⟩ := both
    have left := onward.left
    have right := onward.right
    refine (second a a' related t t' onward.alike (by omega) (by omega)).mono ?_
    intro c u c' u' both'
    obtain ⟨related', onward'⟩ := both'
    have left' : u.tokens.length + (taken' c - taken a) ≤ t.tokens.length := onward'.left
    have right' : u'.tokens.length + (taken' c - taken a) ≤ t'.tokens.length := onward'.right
    exact ⟨related', onward'.alike, by omega, by omega⟩

/-- A first step, whatever it takes. -/
theorem Together.andThen {r' : β → β' → Prop} {next : α → Run β} {next' : α' → Run β'}
    (first : Together b b' taken r step step')
    (second : ∀ a a', r a a' → Together b b' free r' (next a) (next' a')) :
    Together b b' free r' (step >>= next) (step' >>= next') :=
  first.bind fun a a' related => (second a a' related).mono (Nat.sub_le _ _) (Nat.sub_le _ _)
    fun _ => Nat.sub_le _ _

/-- A first step with the same result on both sides. -/
theorem Together.both {r' : β → β' → Prop} {step' : Run α} {next : α → Run β} {next' : α → Run β'}
    (first : Together b b' taken Eq step step')
    (second : ∀ a, Together b b' free r' (next a) (next' a)) :
    Together b b' free r' (step >>= next) (step' >>= next') :=
  first.andThen fun a _ same => same ▸ second a

/-- Nothing has to be taken if enough has been taken before. -/
theorem Together.enough {n m : Nat} (h : Together b b' free r step step') (le : n ≤ m) :
    Together b b' (fun _ => n - m) r step step' :=
  h.mono (Nat.le_refl _) (Nat.le_refl _) fun _ => Nat.le_of_eq (Nat.sub_eq_zero_of_le le)

/-- A step that looks at the run. -/
theorem together_get {taken' : β → Nat} {r' : β → β' → Prop} {next : RunState → Run β}
    {next' : RunState → Run β'}
    (h : ∀ s s', s.Alike s' → s.tokens.length < b → s'.tokens.length < b' →
      Together (s.tokens.length + 1) (s'.tokens.length + 1) taken' r' (next s) (next' s')) :
    Together b b' taken' r' (get >>= next) (get >>= next') := by
  intro s s' alike short short'
  rw [get_bind_apply, get_bind_apply]
  exact h s s' alike short short' s s' alike (Nat.lt_succ_self _) (Nat.lt_succ_self _)

theorem together_modify {f f' : RunState → RunState}
    (h : ∀ s s', s.Alike s' → (f s).Alike (f' s')) (tokens : ∀ s, (f s).tokens = s.tokens)
    (tokens' : ∀ s, (f' s).tokens = s.tokens) :
    Together b b' free Eq (modify f) (modify f') := by
  intro s s' alike _ _
  refine .ok ⟨rfl, h s s' alike, ?_, ?_⟩
  · rw [tokens]
    exact Nat.le_refl _
  · rw [tokens']
    exact Nat.le_refl _

theorem together_failSyntax (cause : SyntaxFault) :
    Together b b' taken r (failSyntax cause) (failSyntax cause) :=
  fun _ _ alike _ _ => .error rfl alike.name

theorem together_failSyntax_bind (cause : SyntaxFault) (next : β → Run α) (next' : β → Run α') :
    Together b b' taken r (failSyntax cause >>= next) (failSyntax cause >>= next') :=
  fun _ _ alike _ _ => .error rfl alike.name

theorem Together.atLine (h : Together b b' taken r step step') (line line' : Nat) :
    Together b b' taken r (atLine line step) (atLine line' step') := by
  intro s s' alike short short'
  have ended := h s s' alike short short'
  unfold Tag.atLine
  generalize step s = x at ended ⊢
  generalize step' s' = x' at ended ⊢
  cases ended with
  | ok both => exact .ok both
  | error same name =>
    refine .error ?_ name
    rw [name]
    exact Fault.unlined_atCompile same _ _ _

theorem Together.inBody (h : Together b b' taken r step step') :
    Together b b' taken r (inBody step) (inBody step') := by
  intro s s' alike short short'
  have deeper : RunState.Alike { s with depth := s.depth + 1 } { s' with depth := s'.depth + 1 } :=
    ⟨alike.tokens, alike.name, alike.blocks, alike.seenContent, congrArg (· + 1) alike.depth⟩
  have ended := h _ _ deeper short short'
  unfold Tag.inBody
  generalize step { s with depth := s.depth + 1 } = x at ended ⊢
  generalize step' { s' with depth := s'.depth + 1 } = x' at ended ⊢
  cases ended with
  | error same name => exact .error same name
  | ok both =>
    obtain ⟨related, onward⟩ := both
    have inner := onward.alike
    exact .ok ⟨related, ⟨inner.tokens, inner.name, inner.blocks, inner.seenContent,
      congrArg (· - 1) inner.depth⟩, onward.left, onward.right⟩

theorem together_expression (source : String) :
    Together b b' free Eq (expression source) (expression source) := by
  unfold expression
  cases Expression.compile source with
  | ok e => exact together_pure rfl
  | error cause => exact together_failSyntax cause

theorem together_target (source : String) :
    Together b b' free Eq (target source) (target source) := by
  unfold target
  cases Target.parse source with
  | ok t => exact together_pure rfl
  | error cause => exact together_failSyntax cause

/-- Fragments that differ in lines only. -/
def SameBody (body body' : Fragment) : Prop := body.unlined = body'.unlined

theorem together_fragment {nodes nodes' : List (Nat × Node)}
    (same : unlinedNodes nodes = unlinedNodes nodes') :
    Together b b' free SameBody (fragment nodes) (fragment nodes') := by
  refine together_get fun s s' alike _ _ => together_pure ?_
  show Fragment.mk s.name (unlinedNodes nodes) = ⟨s'.name, unlinedNodes nodes'⟩
  rw [alike.name, same]

theorem together_registerBlock (x : String) {body body' : Fragment} (same : SameBody body body') :
    Together b b' free Eq (registerBlock x body) (registerBlock x body') := by
  have registers : ∀ {b b' : Nat}, Together b b' free Eq
      (modify fun s => { s with blocks := s.blocks.insert x body } : Run Unit)
      (modify fun s => { s with blocks := s.blocks.insert x body' } : Run Unit) := by
    refine together_modify (fun s s' alike => ?_) (fun _ => rfl) fun _ => rfl
    refine ⟨alike.tokens, alike.name, ?_, alike.seenContent, alike.depth⟩
    show unlinedBlocks (s.blocks.insert x body) = unlinedBlocks (s'.blocks.insert x body')
    rw [unlinedBlocks_insert, unlinedBlocks_insert, alike.blocks, same]
  refine together_get fun s s' alike _ _ => ?_
  have found : s.blocks.contains x = s'.blocks.contains x := by
    rw [← contains_unlinedBlocks, alike.blocks, contains_unlinedBlocks]
  rw [found]
  dsimp only
  split
  · exact together_failSyntax_bind _ _ _
  · exact registers

/-- Whether a template has begun does not depend on lines. -/
theorem together_atTemplateStart : Together b b' free Eq atTemplateStart atTemplateStart := by
  intro s s' alike _ _
  refine .ok ⟨?_, alike, Nat.le_refl _, Nat.le_refl _⟩
  show (decide (s.depth = 0) && !s.seenContent) = (decide (s'.depth = 0) && !s'.seenContent)
  rw [alike.depth, alike.seenContent]

end Steps

/-! ## Bodies -/

/-- Chunks that differ in lines only. -/
structure Chunk.Alike (c c' : Chunk) : Prop where
  tag : c.tag = c'.tag
  nodes : unlinedNodes c.nodes = unlinedNodes c'.nodes

/-- The tokens behind the nodes of a chunk: its last tag, if there is one. -/
def Chunk.ending (c : Chunk) : Nat := if c.tag.isSome then 1 else 0

/-- Two parsers of chunks go alike while there are fewer tokens than a bound for each. -/
def ChunksAlike (b b' : Nat) (chunk chunk' : Run Chunk) : Prop :=
  Together b b' Chunk.ending Chunk.Alike chunk chunk'

/-- Ends of bodies, with the bodies, that differ in lines only. -/
def SameEnd {α : Type} (ended ended' : Terminator α × Fragment) : Prop :=
  ended.1.what = ended'.1.what ∧ SameBody ended.2 ended'.2

section Bodies

variable {b b' : Nat} {chunk chunk' : Run Chunk} (alike : ChunksAlike b b' chunk chunk')

include alike

/-- A body takes the tag at its end. -/
theorem together_parseBody {α : Type} (opening closing : String) (ending? : String → Option α) :
    Together b b' (fun _ => 1) SameEnd (parseBody chunk opening closing ending?)
      (parseBody chunk' opening closing ending?) := by
  refine Together.bind (Together.inBody alike) fun c c' same => ?_
  rw [← same.tag]
  cases stop : c.tag with
  | none => exact together_failSyntax _
  | some tag =>
    have one : 1 ≤ c.ending := by
      rw [Chunk.ending, stop]
      exact Nat.le_refl 1
    dsimp only
    cases ending? tag with
    | none => exact (together_failSyntax _).atLine _ _
    | some what =>
      refine Together.enough ((together_fragment same.nodes).andThen fun f f' body => ?_) one
      exact together_pure (r := SameEnd) ⟨rfl, body⟩

theorem together_parseAll : Together b b' free SameBody (parseAll chunk) (parseAll chunk') := by
  refine Together.bind alike fun c c' same => ?_
  rw [← same.tag]
  cases c.tag with
  | none => exact (together_fragment same.nodes).enough (Nat.zero_le _)
  | some tag => exact (together_failSyntax _).atLine _ _

theorem together_parseElse : Together b b' free SameBody (parseElse chunk) (parseElse chunk') := by
  refine (together_parseBody alike "if" "endif" Clause.read?).andThen fun e e' same => ?_
  obtain ⟨⟨line, what⟩, body⟩ := e
  obtain ⟨⟨line', what'⟩, body'⟩ := e'
  obtain ⟨rfl, same⟩ : what = what' ∧ SameBody body body' := same
  cases what with
  | elif test => exact (together_failSyntax _).atLine _ _
  | orelse => exact (together_failSyntax _).atLine _ _
  | endif => exact together_pure same

/-- Clauses of `if` that differ in lines only. -/
def SameClauses (clauses clauses' : List (Expression × Fragment) × Option Fragment) : Prop :=
  unlinedClauses clauses.1 = unlinedClauses clauses'.1 ∧
    unlinedElse clauses.2 = unlinedElse clauses'.2

/-- By induction on the steps of one run: every clause takes a tag, so neither run is the first that
has no steps left. -/
theorem together_parseClauses (steps steps' : Nat) (test : Expression) :
    Together (min b steps) (min b' steps') free SameClauses (parseClauses chunk steps test)
      (parseClauses chunk' steps' test) := by
  induction steps generalizing steps' test with
  | zero =>
    intro s s' _ short _
    exact absurd short (by omega)
  | succ steps ih =>
    cases steps' with
    | zero =>
      intro s s' _ _ short
      exact absurd short (by omega)
    | succ steps' =>
      have body := together_parseBody alike "if" "endif" Clause.read?
      refine (body.within (Nat.min_le_left _ _) (Nat.min_le_left _ _)).bind fun e e' same => ?_
      obtain ⟨⟨line, what⟩, body⟩ := e
      obtain ⟨⟨line', what'⟩, body'⟩ := e'
      obtain ⟨rfl, same⟩ : what = what' ∧ SameBody body body' := same
      refine Together.enough (r := SameClauses) ?_ (Nat.zero_le 1)
      cases what with
      | elif next =>
        refine ((together_expression next).atLine line line').both fun e => ?_
        refine ((ih steps' e).within (by omega) (by omega)).andThen fun clauses clauses' others => ?_
        refine together_pure (r := SameClauses) ⟨?_, others.2⟩
        show (test, body.unlined) :: unlinedClauses clauses.1 = _
        rw [others.1, same]
        rfl
      | orelse =>
        refine ((together_parseElse alike).within (by omega) (by omega)).andThen
          fun last last' other => ?_
        refine together_pure (r := SameClauses) ⟨?_, ?_⟩
        · show [(test, body.unlined)] = [(test, body'.unlined)]
          rw [same]
        · exact congrArg some other
      | endif =>
        refine together_pure (r := SameClauses) ⟨?_, rfl⟩
        show [(test, body.unlined)] = [(test, body'.unlined)]
        rw [same]

end Bodies

/-! ## Macros -/

/-- Nodes that differ in lines only. -/
def SameNode (n n' : Node) : Prop := n.unlined = n'.unlined

/-- A macro that builds its nodes alike whatever the lines of the tokens are, if the parser of its bodies
does. -/
def Macro.IgnoresLines (m : Macro) : Prop :=
  ∀ {b b' : Nat} {chunk chunk' : Run Chunk}, ChunksAlike b b' chunk chunk' → ∀ captures,
    Together b b' free SameNode (m.build chunk captures) (m.build chunk' captures)

theorem ifTag_ignoresLines : ifTag.IgnoresLines := by
  intro b b' chunk chunk' alike captures
  refine (together_expression _).both fun test => ?_
  refine together_get fun s s' _ short short' => ?_
  refine ((together_parseClauses alike _ _ test).within (by omega) (by omega)).andThen
    fun clauses clauses' same => ?_
  refine together_pure (r := SameNode) ?_
  show Node.branch (unlinedClauses clauses.1) (unlinedElse clauses.2) = _
  rw [same.1, same.2]
  rfl

theorem extendsTag_ignoresLines : extendsTag.IgnoresLines := by
  intro b b' chunk chunk' alike captures
  have rest : Together b b' free SameNode
      (do
        let parent ← expression (captures.group 0)
        let _ ← parseAll chunk
        return Node.extend parent (← get).blocks)
      (do
        let parent ← expression (captures.group 0)
        let _ ← parseAll chunk'
        return Node.extend parent (← get).blocks) := by
    refine (together_expression _).both fun parent => ?_
    refine (together_parseAll alike).andThen fun _ _ _ => together_get fun s s' same _ _ => ?_
    refine together_pure (r := SameNode) ?_
    show Node.extend parent (unlinedBlocks s.blocks) = _
    rw [same.blocks]
    rfl
  refine together_atTemplateStart.both fun early => ?_
  dsimp only
  split
  · exact rest
  · exact together_failSyntax_bind _ _ _

/-- No standard macro looks at lines. -/
theorem ignoresLines_standard : ∀ m ∈ standard, m.IgnoresLines := by
  rw [standard_eq]
  simp only [List.forall_mem_cons]
  refine ⟨?set, ?print, ifTag_ignoresLines, ?loop, ?bind, ?insert, ?block, ?super,
    extendsTag_ignoresLines, List.forall_mem_nil _⟩
  all_goals intro b b' chunk chunk' alike captures
  case set =>
    refine (together_expression _).both fun e => ?_
    refine (together_target _).both fun t => ?_
    exact together_pure rfl
  case print => exact (together_expression _).both fun e => together_pure rfl
  case loop =>
    refine (together_target _).both fun t => ?_
    refine (together_expression _).both fun e => ?_
    refine (together_parseBody alike _ _ _).andThen fun ending ending' same => ?_
    exact together_pure (r := SameNode) (congrArg (Node.loop t e) same.2)
  case bind =>
    refine (together_expression _).both fun e => ?_
    refine (together_target _).both fun t => ?_
    refine (together_parseBody alike _ _ _).andThen fun ending ending' same => ?_
    exact together_pure (r := SameNode) (congrArg (Node.bind t e) same.2)
  case insert => exact (together_expression _).both fun e => together_pure rfl
  case block =>
    refine (together_parseBody alike _ _ _).andThen fun ending ending' same => ?_
    refine (together_registerBlock _ same.2).andThen fun _ _ _ => ?_
    exact together_pure (r := SameNode) (congrArg (Node.block _) same.2)
  case super => exact together_pure rfl

/-! ## Tokens -/

/-- Results of a token that differ in lines only. -/
inductive SameStep : Step → Step → Prop
  | node {n n' : Node} : SameNode n n' → SameStep (.node n) (.node n')
  | nothing : SameStep .nothing .nothing
  | unknown (tag : String) : SameStep (.unknown tag) (.unknown tag)

section Tokens

variable {macros : List Macro} (ignore : ∀ m ∈ macros, m.IgnoresLines) {b b' : Nat}
  {chunk chunk' : Run Chunk}

theorem together_noteContent : Together b b' free Eq noteContent noteContent :=
  together_modify (fun _ _ alike => ⟨alike.tokens, alike.name, alike.blocks, rfl, alike.depth⟩)
    (fun _ => rfl) fun _ => rfl

include ignore

/-- The same macro takes a tag on both sides. -/
theorem together_dispatch (alike : ChunksAlike b b' chunk chunk') (tag : String) :
    Together b b' free (Option.Rel SameNode) (dispatch macros chunk tag)
      (dispatch macros chunk' tag) := by
  unfold dispatch
  split
  · next m captures found =>
    obtain ⟨_, mem, fits⟩ := List.exists_of_findSome?_eq_some found
    obtain ⟨_, -, same⟩ := Option.map_eq_some_iff.1 fits
    cases same
    exact (ignore m mem alike captures).andThen fun _ _ same => together_pure (.some same)
  · exact together_pure .none

theorem together_step (alike : ChunksAlike b b' chunk chunk') (line line' : Nat) (kind : TokenKind)
    (text : String) :
    Together b b' free SameStep (step macros chunk ⟨line, kind, text⟩)
      (step macros chunk' ⟨line', kind, text⟩) := by
  cases kind with
  | literal =>
    unfold step
    dsimp only
    split
    · exact together_pure .nothing
    · split
      · exact together_pure (.node rfl)
      · exact together_noteContent.both fun _ => together_pure (.node rfl)
  | expression =>
    refine together_noteContent.both fun _ => ?_
    exact ((together_expression text).atLine line line').both fun e => together_pure (.node rfl)
  | tag =>
    refine ((together_dispatch ignore alike text).atLine line line').andThen fun found found' same => ?_
    cases same with
    | none => exact together_pure (.unknown text)
    | some same => exact together_noteContent.both fun _ => together_pure (.node same)

end Tokens

/-! ## Chunks -/

/-- A literal without text. -/
def IsEmptyLiteral (token : Token) : Prop := token.kind = .literal ∧ token.text.isEmpty = true

section Chunks

variable {s s' : RunState} {token token' : Token} {rest rest' : List Token}

theorem unlinedTokens_empty (empty : IsEmptyLiteral token) (rest : List Token) :
    unlinedTokens (token :: rest) = unlinedTokens rest := by
  have out : filled (token :: rest) = filled rest :=
    List.filter_cons_of_neg (by simp [empty.1, empty.2])
  rw [unlinedTokens, out]
  rfl

theorem unlinedTokens_cons (some : ¬ IsEmptyLiteral token) (rest : List Token) :
    unlinedTokens (token :: rest) = token.unlined :: unlinedTokens rest := by
  rw [unlinedTokens, filled_cons some]
  rfl

theorem length_behind (first : s.tokens = token :: rest) :
    s.behind.tokens.length + 1 = s.tokens.length := by
  rw [RunState.behind, first]
  rfl

/-- An empty literal comes first. -/
def RunState.Idle (s : RunState) : Prop :=
  ∃ token rest, s.tokens = token :: rest ∧ IsEmptyLiteral token

theorem RunState.Idle.length_behind (idle : s.Idle) :
    s.behind.tokens.length + 1 = s.tokens.length := by
  obtain ⟨_, _, first, -⟩ := idle
  exact Tag.length_behind first

/-- A run behind an empty literal is like the run in front of it. -/
theorem RunState.Idle.tokens_behind (idle : s.Idle) :
    unlinedTokens s.behind.tokens = unlinedTokens s.tokens := by
  obtain ⟨token, rest, first, empty⟩ := idle
  rw [RunState.behind, first, unlinedTokens_empty empty]
  rfl

/-- An empty literal is passed over. -/
theorem RunState.Idle.parseChunkWithin_eq (idle : s.Idle) (macros : List Macro) (steps : Nat) :
    parseChunkWithin macros (steps + 1) s = parseChunkWithin macros steps s.behind := by
  obtain ⟨⟨line, kind, text⟩, rest, first, literal, empty⟩ := idle
  cases literal
  have passed : step macros (parseChunkWithin macros steps) ⟨line, .literal, text⟩ s.behind =
      .ok .nothing s.behind := by
    rw [step, if_pos empty]
    rfl
  rw [parseChunkWithin_cons first, bind_apply, passed]

/-- The first tokens of two runs that are alike, neither of which has an empty literal before it. -/
theorem RunState.Alike.heads (alike : s.Alike s') (busy : ¬ s.Idle) (busy' : ¬ s'.Idle) :
    s.tokens = [] ∧ s'.tokens = [] ∨
      ∃ token rest token' rest', s.tokens = token :: rest ∧ s'.tokens = token' :: rest' ∧
        token.unlined = token'.unlined ∧ s.behind.Alike s'.behind := by
  have same := alike.tokens
  cases first : s.tokens with
  | nil =>
    cases first' : s'.tokens with
    | nil => exact .inl ⟨rfl, rfl⟩
    | cons token' rest' =>
      have solid' : ¬ IsEmptyLiteral token' := fun empty => busy' ⟨_, _, first', empty⟩
      rw [first, first', unlinedTokens_cons solid'] at same
      cases same
  | cons token rest =>
    have solid : ¬ IsEmptyLiteral token := fun empty => busy ⟨_, _, first, empty⟩
    cases first' : s'.tokens with
    | nil =>
      rw [first, first', unlinedTokens_cons solid] at same
      cases same
    | cons token' rest' =>
      have solid' : ¬ IsEmptyLiteral token' := fun empty => busy' ⟨_, _, first', empty⟩
      rw [first, first', unlinedTokens_cons solid, unlinedTokens_cons solid'] at same
      obtain ⟨one, others⟩ := List.cons.inj same
      refine .inr ⟨token, rest, token', rest', rfl, rfl, one, ?_, alike.name, alike.blocks,
        alike.seenContent, alike.depth⟩
      rw [RunState.behind, RunState.behind, first, first']
      exact others

end Chunks

section Templates

variable {macros : List Macro} (ignore : ∀ m ∈ macros, m.IgnoresLines)

include ignore

/-- What follows the first tokens of two runs, both of which are no empty literals. -/
theorem together_first {k k' : Nat}
    (alike : ChunksAlike k k' (parseChunkWithin macros k) (parseChunkWithin macros k'))
    {token token' : Token} (same : token.unlined = token'.unlined) :
    Together k k' free Chunk.Alike
      (do
        match ← step macros (parseChunkWithin macros k) token with
        | .unknown tag => return ⟨token.line, some tag, []⟩
        | .nothing => parseChunkWithin macros k
        | .node node =>
          let chunk ← parseChunkWithin macros k
          return { chunk with nodes := (token.line, node) :: chunk.nodes })
      (do
        match ← step macros (parseChunkWithin macros k') token' with
        | .unknown tag => return ⟨token'.line, some tag, []⟩
        | .nothing => parseChunkWithin macros k'
        | .node node =>
          let chunk ← parseChunkWithin macros k'
          return { chunk with nodes := (token'.line, node) :: chunk.nodes }) := by
  obtain ⟨line, kind, text⟩ := token
  obtain ⟨line', kind', text'⟩ := token'
  cases same
  refine (together_step ignore alike line line' kind text).andThen fun result result' same => ?_
  cases same with
  | unknown tag => exact together_pure ⟨rfl, rfl⟩
  | nothing =>
    exact Together.mono alike (Nat.le_refl _) (Nat.le_refl _) fun _ => Nat.zero_le _
  | @node n n' same =>
    refine Together.andThen alike fun c c' chunks => together_pure ⟨chunks.tag, ?_⟩
    show (0, n.unlined) :: unlinedNodes c.nodes = (0, n'.unlined) :: unlinedNodes c'.nodes
    rw [show n.unlined = n'.unlined from same, chunks.nodes]

/-- Two runs that are alike build the same chunk, whatever the number of steps that each of them has
left: by induction on both numbers.  A run in front of an empty literal goes on alone. -/
theorem chunksAlike : (k k' : Nat) →
    ChunksAlike k k' (parseChunkWithin macros k) (parseChunkWithin macros k')
  | 0, _ => fun _ _ _ short _ => absurd short (Nat.not_lt_zero _)
  | _, 0 => fun _ _ _ _ short => absurd short (Nat.not_lt_zero _)
  | k + 1, k' + 1 => by
    intro s s' alike short short'
    -- one run passes over an empty literal, and the other one stays where it is
    by_cases idle : s.Idle
    · have fewer := idle.length_behind
      have ahead : s.behind.Alike s' :=
        ⟨idle.tokens_behind.trans alike.tokens, alike.name, alike.blocks, alike.seenContent,
          alike.depth⟩
      rw [idle.parseChunkWithin_eq]
      refine (chunksAlike k (k' + 1) s.behind s' ahead (by omega) short').mono ?_
      rintro c t c' t' ⟨same, onward⟩
      have := onward.left
      exact ⟨same, onward.alike, by omega, onward.right⟩
    by_cases idle' : s'.Idle
    · have fewer := idle'.length_behind
      have ahead : s.Alike s'.behind :=
        ⟨alike.tokens.trans idle'.tokens_behind.symm, alike.name, alike.blocks, alike.seenContent,
          alike.depth⟩
      rw [idle'.parseChunkWithin_eq]
      refine (chunksAlike (k + 1) k' s s'.behind ahead short (by omega)).mono ?_
      rintro c t c' t' ⟨same, onward⟩
      have := onward.right
      exact ⟨same, onward.alike, onward.left, by omega⟩
    -- both runs take a token, and the tokens are the same up to their lines
    rcases alike.heads idle idle' with
      ⟨none, none'⟩ | ⟨token, rest, token', rest', first, first', same, ahead⟩
    · rw [parseChunkWithin_nil _ none, parseChunkWithin_nil _ none']
      exact .ok ⟨⟨rfl, rfl⟩, alike, Nat.le_refl _, Nat.le_refl _⟩
    · have fewer := length_behind first
      have fewer' := length_behind first'
      rw [parseChunkWithin_cons first, parseChunkWithin_cons first']
      refine (together_first ignore (chunksAlike k k') same _ _ ahead (by omega) (by omega)).mono ?_
      rintro c t c' t' ⟨same, onward⟩
      have := onward.left
      have := onward.right
      have one : c.ending ≤ 1 := by
        unfold Chunk.ending
        split <;> omega
      exact ⟨same, onward.alike, by omega, by omega⟩
termination_by k k' => k + k'

/-- A template, or a fault, without lines. -/
def unlinedResult : Except Fault Fragment → Except Fault Fragment
  | .ok body => .ok body.unlined
  | .error fault => .error fault.unlined

/-- **The parser looks at neither lines nor empty literals.**  From tokens that differ in these only it
builds the same nodes up to lines, or fails with the same fault up to its line. -/
theorem parseTokens_unlined {tokens tokens' : List Token}
    (same : unlinedTokens tokens = unlinedTokens tokens') (lineCount lineCount' : Nat)
    (name : String) :
    unlinedResult (parseTokens macros tokens lineCount name) =
      unlinedResult (parseTokens macros tokens' lineCount' name) := by
  have chunks : ∀ b b', ChunksAlike b b' (parseChunk macros) (parseChunk macros) :=
    fun b b' => together_get fun s s' _ _ _ => chunksAlike ignore _ _
  have start : (RunState.of tokens lineCount name).Alike (.of tokens' lineCount' name) :=
    ⟨same, rfl, rfl, rfl, rfl⟩
  have ended := together_parseAll (chunks _ _) _ _ start (Nat.lt_succ_self _) (Nat.lt_succ_self _)
  unfold parseTokens
  rw [EStateM.run, EStateM.run]
  generalize parseAll (parseChunk macros) (.of tokens lineCount name) = x at ended ⊢
  generalize parseAll (parseChunk macros) (.of tokens' lineCount' name) = x' at ended ⊢
  cases ended with
  | ok both => exact congrArg Except.ok both.1
  | error same _ => exact congrArg Except.error same

end Templates

end Tag

end TextTemplate
