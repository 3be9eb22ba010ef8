import TextTemplate.Proofs.Tag.Soundness

/-!
# Macros that parse alike

A grammar only asks its macros about the tags of the template.  Two lists of macros that do the same with
these tags parse it alike, bodies included (`parseTemplate_congr`): by induction on the steps, with
`Agree` for what two steps have in common as long as all tokens that are left are answered alike.  A
macro gets the whole run, so the macros that build nodes have to keep to this too
(`Macro.KeepsAgreement`), and the standard macros do.

What reads the end of a block is built from the name of the block.  Where this succeeds for all blocks of
a template, the template is parsed as if it always did (`parseTemplate_standardWith`).
-/

namespace TextTemplate.Tag

open TextTemplate.Markup

/-! ## Steps that agree -/

/-- Two steps do the same in every run whose tokens have a property, and leave such tokens. -/
def Agree {α : Type} (safe : Token → Prop) (step step' : Run α) : Prop :=
  ∀ s, (∀ t ∈ s.tokens, safe t) →
    step s = step' s ∧ ∀ a s', step s = .ok a s' → ∀ t ∈ s'.tokens, safe t

section Steps

variable {α β : Type} {safe : Token → Prop} {step step' : Run α}

/-- A step agrees with itself if it leaves the tokens as they are. -/
theorem agree_refl (still : ∀ s a s', step s = .ok a s' → s'.tokens = s.tokens) :
    Agree safe step step := by
  intro s all
  refine ⟨rfl, fun a s' ok => ?_⟩
  rw [still s a s' ok]
  exact all

theorem agree_pure (a : α) : Agree safe (pure a) (pure a) :=
  agree_refl fun _ _ _ ok => by rw [(pure_eq_ok.1 ok).2]

theorem agree_failSyntax (cause : SyntaxFault) :
    Agree safe (failSyntax cause : Run α) (failSyntax cause) :=
  agree_refl fun _ _ _ ok => absurd ok failSyntax_ne_ok

theorem agree_expression (source : String) : Agree safe (expression source) (expression source) :=
  agree_refl fun _ _ _ ok => by rw [(expression_eq_ok.1 ok).2]

theorem agree_target (source : String) : Agree safe (target source) (target source) :=
  agree_refl fun _ _ _ ok => by rw [(target_eq_ok.1 ok).2]

theorem agree_fragment (nodes : List (Nat × Node)) : Agree safe (fragment nodes) (fragment nodes) :=
  agree_refl fun _ _ _ ok => by rw [(fragment_eq_ok.1 ok).2]

theorem agree_atTemplateStart : Agree safe atTemplateStart atTemplateStart :=
  agree_refl fun _ _ _ ok => by rw [(atTemplateStart_eq_ok.1 ok).2]

theorem agree_noteContent : Agree safe noteContent noteContent :=
  agree_refl fun _ _ _ ok => by rw [← modify_eq_ok.1 ok]

theorem Agree.bind {next next' : α → Run β} (first : Agree safe step step')
    (second : ∀ a, Agree safe (next a) (next' a)) : Agree safe (step >>= next) (step' >>= next') := by
  intro s all
  obtain ⟨same, kept⟩ := first s all
  rw [bind_apply, bind_apply, ← same]
  cases run : step s with
  | ok a t => exact second a t (kept a t run)
  | error fault t => exact ⟨rfl, fun _ _ ok => nomatch ok⟩

theorem Agree.map (f : α → β) (first : Agree safe step step') :
    Agree safe (f <$> step) (f <$> step') := by
  rw [map_eq_pure_bind, map_eq_pure_bind]
  exact first.bind fun _ => agree_pure _

/-- A step that looks at the run. -/
theorem agree_get {next next' : RunState → Run α}
    (h : ∀ s, (∀ t ∈ s.tokens, safe t) → Agree safe (next s) (next' s)) :
    Agree safe (get >>= next) (get >>= next') := by
  intro s all
  rw [get_bind_apply, get_bind_apply]
  exact h s all s all

theorem Agree.atLine (h : Agree safe step step') (line : Nat) :
    Agree safe (atLine line step) (atLine line step') := by
  intro s all
  obtain ⟨same, kept⟩ := h s all
  refine ⟨?_, fun a s' ok => kept a s' (atLine_eq_ok.1 ok)⟩
  unfold Tag.atLine
  rw [same]

theorem Agree.inBody (h : Agree safe step step') : Agree safe (inBody step) (inBody step') := by
  intro s all
  obtain ⟨same, kept⟩ := h { s with depth := s.depth + 1 } all
  refine ⟨?_, fun a s' ok => ?_⟩
  · unfold Tag.inBody
    rw [same]
  · obtain ⟨t, inner, rfl⟩ := inBody_eq_ok ok
    exact kept a t inner

theorem agree_registerBlock (name : String) (body : Fragment) :
    Agree safe (registerBlock name body) (registerBlock name body) := by
  have registers : Agree safe (modify fun s => { s with blocks := s.blocks.insert name body } : Run Unit)
      (modify fun s => { s with blocks := s.blocks.insert name body }) :=
    agree_refl fun _ _ _ ok => by rw [← modify_eq_ok.1 ok]
  refine agree_get fun s _ => ?_
  dsimp only
  split
  · exact (agree_failSyntax _).bind fun _ => registers
  · exact registers

variable {chunk chunk' : Run Chunk}

theorem Agree.parseBody (h : Agree safe chunk chunk') (opening closing : String)
    (ending? : String → Option α) :
    Agree safe (parseBody chunk opening closing ending?) (parseBody chunk' opening closing ending?) := by
  refine h.inBody.bind fun c => ?_
  split
  · exact agree_failSyntax _
  · split
    · exact (agree_failSyntax _).atLine _
    · exact (agree_fragment _).bind fun _ => agree_pure _

theorem Agree.parseAll (h : Agree safe chunk chunk') : Agree safe (parseAll chunk) (parseAll chunk') := by
  refine h.bind fun c => ?_
  split
  · exact (agree_failSyntax _).atLine _
  · exact agree_fragment _

theorem Agree.parseElse (h : Agree safe chunk chunk') :
    Agree safe (parseElse chunk) (parseElse chunk') := by
  refine (h.parseBody _ _ _).bind fun (ending, body) => ?_
  dsimp only
  split
  · exact (agree_failSyntax _).atLine _
  · exact (agree_failSyntax _).atLine _
  · exact agree_pure _

theorem Agree.parseClauses (h : Agree safe chunk chunk') (steps : Nat) (test : Expression) :
    Agree safe (parseClauses chunk steps test) (parseClauses chunk' steps test) := by
  induction steps generalizing test with
  | zero => exact agree_failSyntax _
  | succ steps ih =>
    refine (h.parseBody _ _ _).bind fun (ending, body) => ?_
    dsimp only
    split
    · refine ((agree_expression _).atLine _).bind fun next => ?_
      exact (ih next).bind fun _ => agree_pure _
    · exact h.parseElse.bind fun _ => agree_pure _
    · exact agree_pure _

end Steps

/-! ## Macros -/

/-- A macro that does the same with two parsers of bodies that agree. -/
def Macro.KeepsAgreement (m : Macro) : Prop :=
  ∀ {safe : Token → Prop} {chunk chunk' : Run Chunk}, Agree safe chunk chunk' → ∀ captures,
    Agree safe (m.build chunk captures) (m.build chunk' captures)

theorem keepsAgreement_extendsTag : extendsTag.KeepsAgreement := by
  intro safe chunk chunk' agree captures
  have rest : Agree safe
      (do
        let parent ← expression (captures.group 0)
        let _ ← parseAll chunk
        return Node.extend parent (← get).blocks)
      (do
        let parent ← expression (captures.group 0)
        let _ ← parseAll chunk'
        return Node.extend parent (← get).blocks) := by
    refine (agree_expression _).bind fun parent => ?_
    exact agree.parseAll.bind fun _ => agree_get fun _ _ => agree_pure _
  refine agree_atTemplateStart.bind fun early => ?_
  dsimp only
  split
  · exact rest
  · exact (agree_failSyntax _).bind fun _ => rest

/-- Every standard macro parses its bodies with the parser that it is given. -/
theorem keepsAgreement_standard : ∀ m ∈ standard, m.KeepsAgreement := by
  rw [standard_eq]
  simp only [List.forall_mem_cons]
  refine ⟨?set, ?print, ?branch, ?loop, ?bind, ?insert, ?block, ?super, keepsAgreement_extendsTag,
    List.forall_mem_nil _⟩
  all_goals intro safe chunk chunk' agree captures
  case set =>
    exact (agree_expression _).bind fun e => (agree_target _).bind fun t => agree_pure _
  case print => exact (agree_expression _).bind fun _ => agree_pure _
  case branch =>
    refine (agree_expression _).bind fun test => agree_get fun s _ => ?_
    exact (agree.parseClauses _ _).bind fun _ => agree_pure _
  case loop =>
    refine (agree_target _).bind fun t => (agree_expression _).bind fun e => ?_
    exact (agree.parseBody _ _ _).bind fun _ => agree_pure _
  case bind =>
    refine (agree_expression _).bind fun e => (agree_target _).bind fun t => ?_
    exact (agree.parseBody _ _ _).bind fun _ => agree_pure _
  case insert => exact (agree_expression _).bind fun _ => agree_pure _
  case block =>
    refine (agree.parseBody _ _ _).bind fun (ending, body) => ?_
    exact (agree_registerBlock _ _).bind fun _ => agree_pure _
  case super => exact agree_pure _

/-! ## Templates -/

/-- What the first macro that takes a tag does, given a parser of bodies. -/
def builder? (macros : List Macro) (tag : String) : Option (Run Chunk → Run Node) :=
  macros.findSome? fun m => (fitAny? m.patterns tag).map fun captures chunk => m.build chunk captures

theorem builder?_eq_map (macros : List Macro) (tag : String) :
    builder? macros tag =
      (macros.findSome? fun m => (fitAny? m.patterns tag).map fun captures => (m, captures)).map
        fun found chunk => found.1.build chunk found.2 := by
  rw [List.map_findSome?]
  simp only [builder?, Function.comp_def, Option.map_map]

theorem dispatch_eq (macros : List Macro) (chunk : Run Chunk) (tag : String) :
    dispatch macros chunk tag =
      match builder? macros tag with
      | some build => some <$> build chunk
      | none => pure none := by
  rw [builder?_eq_map, dispatch]
  cases macros.findSome? fun m => (fitAny? m.patterns tag).map fun captures => (m, captures) <;> rfl

/-- Two lists of macros do the same with a token, if it is a tag. -/
def BuildAlike (macros macros' : List Macro) (token : Token) : Prop :=
  token.kind = .tag → builder? macros token.text = builder? macros' token.text

section Templates

variable {macros macros' : List Macro} (keep : ∀ m ∈ macros', m.KeepsAgreement)
  {chunk chunk' : Run Chunk} {safe : Token → Prop}

include keep

theorem agree_dispatch (agree : Agree safe chunk chunk') {tag : String}
    (alike : builder? macros tag = builder? macros' tag) :
    Agree safe (dispatch macros chunk tag) (dispatch macros' chunk' tag) := by
  rw [dispatch_eq, dispatch_eq, alike]
  cases found : builder? macros' tag with
  | none => exact agree_pure _
  | some build =>
    obtain ⟨m, mem, fits⟩ := List.exists_of_findSome?_eq_some found
    obtain ⟨captures, -, rfl⟩ := Option.map_eq_some_iff.1 fits
    exact (keep m mem agree captures).map some

theorem agree_step (agree : Agree safe chunk chunk') {token : Token}
    (alike : BuildAlike macros macros' token) :
    Agree safe (step macros chunk token) (step macros' chunk' token) := by
  obtain ⟨line, kind, text⟩ := token
  cases kind with
  | literal =>
    unfold step
    dsimp only
    split
    · exact agree_pure _
    · split
      · exact agree_pure _
      · exact agree_noteContent.bind fun _ => agree_pure _
  | expression =>
    refine agree_noteContent.bind fun _ => ?_
    exact ((agree_expression _).atLine _).bind fun _ => agree_pure _
  | tag =>
    refine ((agree_dispatch keep agree (alike rfl)).atLine _).bind fun found => ?_
    split
    · exact agree_noteContent.bind fun _ => agree_pure _
    · exact agree_pure _

/-- Chunks of tokens that are answered alike: by induction on the steps, which bodies take as well. -/
theorem agree_parseChunkWithin (steps : Nat) :
    Agree (BuildAlike macros macros') (parseChunkWithin macros steps)
      (parseChunkWithin macros' steps) := by
  induction steps with
  | zero => exact agree_get fun _ _ => agree_pure _
  | succ steps ih =>
    refine agree_get fun s all => ?_
    cases left : s.tokens with
    | nil => exact agree_get fun _ _ => agree_pure _
    | cons token rest =>
      rw [left] at all
      obtain ⟨alike, others⟩ := List.forall_mem_cons.1 all
      have taken : Agree (BuildAlike macros macros')
          (modify fun s => { s with tokens := rest } : Run Unit)
          (modify fun s => { s with tokens := rest }) := by
        refine fun s _ => ⟨rfl, fun _ s' ok => ?_⟩
        rw [← modify_eq_ok.1 ok]
        exact others
      refine taken.bind fun _ => (agree_step keep ih alike).bind fun result => ?_
      split
      · exact agree_pure _
      · exact ih
      · exact ih.bind fun _ => agree_pure _

/-- **A parser looks at its macros only through the tags of a template.**  Lists of macros that do the
same with each of the tags parse the template alike. -/
theorem parseTemplate_congr (source name : String)
    (alike : ∀ token ∈ tokenize source, BuildAlike macros macros' token) :
    parseTemplate macros source name = parseTemplate macros' source name := by
  have chunks : Agree (BuildAlike macros macros') (parseChunk macros) (parseChunk macros') :=
    agree_get fun s _ => agree_parseChunkWithin keep _
  have same := (chunks.parseAll (.start source name) alike).1
  unfold parseTemplate
  rw [EStateM.run, EStateM.run, same]

end Templates

/-! ## Ends of blocks -/

/-- For each block of a template what reads its end can be built, and it takes the two forms of an end. -/
def EndsBuilt (endOf : EndBuilder) (source : String) : Prop :=
  ∀ token ∈ tokenize source, ∀ captures, fitAny? blockTag.patterns token.text = some captures →
    endOf (captures.group 0) = .ok (readEndblock? (captures.group 0))

/-- **Only the blocks of a template need ends that can be read.** -/
theorem parseTemplate_standardWith {endOf : EndBuilder} {source : String}
    (built : EndsBuilt endOf source) (name : String) :
    parseTemplate (standardWith endOf) source name = parseTemplate standard source name := by
  refine parseTemplate_congr keepsAgreement_standard source name fun token mem _ => ?_
  -- the two lists differ in the tag of a block, which does the same if it takes the token at all
  have block : ((fitAny? (blockTagWith endOf).patterns token.text).map
        fun captures chunk => (blockTagWith endOf).build chunk captures) =
      (fitAny? blockTag.patterns token.text).map
        fun captures chunk => blockTag.build chunk captures := by
    refine Option.map_congr fun captures fits => funext fun chunk => ?_
    unfold blockTag blockTagWith
    dsimp only
    rw [built token mem captures fits]
  simp only [builder?, standard_eq, standardWith, List.findSome?_cons, block]

end TextTemplate.Tag
