import TextTemplate.Proofs.Tag.Soundness

/-!
# The name of a template stays

A run knows the name of its template, and no step of the parser changes it.  A macro gets the whole run,
so for a macro this is something that it has to keep (`Macro.KeepsName`), with the parser of its bodies as
a parameter.  The standard macros do (`keepsName_standard`), and if all macros do then a template bears
the name under which it was parsed (`parseTemplate_name`).
-/

namespace TextTemplate.Tag

open TextTemplate.Markup

/-! ## Steps -/

/-- A step that does not rename the template. -/
def KeepsName {α : Type} (step : Run α) : Prop := ∀ s a s', step s = .ok a s' → s'.name = s.name

section Steps

variable {α β : Type} {step : Run α}

theorem keepsName_pure (a : α) : KeepsName (pure a) := by
  intro s b s' h
  rw [(pure_eq_ok.1 h).2]

theorem keepsName_bind {next : α → Run β} (first : KeepsName step)
    (second : ∀ a, KeepsName (next a)) : KeepsName (step >>= next) := by
  intro s b s' h
  obtain ⟨a, t, one, two⟩ := bind_eq_ok.1 h
  exact (second a t b s' two).trans (first s a t one)

theorem keepsName_get : KeepsName get := by
  intro s a s' h
  rw [(get_eq_ok.1 h).2]

theorem keepsName_modify {f : RunState → RunState} (keeps : ∀ s, (f s).name = s.name) :
    KeepsName (modify f) := by
  intro s a s' h
  rw [← modify_eq_ok.1 h, keeps]

theorem keepsName_failSyntax (cause : SyntaxFault) : KeepsName (failSyntax cause : Run α) :=
  fun _ _ _ h => absurd h failSyntax_ne_ok

theorem keepsName_atLine (line : Nat) (keeps : KeepsName step) : KeepsName (atLine line step) :=
  fun s a s' h => keeps s a s' (atLine_eq_ok.1 h)

theorem keepsName_inBody (keeps : KeepsName step) : KeepsName (inBody step) := by
  intro s a s' h
  obtain ⟨t, inner, rfl⟩ := inBody_eq_ok h
  have kept := keeps _ a t inner
  exact kept

theorem keepsName_expression (source : String) : KeepsName (expression source) := by
  intro s e s' h
  rw [(expression_eq_ok.1 h).2]

theorem keepsName_target (source : String) : KeepsName (target source) := by
  intro s t s' h
  rw [(target_eq_ok.1 h).2]

theorem keepsName_fragment (nodes : List (Nat × Node)) : KeepsName (fragment nodes) := by
  intro s f s' h
  rw [(fragment_eq_ok.1 h).2]

theorem keepsName_registerBlock (name : String) (body : Fragment) :
    KeepsName (registerBlock name body) := by
  have registers : KeepsName (modify fun s => { s with blocks := s.blocks.insert name body }) :=
    keepsName_modify fun _ => rfl
  refine keepsName_bind keepsName_get fun s => ?_
  dsimp only
  split
  · exact keepsName_bind (keepsName_failSyntax _) fun _ => registers
  · exact registers

variable {chunk : Run Chunk}

theorem keepsName_parseBody (keeps : KeepsName chunk) (opening closing : String)
    (ending? : String → Option α) : KeepsName (parseBody chunk opening closing ending?) := by
  refine keepsName_bind (keepsName_inBody keeps) fun c => ?_
  split
  · exact keepsName_failSyntax _
  · split
    · exact keepsName_atLine _ (keepsName_failSyntax _)
    · exact keepsName_bind (keepsName_fragment _) fun _ => keepsName_pure _

theorem keepsName_parseAll (keeps : KeepsName chunk) : KeepsName (parseAll chunk) := by
  refine keepsName_bind keeps fun c => ?_
  split
  · exact keepsName_atLine _ (keepsName_failSyntax _)
  · exact keepsName_fragment _

end Steps

/-! ## Macros -/

/-- A macro that does not rename the template, if the parser of its bodies does not. -/
def Macro.KeepsName (m : Macro) : Prop :=
  ∀ chunk captures, Tag.KeepsName chunk → Tag.KeepsName (m.build chunk captures)

theorem keepsName_parseElse {chunk : Run Chunk} (keeps : KeepsName chunk) :
    KeepsName (parseElse chunk) := by
  refine keepsName_bind (keepsName_parseBody keeps _ _ _) fun (ending, body) => ?_
  dsimp only
  split
  · exact keepsName_atLine _ (keepsName_failSyntax _)
  · exact keepsName_atLine _ (keepsName_failSyntax _)
  · exact keepsName_pure _

theorem keepsName_parseClauses {chunk : Run Chunk} (keeps : KeepsName chunk) (steps : Nat)
    (test : Expression) : KeepsName (parseClauses chunk steps test) := by
  induction steps generalizing test with
  | zero => exact keepsName_failSyntax _
  | succ steps ih =>
    refine keepsName_bind (keepsName_parseBody keeps _ _ _) fun (ending, body) => ?_
    dsimp only
    split
    · refine keepsName_bind (keepsName_atLine _ (keepsName_expression _)) fun next => ?_
      exact keepsName_bind (ih next) fun _ => keepsName_pure _
    · exact keepsName_bind (keepsName_parseElse keeps) fun _ => keepsName_pure _
    · exact keepsName_pure _

theorem keepsName_extendsTag : extendsTag.KeepsName := by
  intro chunk captures keeps
  have rest : KeepsName (do
      let parent ← expression (captures.group 0)
      let _ ← parseAll chunk
      return Node.extend parent (← get).blocks) := by
    refine keepsName_bind (keepsName_expression _) fun parent => ?_
    refine keepsName_bind (keepsName_parseAll keeps) fun _ => ?_
    exact keepsName_bind keepsName_get fun _ => keepsName_pure _
  refine keepsName_bind ?_ fun early => ?_
  · exact keepsName_bind keepsName_get fun _ => keepsName_bind keepsName_get fun _ => keepsName_pure _
  · dsimp only
    split
    · exact rest
    · exact keepsName_bind (keepsName_failSyntax _) fun _ => rest

/-- No standard macro renames the template. -/
theorem keepsName_standard : ∀ m ∈ standard, m.KeepsName := by
  rw [standard_eq]
  simp only [List.forall_mem_cons]
  refine ⟨?set, ?print, ?branch, ?loop, ?bind, ?insert, ?block, ?super, keepsName_extendsTag,
    List.forall_mem_nil _⟩
  all_goals intro chunk captures keeps
  case set =>
    refine keepsName_bind (keepsName_expression _) fun e => ?_
    exact keepsName_bind (keepsName_target _) fun t => keepsName_pure _
  case print => exact keepsName_bind (keepsName_expression _) fun _ => keepsName_pure _
  case branch =>
    refine keepsName_bind (keepsName_expression _) fun test => keepsName_bind keepsName_get fun s => ?_
    exact keepsName_bind (keepsName_parseClauses keeps _ _) fun _ => keepsName_pure _
  case loop =>
    refine keepsName_bind (keepsName_target _) fun t => ?_
    refine keepsName_bind (keepsName_expression _) fun e => ?_
    exact keepsName_bind (keepsName_parseBody keeps _ _ _) fun _ => keepsName_pure _
  case bind =>
    refine keepsName_bind (keepsName_expression _) fun e => ?_
    refine keepsName_bind (keepsName_target _) fun t => ?_
    exact keepsName_bind (keepsName_parseBody keeps _ _ _) fun _ => keepsName_pure _
  case insert => exact keepsName_bind (keepsName_expression _) fun _ => keepsName_pure _
  case block =>
    refine keepsName_bind (keepsName_parseBody keeps _ _ _) fun (ending, body) => ?_
    exact keepsName_bind (keepsName_registerBlock _ _) fun _ => keepsName_pure _
  case super => exact keepsName_pure _

/-! ## Templates -/

section Templates

variable {macros : List Macro} (keep : ∀ m ∈ macros, m.KeepsName)

include keep

theorem keepsName_dispatch {chunk : Run Chunk} (keeps : KeepsName chunk) (tag : String) :
    KeepsName (dispatch macros chunk tag) := by
  unfold dispatch
  split
  · next m captures found =>
    obtain ⟨_, mem, fits⟩ := List.exists_of_findSome?_eq_some found
    obtain ⟨_, -, same⟩ := Option.map_eq_some_iff.1 fits
    cases same
    exact keepsName_bind (keep m mem chunk captures keeps) fun _ => keepsName_pure _
  · exact keepsName_pure _

theorem keepsName_step {chunk : Run Chunk} (keeps : KeepsName chunk) (token : Token) :
    KeepsName (step macros chunk token) := by
  have noted : KeepsName noteContent := keepsName_modify fun _ => rfl
  unfold step
  split
  · split
    · exact keepsName_pure _
    · split
      · exact keepsName_pure _
      · exact keepsName_bind noted fun _ => keepsName_pure _
  · refine keepsName_bind noted fun _ => ?_
    exact keepsName_bind (keepsName_atLine _ (keepsName_expression _)) fun _ => keepsName_pure _
  · refine keepsName_bind (keepsName_atLine _ (keepsName_dispatch keep keeps _)) fun found => ?_
    split
    · exact keepsName_bind noted fun _ => keepsName_pure _
    · exact keepsName_pure _

theorem keepsName_parseChunkWithin (steps : Nat) : KeepsName (parseChunkWithin macros steps) := by
  induction steps with
  | zero => exact keepsName_bind keepsName_get fun _ => keepsName_pure _
  | succ steps ih =>
    refine keepsName_bind keepsName_get fun s => ?_
    split
    · exact keepsName_bind keepsName_get fun _ => keepsName_pure _
    · refine keepsName_bind (keepsName_modify fun _ => rfl) fun _ => ?_
      refine keepsName_bind (keepsName_step keep ih _) fun result => ?_
      split
      · exact keepsName_pure _
      · exact ih
      · exact keepsName_bind ih fun _ => keepsName_pure _

/-- **A template bears the name under which it was parsed.** -/
theorem parseTemplate_name {source name : String} {body : Fragment}
    (h : parseTemplate macros source name = .ok body) : body.name = name := by
  obtain ⟨s, run⟩ := parseTemplate_eq_ok.1 h
  obtain ⟨c, t, parsed, rest⟩ := bind_eq_ok.1 run
  have kept : t.name = name := by
    obtain ⟨s', s'', got, within⟩ := bind_eq_ok.1 parsed
    obtain ⟨rfl, rfl⟩ := get_eq_ok.1 got
    exact keepsName_parseChunkWithin keep _ _ _ _ within
  cases tag : c.tag with
  | some tag' =>
    rw [tag] at rest
    exact absurd (atLine_eq_ok.1 rest) failSyntax_ne_ok
  | none =>
    rw [tag] at rest
    rw [← (fragment_eq_ok.1 rest).1, kept]

end Templates

end TextTemplate.Tag
