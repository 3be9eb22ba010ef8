import TextTemplate.Proofs.Grammar
import TextTemplate.Proofs.Markup.Lossless
import TextTemplate.Proofs.Render.Moment
import TextTemplate.Proofs.Render.Opening
import TextTemplate.Proofs.Tag.Completeness
import TextTemplate.Render.Whole

/-!
# Rendering is substitution

A template without tags is its own text with something else in place of its marks.  `Substitution` says
so of two texts, the source and the output: comments and comment lines are gone, each placeholder is
replaced by what its value is written as, and nothing else is touched; what a value is written as is
copied to the output and not looked at.

The tokens of the source stand in between.  `Writes` gives the output of tokens without tags; it is
followed back to the text they were read from (`substitution_of_reading`) and forward through the parser
(`parseTemplate_of_flat`) and the renderer (`nodes_of_writes`).
-/

namespace TextTemplate.Render

open Markup Tag

variable {σ : Type}

/-! ## What a placeholder is replaced by -/

/-- What a value is written as at a place: as its display text, passed once through the escape function
in force, if there is one.  Calling this function may change the memory. -/
def Shows (host : Host σ) (place : Place) (v : Value) (m : Memory σ) (text : String)
    (m' : Memory σ) : Prop := escapedBy host place place.escape? v.display m = .ok text m'

/-- The text inside of a placeholder is an expression that has a value, and this is what the value is
written as. -/
def Fills (host : Host σ) (place : Place) (m : Memory σ) (inside text : String) (m' : Memory σ) :
    Prop :=
  ∃ e v m₁, Expression.compile inside = .ok e ∧ value host place e m = .ok v m₁ ∧
    Shows host place v m₁ text m'

section Substitution

variable {α : Type}

/-- A line with its comments removed and its placeholders replaced, one after the other.  All else is
literal text.  What a placeholder is replaced by may change a state. -/
inductive FilledLine (fills : α → String → String → α → Prop) :
    α → List Char → List Char → α → Prop
  | last {m : α} {literal : List Char} :
      Unmarked literal [] → FilledLine fills m literal literal m
  | comment {m m' : α} {literal inside rest out : List Char} :
      Unmarked literal (Mark.written ⟨.comment, inside⟩ ++ rest) → Mark.Closed ⟨.comment, inside⟩ →
      FilledLine fills m rest out m' →
      FilledLine fills m (literal ++ (Mark.written ⟨.comment, inside⟩ ++ rest)) (literal ++ out) m'
  | placeholder {m m₁ m' : α} {literal inside trimmed rest out : List Char} {text : String} :
      Unmarked literal (Mark.written ⟨.expression, inside⟩ ++ rest) →
      Mark.Closed ⟨.expression, inside⟩ → Trims inside trimmed →
      fills m (String.ofList trimmed) text m₁ → FilledLine fills m₁ rest out m' →
      FilledLine fills m (literal ++ (Mark.written ⟨.expression, inside⟩ ++ rest))
        (literal ++ (text.toList ++ out)) m'

/-- A text with its comment lines removed and its other lines filled in.  No line is a tag. -/
inductive Substitution (fills : α → String → String → α → Prop) :
    α → List Char → List Char → α → Prop
  | done {m : α} : Substitution fills m [] [] m
  | comment {m m' : α} {line rest body out : List Char} : IsLine line rest → Marks "##" line body →
      Substitution fills m rest out m' → Substitution fills m (line ++ rest) out m'
  | line {m m₁ m' : α} {line rest filled out : List Char} : IsLine line rest →
      (∀ body, ¬ Marks "%%" line body) → (∀ body, ¬ Marks "##" line body) →
      FilledLine fills m line filled m₁ → Substitution fills m₁ rest out m' →
      Substitution fills m (line ++ rest) (filled ++ out) m'

end Substitution

/-- A line that is no marker line and holds no mark; single delimiters may stand in it. -/
structure Plain (line : List Char) : Prop where
  tag : ∀ body, ¬ Marks "%%" line body
  comment : ∀ body, ¬ Marks "##" line body
  mark : ∀ m : Mark, ¬ m.written <:+: line

/-! ## There is one substitution -/

section Unique

variable {α : Type}

/-- Each placeholder is replaced by one text only, with one state behind it. -/
def Functional (fills : α → String → String → α → Prop) : Prop :=
  ∀ m inside text text' m' m'', fills m inside text m' → fills m inside text' m'' →
    text = text' ∧ m' = m''

theorem functional_fills (host : Host σ) (place : Place) : Functional (Fills host place) := by
  rintro m inside text text' m' m'' ⟨e, v, m₁, compiled, evaluated, shows⟩
    ⟨e', v', m₂, compiled', evaluated', shows'⟩
  cases compiled.symm.trans compiled'
  cases evaluated.symm.trans evaluated'
  cases shows.symm.trans shows'
  exact ⟨rfl, rfl⟩

variable {fills : α → String → String → α → Prop} (functional : Functional fills)

include functional

theorem FilledLine.unique {m m' m'' : α} {line out out' : List Char}
    (h : FilledLine fills m line out m') (h' : FilledLine fills m line out' m'') :
    out = out' ∧ m' = m'' := by
  induction h generalizing out' with
  | @last m literal unmarked =>
    generalize same : literal = line at h'
    cases h' with
    | last => exact ⟨rfl, rfl⟩
    | comment => exact absurd same unmarked.ne_append
    | placeholder => exact absurd same unmarked.ne_append
  | @comment m m' literal inside rest out unmarked closed _ ih =>
    generalize same : literal ++ _ = line at h'
    cases h' with
    | last unmarked' => exact absurd same.symm unmarked'.ne_append
    | comment unmarked' closed' h' =>
      obtain ⟨rfl, -, rfl⟩ := unmarked.unique closed unmarked' closed' same
      obtain ⟨rfl, rfl⟩ := ih h'
      exact ⟨rfl, rfl⟩
    | placeholder unmarked' closed' _ _ _ =>
      obtain ⟨-, mixed, -⟩ := unmarked.unique closed unmarked' closed' same
      cases mixed
  | @placeholder m m₁ m' literal inside trimmed rest out text unmarked closed trims filled _ ih =>
    generalize same : literal ++ _ = line at h'
    cases h' with
    | last unmarked' => exact absurd same.symm unmarked'.ne_append
    | comment unmarked' closed' _ =>
      obtain ⟨-, mixed, -⟩ := unmarked.unique closed unmarked' closed' same
      cases mixed
    | placeholder unmarked' closed' trims' filled' h' =>
      obtain ⟨rfl, mark, rfl⟩ := unmarked.unique closed unmarked' closed' same
      cases mark
      rw [← trims.eq_trim.trans trims'.eq_trim.symm] at filled'
      obtain ⟨rfl, rfl⟩ := functional _ _ _ _ _ _ filled filled'
      obtain ⟨rfl, rfl⟩ := ih h'
      exact ⟨rfl, rfl⟩

/-- A text has one substitution only: it falls into lines and marks in one way. -/
theorem Substitution.unique {m m' m'' : α} {cs out out' : List Char}
    (h : Substitution fills m cs out m') (h' : Substitution fills m cs out' m'') :
    out = out' ∧ m' = m'' := by
  induction h generalizing out' with
  | done =>
    generalize same : [] = cs at h'
    cases h' with
    | done => exact ⟨rfl, rfl⟩
    | comment is => exact absurd (List.append_eq_nil_iff.1 same.symm).1 is.filled
    | line is => exact absurd (List.append_eq_nil_iff.1 same.symm).1 is.filled
  | @comment m m' line rest body out is marks _ ih =>
    generalize same : line ++ rest = cs at h'
    cases h' with
    | done => exact absurd (List.append_eq_nil_iff.1 same).1 is.filled
    | comment is' _ h' =>
      obtain ⟨rfl, rfl⟩ := is.unique is' same
      exact ih h'
    | line is' _ noComment =>
      obtain ⟨rfl, rfl⟩ := is.unique is' same
      exact absurd marks (noComment body)
  | @line m m₁ m' line rest filled out is _ noComment inner _ ih =>
    generalize same : line ++ rest = cs at h'
    cases h' with
    | done => exact absurd (List.append_eq_nil_iff.1 same).1 is.filled
    | @comment _ _ _ _ body _ is' marks =>
      obtain ⟨rfl, rfl⟩ := is.unique is' same
      exact absurd marks (noComment body)
    | line is' _ _ inner' h' =>
      obtain ⟨rfl, rfl⟩ := is.unique is' same
      obtain ⟨rfl, rfl⟩ := inner.unique functional inner'
      obtain ⟨rfl, rfl⟩ := ih h'
      exact ⟨rfl, rfl⟩

end Unique

/-! ## What tokens write -/

section Writes

variable {α : Type}

/-- What tokens write if no tag is among them. -/
inductive Writes (fills : α → String → String → α → Prop) :
    α → List Token → List Char → α → Prop
  | done {m : α} : Writes fills m [] [] m
  | literal {m m' : α} {line : Nat} {literal : List Char} {rest : List Token} {out : List Char} :
      Writes fills m rest out m' →
      Writes fills m (⟨line, .literal, String.ofList literal⟩ :: rest) (literal ++ out) m'
  | placeholder {m m₁ m' : α} {line : Nat} {inside text : String} {rest : List Token}
      {out : List Char} :
      fills m inside text m₁ → Writes fills m₁ rest out m' →
      Writes fills m (⟨line, .expression, inside⟩ :: rest) (text.toList ++ out) m'

/-- The placeholders among some tokens can be filled in one after the other. -/
inductive FilledIn (fills : α → String → String → α → Prop) : α → List Token → Prop
  | done {m : α} : FilledIn fills m []
  | other {m : α} {token : Token} {rest : List Token} :
      token.kind ≠ .expression → FilledIn fills m rest → FilledIn fills m (token :: rest)
  | placeholder {m m' : α} {line : Nat} {inside text : String} {rest : List Token} :
      fills m inside text m' → FilledIn fills m' rest →
      FilledIn fills m (⟨line, .expression, inside⟩ :: rest)

variable {fills : α → String → String → α → Prop} {m m' m'' : α} {tokens more : List Token}
  {cs out out' : List Char} {number : Nat}

/-- Tokens without tags write something if their placeholders can be filled in. -/
theorem FilledIn.exists_writes (filled : FilledIn fills m tokens)
    (untagged : ∀ token ∈ tokens, token.kind ≠ .tag) : ∃ out m', Writes fills m tokens out m' := by
  induction filled with
  | done => exact ⟨[], _, .done⟩
  | @other m token rest kind _ ih =>
    rw [List.forall_mem_cons] at untagged
    obtain ⟨out, m', writes⟩ := ih untagged.2
    obtain ⟨line, found, inside⟩ := token
    cases found with
    | literal =>
      rw [← String.ofList_toList (s := inside)]
      exact ⟨_, m', .literal writes⟩
    | expression => exact absurd rfl kind
    | tag => exact absurd rfl untagged.1
  | placeholder fills _ ih =>
    rw [List.forall_mem_cons] at untagged
    obtain ⟨out, m', writes⟩ := ih untagged.2
    exact ⟨_, m', .placeholder fills writes⟩

theorem Writes.append (h : Writes fills m tokens out m') (h' : Writes fills m' more out' m'') :
    Writes fills m (tokens ++ more) (out ++ out') m'' := by
  induction h with
  | done => exact h'
  | literal _ ih =>
    rw [List.append_assoc]
    exact .literal (ih h')
  | placeholder fills _ ih =>
    rw [List.append_assoc]
    exact .placeholder fills (ih h')

theorem Writes.split (h : Writes fills m (tokens ++ more) out m'') : ∃ first second m',
    out = first ++ second ∧ Writes fills m tokens first m' ∧ Writes fills m' more second m'' := by
  induction tokens generalizing m out with
  | nil => exact ⟨[], out, m, rfl, .done, h⟩
  | cons token rest ih =>
    cases h with
    | @literal _ _ _ literal _ _ h =>
      obtain ⟨first, second, m', rfl, before, behind⟩ := ih h
      exact ⟨literal ++ first, second, m', by rw [List.append_assoc], .literal before, behind⟩
    | @placeholder _ _ _ _ _ text _ _ fills h =>
      obtain ⟨first, second, m', rfl, before, behind⟩ := ih h
      exact ⟨text.toList ++ first, second, m', by rw [List.append_assoc],
        .placeholder fills before, behind⟩

/-- A literal in front of a mark is written as it stands, also if it has no token. -/
theorem Writes.eq_literal {literal : List Char} (h : Writes fills m
      (if literal = [] then [] else [⟨number, .literal, String.ofList literal⟩]) out m') :
    out = literal ∧ m' = m := by
  by_cases none : literal = []
  · rw [if_pos none] at h
    cases h
    exact ⟨none.symm, rfl⟩
  · rw [if_neg none] at h
    generalize same : String.ofList literal = text at h
    cases h with
    | literal h =>
      cases h
      exact ⟨by rw [List.append_nil, String.ofList_injective same], rfl⟩

theorem filledLine_of_factors {line : List Char} (factors : Factors number line tokens)
    (writes : Writes fills m tokens out m') : FilledLine fills m line out m' := by
  induction factors generalizing m out with
  | @last literal unmarked =>
    generalize same : String.ofList literal = text at writes
    cases writes with
    | literal writes =>
      cases writes
      rw [List.append_nil, ← String.ofList_injective same]
      exact .last unmarked
  | @mark literal rest mark tokens more unmarked closed reads _ ih =>
    obtain ⟨before, behind, m₁, rfl, first, others⟩ := writes.split
    obtain ⟨here, after, m₂, rfl, second, third⟩ := others.split
    obtain ⟨rfl, rfl⟩ := first.eq_literal
    cases reads with
    | comment =>
      cases second
      exact .comment unmarked closed (ih third)
    | expression trims =>
      cases second with
      | placeholder fills second =>
        cases second
        rw [List.append_nil]
        exact .placeholder unmarked closed trims fills (ih third)
    | tag => cases second

/-- What the tokens of a text write is the text with its marks replaced. -/
theorem substitution_of_reading (reading : Reading number cs tokens)
    (writes : Writes fills m tokens out m') : Substitution fills m cs out m' := by
  induction reading generalizing m out with
  | done =>
    cases writes
    exact .done
  | @line number line rest tokens more is reads _ _ ih =>
    obtain ⟨here, behind, m₁, rfl, first, writes⟩ := writes.split
    by_cases tag : ∃ body, Marks "%%" line body
    · obtain ⟨body, marks⟩ := tag
      obtain ⟨text, tail, -, -, rfl⟩ := reads.tag body marks
      cases first
    by_cases comment : ∃ body, Marks "##" line body
    · obtain ⟨body, marks⟩ := comment
      obtain rfl := reads.comment body marks
      cases first
      exact .comment is marks (ih writes)
    · have noTag := not_exists.1 tag
      have noComment := not_exists.1 comment
      exact .line is noTag noComment
        (filledLine_of_factors (reads.text noTag noComment) first) (ih writes)

/-- The tokens of plain text write the text. -/
theorem writes_of_plain (reading : Reading number cs tokens) (plain : ∀ line ∈ lines cs, Plain line)
    (m : α) : Writes fills m tokens cs m := by
  induction reading with
  | done => exact .done
  | @line number line rest tokens more is reads _ _ ih =>
    rw [lines_of_isLine is, List.forall_mem_cons] at plain
    obtain ⟨here, behind⟩ := plain
    refine Writes.append ?_ (ih behind)
    cases reads.text here.tag here.comment with
    | last unmarked =>
      have alone : Writes fills m [⟨number, .literal, String.ofList line⟩] (line ++ []) m :=
        .literal .done
      rwa [List.append_nil] at alone
    | @mark literal rest mark _ _ _ _ _ _ =>
      refine absurd ⟨literal, rest, ?_⟩ (here.mark mark)
      rw [List.append_assoc]

end Writes

/-! ## From tokens to nodes -/

/-- The nodes of tokens without tags. -/
inductive Flat : List Token → List (Nat × Node) → Prop
  | done : Flat [] []
  | empty {line : Nat} {text : String} {rest : List Token} {list : List (Nat × Node)} :
      text.isEmpty = true → Flat rest list → Flat (⟨line, .literal, text⟩ :: rest) list
  | text {line : Nat} {text : String} {rest : List Token} {list : List (Nat × Node)} :
      text.isEmpty = false → Flat rest list →
      Flat (⟨line, .literal, text⟩ :: rest) ((line, .text text) :: list)
  | output {line : Nat} {inside : String} {e : Expression} {rest : List Token}
      {list : List (Nat × Node)} :
      Expression.compile inside = .ok e → Flat rest list →
      Flat (⟨line, .expression, inside⟩ :: rest) ((line, .output e) :: list)

/-- Tokens without tags are one chunk, whatever macros there are: no token is given to a macro. -/
theorem parseChunkWithin_of_flat (macros : List Macro) {tokens : List Token}
    {list : List (Nat × Node)} (flat : Flat tokens list) {steps : Nat} {s : RunState}
    (next : s.tokens = tokens) (enough : tokens.length ≤ steps) :
    ∃ s', parseChunkWithin macros steps s = .ok ⟨s.lineCount, none, list⟩ s' ∧ s'.name = s.name := by
  induction flat generalizing steps s with
  | done => exact ⟨s, parseChunkWithin_nil steps next, rfl⟩
  | @empty line text rest list empty _ ih =>
    cases steps with
    | zero => exact absurd enough (Nat.not_succ_le_zero _)
    | succ steps =>
      obtain ⟨s', run, name⟩ := ih (s := s.behind) (by rw [RunState.behind, next]; rfl)
        (Nat.le_of_succ_le_succ enough)
      refine ⟨s', ?_, name⟩
      rw [parseChunkWithin_cons next]
      refine bind_eq_ok.2 ⟨.nothing, s.behind, ?_, run⟩
      rw [step, if_pos empty]
      rfl
  | @text line text rest list filled _ ih =>
    cases steps with
    | zero => exact absurd enough (Nat.not_succ_le_zero _)
    | succ steps =>
      obtain ⟨s', run, name⟩ := ih
        (s := { s.behind with seenContent := s.behind.seenContent || !isBlankText text })
        (by rw [RunState.behind, next]; rfl) (Nat.le_of_succ_le_succ enough)
      exact ⟨s', parseChunkWithin_node next (step_text macros _ line filled s.behind) run, name⟩
  | @output line inside e rest list compiled _ ih =>
    cases steps with
    | zero => exact absurd enough (Nat.not_succ_le_zero _)
    | succ steps =>
      obtain ⟨s', run, name⟩ := ih (s := { s.behind with seenContent := true })
        (by rw [RunState.behind, next]; rfl) (Nat.le_of_succ_le_succ enough)
      exact ⟨s', parseChunkWithin_node next (step_output macros _ line compiled s.behind) run, name⟩

theorem parseTemplate_of_flat (macros : List Macro) {source : String} (name : String)
    {list : List (Nat × Node)} (flat : Flat (tokenize source) list) :
    parseTemplate macros source name = .ok ⟨name, list⟩ := by
  obtain ⟨s', run, named⟩ : ∃ s', parseChunk macros (.start source name) =
      .ok ⟨lineCount source, none, list⟩ s' ∧ s'.name = name :=
    parseChunkWithin_of_flat macros flat rfl (Nat.le_succ _)
  have all : parseAll (parseChunk macros) (.start source name) = .ok ⟨name, list⟩ s' :=
    bind_eq_ok.2 ⟨_, s', run, fragment_eq_ok.2 ⟨by rw [named], rfl⟩⟩
  unfold parseTemplate
  rw [show (parseAll (parseChunk macros)).run (.start source name) = _ from all]

/-! ## From nodes to the output -/

theorem writeEscaped_of_shows {host : Host σ} {place : Place} {v : Value} {m m' : Memory σ}
    {text : String} (shows : Shows host place v m text m') (output : String) :
    writeEscaped host place v ⟨output, m⟩ = .ok () ⟨output ++ text, m'⟩ := by
  rw [writeEscaped_apply, show escapedBy host place place.escape? v.display m = _ from shows]

/-- What tokens without tags write is what their nodes are rendered to: by induction on the tokens.
No node changes the scope, so all of them are rendered at the place where the first one is. -/
theorem nodes_of_writes {host : Host σ} (ctx : Context) {tokens : List Token} {out : List Char}
    {m m' : Memory σ} (writes : Writes (Fills host ctx.place) m tokens out m') :
    ∃ list, Flat tokens list ∧ ∀ (render : Renderer σ) (template output : String),
      nodes host render template ctx list ⟨output, m⟩ =
        .ok ctx.place.scope ⟨output ++ String.ofList out, m'⟩ := by
  induction writes with
  | done =>
    refine ⟨[], .done, fun render template output => ?_⟩
    rw [String.ofList_nil, String.append_empty]
    rfl
  | @literal m m' line literal rest out _ ih =>
    obtain ⟨list, flat, rendered⟩ := ih
    cases empty : (String.ofList literal).isEmpty with
    | true =>
      refine ⟨list, .empty empty flat, fun render template output => ?_⟩
      obtain rfl : literal = [] := by simpa using empty
      exact rendered render template output
    | false =>
      refine ⟨_, .text empty flat, fun render template output => ?_⟩
      rw [nodes_cons_apply, String.ofList_append, ← String.append_assoc]
      exact rendered render template (output ++ String.ofList literal)
  | @placeholder m m₁ m' line inside text rest out fills _ ih =>
    obtain ⟨list, flat, rendered⟩ := ih
    obtain ⟨e, v, m₂, compiled, evaluated, shows⟩ := fills
    refine ⟨_, .output compiled flat, fun render template output => ?_⟩
    have written : node host render ctx (.output e) ⟨output, m⟩ =
        .ok ctx.place.scope ⟨output ++ text, m₁⟩ := by
      have shown : writeEscaped host ctx.place v (Progress.withMemory ⟨output, m⟩ m₂) =
          .ok () ⟨output ++ text, m₁⟩ := writeEscaped_of_shows shows output
      simp only [node, bind_apply, eval_apply, evaluated, shown, pure_apply]
    rw [nodes_cons_apply, written, String.ofList_append, String.ofList_toList, ← String.append_assoc]
    exact rendered render template (output ++ text)

/-! ## From the source to the output -/

/-- The place at which the render of a template starts. -/
def startPlace (g : Grammar) (name : String) (defaults further params : Dictionary Value) : Place where
  scope := defaults.overlay params
  globals := g.entries name further
  depth := 0

section Sources

variable (host : Host σ) (g : Grammar) (id : TemplateId) (source name : String)
  (defaults further params : Dictionary Value) (memory : Memory σ)

/-- A template without tags is rendered to what its tokens write. -/
theorem render_of_writes {out : List Char} {after : Memory σ}
    (writes : Writes (Fills host (startPlace g name defaults further params)) memory
      (tokenize source) out after) :
    ∃ t, g.compile id source name defaults further = .ok t ∧
      t.render host (.map params) memory = (.ok (String.ofList out), after) := by
  obtain ⟨list, flat, rendered⟩ := nodes_of_writes
    ⟨startPlace g name defaults further params, [], []⟩ writes
  refine ⟨_, Grammar.compile_of_parse id defaults further (parseTemplate_of_flat g.macros name flat), ?_⟩
  show outcome (whole host ⟨startPlace g name defaults further params, [], []⟩ ⟨name, list⟩
    ⟨"", memory⟩) = _
  rw [whole_eq, rendered (whole host) name "", String.empty_append]
  rfl

/-- **Rendering is substitution.**  A template without tags whose placeholders all have values is
compiled and rendered.  The output is its text with each placeholder replaced by what its value is
written as and without its comments and comment lines; there is no other such text.  A text without
marks is rendered to itself. -/
theorem render_substitutes :
    ((∀ token ∈ tokenize source, token.kind ≠ .tag) →
      FilledIn (Fills host (startPlace g name defaults further params)) memory (tokenize source) →
      ∃ t output after, g.compile id source name defaults further = .ok t ∧
        t.render host (.map params) memory = (.ok output, after) ∧
        ∀ out m, Substitution (Fills host (startPlace g name defaults further params)) memory
          source.toList out m ↔ out = output.toList ∧ m = after) ∧
    ((∀ line ∈ lines source.toList, Plain line) →
      ∃ t, g.compile id source name defaults further = .ok t ∧
        t.render host (.map params) memory = (.ok source, memory)) := by
  have reading : Reading 1 source.toList (tokenize source) := reading_linesTokens 1 source.toList
  constructor
  · intro untagged filled
    obtain ⟨output, after, writes⟩ := filled.exists_writes untagged
    obtain ⟨t, compiled, rendered⟩ :=
      render_of_writes host g id source name defaults further params memory writes
    have substitution := substitution_of_reading reading writes
    refine ⟨t, String.ofList output, after, compiled, rendered, fun out m => ?_⟩
    rw [String.toList_ofList]
    constructor
    · exact fun other => other.unique (functional_fills _ _) substitution
    · rintro ⟨rfl, rfl⟩
      exact substitution
  · intro plain
    have itself := render_of_writes host g id source name defaults further params memory
      (writes_of_plain reading plain memory)
    rwa [String.ofList_toList] at itself

end Sources

namespace Filling

/-- Text with a comment, a placeholder, a comment line and an opening delimiter that nothing closes. -/
def note : String := "a\x7b# b #\x7d\x7b\x7b n \x7d\x7d\n## c\n\x7b\x7b d"

/-- Text without marks. -/
def plain : String := "\x7b\x7b d"

/-- The name has a value with a character that is escaped. -/
def params : Dictionary Value := .ofList [("n", .text "<")]

/-- Where the note is rendered: as markup, so that values are escaped. -/
def place : Place := startPlace (.standard (.escaper 0)) "note.html" .empty .empty params

set_option maxRecDepth 100000 in
theorem tokenize_note : tokenize note =
    [⟨1, .literal, "a"⟩, ⟨1, .expression, "n"⟩, ⟨1, .literal, "\n"⟩, ⟨3, .literal, "\x7b\x7b d"⟩] := by
  cbv

theorem escape_note : place.escape? = some (.escaper 0) := by
  have entry : place.globals.get? escapeKey = some (.function (.escaper 0)) := by
    rw [place, startPlace, Grammar.entries_get?_escapeKey _ _ rfl]
    rfl
  unfold Place.escape? Place.lookup?
  rw [show place.scope.get? escapeKey = none from rfl, entry]

set_option maxRecDepth 100000 in
theorem fills_note : Fills bareHost place blank "n" "&lt;" blank := by
  refine ⟨⟨"n", .name "n"⟩, .text "<", blank, by cbv, rfl, ?_⟩
  unfold Shows
  rw [escape_note]
  rfl

theorem writes_note : Writes (Fills bareHost place) blank (tokenize note)
    (['a'] ++ ("&lt;".toList ++ (['\n'] ++ ("\x7b\x7b d".toList ++ [])))) blank := by
  rw [tokenize_note]
  exact .literal (.placeholder fills_note (.literal (.literal .done)))

theorem plain_lines : ∀ line ∈ lines plain.toList, Plain line := by
  rw [show lines plain.toList = [plain.toList] from rfl, List.forall_mem_singleton]
  refine ⟨?_, ?_, fun m inside => ?_⟩
  · rintro body ⟨before, between, c, rest, whole, -⟩
    have sign : '%' ∈ plain.toList := by
      rw [whole]
      exact List.mem_append_right _ (.head _)
    exact absurd sign (by decide)
  · rintro body ⟨before, between, c, rest, whole, -⟩
    have sign : '#' ∈ plain.toList := by
      rw [whole]
      exact List.mem_append_right _ (.head _)
    exact absurd sign (by decide)
  · have closing : '\x7d' ∈ m.written := by
      rw [Mark.written]
      cases m.kind <;> simp [MarkKind.closing]
    exact absurd (inside.subset closing) (by decide)

/-- The note with its value filled in, and the text without marks as it is. -/
theorem filled_note :
    (∃ t, (Grammar.standard (.escaper 0)).compile ⟨none, 0⟩ note "note.html" .empty .empty = .ok t ∧
      t.render bareHost (.map params) blank = (.ok "a&lt;\n\x7b\x7b d", blank)) ∧
    ∃ t, (Grammar.standard (.escaper 0)).compile ⟨none, 0⟩ plain "note.html" .empty .empty = .ok t ∧
      t.render bareHost (.map params) blank = (.ok plain, blank) := by
  constructor
  · have untagged : ∀ token ∈ tokenize note, token.kind ≠ .tag := by
      rw [tokenize_note]
      decide
    have filled : FilledIn (Fills bareHost place) blank (tokenize note) := by
      rw [tokenize_note]
      exact .other nofun (.placeholder fills_note (.other nofun (.other nofun .done)))
    obtain ⟨t, output, after, compiled, rendered, only⟩ :=
      (render_substitutes bareHost (.standard (.escaper 0)) ⟨none, 0⟩ note "note.html" .empty .empty
        params blank).1 untagged filled
    have same : "a&lt;\n\x7b\x7b d".toList = output.toList ∧ blank = after :=
      (only _ _).1 (substitution_of_reading (reading_linesTokens 1 note.toList) writes_note)
    exact ⟨t, compiled, by rw [rendered, String.toList_injective same.1, ← same.2]⟩
  · exact (render_substitutes bareHost (.standard (.escaper 0)) ⟨none, 0⟩ plain "note.html" .empty
      .empty params blank).2 plain_lines

end Filling

end TextTemplate.Render
