import Mathlib
import TextTemplate.Proofs.Tag.Agreement
import TextTemplate.Proofs.Tag.Position

/-!
# Faults of compiling

The parser goes wrong where the reader of `Position` does.  A fault leaves the parser without a line if
it arose in a tag itself, and is located by the parser of the chunk in which the tag stands; a fault
from inside of a body has a line by then.  So each part of the parser is compared with the reader
(`Follows`): if it succeeds, then the reader reads what was taken, and if it fails, the reader fails in
the rest for the same reason and in the same line (`Located`).
-/

namespace TextTemplate.Tag

open TextTemplate.Markup

/-! ## Steps of a run that fail -/

section Steps

variable {α : Type} {s s' : RunState}

theorem failSyntax_eq_error {cause : SyntaxFault} {fault : Fault} :
    (failSyntax cause : Run α) s = .error fault s' ↔ fault = .badSyntax cause ∧ s = s' := by
  show EStateM.Result.error _ _ = _ ↔ _
  rw [EStateM.Result.error.injEq, eq_comm (a := fault)]

theorem atLine_eq_error {line : Nat} {step : Run α} {fault : Fault} :
    atLine line step s = .error fault s' ↔
      ∃ inner, step s = .error inner s' ∧ fault = inner.atCompile s'.name line := by
  unfold atLine
  cases step s with
  | ok a t => exact ⟨(fun h => nomatch h), (fun ⟨_, h, _⟩ => nomatch h)⟩
  | error inner t =>
    constructor
    · intro h
      cases h
      exact ⟨inner, rfl, rfl⟩
    · rintro ⟨_, h, rfl⟩
      cases h
      rfl

theorem expression_eq_error {source : String} {fault : Fault} :
    expression source s = .error fault s' ↔
      ∃ cause, expressionFault? source = some cause ∧ fault = .badSyntax cause ∧ s = s' := by
  unfold expression expressionFault?
  cases Expression.compile source with
  | ok e => exact ⟨(fun h => nomatch h), (fun ⟨_, h, _⟩ => nomatch h)⟩
  | error cause =>
    dsimp only
    rw [failSyntax_eq_error]
    simp only [Option.some.injEq, exists_eq_left']

theorem target_eq_error {source : String} {fault : Fault} :
    target source s = .error fault s' ↔
      ∃ cause, targetFault? source = some cause ∧ fault = .badSyntax cause ∧ s = s' := by
  unfold target targetFault?
  cases Target.parse source with
  | ok t => exact ⟨(fun h => nomatch h), (fun ⟨_, h, _⟩ => nomatch h)⟩
  | error cause =>
    dsimp only
    rw [failSyntax_eq_error]
    simp only [Option.some.injEq, exists_eq_left']

theorem fragment_ne_error {nodes : List (Nat × Node)} {fault : Fault} :
    fragment nodes s ≠ .error fault s' := fun h => nomatch h

theorem inBody_eq_error {step : Run α} {fault : Fault} (h : inBody step s = .error fault s') :
    ∃ t, step { s with depth := s.depth + 1 } = .error fault t ∧ s'.name = t.name := by
  unfold inBody at h
  cases hs : step { s with depth := s.depth + 1 } with
  | ok b t =>
    rw [hs] at h
    cases h
  | error fault' t =>
    rw [hs] at h
    cases h
    exact ⟨t, rfl, rfl⟩

theorem expressionFault?_eq_none {text : String} :
    expressionFault? text = none ↔ ∃ e, Expression.compile text = .ok e := by
  unfold expressionFault?
  cases Expression.compile text with
  | ok e => exact ⟨fun _ => ⟨e, rfl⟩, fun _ => rfl⟩
  | error cause => exact ⟨(fun h => nomatch h), (fun ⟨_, h⟩ => nomatch h)⟩

theorem targetFault?_eq_none {text : String} :
    targetFault? text = none ↔ ∃ t, Target.parse text = .ok t := by
  unfold targetFault?
  cases Target.parse text with
  | ok t => exact ⟨fun _ => ⟨t, rfl⟩, fun _ => rfl⟩
  | error cause => exact ⟨(fun h => nomatch h), (fun ⟨_, h⟩ => nomatch h)⟩

end Steps

/-! ## The parser and the reader -/

/-- The blocks that are declared are those that have ended. -/
def Declared (s : RunState) (p : Position) : Prop := ∀ x, s.blocks.contains x = true ↔ x ∈ p.closed

/-- The reader blames what a fault says. -/
def Located (p : Position) (tokens : List Token) (name : String) (fault : Fault) : Prop :=
  ∃ cause line, p.blame? tokens = some (cause, line) ∧ fault = .compile cause.message name line

theorem Located.behind {p q : Position} {taken rest : List Token} {name : String} {fault : Fault}
    (run : p.read taken = .ok q) (h : Located q rest name fault) :
    Located p (taken ++ rest) name fault := by
  obtain ⟨cause, line, blame, rfl⟩ := h
  exact ⟨cause, line, by rw [Position.blame?_append run, blame], rfl⟩

theorem Located.of_next {p : Position} {token : Token} {rest : List Token} {name : String}
    {cause : SyntaxFault} {line : Nat} (h : p.next token = .error (cause, line)) :
    Located p (token :: rest) name (.compile cause.message name line) :=
  ⟨cause, line, Position.blame?_of_next rest h, rfl⟩

/-- A fault with a line keeps it. -/
theorem Located.atCompile {p : Position} {tokens : List Token} {name : String} {fault : Fault}
    (h : Located p tokens name fault) (line : Nat) :
    Located p tokens name (fault.atCompile name line) := by
  obtain ⟨cause, line', blame, rfl⟩ := h
  exact ⟨cause, line', blame, rfl⟩

/-- A step that succeeds while the reader reads what it takes. -/
structure Reads (s : RunState) (p : Position) (taken : List Token) (s' : RunState) (q : Position) :
    Prop where
  tokens : s.tokens = taken ++ s'.tokens
  read : p.read taken = .ok q
  declared : Declared s' q
  name : s'.name = s.name
  depth : s'.depth = s.depth

theorem Reads.trans {s s' s'' : RunState} {p q r : Position} {taken more : List Token}
    (first : Reads s p taken s' q) (second : Reads s' q more s'' r) :
    Reads s p (taken ++ more) s'' r where
  tokens := by rw [first.tokens, second.tokens, List.append_assoc]
  read := by rw [Position.read_append first.read, second.read]
  declared := second.declared
  name := second.name.trans first.name
  depth := second.depth.trans first.depth

/-- A chunk that is parsed: the reader reads what stands in front of the tag that ends it, or all. -/
structure Parsed (s : RunState) (p : Position) (c : Chunk) (s' : RunState) (taken : List Token)
    (q : Position) : Prop where
  read : p.read taken = .ok q
  opened : q.opened = p.opened
  declared : Declared s' q
  name : s'.name = s.name
  depth : s'.depth = s.depth
  finished : c.tag = none → s.tokens = taken ∧ s'.tokens = []
  stopped : ∀ tag, c.tag = some tag →
    taken? tag = none ∧ s.tokens = taken ++ ⟨c.line, .tag, tag⟩ :: s'.tokens

/-- A chunk is parsed, or it fails where the reader does. -/
def Follows (bound : Nat) (chunk : Run Chunk) : Prop :=
  ∀ s p, s.tokens.length < bound → Declared s p → (s.tokens ≠ [] → s.atStart = p.atStart) →
    (∀ c s', chunk s = .ok c s' → ∃ taken q, Parsed s p c s' taken q) ∧
    ∀ fault s', chunk s = .error fault s' → s'.name = s.name ∧ Located p s.tokens s.name fault

/-- A body that is parsed up to a tag that ends it, or a part of it. -/
structure Ended (s : RunState) (p : Position) (line : Nat) (tag : String) (s' : RunState)
    (taken : List Token) (q : Position) : Prop where
  read : p.read taken = .ok q
  opened : q.opened = p.opened
  declared : Declared s' q
  name : s'.name = s.name
  depth : s'.depth = s.depth
  untaken : taken? tag = none
  tokens : s.tokens = taken ++ ⟨line, .tag, tag⟩ :: s'.tokens

section Ended

variable {s s' : RunState} {p q r : Position} {line first : Nat} {tag : String} {taken : List Token}
  {outer : List (Nat × Opener)} (ended : Ended s p line tag s' taken q)

include ended

theorem Ended.shorter : s'.tokens.length < s.tokens.length := by
  rw [ended.tokens, List.length_append, List.length_cons]
  omega

theorem Ended.tokens_eq : s.tokens = taken ++ [⟨line, .tag, tag⟩] ++ s'.tokens := by
  rw [ended.tokens, List.append_assoc]
  rfl

theorem Ended.read_leave (left : q.leave line tag = .ok r) :
    p.read (taken ++ [⟨line, .tag, tag⟩]) = .ok r := by
  rw [Position.read_append ended.read]
  exact Position.read_singleton ((Position.next_of_untaken ended.untaken).trans left)

/-- The reader goes on behind the tag. -/
theorem Ended.reads (left : q.leave line tag = .ok r) (closed : r.closed = q.closed) :
    Reads s p (taken ++ [⟨line, .tag, tag⟩]) s' r where
  tokens := ended.tokens_eq
  read := ended.read_leave left
  declared x := by rw [closed]; exact ended.declared x
  name := ended.name
  depth := ended.depth

/-- The reader stops at the tag. -/
theorem Ended.located {cause : SyntaxFault} {l : Nat} (blamed : q.Blamed ⟨line, .tag, tag⟩ cause l) :
    Located p s.tokens s.name (.compile cause.message s.name l) := by
  rw [ended.tokens]
  exact .behind ended.read (.of_next (Position.next_eq_error.2 blamed))

theorem Ended.reads_elif {test : String} {e : Expression}
    (opened : p.opened = (first, .branch) :: outer) (what : Clause.read? tag = some (.elif test))
    (compiled : Expression.compile test = .ok e) : Reads s p (taken ++ [⟨line, .tag, tag⟩]) s' q := by
  refine ended.reads ?_ rfl
  rw [Position.leave, ended.opened, opened]
  dsimp only [Opener.read?]
  rw [what]
  dsimp only
  rw [expressionFault?_eq_none.2 ⟨e, compiled⟩]

theorem Ended.reads_orelse (opened : p.opened = (first, .branch) :: outer)
    (what : Clause.read? tag = some .orelse) :
    Reads s p (taken ++ [⟨line, .tag, tag⟩]) s' { q with opened := (first, .otherwise) :: outer } := by
  refine ended.reads ?_ rfl
  rw [Position.leave, ended.opened, opened]
  dsimp only [Opener.read?]
  rw [what]

/-- Behind the last tag of anything but a block. -/
theorem Ended.reads_last {opener : Opener} (opened : p.opened = (first, opener) :: outer)
    (what : opener.read? tag = some .endif) (other : ∀ x, opener ≠ .block x) :
    Reads s p (taken ++ [⟨line, .tag, tag⟩]) s' { q with opened := outer } := by
  refine ended.reads ?_ rfl
  rw [Position.leave, ended.opened, opened]
  dsimp only
  rw [what]
  cases opener with
  | block x => exact absurd rfl (other x)
  | _ => rfl

/-- Behind the last tag of a block that is the first one of its name. -/
theorem Ended.leave_block {x : String} (opened : p.opened = (first, .block x) :: outer)
    (what : readEndblock? x tag = some ()) (new : x ∉ q.closed) :
    q.leave line tag = .ok { q with opened := outer, closed := x :: q.closed } := by
  rw [Position.leave, ended.opened, opened]
  dsimp only [Opener.read?]
  rw [what]
  dsimp only [Option.map_some]
  rw [if_neg new]

end Ended

section Macros

variable {bound : Nat} {chunk : Run Chunk} (follows : Follows bound chunk) {s s' : RunState}
  {p : Position} {first : Nat} {opener : Opener} {outer : List (Nat × Opener)}

include follows

/-! ## Bodies -/

/-- A body is parsed up to a tag that is read as its end. -/
theorem parseBody_ok {α : Type} {opening closing : String} {ending? : String → Option α}
    {ending : Terminator α} {body : Fragment} (short : s.tokens.length < bound)
    (declared : Declared s p) (opened : p.opened = (first, opener) :: outer)
    (h : parseBody chunk opening closing ending? s = .ok (ending, body) s') :
    ∃ taken tag q, Ended s p ending.line tag s' taken q ∧ ending? tag = some ending.what := by
  obtain ⟨c, t, parsed, h⟩ := bind_eq_ok.1 h
  obtain ⟨u, run, rfl⟩ := inBody_eq_ok parsed
  have inside : RunState.atStart { s with depth := s.depth + 1 } = p.atStart := by
    simp [RunState.atStart, Position.atStart, opened]
  obtain ⟨taken, q, parsed⟩ := (follows { s with depth := s.depth + 1 } p short declared
    fun _ => inside).1 c u run
  cases tag : c.tag with
  | none =>
    rw [tag] at h
    exact absurd h failSyntax_ne_ok
  | some tag' =>
    rw [tag] at h
    dsimp only at h
    obtain ⟨untaken, tokens⟩ := parsed.stopped tag' tag
    cases what : ending? tag' with
    | none =>
      rw [what] at h
      exact absurd (atLine_eq_ok.1 h) failSyntax_ne_ok
    | some what' =>
      rw [what] at h
      obtain ⟨f, t, made, h⟩ := bind_eq_ok.1 h
      obtain ⟨rfl, rfl⟩ := fragment_eq_ok.1 made
      obtain ⟨eq, rfl⟩ := pure_eq_ok.1 h
      cases eq
      refine ⟨taken, tag', q, ⟨parsed.read, parsed.opened, parsed.declared, parsed.name, ?_, untaken,
        tokens⟩, what⟩
      dsimp only
      rw [parsed.depth]
      rfl

/-- A body fails inside, or without an end, or at a tag that is none. -/
theorem parseBody_error {α : Type} {ending? : String → Option α} {fault : Fault}
    (short : s.tokens.length < bound) (declared : Declared s p)
    (opened : p.opened = (first, opener) :: outer)
    (reads : ∀ tag, ending? tag = none → opener.read? tag = none)
    (h : parseBody chunk opener.tags.1 opener.tags.2 ending? s = .error fault s') :
    s'.name = s.name ∧ Located p s.tokens s.name (fault.atCompile s.name first) := by
  have inside : RunState.atStart { s with depth := s.depth + 1 } = p.atStart := by
    simp [RunState.atStart, Position.atStart, opened]
  obtain ⟨succeeds, fails⟩ := follows { s with depth := s.depth + 1 } p short declared
    fun _ => inside
  rcases bind_eq_error.1 h with h | ⟨c, t, parsed, h⟩
  · obtain ⟨u, run, named⟩ := inBody_eq_error h
    obtain ⟨name, located⟩ := fails fault u run
    exact ⟨named.trans name, located.atCompile first⟩
  · obtain ⟨u, run, rfl⟩ := inBody_eq_ok parsed
    obtain ⟨taken, q, parsed⟩ := succeeds c u run
    cases tag : c.tag with
    | none =>
      rw [tag] at h
      obtain ⟨rfl, rfl⟩ := failSyntax_eq_error.1 h
      obtain ⟨all, -⟩ := parsed.finished tag
      refine ⟨parsed.name, .openTag opener.tags.1 opener.tags.2, first, ?_, rfl⟩
      rw [show s.tokens = taken from all, Position.blame?, parsed.read]
      dsimp only
      rw [Position.missing?, parsed.opened, opened]
      rfl
    | some tag' =>
      rw [tag] at h
      dsimp only at h
      obtain ⟨untaken, tokens⟩ := parsed.stopped tag' tag
      cases what : ending? tag' with
      | none =>
        rw [what] at h
        obtain ⟨inner, failed, rfl⟩ := atLine_eq_error.1 h
        obtain ⟨rfl, rfl⟩ := failSyntax_eq_error.1 failed
        refine ⟨parsed.name, ?_⟩
        have stuck : q.next ⟨c.line, .tag, tag'⟩ = .error (.unknownTag tag', c.line) := by
          refine Position.next_eq_error.2 (.unknown untaken ?_)
          rw [parsed.opened, opened]
          rintro _ ⟨⟩
          exact reads tag' what
        rw [show s.tokens = _ from tokens]
        refine Located.atCompile ?_ first
        rw [show RunState.name { u with depth := u.depth - 1 } = s.name from parsed.name]
        exact Located.behind parsed.read (.of_next stuck)
      | some what' =>
        rw [what] at h
        rcases bind_eq_error.1 h with h | ⟨_, _, _, h⟩
        · exact absurd h fragment_ne_error
        · cases h

/-! ## Clauses -/

/-- The body behind `else` is parsed to its end. -/
theorem parseElse_ok {body : Fragment} (short : s.tokens.length < bound) (declared : Declared s p)
    (opened : p.opened = (first, .otherwise) :: outer) (h : parseElse chunk s = .ok body s') :
    ∃ taken q, Reads s p taken s' q ∧ q.opened = outer := by
  obtain ⟨⟨ending, body'⟩, t, parsed, h⟩ := bind_eq_ok.1 h
  obtain ⟨taken, tag, q, ended, what⟩ := parseBody_ok follows short declared opened parsed
  dsimp only at h
  cases last : ending.what with
  | elif _ =>
    rw [last] at h
    exact absurd (atLine_eq_ok.1 h) failSyntax_ne_ok
  | orelse =>
    rw [last] at h
    exact absurd (atLine_eq_ok.1 h) failSyntax_ne_ok
  | endif =>
    rw [last] at h what
    obtain ⟨rfl, rfl⟩ := pure_eq_ok.1 h
    exact ⟨_, _, ended.reads_last opened what (fun _ h => nomatch h), rfl⟩

theorem parseElse_error {fault : Fault} (short : s.tokens.length < bound) (declared : Declared s p)
    (opened : p.opened = (first, .otherwise) :: outer)
    (h : parseElse chunk s = .error fault s') :
    s'.name = s.name ∧ Located p s.tokens s.name (fault.atCompile s.name first) := by
  rcases bind_eq_error.1 h with h | ⟨⟨ending, body⟩, t, parsed, h⟩
  · exact parseBody_error follows short declared opened (fun _ none => none) h
  · obtain ⟨taken, tag, q, ended, what⟩ := parseBody_ok follows short declared opened parsed
    have opened' := ended.opened.trans opened
    have located {cause : SyntaxFault} (h : atLine ending.line (failSyntax cause : Run Fragment) t =
        .error fault s') (blamed : q.Blamed ⟨ending.line, .tag, tag⟩ cause ending.line) :
        s'.name = s.name ∧ Located p s.tokens s.name (fault.atCompile s.name first) := by
      obtain ⟨inner, failed, rfl⟩ := atLine_eq_error.1 h
      obtain ⟨rfl, rfl⟩ := failSyntax_eq_error.1 failed
      refine ⟨ended.name, Located.atCompile ?_ first⟩
      rw [ended.name]
      exact ended.located blamed
    dsimp only at h
    cases last : ending.what with
    | elif _ =>
      rw [last] at h what
      exact located h (.elifAfterElse ended.untaken opened' what)
    | orelse =>
      rw [last] at h what
      exact located h (.secondElse ended.untaken opened' what)
    | endif =>
      rw [last] at h
      cases h

/-- The clauses of `if` are parsed to the end of the last one. -/
theorem parseClauses_ok {steps : Nat} {test : Expression}
    {clauses : List (Expression × Fragment) × Option Fragment} (short : s.tokens.length < bound)
    (declared : Declared s p) (opened : p.opened = (first, .branch) :: outer)
    (h : parseClauses chunk steps test s = .ok clauses s') :
    ∃ taken q, Reads s p taken s' q ∧ q.opened = outer := by
  induction steps generalizing test clauses s p with
  | zero => exact absurd h failSyntax_ne_ok
  | succ steps ih =>
    obtain ⟨⟨ending, body⟩, t, parsed, h⟩ := bind_eq_ok.1 h
    obtain ⟨taken, tag, q, ended, what⟩ := parseBody_ok follows short declared opened parsed
    have fewer := ended.shorter
    dsimp only at h
    cases last : ending.what with
    | elif source =>
      rw [last] at h what
      obtain ⟨next, u, read, h⟩ := bind_eq_ok.1 h
      obtain ⟨compiled, rfl⟩ := expression_eq_ok.1 (atLine_eq_ok.1 read)
      obtain ⟨later, u, parsed, h⟩ := bind_eq_ok.1 h
      obtain ⟨-, rfl⟩ := pure_eq_ok.1 h
      obtain ⟨more, r, rest, closed⟩ :=
        ih (by omega) ended.declared (ended.opened.trans opened) parsed
      exact ⟨_, r, (ended.reads_elif opened what compiled).trans rest, closed⟩
    | orelse =>
      rw [last] at h what
      obtain ⟨other, u, parsed, h⟩ := bind_eq_ok.1 h
      obtain ⟨-, rfl⟩ := pure_eq_ok.1 h
      have step := ended.reads_orelse opened what
      obtain ⟨more, r, rest, closed⟩ := parseElse_ok follows (by omega) step.declared rfl parsed
      exact ⟨_, r, step.trans rest, closed⟩
    | endif =>
      rw [last] at h what
      obtain ⟨-, rfl⟩ := pure_eq_ok.1 h
      exact ⟨_, _, ended.reads_last opened what (fun _ h => nomatch h), rfl⟩

theorem parseClauses_error {steps : Nat} {test : Expression} {fault : Fault}
    (short : s.tokens.length < bound) (enough : s.tokens.length < steps) (declared : Declared s p)
    (opened : p.opened = (first, .branch) :: outer)
    (h : parseClauses chunk steps test s = .error fault s') :
    s'.name = s.name ∧ Located p s.tokens s.name (fault.atCompile s.name first) := by
  induction steps generalizing test s p with
  | zero => omega
  | succ steps ih =>
    rcases bind_eq_error.1 h with h | ⟨⟨ending, body⟩, t, parsed, h⟩
    · exact parseBody_error follows short declared opened (fun _ none => none) h
    obtain ⟨taken, tag, q, ended, what⟩ := parseBody_ok follows short declared opened parsed
    have fewer := ended.shorter
    have opened' := ended.opened.trans opened
    -- what is blamed behind the tag that ended the body
    have later {r : Position} (step : Reads s p (taken ++ [⟨ending.line, .tag, tag⟩]) t r)
        (h : s'.name = t.name ∧ Located r t.tokens t.name (fault.atCompile t.name first)) :
        s'.name = s.name ∧ Located p s.tokens s.name (fault.atCompile s.name first) := by
      obtain ⟨name', located⟩ := h
      rw [step.name] at name' located
      refine ⟨name', ?_⟩
      rw [step.tokens]
      exact located.behind step.read
    dsimp only at h
    cases last : ending.what with
    | elif source =>
      rw [last] at h what
      rcases bind_eq_error.1 h with h | ⟨next, u, read, h⟩
      · obtain ⟨inner, failed, rfl⟩ := atLine_eq_error.1 h
        obtain ⟨cause, wrong, rfl, rfl⟩ := expression_eq_error.1 failed
        refine ⟨ended.name, Located.atCompile ?_ first⟩
        rw [ended.name]
        exact ended.located
          (.elif ended.untaken opened' what (Position.expressionFault?_eq_some.1 wrong))
      · obtain ⟨compiled, rfl⟩ := expression_eq_ok.1 (atLine_eq_ok.1 read)
        rcases bind_eq_error.1 h with h | ⟨_, _, _, h⟩
        · exact later (ended.reads_elif opened what compiled)
            (ih (by omega) (by omega) ended.declared opened' h)
        · cases h
    | orelse =>
      rw [last] at h what
      have step := ended.reads_orelse opened what
      rcases bind_eq_error.1 h with h | ⟨_, _, _, h⟩
      · exact later step (parseElse_error follows (by omega) step.declared rfl h)
      · cases h
    | endif =>
      rw [last] at h
      cases h

/-- A whole template, or what is behind a tag that extends one. -/
theorem parseAll_ok {body : Fragment} (short : s.tokens.length < bound) (declared : Declared s p)
    (here : s.tokens ≠ [] → s.atStart = p.atStart) (h : parseAll chunk s = .ok body s') :
    ∃ q, Reads s p s.tokens s' q ∧ q.opened = p.opened ∧ s'.tokens = [] := by
  obtain ⟨c, t, run, h⟩ := bind_eq_ok.1 h
  obtain ⟨taken, q, parsed⟩ := (follows s p short declared here).1 c t run
  cases tag : c.tag with
  | some tag' =>
    rw [tag] at h
    exact absurd (atLine_eq_ok.1 h) failSyntax_ne_ok
  | none =>
    rw [tag] at h
    obtain ⟨-, rfl⟩ := fragment_eq_ok.1 h
    obtain ⟨rfl, none⟩ := parsed.finished tag
    refine ⟨q, ⟨?_, parsed.read, parsed.declared, parsed.name, parsed.depth⟩, parsed.opened, none⟩
    rw [none, List.append_nil]

theorem parseAll_error {fault : Fault} (short : s.tokens.length < bound) (declared : Declared s p)
    (here : s.tokens ≠ [] → s.atStart = p.atStart) (outside : p.opened = [])
    (h : parseAll chunk s = .error fault s') :
    s'.name = s.name ∧ Located p s.tokens s.name fault := by
  obtain ⟨succeeds, fails⟩ := follows s p short declared here
  rcases bind_eq_error.1 h with h | ⟨c, t, run, h⟩
  · exact fails fault s' h
  · obtain ⟨taken, q, parsed⟩ := succeeds c t run
    cases tag : c.tag with
    | none =>
      rw [tag] at h
      exact absurd h fragment_ne_error
    | some tag' =>
      rw [tag] at h
      obtain ⟨untaken, tokens⟩ := parsed.stopped tag' tag
      obtain ⟨inner, failed, rfl⟩ := atLine_eq_error.1 h
      obtain ⟨rfl, rfl⟩ := failSyntax_eq_error.1 failed
      refine ⟨parsed.name, ?_⟩
      rw [tokens, parsed.name]
      refine .behind parsed.read (.of_next (Position.next_eq_error.2 (.unknown untaken ?_)))
      rw [parsed.opened, outside]
      exact fun _ mem => nomatch mem

end Macros

/-! ## Tags -/

/-- What the macro of a tag does: it takes what the reader reads behind the tag, or it fails with what
the reader blames, once the fault has the line of the tag. -/
structure Builds (s : RunState) (p : Position) (line : Nat) (tag : String) (build : Run Node) :
    Prop where
  ok : ∀ n s', build s = .ok n s' → ∃ taken q, s.tokens = taken ++ s'.tokens ∧
    p.read (⟨line, .tag, tag⟩ :: taken) = .ok q ∧ q.opened = p.opened ∧ Declared s' q ∧
    s'.name = s.name ∧ s'.depth = s.depth ∧ (s'.tokens ≠ [] → q.seen = true)
  error : ∀ fault s', build s = .error fault s' → s'.name = s.name ∧
    Located p (⟨line, .tag, tag⟩ :: s.tokens) s.name (fault.atCompile s.name line)

section Tags

variable {bound : Nat} {chunk : Run Chunk} (follows : Follows bound chunk) {s : RunState}
  {p : Position} {line : Nat} {tag : String} {captures : Captures}

/-- A tag that is read by its texts, and by what is behind it. -/
theorem builds_of_texts {m : Macro} {build : Run Node} {sign : Sign String String}
    (taken : taken? tag = some (m, captures)) (is : opening? captures m.name = some sign)
    (plain : sign.isExtend = false) (content : (p.enter line sign).seen = true)
    (ok : ∀ n s', build s = .ok n s' → sign.fault? = none ∧
      ∃ inner q, Reads s (p.enter line sign) inner s' q ∧ q.opened = p.opened)
    (error : ∀ fault s', build s = .error fault s' →
      (∃ cause, sign.fault? = some cause ∧ fault = .badSyntax cause ∧ s = s') ∨
        sign.fault? = none ∧ s'.name = s.name ∧
          Located (p.enter line sign) s.tokens s.name (fault.atCompile s.name line)) :
    Builds s p line tag build := by
  have begins : TokenKind.tag = .tag → taken? tag ≠ none := fun _ none => by
    rw [taken] at none
    cases none
  have sign : sign? ⟨line, .tag, tag⟩ = some sign := (sign?_of_taken taken).trans is
  have fits : ∀ {q : Prop}, Sign.isExtend _ = true → q := fun extend => by
    rw [plain] at extend
    cases extend
  constructor
  · intro n s' h
    obtain ⟨readable, inner, q, reads, closed⟩ := ok n s' h
    have next := Position.next_of_fits (p := p) begins sign fits readable
    exact ⟨inner, q, reads.tokens, Position.read_cons next reads.read, closed, reads.declared,
      reads.name, reads.depth, fun _ => Position.seen_of_read reads.read content⟩
  · intro fault s' h
    rcases error fault s' h with ⟨cause, wrong, rfl, rfl⟩ | ⟨readable, name, located⟩
    · exact ⟨rfl, .of_next (Position.next_eq_error.2 (.text begins sign fits wrong))⟩
    · have next := Position.next_of_fits (p := p) begins sign fits readable
      exact ⟨name, located.behind (Position.read_singleton next)⟩

/-- Nothing is taken behind the tag. -/
theorem Reads.rfl (declared : Declared s p) : Reads s p [] s p :=
  ⟨Eq.refl _, Eq.refl _, declared, Eq.refl _, Eq.refl _⟩

/-- A step that reads a text, or fails for what is wrong with it. -/
structure Checks {α : Type} (step : Run α) (wrong? : Option SyntaxFault) : Prop where
  ok : ∀ s a s', step s = .ok a s' → wrong? = none ∧ s = s'
  error : ∀ s fault s', step s = .error fault s' →
    ∃ cause, wrong? = some cause ∧ fault = .badSyntax cause ∧ s = s'

theorem expression_checks (text : String) : Checks (expression text) (expressionFault? text) where
  ok s e s' h := by
    obtain ⟨compiled, same⟩ := expression_eq_ok.1 h
    exact ⟨expressionFault?_eq_none.2 ⟨e, compiled⟩, same⟩
  error _ _ _ h := expression_eq_error.1 h

theorem target_checks (text : String) : Checks (target text) (targetFault? text) where
  ok s t s' h := by
    obtain ⟨parsed, same⟩ := target_eq_ok.1 h
    exact ⟨targetFault?_eq_none.2 ⟨t, parsed⟩, same⟩
  error _ _ _ h := target_eq_error.1 h

section Checks

variable {α β : Type} {step : Run α} {next : α → Run β} {wrong? : Option SyntaxFault} {s' : RunState}
  (checks : Checks step wrong?)

include checks

theorem Checks.bind_ok {b : β} (h : (step >>= next) s = .ok b s') :
    wrong? = none ∧ ∃ a, next a s = .ok b s' := by
  obtain ⟨a, t, read, h⟩ := bind_eq_ok.1 h
  obtain ⟨readable, rfl⟩ := checks.ok s a t read
  exact ⟨readable, a, h⟩

theorem Checks.bind_error {fault : Fault} (h : (step >>= next) s = .error fault s') :
    (∃ cause, wrong? = some cause ∧ fault = .badSyntax cause ∧ s = s') ∨
      wrong? = none ∧ ∃ a, next a s = .error fault s' := by
  rcases bind_eq_error.1 h with h | ⟨a, t, read, h⟩
  · exact .inl (checks.error s fault s' h)
  · obtain ⟨readable, rfl⟩ := checks.ok s a t read
    exact .inr ⟨readable, a, h⟩

/-- One text is read after another one. -/
theorem Checks.then {more : α → Run β} {further? : Option SyntaxFault}
    (later : ∀ a, Checks (more a) further?) : Checks (step >>= more) (wrong?.or further?) where
  ok s b s' h := by
    obtain ⟨readable, a, h⟩ := checks.bind_ok h
    rw [readable]
    exact (later a).ok s b s' h
  error s fault s' h := by
    rcases checks.bind_error h with ⟨cause, wrong, rest⟩ | ⟨readable, a, h⟩
    · exact ⟨cause, by rw [wrong]; rfl, rest⟩
    · rw [readable]
      exact (later a).error s fault s' h

theorem Checks.map (f : α → β) : Checks (step >>= fun a => pure (f a)) wrong? where
  ok s b s' h := by
    obtain ⟨readable, a, h⟩ := checks.bind_ok h
    exact ⟨readable, (pure_eq_ok.1 h).2⟩
  error s fault s' h := by
    rcases checks.bind_error h with wrong | ⟨-, a, h⟩
    · exact wrong
    · cases h

end Checks

/-- A tag without a body. -/
theorem builds_of_checks {m : Macro} {build : Run Node} {sign : Sign String String}
    (declared : Declared s p) (taken : taken? tag = some (m, captures))
    (is : opening? captures m.name = some sign) (single : sign.isSingle = true)
    (checks : Checks build sign.fault?) : Builds s p line tag build := by
  have plain : sign.isExtend = false ∧ (p.enter line sign).opened = p.opened ∧
      (p.enter line sign).closed = p.closed ∧ (p.enter line sign).seen = true := by
    unfold opening? at is
    split at is <;> cases is <;> first | exact ⟨rfl, rfl, rfl, rfl⟩ | cases single
  obtain ⟨plain, opened, closed, content⟩ := plain
  refine builds_of_texts taken is plain content (fun n s' h => ?_) fun fault s' h => .inl ?_
  · obtain ⟨readable, rfl⟩ := checks.ok s n s' h
    refine ⟨readable, [], _, .rfl fun x => ?_, opened⟩
    rw [closed]
    exact declared x
  · exact checks.error s fault s' h

theorem setTag_builds (declared : Declared s p) (taken : taken? tag = some (setTag, captures)) :
    Builds s p line tag (setTag.build chunk captures) :=
  builds_of_checks declared taken rfl rfl ((expression_checks _).then fun _ => (target_checks _).map _)

theorem printTag_builds (declared : Declared s p) (taken : taken? tag = some (printTag, captures)) :
    Builds s p line tag (printTag.build chunk captures) :=
  builds_of_checks declared taken rfl rfl ((expression_checks _).map _)

theorem includeTag_builds (declared : Declared s p)
    (taken : taken? tag = some (includeTag, captures)) :
    Builds s p line tag (includeTag.build chunk captures) :=
  builds_of_checks declared taken rfl rfl ((expression_checks _).map _)

theorem superTag_builds (declared : Declared s p) (taken : taken? tag = some (superTag, captures)) :
    Builds s p line tag (superTag.build chunk captures) := by
  refine builds_of_checks declared taken rfl rfl ⟨fun s n s' h => ?_, fun s fault s' h => ?_⟩
  · exact ⟨rfl, (pure_eq_ok.1 h).2⟩
  · cases h

include follows

theorem ifTag_builds (short : s.tokens.length < bound) (declared : Declared s p)
    (taken : taken? tag = some (ifTag, captures)) :
    Builds s p line tag (ifTag.build chunk captures) := by
  have is : opening? captures ifTag.name = some (.branch (captures.group 0)) := rfl
  refine builds_of_texts taken is rfl rfl (fun n s' h => ?_)
    fun fault s' h => ?_
  · obtain ⟨readable, test, h⟩ := (expression_checks _).bind_ok h
    obtain ⟨u, t, got, h⟩ := bind_eq_ok.1 h
    obtain ⟨rfl, rfl⟩ := get_eq_ok.1 got
    obtain ⟨clauses, t, parsed, h⟩ := bind_eq_ok.1 h
    obtain ⟨-, rfl⟩ := pure_eq_ok.1 h
    exact ⟨readable, parseClauses_ok follows short declared rfl parsed⟩
  · rcases (expression_checks _).bind_error h with wrong | ⟨readable, test, h⟩
    · exact .inl wrong
    · rcases bind_eq_error.1 h with h | ⟨u, t, got, h⟩
      · cases h
      obtain ⟨rfl, rfl⟩ := get_eq_ok.1 got
      rcases bind_eq_error.1 h with h | ⟨_, _, _, h⟩
      · exact .inr ⟨readable, parseClauses_error follows short (Nat.lt_succ_self _) declared rfl h⟩
      · cases h

/-- A tag with two texts and a body that ends with a word. -/
theorem builds_of_body {m : Macro} {sign : Sign String String} {opener : Opener} {word : String}
    {α : Type} {texts : Run α} {make : α → Fragment → Node} (short : s.tokens.length < bound)
    (declared : Declared s p) (taken : taken? tag = some (m, captures))
    (is : opening? captures m.name = some sign) (plain : sign.isExtend = false)
    (enter : p.enter line sign = { p with opened := (line, opener) :: p.opened, seen := true })
    (checks : Checks texts sign.fault?) (other : ∀ x, opener ≠ .block x)
    (reads : ∀ tag, opener.read? tag = (isWord word tag).map fun _ => .endif) :
    Builds s p line tag (do
      let a ← texts
      let (_, body) ← parseBody chunk opener.tags.1 opener.tags.2 (isWord word)
      return make a body) := by
  refine builds_of_texts taken is plain (by rw [enter]) (fun n s' h => ?_) fun fault s' h => ?_
  · obtain ⟨readable, a, h⟩ := checks.bind_ok h
    obtain ⟨⟨ending, body⟩, t, parsed, h⟩ := bind_eq_ok.1 h
    obtain ⟨-, rfl⟩ := pure_eq_ok.1 h
    rw [enter]
    obtain ⟨inner, tag', q, ended, what⟩ := parseBody_ok
      (p := { p with opened := (line, opener) :: p.opened, seen := true }) follows short declared rfl
      parsed
    exact ⟨readable, _, _, ended.reads_last rfl (by rw [reads, what]; rfl) other, rfl⟩
  · rcases checks.bind_error h with wrong | ⟨readable, a, h⟩
    · exact .inl wrong
    · rcases bind_eq_error.1 h with h | ⟨_, _, _, h⟩
      · rw [enter]
        refine .inr ⟨readable, parseBody_error follows short declared rfl (fun tag none => ?_) h⟩
        rw [reads, none]
        rfl
      · cases h

theorem forTag_builds (short : s.tokens.length < bound) (declared : Declared s p)
    (taken : taken? tag = some (forTag, captures)) :
    Builds s p line tag (forTag.build chunk captures) := by
  have split : forTag.build chunk captures = (do
      let texts ← (do
        let t ← target (captures.group 0)
        let e ← expression (captures.group 1)
        return (t, e))
      let (_, body) ← parseBody chunk Opener.loop.tags.1 Opener.loop.tags.2 (isWord "endfor")
      return .loop texts.1 texts.2 body) := by
    simp only [bind_assoc, pure_bind]
    rfl
  rw [split]
  have is : opening? captures forTag.name = some (.loop (captures.group 0) (captures.group 1)) := rfl
  exact builds_of_body follows short declared taken is rfl rfl
    ((target_checks _).then fun _ => (expression_checks _).map _) (fun _ h => nomatch h)
    fun _ => rfl

theorem withTag_builds (short : s.tokens.length < bound) (declared : Declared s p)
    (taken : taken? tag = some (withTag, captures)) :
    Builds s p line tag (withTag.build chunk captures) := by
  have split : withTag.build chunk captures = (do
      let texts ← (do
        let e ← expression (captures.group 0)
        let t ← target (captures.group 1)
        return (t, e))
      let (_, body) ← parseBody chunk Opener.bind.tags.1 Opener.bind.tags.2 (isWord "endwith")
      return .bind texts.1 texts.2 body) := by
    simp only [bind_assoc, pure_bind]
    rfl
  rw [split]
  have is : opening? captures withTag.name = some (.bind (captures.group 1) (captures.group 0)) := rfl
  exact builds_of_body follows short declared taken is rfl rfl
    ((expression_checks _).then fun _ => (target_checks _).map _) (fun _ h => nomatch h)
    fun _ => rfl

omit follows in
/-- A block that ends is declared, unless one of its name has ended before. -/
theorem registerBlock_ok {x : String} {body : Fragment} {u : Unit} {s' : RunState}
    (declared : Declared s p) (h : registerBlock x body s = .ok u s') :
    x ∉ p.closed ∧ s' = { s with blocks := s.blocks.insert x body } ∧
      Declared s' { p with closed := x :: p.closed } := by
  obtain ⟨t, t', got, h⟩ := bind_eq_ok.1 h
  obtain ⟨rfl, rfl⟩ := get_eq_ok.1 got
  cases known : s.blocks.contains x with
  | true =>
    rw [known, if_pos rfl] at h
    obtain ⟨_, _, failed, _⟩ := bind_eq_ok.1 h
    exact absurd failed failSyntax_ne_ok
  | false =>
    rw [known, if_neg Bool.false_ne_true] at h
    obtain rfl := modify_eq_ok.1 h
    refine ⟨fun mem => ?_, rfl, fun y => ?_⟩
    · rw [(declared x).2 mem] at known
      cases known
    · show (Dictionary.insert _ _ _).contains y = true ↔ y ∈ x :: p.closed
      rw [Dictionary.contains, Dictionary.get?_insert, List.mem_cons, ← declared y, Dictionary.contains]
      by_cases same : y = x
      · rw [if_pos same]
        exact iff_of_true rfl (.inl same)
      · rw [if_neg same]
        exact (or_iff_right same).symm

omit follows in
theorem registerBlock_error {x : String} {body : Fragment} {fault : Fault} {s' : RunState}
    (declared : Declared s p) (h : registerBlock x body s = .error fault s') :
    x ∈ p.closed ∧ fault = .badSyntax (.repeatedBlock x) ∧ s = s' := by
  rcases bind_eq_error.1 h with h | ⟨t, t', got, h⟩
  · cases h
  obtain ⟨rfl, rfl⟩ := get_eq_ok.1 got
  cases known : s.blocks.contains x with
  | true =>
    rw [known, if_pos rfl] at h
    rcases bind_eq_error.1 h with h | ⟨_, _, failed, _⟩
    · obtain ⟨rfl, rfl⟩ := failSyntax_eq_error.1 h
      exact ⟨(declared x).1 known, rfl, rfl⟩
    · exact absurd failed failSyntax_ne_ok
  | false =>
    rw [known, if_neg Bool.false_ne_true] at h
    cases h

theorem blockTag_builds (short : s.tokens.length < bound) (declared : Declared s p)
    (taken : taken? tag = some (blockTag, captures)) :
    Builds s p line tag (blockTag.build chunk captures) := by
  have is : opening? captures blockTag.name = some (.block (captures.group 0)) := rfl
  have opened : (p.enter line (.block (captures.group 0))).opened =
      (line, .block (captures.group 0)) :: p.opened := rfl
  refine builds_of_texts taken is rfl rfl (fun n s' h => ?_) fun fault s' h => .inr ⟨rfl, ?_⟩
  · obtain ⟨⟨ending, body⟩, t, parsed, h⟩ := bind_eq_ok.1 h
    obtain ⟨u, t', registered, h⟩ := bind_eq_ok.1 h
    obtain ⟨-, rfl⟩ := pure_eq_ok.1 h
    obtain ⟨inner, tag', q, ended, what⟩ := parseBody_ok
      (p := p.enter line (.block (captures.group 0))) follows short declared rfl parsed
    obtain ⟨new, rfl, declared'⟩ := registerBlock_ok ended.declared registered
    have read := ended.read_leave (ended.leave_block rfl what new)
    exact ⟨rfl, _, _, ⟨ended.tokens_eq, read, declared', ended.name, ended.depth⟩, rfl⟩
  · rcases bind_eq_error.1 h with h | ⟨⟨ending, body⟩, t, parsed, h⟩
    · refine parseBody_error follows short declared opened (fun tag none => ?_) h
      dsimp only [Opener.read?]
      rw [none]
      rfl
    · obtain ⟨inner, tag', q, ended, what⟩ := parseBody_ok
        (p := p.enter line (.block (captures.group 0))) follows short declared rfl parsed
      rcases bind_eq_error.1 h with h | ⟨_, _, _, h⟩
      · obtain ⟨known, rfl, rfl⟩ := registerBlock_error ended.declared h
        exact ⟨ended.name, ended.located (.repeated ended.untaken ended.opened what known)⟩
      · cases h

/-- Behind a tag that extends a template the reader is still at the start. -/
theorem extendsTag_builds (short : s.tokens.length < bound) (declared : Declared s p)
    (here : s.atStart = p.atStart) (taken : taken? tag = some (extendsTag, captures)) :
    Builds s p line tag (extendsTag.build chunk captures) := by
  have begins : TokenKind.tag = .tag → taken? tag ≠ none := fun _ none => by
    rw [taken] at none
    cases none
  have is : sign? ⟨line, .tag, tag⟩ = some (.extend (captures.group 0)) := sign?_of_taken taken
  cases start : p.atStart with
  | false =>
    -- nothing is read behind the tag
    have asked : atTemplateStart s = .ok false s := atTemplateStart_eq_ok.2 ⟨here.trans start, rfl⟩
    have fails : extendsTag.build chunk captures s = .error (.badSyntax .lateExtends) s :=
      bind_eq_error.2 (.inr ⟨false, s, asked, rfl⟩)
    constructor
    · intro n s' h
      rw [fails] at h
      cases h
    · intro fault s' h
      rw [fails] at h
      cases h
      exact ⟨rfl, .of_next (Position.next_eq_error.2 (.extend taken start))⟩
  | true =>
    have outside : p.opened = [] := List.isEmpty_iff.1 (Bool.and_eq_true_iff.1 start).1
    have asked : atTemplateStart s = .ok true s := atTemplateStart_eq_ok.2 ⟨here.trans start, rfl⟩
    constructor
    · intro n s' h
      obtain ⟨_, t, asked', h⟩ := bind_eq_ok.1 h
      rw [asked] at asked'
      cases asked'
      obtain ⟨readable, parent, h⟩ := (expression_checks _).bind_ok h
      obtain ⟨body, t, run, h⟩ := bind_eq_ok.1 h
      obtain ⟨u, t', got, h⟩ := bind_eq_ok.1 h
      obtain ⟨rfl, rfl⟩ := get_eq_ok.1 got
      obtain ⟨-, rfl⟩ := pure_eq_ok.1 h
      obtain ⟨q, reads, opened, none⟩ := parseAll_ok follows short declared (fun _ => here) run
      have next := Position.next_of_fits begins is (fun _ => start) readable
      exact ⟨s.tokens, q, reads.tokens, Position.read_cons next reads.read, opened, reads.declared,
        reads.name, reads.depth, fun left => absurd none left⟩
    · intro fault s' h
      rcases bind_eq_error.1 h with h | ⟨_, t, asked', h⟩
      · cases h
      rw [asked] at asked'
      cases asked'
      rcases (expression_checks _).bind_error h with ⟨cause, wrong, rfl, rfl⟩ | ⟨readable, parent, h⟩
      · exact ⟨rfl, .of_next (Position.next_eq_error.2 (.text begins is (fun _ => start) wrong))⟩
      · rcases bind_eq_error.1 h with h | ⟨_, _, _, h⟩
        · obtain ⟨name, located⟩ := parseAll_error follows short declared (fun _ => here) outside h
          have next := Position.next_of_fits begins is (fun _ => start) readable
          exact ⟨name, (located.behind (Position.read_singleton next)).atCompile line⟩
        · cases h

/-- The macro that takes a tag builds what the reader reads. -/
theorem builds_of_taken {m : Macro} (short : s.tokens.length < bound) (declared : Declared s p)
    (here : s.atStart = p.atStart) (taken : taken? tag = some (m, captures)) :
    Builds s p line tag (m.build chunk captures) := by
  have mem := (fitAny?_of_taken taken).1
  simp only [standard_eq, List.mem_cons, List.not_mem_nil, or_false] at mem
  rcases mem with rfl | rfl | rfl | rfl | rfl | rfl | rfl | rfl | rfl
  · exact setTag_builds declared taken
  · exact printTag_builds declared taken
  · exact ifTag_builds follows short declared taken
  · exact forTag_builds follows short declared taken
  · exact withTag_builds follows short declared taken
  · exact includeTag_builds declared taken
  · exact blockTag_builds follows short declared taken
  · exact superTag_builds declared taken
  · exact extendsTag_builds follows short declared here taken

end Tags

/-! ## Chunks -/

section Chunks

variable {steps : Nat} {chunk : Run Chunk} (follows : Follows steps chunk) {s t s' : RunState}
  {p q r : Position} {token : Token} {rest : List Token}

omit follows in
/-- A chunk behind what was read before. -/
theorem Parsed.after {c : Chunk} {taken more : List Token} (reads : Reads s p taken t q)
    (opened : q.opened = p.opened) (parsed : Parsed t q c s' more r) :
    Parsed s p c s' (taken ++ more) r where
  read := by rw [Position.read_append reads.read, parsed.read]
  opened := parsed.opened.trans opened
  declared := parsed.declared
  name := parsed.name.trans reads.name
  depth := parsed.depth.trans reads.depth
  finished none := by
    obtain ⟨all, left⟩ := parsed.finished none
    rw [reads.tokens, all]
    exact ⟨rfl, left⟩
  stopped tag some := by
    obtain ⟨untaken, tokens⟩ := parsed.stopped tag some
    rw [reads.tokens, tokens, List.append_assoc]
    exact ⟨untaken, rfl⟩

/-- A token that is read with what belongs to it: the reader is at the start if the parser is. -/
structure Passes (s : RunState) (p : Position) (taken : List Token) (t : RunState) (q : Position) :
    Prop where
  reads : Reads s p taken t q
  opened : q.opened = p.opened
  start : t.tokens ≠ [] → t.atStart = q.atStart

omit follows in
/-- A literal or a placeholder. -/
theorem passes_of_content {sign : Sign String String} (tokens : s.tokens = token :: rest)
    (declared : Declared s p) (here : s.atStart = p.atStart)
    (kind : token.kind ≠ .tag) (is : sign? token = some sign) (readable : sign.fault? = none)
    (plain : sign.isExtend = false) (opened : (p.enter token.line sign).opened = p.opened)
    (closed : (p.enter token.line sign).closed = p.closed) {seen : Bool}
    (content : (p.enter token.line sign).seen = (p.seen || seen)) :
    Passes s p [token] { s.behind with seenContent := s.behind.seenContent || seen }
      (p.enter token.line sign) where
  reads := {
    tokens := by rw [tokens, RunState.behind, tokens]; rfl
    read := by
      refine Position.read_singleton (Position.next_of_fits (fun tag => absurd tag kind) is ?_ readable)
      rw [plain]
      intro h
      cases h
    declared := fun x => by rw [closed]; exact declared x
    name := rfl
    depth := rfl }
  opened := opened
  start _ := by
    have both : (s.atStart && !seen) = (p.atStart && !seen) := by rw [here]
    simp only [RunState.atStart, Position.atStart] at both ⊢
    rw [opened, content, Bool.not_or, Bool.not_or, ← Bool.and_assoc, ← Bool.and_assoc]
    exact both

include follows

/-- A token of which the parser makes a node, or nothing. -/
theorem passes_of_step {result : Step} (short : s.behind.tokens.length < steps)
    (tokens : s.tokens = token :: rest) (declared : Declared s p) (here : s.atStart = p.atStart)
    (known : ∀ tag, result ≠ .unknown tag)
    (h : step standard chunk token s.behind = .ok result t) :
    ∃ inner q, Passes s p (token :: inner) t q := by
  obtain ⟨line, kind, text⟩ := token
  cases kind with
  | literal =>
    refine ⟨[], p.enter line (.literal text), ?_⟩
    have after : t = { s.behind with seenContent := s.behind.seenContent || !isBlankText text } := by
      cases empty : text.isEmpty with
      | true =>
        rw [step, if_pos empty] at h
        obtain ⟨-, rfl⟩ := pure_eq_ok.1 h
        rw [String.isEmpty_iff.1 empty, show isBlankText "" = true by decide, Bool.not_true,
          Bool.or_false]
      | false =>
        rw [step_text _ _ _ empty] at h
        cases h
        rfl
    rw [after]
    exact passes_of_content tokens declared here (by simp) rfl rfl rfl rfl rfl rfl
  | expression =>
    obtain ⟨u, t', noted, h⟩ := bind_eq_ok.1 h
    obtain rfl := noteContent_eq_ok.1 noted
    obtain ⟨e, t', read, h⟩ := bind_eq_ok.1 h
    obtain ⟨compiled, rfl⟩ := expression_eq_ok.1 (atLine_eq_ok.1 read)
    obtain ⟨-, rfl⟩ := pure_eq_ok.1 h
    have readable : Sign.fault? (.output text) = none := expressionFault?_eq_none.2 ⟨e, compiled⟩
    have content : (p.enter line (.output text)).seen = (p.seen || true) := (Bool.or_true _).symm
    have passes := passes_of_content tokens declared here (by simp) rfl readable rfl rfl rfl
      content
    rw [Bool.or_true] at passes
    exact ⟨[], _, passes⟩
  | tag =>
    obtain ⟨found, t', dispatched, h⟩ := bind_eq_ok.1 h
    obtain ⟨rfl, -, rfl⟩ | ⟨m, captures, n, rfl, taken, built⟩ :=
      dispatch_eq_ok (atLine_eq_ok.1 dispatched)
    · exact absurd (pure_eq_ok.1 h).1.symm (known text)
    · obtain ⟨u, t'', noted, h⟩ := bind_eq_ok.1 h
      obtain rfl := noteContent_eq_ok.1 noted
      obtain ⟨-, rfl⟩ := pure_eq_ok.1 h
      have builds : Builds s.behind p line text (m.build chunk captures) :=
        builds_of_taken follows short declared here taken
      obtain ⟨inner, q, left, read, opened, declared', name, depth, content⟩ := builds.ok n t' built
      refine ⟨inner, q, ⟨?_, read, declared', name, depth⟩, opened, fun more => ?_⟩
      · rw [tokens, List.cons_append, ← left, RunState.behind, tokens]
        rfl
      · simp [RunState.atStart, Position.atStart, content more]

/-- A token that the parser fails at. -/
theorem located_of_step {fault : Fault} (short : s.behind.tokens.length < steps)
    (tokens : s.tokens = token :: rest) (declared : Declared s p) (here : s.atStart = p.atStart)
    (h : step standard chunk token s.behind = .error fault s') :
    s'.name = s.name ∧ Located p s.tokens s.name fault := by
  have behind : s.behind.tokens = rest := by rw [RunState.behind, tokens]; rfl
  rw [tokens]
  obtain ⟨line, kind, text⟩ := token
  cases kind with
  | literal =>
    cases empty : text.isEmpty with
    | true =>
      rw [step, if_pos empty] at h
      cases h
    | false =>
      rw [step_text _ _ _ empty] at h
      cases h
  | expression =>
    rcases bind_eq_error.1 h with h | ⟨u, t, noted, h⟩
    · cases h
    obtain rfl := noteContent_eq_ok.1 noted
    rcases bind_eq_error.1 h with h | ⟨_, _, _, h⟩
    · obtain ⟨inner, failed, rfl⟩ := atLine_eq_error.1 h
      obtain ⟨cause, wrong, rfl, rfl⟩ := expression_eq_error.1 failed
      refine ⟨rfl, .of_next (Position.next_eq_error.2 ?_)⟩
      have is : sign? ⟨line, .expression, text⟩ = some (.output text) := rfl
      exact .text (by simp) is (by simp [Sign.isExtend]) wrong
    · cases h
  | tag =>
    rcases bind_eq_error.1 h with h | ⟨found, t, dispatched, h⟩
    · obtain ⟨inner, failed, rfl⟩ := atLine_eq_error.1 h
      unfold dispatch at failed
      cases taken : taken? text with
      | none =>
        rw [show standard.findSome? _ = none from taken] at failed
        cases failed
      | some found =>
        obtain ⟨m, captures⟩ := found
        rw [show standard.findSome? _ = some (m, captures) from taken] at failed
        have builds : Builds s.behind p line text (m.build chunk captures) :=
          builds_of_taken follows short declared here taken
        rcases bind_eq_error.1 failed with failed | ⟨_, _, _, failed⟩
        · obtain ⟨name, located⟩ := builds.error inner s' failed
          rw [behind] at located
          rw [show s'.name = s.name from name]
          exact ⟨rfl, located⟩
        · cases failed
    · cases found with
      | none => cases h
      | some n => cases h

end Chunks

/-- **The parser goes wrong where the reader does**, with more steps than there are tokens: by
induction on the steps, of which every token takes one. -/
theorem follows_parseChunkWithin (steps : Nat) :
    Follows steps (parseChunkWithin standard steps) := by
  induction steps with
  | zero => exact fun s _ short => absurd short (Nat.not_lt_zero _)
  | succ steps ih =>
    intro s p short declared here
    cases tokens : s.tokens with
    | nil =>
      constructor
      · intro c s' h
        rw [parseChunkWithin_nil _ tokens] at h
        cases h
        exact ⟨[], p, rfl, rfl, declared, rfl, rfl, fun _ => ⟨tokens, tokens⟩, by simp⟩
      · intro fault s' h
        rw [parseChunkWithin_nil _ tokens] at h
        cases h
    | cons token rest =>
      have start : s.atStart = p.atStart := here (by rw [tokens]; exact List.cons_ne_nil _ _)
      have behind : s.behind.tokens.length < steps := by
        rw [tokens, List.length_cons] at short
        rw [show s.behind.tokens = rest by rw [RunState.behind, tokens]; rfl]
        omega
      -- what comes behind a token that is read
      have next {result : Step} {t : RunState} (known : ∀ tag, result ≠ .unknown tag)
          (stepped : step standard (parseChunkWithin standard steps) token s.behind = .ok result t) :
          (∀ c s', parseChunkWithin standard steps t = .ok c s' →
            ∃ taken q, Parsed s p c s' taken q) ∧
          ∀ fault s', parseChunkWithin standard steps t = .error fault s' →
            s'.name = s.name ∧ Located p s.tokens s.name fault := by
        obtain ⟨inner, q, passes⟩ := passes_of_step ih behind tokens declared start known stepped
        have fewer : t.tokens.length < steps := by
          have := congrArg List.length passes.reads.tokens
          rw [List.length_append, List.length_cons] at this
          omega
        obtain ⟨succeeds, fails⟩ := ih t q fewer passes.reads.declared passes.start
        constructor
        · intro c s' h
          obtain ⟨taken, r, parsed⟩ := succeeds c s' h
          exact ⟨_, r, parsed.after passes.reads passes.opened⟩
        · intro fault s' h
          obtain ⟨name, located⟩ := fails fault s' h
          rw [passes.reads.name] at name located
          rw [passes.reads.tokens]
          exact ⟨name, located.behind passes.reads.read⟩
      rw [parseChunkWithin_cons tokens, ← tokens]
      constructor
      · intro c s' h
        obtain ⟨result, t, stepped, h⟩ := bind_eq_ok.1 h
        cases result with
        | unknown tag =>
          obtain ⟨rfl, kind, rfl, untaken⟩ := step_eq_ok stepped
          obtain ⟨rfl, rfl⟩ := pure_eq_ok.1 h
          refine ⟨[], p, rfl, rfl, declared, rfl, rfl, by simp, ?_⟩
          rintro _ ⟨⟩
          obtain ⟨line, _, text⟩ := token
          cases kind
          exact ⟨untaken, by rw [tokens, RunState.behind, tokens]; rfl⟩
        | nothing => exact (next (by rintro _ ⟨⟩) stepped).1 c s' h
        | node n =>
          obtain ⟨c', t', parsed, h⟩ := bind_eq_ok.1 h
          obtain ⟨rfl, rfl⟩ := pure_eq_ok.1 h
          obtain ⟨taken, q, parsed⟩ := (next (by rintro _ ⟨⟩) stepped).1 c' t' parsed
          exact ⟨taken, q, parsed.read, parsed.opened, parsed.declared, parsed.name, parsed.depth,
            parsed.finished, parsed.stopped⟩
      · intro fault s' h
        rcases bind_eq_error.1 h with h | ⟨result, t, stepped, h⟩
        · exact located_of_step ih behind tokens declared start h
        · cases result with
          | unknown tag => cases h
          | nothing => exact (next (by rintro _ ⟨⟩) stepped).2 fault s' h
          | node n =>
            rcases bind_eq_error.1 h with h | ⟨_, _, _, h⟩
            · exact (next (by rintro _ ⟨⟩) stepped).2 fault s' h
            · cases h

/-- **A template fails for what the reader blames.** -/
theorem parseTemplate_eq_error_iff {source name : String} {fault : Fault} :
    parseTemplate standard source name = .error fault ↔
      Located .start (tokenize source) name fault := by
  have run := follows_parseChunkWithin ((tokenize source).length + 1)
  have all : (parseAll (parseChunk standard)).run (.start source name) =
      parseAll (parseChunkWithin standard ((tokenize source).length + 1)) (.start source name) :=
    rfl
  have declared : Declared (.start source name) .start := by
    intro x
    constructor <;> intro h <;> cases h
  unfold parseTemplate
  rw [all]
  cases h : parseAll (parseChunkWithin standard ((tokenize source).length + 1))
      (.start source name) with
  | ok body s' =>
    constructor
    · intro h
      cases h
    rintro ⟨cause, line, blame, -⟩
    obtain ⟨q, reads, opened, -⟩ := parseAll_ok run (Nat.lt_succ_self _) declared (fun _ => rfl) h
    rw [Position.blame?, show Position.start.read (tokenize source) = .ok q from reads.read] at blame
    dsimp only at blame
    rw [Position.missing?, opened] at blame
    cases blame
  | error fault' s' =>
    obtain ⟨-, located⟩ :=
      parseAll_error run (Nat.lt_succ_self _) declared (fun _ => rfl) rfl h
    constructor
    · intro same
      cases same
      exact located
    · rintro ⟨cause, line, blame, rfl⟩
      obtain ⟨cause', line', blame', rfl⟩ := located
      rw [show (RunState.start source name).tokens = tokenize source from rfl, blame] at blame'
      cases blame'
      rfl

end TextTemplate.Tag

namespace TextTemplate

/-- The message on a tag that is open at the end names it and the tag that should end it. -/
theorem SyntaxFault.message_openTag (opening closing : String) :
    (openTag opening closing).message = "\x7b% " ++ opening ++
      " %\x7d tag could not find a corresponding \x7b% " ++ closing ++ " %\x7d." := by
  have middle : " %\x7d tag could not find a corresponding \x7b% " =
      " %\x7d" ++ (" tag could not find a corresponding " ++ "\x7b% ") := by decide
  have last : " %\x7d." = " %\x7d" ++ "." := by decide
  rw [middle, last]
  show tagText opening ++ " tag could not find a corresponding " ++ tagText closing ++ "." = _
  simp only [tagText, String.append_assoc]

end TextTemplate

namespace TextTemplate.Grammar

open TextTemplate.Tag TextTemplate.Markup

section Compile

variable {g : Grammar} {id : TemplateId} {source name : String} {defaults further : Dictionary Value}

/-- **Faults of compiling are located at the token that is to blame.**  A template for whose blocks the
ends can be read is not compiled exactly if the reader stops at one of its tokens, or if a tag is open
at its end.  The fault names the template, and the line is that of the token, or of the open tag: for a
block of a name that is taken, the line where the block starts that ends later.  For an open tag the
message names the tag and the one that should end it. -/
theorem compile_eq_error_iff {endOf : EndBuilder} (standard : g.macros = standardWith endOf)
    (built : EndsBuilt endOf source) {fault : Fault} :
    g.compile id source name defaults further = .error fault ↔
      ∃ cause line, fault = .compile cause.message name line ∧ 1 ≤ line ∧ line ≤ lineCount source ∧
        ((∃ before token after p, tokenize source = before ++ token :: after ∧
            Position.start.read before = .ok p ∧ p.Blamed token cause line) ∨
          ∃ p opener outer, Position.start.read (tokenize source) = .ok p ∧
            p.opened = (line, opener) :: outer ∧ cause = .openTag opener.tags.1 opener.tags.2 ∧
            cause.message = "\x7b% " ++ opener.tags.1 ++
              " %\x7d tag could not find a corresponding \x7b% " ++ opener.tags.2 ++ " %\x7d.") := by
  have compile : g.compile id source name defaults further = .error fault ↔
      parseTemplate Tag.standard source name = .error fault := by
    unfold Grammar.compile
    rw [standard, parseTemplate_standardWith built]
    cases parseTemplate Tag.standard source name with
    | ok body => exact ⟨(fun h => nomatch h), (fun h => nomatch h)⟩
    | error fault' => exact ⟨(fun h => by cases h; rfl), (fun h => by cases h; rfl)⟩
  rw [compile, parseTemplate_eq_error_iff]
  constructor
  · rintro ⟨cause, line, blame, rfl⟩
    obtain ⟨token, mem, rfl⟩ := Position.line_of_blame blame
    obtain ⟨least, most⟩ := line_of_tokenize mem
    refine ⟨cause, _, rfl, least, most, (Position.blame?_eq_some.1 blame).imp_right ?_⟩
    rintro ⟨p, opener, outer, reads, opened, rfl⟩
    exact ⟨p, opener, outer, reads, opened, rfl, SyntaxFault.message_openTag _ _⟩
  · rintro ⟨cause, line, rfl, -, -, blamed⟩
    refine ⟨cause, line, Position.blame?_eq_some.2 (blamed.imp_right ?_), rfl⟩
    rintro ⟨p, opener, outer, reads, opened, same, -⟩
    exact ⟨p, opener, outer, reads, opened, same⟩

end Compile

/-! ### A block in another one of its name -/

namespace Repeated

/-- The block that starts first ends last. -/
def source : String :=
  "\x7b% block a %\x7d\n\x7b% block a %\x7d\x7b% endblock %\x7d\x7b% endblock %\x7d"

def before : List Token :=
  [⟨1, .tag, "block a"⟩, ⟨1, .literal, "\n"⟩, ⟨2, .tag, "block a"⟩, ⟨2, .tag, "endblock"⟩]

def position : Position := ⟨[(1, .block "a")], ["a"], true⟩

set_option maxRecDepth 100000 in
theorem tokenize_source :
    tokenize source = before ++ ⟨2, .tag, "endblock"⟩ :: [⟨2, .literal, ""⟩] := by
  cbv

set_option maxRecDepth 100000 in
theorem read_before : Position.start.read before = .ok position := by
  cbv

theorem lineCount_source : lineCount source = 2 := by
  decide

theorem endsBuilt_source : EndsBuilt (fun name => .ok (readEndblock? name)) source :=
  fun _ _ _ _ => rfl

set_option maxRecDepth 100000 in
/-- The line of the outer block is blamed. -/
theorem blamed_source :
    (Grammar.standard (.escaper 0)).compile ⟨none, 0⟩ source unnamed .empty .empty =
      .error (.compile (SyntaxFault.repeatedBlock "a").message unnamed 1) := by
  refine (compile_eq_error_iff rfl endsBuilt_source).2
    ⟨.repeatedBlock "a", 1, rfl, by decide, ?_, .inl ?_⟩
  · rw [lineCount_source]
    decide
  · refine ⟨before, _, _, position, tokenize_source, read_before, ?_⟩
    exact .repeated (by cbv) rfl (by cbv) (.head _)

end Repeated

end TextTemplate.Grammar
