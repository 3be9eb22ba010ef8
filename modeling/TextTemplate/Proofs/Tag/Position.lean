import TextTemplate.Proofs.Markup.Lossless
import TextTemplate.Proofs.Tag.Sentence

/-!
# Where a template goes wrong

A reader that goes through the tokens of a template from left to right and keeps the tags whose bodies
are open (`Position.next`).  It stops at the first token that does not fit, and says what is wrong with
it and in which line; `Blamed` lists the ways in which this can be.  At the end of the template no tag
may be open.  Only lines of tokens are
blamed (`Position.line_of_blame`).
-/

namespace TextTemplate.Tag

open TextTemplate.Markup

/-! ## Texts that cannot be read -/

def expressionFault? (text : String) : Option SyntaxFault :=
  match Expression.compile text with
  | .ok _ => none
  | .error cause => some cause

def targetFault? (text : String) : Option SyntaxFault :=
  match Target.parse text with
  | .ok _ => none
  | .error cause => some cause

/-- What is wrong with the texts of a token: with the one that is read first, if with both. -/
def Sign.fault? : Sign String String → Option SyntaxFault
  | .assign target e | .bind target e => (expressionFault? e).or (targetFault? target)
  | .loop target e => (targetFault? target).or (expressionFault? e)
  | .output e | .print e | .include e | .branch e | .elif e | .extend e => expressionFault? e
  | _ => none

/-! ## Open tags -/

/-- What a body stands behind that has not ended. -/
inductive Opener where
  /-- `if` or `elif`. -/
  | branch
  /-- The `else` of an `if`. -/
  | otherwise
  | loop
  | bind
  | block (name : String)

/-- The first tag and the last one of what an opener belongs to. -/
def Opener.tags : Opener → String × String
  | .branch | .otherwise => ("if", "endif")
  | .loop => ("for", "endfor")
  | .bind => ("with", "endwith")
  | .block _ => ("block", "endblock")

/-- The opener behind the first tag of what an opener belongs to. -/
def Opener.first : Opener → Opener
  | .otherwise => .branch
  | opener => opener

/-- Reads the end of the body. -/
def Opener.read? : Opener → String → Option Clause
  | .branch, tag | .otherwise, tag => Clause.read? tag
  | .loop, tag => (isWord "endfor" tag).map fun _ => .endif
  | .bind, tag => (isWord "endwith" tag).map fun _ => .endif
  | .block name, tag => (readEndblock? name tag).map fun _ => .endif

/-- The opener of a tag with a body. -/
def Sign.opener? : Sign String String → Option Opener
  | .branch _ => some .branch
  | .loop .. => some .loop
  | .bind .. => some .bind
  | .block x => some (.block x)
  | _ => none

/-- Whether a tag extends a template. -/
def Sign.isExtend : Sign String String → Bool
  | .extend _ => true
  | _ => false

/-- What is known of a template behind some of its tokens. -/
structure Position where
  /-- The tags that are open, the innermost first: for each the line of its first tag. -/
  opened : List (Nat × Opener)
  /-- The names of the blocks that have ended. -/
  closed : List String
  /-- Whether more than white space and tags that extend a template has been read. -/
  seen : Bool

/-- What is wrong, and the line that is to blame. -/
abbrev Blame := SyntaxFault × Nat

namespace Position

/-- The front of a template. -/
def start : Position := ⟨[], [], false⟩

/-- Whether a template may be extended here. -/
def atStart (p : Position) : Bool := p.opened.isEmpty && !p.seen

/-- Behind a token that does not end a body. -/
def enter (p : Position) (line : Nat) : Sign String String → Position
  | .literal text => { p with seen := p.seen || !isBlankText text }
  | .extend _ => p
  | sign => { p with opened := (sign.opener?.map (line, ·)).toList ++ p.opened, seen := true }

/-- Reads a token that does not end a body. -/
def take (p : Position) (line : Nat) (sign : Sign String String) : Except Blame Position :=
  if sign.isExtend && !p.atStart then .error (.lateExtends, line)
  else
    match sign.fault? with
    | some cause => .error (cause, line)
    | none => .ok (p.enter line sign)

/-- Reads a tag that no macro takes: it ends the innermost body. -/
def leave (p : Position) (line : Nat) (tag : String) : Except Blame Position :=
  match p.opened with
  | [] => .error (.unknownTag tag, line)
  | (first, opener) :: outer =>
    match opener, opener.read? tag with
    | _, none => .error (.unknownTag tag, line)
    | .branch, some (.elif test) =>
      match expressionFault? test with
      | some cause => .error (cause, line)
      | none => .ok p
    | .branch, some .orelse => .ok { p with opened := (first, .otherwise) :: outer }
    | .otherwise, some (.elif _) => .error (.elifAfterElse, line)
    | .otherwise, some .orelse => .error (.secondElse, line)
    | .block x, some _ =>
      if x ∈ p.closed then .error (.repeatedBlock x, first)
      else .ok { p with opened := outer, closed := x :: p.closed }
    | _, some _ => .ok { p with opened := outer }

/-- Reads a token. -/
def next (p : Position) (token : Token) : Except Blame Position :=
  match token.kind, taken? token.text with
  | .tag, none => p.leave token.line token.text
  | _, _ =>
    match sign? token with
    | some sign => p.take token.line sign
    | none => .ok p

/-- Reads tokens in order. -/
def read (p : Position) : List Token → Except Blame Position
  | [] => .ok p
  | token :: rest =>
    match p.next token with
    | .ok q => q.read rest
    | .error blame => .error blame

/-- What is wrong at the end of a template: a tag is open. -/
def missing? (p : Position) : Option Blame :=
  p.opened.head?.map fun (line, opener) => (.openTag opener.tags.1 opener.tags.2, line)

/-- What is wrong with the rest of a template, if anything is. -/
def blame? (p : Position) (tokens : List Token) : Option Blame :=
  match p.read tokens with
  | .ok q => q.missing?
  | .error blame => some blame

/-! ## What can be wrong with a token -/

/-- A token that does not fit where it stands, with what is wrong and the line to blame. -/
inductive Blamed (p : Position) : Token → SyntaxFault → Nat → Prop
  /-- An expression or a target of a placeholder or a tag cannot be read. -/
  | text {token : Token} {sign : Sign String String} {cause : SyntaxFault} :
      (token.kind = .tag → taken? token.text ≠ none) → sign? token = some sign →
      (sign.isExtend = true → p.atStart = true) → sign.fault? = some cause →
      Blamed p token cause token.line
  /-- A tag extends a template where it may not. -/
  | extend {line : Nat} {tag : String} {captures : Captures} :
      taken? tag = some (extendsTag, captures) → p.atStart = false →
      Blamed p ⟨line, .tag, tag⟩ .lateExtends line
  /-- Neither a macro takes the tag, nor does it end the innermost body. -/
  | unknown {line : Nat} {tag : String} :
      taken? tag = none → (∀ open' ∈ p.opened.head?, open'.2.read? tag = none) →
      Blamed p ⟨line, .tag, tag⟩ (.unknownTag tag) line
  /-- The test of an `elif` cannot be read. -/
  | elif {line first : Nat} {tag test : String} {outer : List (Nat × Opener)} {cause : SyntaxFault} :
      taken? tag = none → p.opened = (first, .branch) :: outer →
      Clause.read? tag = some (.elif test) → Expression.compile test = .error cause →
      Blamed p ⟨line, .tag, tag⟩ cause line
  | elifAfterElse {line first : Nat} {tag test : String} {outer : List (Nat × Opener)} :
      taken? tag = none → p.opened = (first, .otherwise) :: outer →
      Clause.read? tag = some (.elif test) → Blamed p ⟨line, .tag, tag⟩ .elifAfterElse line
  | secondElse {line first : Nat} {tag : String} {outer : List (Nat × Opener)} :
      taken? tag = none → p.opened = (first, .otherwise) :: outer →
      Clause.read? tag = some .orelse → Blamed p ⟨line, .tag, tag⟩ .secondElse line
  /-- A block ends, and one of its name has ended before.  The line is the one where it starts. -/
  | repeated {line first : Nat} {tag x : String} {outer : List (Nat × Opener)} :
      taken? tag = none → p.opened = (first, .block x) :: outer →
      readEndblock? x tag = some () → x ∈ p.closed →
      Blamed p ⟨line, .tag, tag⟩ (.repeatedBlock x) first

theorem expressionFault?_eq_some {text : String} {cause : SyntaxFault} :
    expressionFault? text = some cause ↔ Expression.compile text = .error cause := by
  unfold expressionFault?
  cases Expression.compile text with
  | ok e => exact ⟨(fun h => nomatch h), (fun h => nomatch h)⟩
  | error cause' => rw [Option.some.injEq, Except.error.injEq]

theorem take_eq_error {p : Position} {line l : Nat} {sign : Sign String String} {cause : SyntaxFault} :
    p.take line sign = .error (cause, l) ↔ l = line ∧
      (sign.isExtend = true ∧ p.atStart = false ∧ cause = .lateExtends ∨
        (sign.isExtend = true → p.atStart = true) ∧ sign.fault? = some cause) := by
  unfold take
  cases late : sign.isExtend && !p.atStart with
  | true =>
    obtain ⟨extend, here⟩ := Bool.and_eq_true_iff.1 late
    simp only [Bool.not_eq_true'] at here
    simp only [if_true, extend, here, Except.error.injEq, Prod.mk.injEq, true_and, Bool.false_eq_true,
      forall_const, false_and, or_false]
    rw [and_comm, eq_comm (a := line), eq_comm (a := SyntaxFault.lateExtends)]
  | false =>
    have fits : sign.isExtend = true → p.atStart = true := by
      intro extend
      cases here : p.atStart with
      | true => rfl
      | false => rw [extend, here] at late; cases late
    rw [if_neg Bool.false_ne_true]
    constructor
    · intro h
      cases wrong : sign.fault? with
      | none => rw [wrong] at h; cases h
      | some cause' =>
        rw [wrong] at h
        cases h
        exact ⟨rfl, .inr ⟨fits, rfl⟩⟩
    · rintro ⟨rfl, ⟨extend, here, -⟩ | ⟨-, wrong⟩⟩
      · exact absurd (here.symm.trans (fits extend)) Bool.false_ne_true
      · rw [wrong]

theorem next_of_untaken {p : Position} {line : Nat} {tag : String} (untaken : taken? tag = none) :
    p.next ⟨line, .tag, tag⟩ = p.leave line tag := by
  unfold next
  rw [untaken]

/-- A token that does not end a body. -/
theorem next_of_sign {p : Position} {token : Token} {sign : Sign String String}
    (begins : token.kind = .tag → taken? token.text ≠ none) (is : sign? token = some sign) :
    p.next token = p.take token.line sign := by
  unfold next
  split
  · next kind untaken => exact absurd untaken (begins kind)
  · rw [is]

/-- Every token is something to the grammar, but for tags that no macro takes. -/
theorem exists_sign {token : Token} (begins : token.kind = .tag → taken? token.text ≠ none) :
    ∃ sign, sign? token = some sign := by
  obtain ⟨line, kind, text⟩ := token
  cases kind with
  | literal => exact ⟨_, rfl⟩
  | expression => exact ⟨_, rfl⟩
  | tag =>
    cases taken : taken? text with
    | none => exact absurd taken (begins rfl)
    | some found =>
      obtain ⟨m, captures⟩ := found
      have mem := (fitAny?_of_taken taken).1
      rw [sign?_of_taken taken]
      simp only [standard_eq, List.mem_cons, List.not_mem_nil, or_false] at mem
      rcases mem with rfl | rfl | rfl | rfl | rfl | rfl | rfl | rfl | rfl <;> exact ⟨_, rfl⟩

/-- The tag of a sign that extends a template. -/
theorem taken?_of_isExtend {token : Token} {sign : Sign String String} (is : sign? token = some sign)
    (extend : sign.isExtend = true) :
    ∃ line tag captures, token = ⟨line, .tag, tag⟩ ∧ taken? tag = some (extendsTag, captures) := by
  obtain ⟨line, kind, text⟩ := token
  cases sign with
  | extend parent =>
    cases kind with
    | literal => cases is
    | expression => cases is
    | tag =>
      obtain ⟨captures, taken, -⟩ := sign?_eq_some.1 is
      exact ⟨line, text, captures, rfl, taken⟩
  | _ => cases extend

theorem leave_eq_error {p : Position} {line l : Nat} {tag : String} {cause : SyntaxFault}
    (untaken : taken? tag = none) :
    p.leave line tag = .error (cause, l) ↔ Blamed p ⟨line, .tag, tag⟩ cause l := by
  constructor
  · intro h
    unfold leave at h
    split at h
    · next none =>
      cases h
      exact .unknown untaken (by rw [none]; exact fun _ mem => nomatch mem)
    · next first opener outer opened =>
      split at h
      · next unread =>
        cases h
        exact .unknown untaken (by rw [opened]; rintro _ ⟨⟩; exact unread)
      · next test read =>
        split at h
        · next wrong =>
          cases h
          exact .elif untaken opened read (expressionFault?_eq_some.1 wrong)
        · cases h
      · cases h
      · next read =>
        cases h
        exact .elifAfterElse untaken opened read
      · next read =>
        cases h
        exact .secondElse untaken opened read
      · next x _ read =>
        split at h
        · next known =>
          cases h
          obtain ⟨_, ends, -⟩ := Option.map_eq_some_iff.1 read
          exact .repeated untaken opened ends known
        · cases h
      · cases h
  · intro h
    unfold leave
    cases h with
    | text begins _ _ _ => exact absurd untaken (begins rfl)
    | extend taken _ => rw [untaken] at taken; cases taken
    | unknown _ unread =>
      cases opened : p.opened with
      | nil => rfl
      | cons o outer =>
        obtain ⟨first, opener⟩ := o
        have unread : opener.read? tag = none := unread _ (by rw [opened]; rfl)
        dsimp only
        rw [unread]
    | elif _ opened read wrong =>
      rw [opened]
      dsimp only [Opener.read?]
      rw [read]
      dsimp only
      rw [expressionFault?_eq_some.2 wrong]
    | elifAfterElse _ opened read =>
      rw [opened]
      dsimp only [Opener.read?]
      rw [read]
    | secondElse _ opened read =>
      rw [opened]
      dsimp only [Opener.read?]
      rw [read]
    | repeated _ opened read known =>
      rw [opened]
      dsimp only [Opener.read?]
      rw [read]
      dsimp only [Option.map_some]
      rw [if_pos known]

/-- **The reader stops exactly at what is to blame.** -/
theorem next_eq_error {p : Position} {token : Token} {cause : SyntaxFault} {line : Nat} :
    p.next token = .error (cause, line) ↔ Blamed p token cause line := by
  by_cases ending : token.kind = .tag ∧ taken? token.text = none
  · obtain ⟨line', kind, tag⟩ := token
    obtain ⟨rfl, untaken⟩ : kind = .tag ∧ taken? tag = none := ending
    rw [next_of_untaken untaken, leave_eq_error untaken]
  · have begins : token.kind = .tag → taken? token.text ≠ none :=
      fun kind untaken => ending ⟨kind, untaken⟩
    obtain ⟨sign, is⟩ := exists_sign begins
    rw [next_of_sign begins is, take_eq_error]
    constructor
    · rintro ⟨rfl, ⟨extend, here, rfl⟩ | ⟨fits, wrong⟩⟩
      · obtain ⟨line, tag, captures, rfl, taken⟩ := taken?_of_isExtend is extend
        exact .extend taken here
      · exact .text begins is fits wrong
    · intro h
      cases h with
      | text _ is' fits wrong =>
        rw [is] at is'
        cases is'
        exact ⟨rfl, .inr ⟨fits, wrong⟩⟩
      | extend taken here =>
        rw [sign?_of_taken taken] at is
        cases is
        exact ⟨rfl, .inl ⟨rfl, here, rfl⟩⟩
      | unknown untaken _ => exact absurd untaken (begins rfl)
      | elif untaken _ _ _ => exact absurd untaken (begins rfl)
      | elifAfterElse untaken _ _ => exact absurd untaken (begins rfl)
      | secondElse untaken _ _ => exact absurd untaken (begins rfl)
      | repeated untaken _ _ _ => exact absurd untaken (begins rfl)

/-- A token that fits, if its texts can be read. -/
theorem next_of_fits {p : Position} {token : Token} {sign : Sign String String}
    (begins : token.kind = .tag → taken? token.text ≠ none) (is : sign? token = some sign)
    (fits : sign.isExtend = true → p.atStart = true) (readable : sign.fault? = none) :
    p.next token = .ok (p.enter token.line sign) := by
  rw [next_of_sign begins is]
  cases h : p.take token.line sign with
  | error blame =>
    rcases (take_eq_error.1 h).2 with ⟨extend, here, -⟩ | ⟨-, wrong⟩
    · rw [fits extend] at here
      cases here
    · rw [readable] at wrong
      cases wrong
  | ok q =>
    unfold take at h
    split at h
    · cases h
    · rw [readable] at h
      exact h.symm

/-! ## Reading on -/

theorem seen_of_next {p q : Position} {token : Token} (h : p.next token = .ok q) (seen : p.seen = true) :
    q.seen = true := by
  by_cases ending : token.kind = .tag ∧ taken? token.text = none
  · obtain ⟨line, kind, tag⟩ := token
    obtain ⟨rfl, untaken⟩ : kind = .tag ∧ taken? tag = none := ending
    rw [next_of_untaken untaken, leave] at h
    repeat' split at h
    all_goals cases h <;> exact seen
  · have begins : token.kind = .tag → taken? token.text ≠ none :=
      fun kind untaken => ending ⟨kind, untaken⟩
    obtain ⟨sign, is⟩ := exists_sign begins
    rw [next_of_sign begins is, take] at h
    split at h
    · cases h
    · split at h
      · cases h
      · cases h
        cases sign with
        | extend => exact seen
        | literal => exact Bool.or_eq_true_iff.2 (.inl seen)
        | _ => rfl

theorem seen_of_read {p q : Position} {tokens : List Token} (h : p.read tokens = .ok q)
    (seen : p.seen = true) : q.seen = true := by
  induction tokens generalizing p with
  | nil => cases h; exact seen
  | cons token rest ih =>
    rw [read] at h
    cases hn : p.next token with
    | error blame => rw [hn] at h; cases h
    | ok r =>
      rw [hn] at h
      exact ih h (seen_of_next hn seen)


theorem read_append {p q : Position} {tokens rest : List Token} (h : p.read tokens = .ok q) :
    p.read (tokens ++ rest) = q.read rest := by
  induction tokens generalizing p with
  | nil => cases h; rfl
  | cons token tokens ih =>
    rw [read] at h
    rw [List.cons_append, read]
    cases hn : p.next token with
    | error blame => rw [hn] at h; cases h
    | ok r =>
      rw [hn] at h
      exact ih h

theorem read_singleton {p q : Position} {token : Token} (h : p.next token = .ok q) :
    p.read [token] = .ok q := by
  rw [read, h]
  rfl

theorem read_cons {p q r : Position} {token : Token} {rest : List Token} (h : p.next token = .ok q)
    (h' : q.read rest = .ok r) : p.read (token :: rest) = .ok r := by
  rw [read, h]
  exact h'

theorem blame?_append {p q : Position} {tokens rest : List Token} (h : p.read tokens = .ok q) :
    p.blame? (tokens ++ rest) = q.blame? rest := by
  rw [blame?, read_append h]
  rfl

theorem blame?_of_next {p : Position} {token : Token} {blame : Blame} (rest : List Token)
    (h : p.next token = .error blame) : p.blame? (token :: rest) = some blame := by
  rw [blame?, read, h]

/-- A reader stops at one token, behind those that fit. -/
theorem read_eq_error {p : Position} {tokens : List Token} {blame : Blame} :
    p.read tokens = .error blame ↔ ∃ before token after q, tokens = before ++ token :: after ∧
      p.read before = .ok q ∧ q.next token = .error blame := by
  constructor
  · intro h
    induction tokens generalizing p with
    | nil => cases h
    | cons token rest ih =>
      rw [read] at h
      cases hn : p.next token with
      | error blame' =>
        rw [hn] at h
        cases h
        exact ⟨[], token, rest, p, rfl, rfl, hn⟩
      | ok q =>
        rw [hn] at h
        obtain ⟨before, token', after, r, rfl, run, stuck⟩ := ih h
        exact ⟨token :: before, token', after, r, rfl, read_cons hn run, stuck⟩
  · rintro ⟨before, token, after, q, rfl, run, stuck⟩
    rw [read_append run, read, stuck]

/-- The rest of a template is blamed for the first token that does not fit, or for a missing end. -/
theorem blame?_eq_some {p : Position} {tokens : List Token} {cause : SyntaxFault} {line : Nat} :
    p.blame? tokens = some (cause, line) ↔
      (∃ before token after q, tokens = before ++ token :: after ∧ p.read before = .ok q ∧
        Blamed q token cause line) ∨
      ∃ q opener outer, p.read tokens = .ok q ∧ q.opened = (line, opener) :: outer ∧
        cause = .openTag opener.tags.1 opener.tags.2 := by
  unfold blame?
  cases run : p.read tokens with
  | error blame =>
    obtain ⟨before, token, after, q, split, first, stuck⟩ := read_eq_error.1 run
    constructor
    · intro h
      cases h
      exact .inl ⟨before, token, after, q, split, first, next_eq_error.1 stuck⟩
    · rintro (⟨before, token, after, q, split, first, blamed⟩ | ⟨q, _, _, h, -⟩)
      · have same := read_eq_error.2 ⟨before, token, after, q, split, first, next_eq_error.2 blamed⟩
        rw [run] at same
        cases same
        rfl
      · cases h
  | ok q =>
    constructor
    · intro h
      obtain ⟨⟨line', opener⟩, first, same⟩ := Option.map_eq_some_iff.1 h
      cases same
      obtain ⟨outer, opened⟩ := List.head?_eq_some_iff.1 first
      exact .inr ⟨q, opener, outer, rfl, opened, rfl⟩
    · rintro (⟨before, token, after, r, split, first, blamed⟩ | ⟨_, opener, outer, same, opened, rfl⟩)
      · have stuck := read_eq_error.2 ⟨before, token, after, r, split, first, next_eq_error.2 blamed⟩
        rw [run] at stuck
        cases stuck
      · cases same
        dsimp only
        rw [missing?, opened]
        rfl

/-! ## The lines that are blamed -/

/-- A tag that is open was open before, or it is the token. -/
theorem opened_of_next {p q : Position} {token : Token} (h : p.next token = .ok q) {line : Nat}
    {opener : Opener} (mem : (line, opener) ∈ q.opened) :
    (∃ before, (line, before) ∈ p.opened ∧ before.first = opener.first) ∨
      token.line = line ∧ ∃ sign, sign? token = some sign ∧ sign.opener? = some opener.first := by
  have same (mem : (line, opener) ∈ p.opened) :
      ∃ before, (line, before) ∈ p.opened ∧ before.first = opener.first := ⟨opener, mem, rfl⟩
  by_cases ending : token.kind = .tag ∧ taken? token.text = none
  · left
    obtain ⟨line', kind, tag⟩ := token
    obtain ⟨rfl, untaken⟩ : kind = .tag ∧ taken? tag = none := ending
    rw [next_of_untaken untaken, leave] at h
    split at h
    · cases h
    · next first opener' outer opened =>
      rw [opened] at same ⊢
      split at h
      · cases h
      · split at h
        · cases h
        · cases h
          rw [opened] at mem
          exact same mem
      · cases h
        cases mem with
        | head => exact ⟨.branch, .head _, rfl⟩
        | tail _ mem => exact same (.tail _ mem)
      · cases h
      · cases h
      · split at h
        · cases h
        · cases h
          exact same (.tail _ mem)
      · cases h
        exact same (.tail _ mem)
  · have begins : token.kind = .tag → taken? token.text ≠ none :=
      fun kind untaken => ending ⟨kind, untaken⟩
    obtain ⟨sign, is⟩ := exists_sign begins
    rw [next_of_sign begins is, take] at h
    split at h
    · cases h
    · split at h
      · cases h
      · cases h
        cases sign with
        | branch | loop | bind | block =>
          cases mem with
          | head => exact .inr ⟨rfl, _, is, rfl⟩
          | tail _ mem => exact .inl (same mem)
        | _ => exact .inl (same mem)

/-- A tag that is open was open before, or it is one of the tokens. -/
theorem opened_of_read {p q : Position} {tokens : List Token} (h : p.read tokens = .ok q) {line : Nat}
    {opener : Opener} (mem : (line, opener) ∈ q.opened) :
    (∃ before, (line, before) ∈ p.opened ∧ before.first = opener.first) ∨
      ∃ token ∈ tokens, token.line = line ∧
        ∃ sign, sign? token = some sign ∧ sign.opener? = some opener.first := by
  induction tokens generalizing p with
  | nil =>
    cases h
    exact .inl ⟨opener, mem, rfl⟩
  | cons token rest ih =>
    rw [read] at h
    cases hn : p.next token with
    | error blame => rw [hn] at h; cases h
    | ok r =>
      rw [hn] at h
      rcases ih h with ⟨opener', mem', same⟩ | ⟨token', mem', opens⟩
      · rcases opened_of_next hn mem' with ⟨opener'', mem'', same'⟩ | ⟨here, sign, is, opens⟩
        · exact .inl ⟨opener'', mem'', same'.trans same⟩
        · exact .inr ⟨token, .head _, here, sign, is, by rw [opens, same]⟩
      · exact .inr ⟨token', .tail _ mem', opens⟩

/-- The line of a token that is blamed is its own, or that of an open tag. -/
theorem Blamed.line_mem {p : Position} {token : Token} {cause : SyntaxFault} {line : Nat}
    (h : Blamed p token cause line) : line = token.line ∨ ∃ opener, (line, opener) ∈ p.opened := by
  cases h with
  | repeated _ opened _ _ => exact .inr ⟨_, by rw [opened]; exact .head _⟩
  | _ => exact .inl rfl

/-- What is blamed is the line of a token. -/
theorem line_of_blame {tokens : List Token} {cause : SyntaxFault} {line : Nat}
    (h : start.blame? tokens = some (cause, line)) : ∃ token ∈ tokens, token.line = line := by
  have opened {q : Position} {tokens : List Token} {opener : Opener} (run : start.read tokens = .ok q)
      (mem : (line, opener) ∈ q.opened) : ∃ token ∈ tokens, token.line = line := by
    rcases opened_of_read run mem with ⟨_, mem, -⟩ | ⟨token, mem, here, -⟩
    · cases mem
    · exact ⟨token, mem, here⟩
  unfold blame? at h
  cases run : start.read tokens with
  | ok q =>
    rw [run] at h
    obtain ⟨⟨line', opener⟩, first, same⟩ := Option.map_eq_some_iff.1 h
    cases same
    exact opened run (List.mem_of_mem_head? first)
  | error blame =>
    rw [run] at h
    cases h
    obtain ⟨before, token, after, q, rfl, run, stuck⟩ := read_eq_error.1 run
    rcases (next_eq_error.1 stuck).line_mem with rfl | ⟨opener, mem⟩
    · exact ⟨token, by simp, rfl⟩
    · obtain ⟨token', mem, here⟩ := opened run mem
      exact ⟨token', List.mem_append_left _ mem, here⟩

end Position

end TextTemplate.Tag
