import TextTemplate.Proofs.Grammar
import TextTemplate.Proofs.Tag.Completeness
import TextTemplate.Proofs.Text.CharClass
import TextTemplate.Proofs.Text.Search

/-!
# Which templates are accepted

A grammar of blocks over tokens, without trees: `sign?` says what a token is to it, and `Sentence`
which sequences of tokens it admits.  `compile_iff_sentence` shows that exactly these templates are
compiled, if their expressions and targets can be read and no two blocks have the same name, and that
nothing is lost on the way: the tree, read in order (`outline`), recounts the tokens.
-/

namespace TextTemplate.Tag

open TextTemplate.Markup

/-! ## Signs -/

/-- What a token is to the grammar.  An expression or a target stands as a text in a token, and as what
was read from the text in a tree. -/
inductive Sign (ε τ : Type) where
  | literal (text : String)
  | output (e : ε)
  | assign (target : τ) (e : ε)
  | print (e : ε)
  | include (e : ε)
  | super
  | branch (test : ε)
  | elif (test : ε)
  | orelse
  | endif
  | loop (target : τ) (e : ε)
  | endfor
  | bind (target : τ) (e : ε)
  | endwith
  | block (name : String)
  /-- The end of a block may repeat its name. -/
  | endblock (name : Option String)
  | extend (parent : ε)

namespace Sign

variable {ε τ : Type}

/-- The expressions of a token. -/
def expressions : Sign ε τ → List ε
  | .output e | .assign _ e | .print e | .include e | .branch e | .elif e | .loop _ e | .bind _ e
  | .extend e => [e]
  | _ => []

/-- The binding targets of a token. -/
def targets : Sign ε τ → List τ
  | .assign t _ | .loop t _ | .bind t _ => [t]
  | _ => []

/-- Whether a token makes up a node by itself. -/
def isSingle : Sign ε τ → Bool
  | .literal _ | .output _ | .assign .. | .print _ | .include _ | .super => true
  | _ => false

/-- Reads the texts of a token.  A tree does not keep whether the end of a block repeated its name. -/
def compile : Sign String String → Except SyntaxFault (Sign Expression Target)
  | .literal text => return .literal text
  | .output e => return .output (← Expression.compile e)
  | .assign t e => return .assign (← Target.parse t) (← Expression.compile e)
  | .print e => return .print (← Expression.compile e)
  | .include e => return .include (← Expression.compile e)
  | .super => return .super
  | .branch e => return .branch (← Expression.compile e)
  | .elif e => return .elif (← Expression.compile e)
  | .orelse => return .orelse
  | .endif => return .endif
  | .loop t e => return .loop (← Target.parse t) (← Expression.compile e)
  | .endfor => return .endfor
  | .bind t e => return .bind (← Target.parse t) (← Expression.compile e)
  | .endwith => return .endwith
  | .block x => return .block x
  | .endblock _ => return .endblock none
  | .extend e => return .extend (← Expression.compile e)

end Sign

/-- What a tag is that the macro of a given name takes. -/
def opening? (captures : Captures) : String → Option (Sign String String)
  | "set" => some (.assign (captures.group 1) (captures.group 0))
  | "print" => some (.print (captures.group 0))
  | "if" => some (.branch (captures.group 0))
  | "for" => some (.loop (captures.group 0) (captures.group 1))
  | "with" => some (.bind (captures.group 1) (captures.group 0))
  | "include" => some (.include (captures.group 0))
  | "block" => some (.block (captures.group 0))
  | "super" => some .super
  | "extends" => some (.extend (captures.group 0))
  | _ => none

/-- Reads the end of a block: nothing else, or white space and a name. -/
def endblock? (tag : String) : Option (Sign String String) :=
  match Text.afterPrefix? "endblock".toList tag.toList with
  | none => none
  | some [] => some (.endblock none)
  | some (c :: rest) =>
    if Text.isWhite c then some (.endblock (some (String.ofList (rest.dropWhile Text.isWhite))))
    else none

/-- What a tag is that no macro takes. -/
def closing? (tag : String) : Option (Sign String String) :=
  match fitAny? [[.ofWord "elif", .spaces, .text]] tag with
  | some captures => some (.elif (captures.group 0))
  | none =>
    if tag = "else" then some .orelse
    else if tag = "endif" then some .endif
    else if tag = "endfor" then some .endfor
    else if tag = "endwith" then some .endwith
    else endblock? tag

/-- What a token is to the grammar; some tags are nothing to it. -/
def sign? (token : Token) : Option (Sign String String) :=
  match token.kind with
  | .literal => some (.literal token.text)
  | .expression => some (.output token.text)
  | .tag =>
    match taken? token.text with
    | some (m, captures) => opening? captures m.name
    | none => closing? token.text

/-! ## Sentences -/

/-- What tokens may make up: nodes, or what stands between the first tag of `if` and behind the last. -/
inductive Phrase where
  | nodes | clauses

/-- The grammar of blocks. -/
inductive Sentence : Phrase → List Token → Prop
  | done : Sentence .nodes []
  | single {token : Token} {sign : Sign String String} {tokens : List Token} :
      sign? token = some sign → sign.isSingle = true → Sentence .nodes tokens →
      Sentence .nodes (token :: tokens)
  | branch {token : Token} {test : String} {inner tokens : List Token} :
      sign? token = some (.branch test) → Sentence .clauses inner → Sentence .nodes tokens →
      Sentence .nodes (token :: (inner ++ tokens))
  | loop {token ending : Token} {target e : String} {inner tokens : List Token} :
      sign? token = some (.loop target e) → Sentence .nodes inner →
      sign? ending = some .endfor → Sentence .nodes tokens →
      Sentence .nodes (token :: (inner ++ ending :: tokens))
  | bind {token ending : Token} {target e : String} {inner tokens : List Token} :
      sign? token = some (.bind target e) → Sentence .nodes inner →
      sign? ending = some .endwith → Sentence .nodes tokens →
      Sentence .nodes (token :: (inner ++ ending :: tokens))
  | block {token ending : Token} {x : String} {name : Option String} {inner tokens : List Token} :
      sign? token = some (.block x) → Sentence .nodes inner →
      sign? ending = some (.endblock name) → name = none ∨ name = some x → Sentence .nodes tokens →
      Sentence .nodes (token :: (inner ++ ending :: tokens))
  | elif {ending : Token} {test : String} {inner tokens : List Token} :
      Sentence .nodes inner → sign? ending = some (.elif test) → Sentence .clauses tokens →
      Sentence .clauses (inner ++ ending :: tokens)
  | orelse {ending last : Token} {inner tokens : List Token} :
      Sentence .nodes inner → sign? ending = some .orelse → Sentence .nodes tokens →
      sign? last = some .endif → Sentence .clauses (inner ++ ending :: (tokens ++ [last]))
  | endif {ending : Token} {inner : List Token} :
      Sentence .nodes inner → sign? ending = some .endif → Sentence .clauses (inner ++ [ending])

/-- Every expression and every target in a token can be read. -/
def Readable (token : Token) : Prop :=
  ∀ sign ∈ sign? token, (∀ text ∈ sign.expressions, ∃ e, Expression.compile text = .ok e) ∧
    ∀ text ∈ sign.targets, ∃ t, Target.parse text = .ok t

/-- The name of the block that a token opens. -/
def blockName? (token : Token) : Option String :=
  match sign? token with
  | some (.block x) => some x
  | _ => none

/-! ## Outlines -/

/-- A token as a tree recounts it; the line is kept for tags that open a node. -/
structure Entry where
  line : Option Nat
  sign : Sign Expression Target

mutual

/-- The tokens of nodes, in order. -/
def outline : List (Nat × Node) → List Entry
  | [] => []
  | (line, n) :: rest => nodeOutline line n ++ outline rest

/-- The tokens of a node: the tag that opens it, its bodies in order, each with what stands in front of
it, and the tag that ends it. -/
def nodeOutline (line : Nat) : Node → List Entry
  | .text text => [⟨some line, .literal text⟩]
  | .output e => [⟨some line, .output e⟩]
  | .print e => [⟨some line, .print e⟩]
  | .assign t e => [⟨some line, .assign t e⟩]
  | .include e => [⟨some line, .include e⟩]
  | .super => [⟨some line, .super⟩]
  | .branch [] orelse => elseOutline orelse ++ [⟨none, .endif⟩]
  | .branch ((test, body) :: clauses) orelse =>
    ⟨some line, .branch test⟩ :: (bodyOutline body ++ (elifOutline clauses ++
      (elseOutline orelse ++ [⟨none, .endif⟩])))
  | .loop t e body => ⟨some line, .loop t e⟩ :: (bodyOutline body ++ [⟨none, .endfor⟩])
  | .bind t e body => ⟨some line, .bind t e⟩ :: (bodyOutline body ++ [⟨none, .endwith⟩])
  | .block x body => ⟨some line, .block x⟩ :: (bodyOutline body ++ [⟨none, .endblock none⟩])
  | .extend parent _ => [⟨some line, .extend parent⟩]

/-- The tokens of a body. -/
def bodyOutline : Fragment → List Entry
  | ⟨_, nodes⟩ => outline nodes

/-- The tokens of further clauses of `if`. -/
def elifOutline : List (Expression × Fragment) → List Entry
  | [] => []
  | (test, body) :: clauses => ⟨none, .elif test⟩ :: (bodyOutline body ++ elifOutline clauses)

/-- The tokens of the body behind `else`. -/
def elseOutline : Option Fragment → List Entry
  | none => []
  | some body => ⟨none, .orelse⟩ :: bodyOutline body

end

/-- An entry of an outline recounts a token: it is the same sign with the same texts, which have been
read, and its line is that of the token. -/
structure Recounts (entry : Entry) (token : Token) : Prop where
  sign : ∃ sign, sign? token = some sign ∧ sign.compile = .ok entry.sign ∧
    entry.sign.expressions.map Expression.source = sign.expressions
  line : ∀ line ∈ entry.line, line = token.line

/-- All tokens but the empty literals. -/
def filled (tokens : List Token) : List Token :=
  tokens.filter fun token => !(token.kind = .literal && token.text.isEmpty)

/-! ## Reading signs -/

theorem source_of_compile {text : String} {e : Expression} (h : Expression.compile text = .ok e) :
    e.source = text := by
  unfold Expression.compile at h
  cases parsed : Expr.parse text with
  | error fault =>
    rw [parsed] at h
    cases h
  | ok tree =>
    rw [parsed] at h
    cases h
    rfl

/-- A sign that was read keeps its texts. -/
theorem Sign.compile_eq_ok {sign : Sign String String} {c : Sign Expression Target}
    (h : sign.compile = .ok c) :
    c.expressions.map Expression.source = sign.expressions ∧
      (∀ text ∈ sign.expressions, ∃ e, Expression.compile text = .ok e) ∧
      ∀ text ∈ sign.targets, ∃ t, Target.parse text = .ok t := by
  have one : ∀ {text : String} {make : Expression → Sign Expression Target},
      (do return make (← Expression.compile text)) = Except.ok c →
      ∃ e, Expression.compile text = .ok e ∧ e.source = text ∧ make e = c := by
    intro text make h
    cases compiled : Expression.compile text with
    | error fault =>
      rw [compiled] at h
      cases h
    | ok e =>
      rw [compiled] at h
      cases h
      exact ⟨e, rfl, source_of_compile compiled, rfl⟩
  have two : ∀ {target text : String} {make : Target → Expression → Sign Expression Target},
      (do return make (← Target.parse target) (← Expression.compile text)) = Except.ok c →
      ∃ t e, Target.parse target = .ok t ∧ Expression.compile text = .ok e ∧ e.source = text ∧
        make t e = c := by
    intro target text make h
    cases parsed : Target.parse target with
    | error fault =>
      rw [parsed] at h
      cases h
    | ok t =>
      rw [parsed] at h
      obtain ⟨e, compiled, same, made⟩ := one h
      exact ⟨t, e, rfl, compiled, same, made⟩
  cases sign with
  | output | print | «include» | branch | elif | extend =>
    obtain ⟨e, compiled, rfl, rfl⟩ := one h
    simpa [expressions, targets] using ⟨e, compiled⟩
  | assign | loop | bind =>
    obtain ⟨t, e, parsed, compiled, rfl, rfl⟩ := two h
    simpa [expressions, targets] using ⟨⟨e, compiled⟩, t, parsed⟩
  | _ =>
    cases h
    simp [expressions, targets]

/-! ## The ends of blocks -/

theorem fit?_word_cons (w : List Char) (pattern : Pattern) (cs : List Char) :
    Pattern.fit? (.word w :: pattern) cs =
      (Text.afterPrefix? w cs).bind fun behind => Pattern.fit? pattern behind := by
  rw [Pattern.fit?]
  cases Text.afterPrefix? w cs <;> rfl

theorem fit?_run_cons (first others : Char → Bool) (preference : Preference) (captured : Bool)
    (pattern : Pattern) (cs : List Char) :
    Pattern.fit? (.run first others preference captured :: pattern) cs =
      (preference.lengths (runLength first others cs)).findSome? fun n =>
        (Pattern.fit? pattern (cs.drop n)).map fun captures =>
          if captured then String.ofList (cs.take n) :: captures else captures := rfl

/-- A word alone is fitted by itself only. -/
theorem fit?_word {w cs : List Char} : (Pattern.fit? [.word w] cs).isSome = true ↔ cs = w := by
  rw [fit?_word_cons]
  cases after : Text.afterPrefix? w cs with
  | none =>
    constructor
    · intro h
      cases h
    · rintro rfl
      rw [Text.afterPrefix?_eq_some.2 (List.append_nil cs).symm] at after
      cases after
  | some rest =>
    rw [Text.afterPrefix?_eq_some] at after
    cases rest with
    | nil => simp [Pattern.fit?, after]
    | cons c rest => simp [Pattern.fit?, after]

/-- White space and a word, which starts with no white space. -/
theorem fit?_spaces_word {w cs : List Char} (solid : ∀ c ∈ w.head?, Text.isWhite c = false) :
    (Pattern.fit? [.spaces, .word w] cs).isSome = true ↔
      ∃ c rest, cs = c :: rest ∧ Text.isWhite c = true ∧ rest.dropWhile Text.isWhite = w := by
  rw [Piece.spaces, fit?_run_cons, List.isSome_findSome?, List.any_eq_true]
  constructor
  · rintro ⟨n, mem, fits⟩
    rw [Option.isSome_map, fit?_word] at fits
    cases cs with
    | nil => simp [runLength, Preference.lengths] at mem
    | cons c rest =>
      by_cases white : Text.isWhite c = true
      · rw [runLength, if_pos white] at mem
        have bound : 0 < n ∧ n ≤ (rest.takeWhile Text.isWhite).length + 1 := by
          simp [Preference.lengths] at mem
          omega
        obtain ⟨k, rfl⟩ : ∃ k, n = k + 1 := ⟨n - 1, by omega⟩
        refine ⟨c, rest, rfl, white, ?_⟩
        have before : ∀ d ∈ rest.take k, Text.isWhite d = true := by
          intro d mem
          have within : rest.take k <+: rest.takeWhile Text.isWhite := by
            refine List.prefix_of_prefix_length_le (List.take_prefix k rest)
              (List.takeWhile_prefix _) ?_
            rw [List.length_take]
            omega
          exact List.all_eq_true.1 List.all_takeWhile d (within.subset mem)
        rw [List.drop_succ_cons] at fits
        rw [← List.take_append_drop k rest, List.dropWhile_append_of_pos before, fits]
        cases w with
        | nil => rfl
        | cons d w => exact List.dropWhile_cons_of_neg (by simp [solid d rfl])
      · rw [runLength, if_neg white] at mem
        simp [Preference.lengths] at mem
  · rintro ⟨c, rest, rfl, white, behind⟩
    refine ⟨(rest.takeWhile Text.isWhite).length + 1, ?_, ?_⟩
    · rw [runLength, if_pos white]
      simp [Preference.lengths]
    · have whole : rest = rest.takeWhile Text.isWhite ++ w := by
        rw [← behind, List.takeWhile_append_dropWhile]
      rw [Option.isSome_map, fit?_word, List.drop_succ_cons]
      exact (congrArg (List.drop _) whole).trans List.drop_left

/-- The end of a block is read by its form. -/
theorem readEndblock?_eq_some {x tag : String} (solid : ∀ c ∈ x.toList.head?, Text.isWhite c = false) :
    readEndblock? x tag = some () ↔
      ∃ name, endblock? tag = some (.endblock name) ∧ (name = none ∨ name = some x) := by
  have read : readEndblock? x tag = some () ↔
      (Pattern.fit? [.ofWord "endblock"] tag.toList).isSome = true ∨
        (Pattern.fit? [.ofWord "endblock", .spaces, .ofWord x] tag.toList).isSome = true := by
    unfold readEndblock? fitAny?
    cases first : Pattern.fit? [.ofWord "endblock"] tag.toList with
    | some captures => simp [first]
    | none =>
      cases second : Pattern.fit? [.ofWord "endblock", .spaces, .ofWord x] tag.toList with
      | some captures => simp [first, second]
      | none => simp [first, second]
  rw [read, Piece.ofWord, fit?_word, Pattern.fit?, endblock?]
  cases after : Text.afterPrefix? "endblock".toList tag.toList with
  | none =>
    have other : tag.toList ≠ "endblock".toList := by
      intro same
      rw [Text.afterPrefix?_eq_some.2 (same.trans (List.append_nil _).symm)] at after
      cases after
    simp only [other, false_or]
    simp
  | some cs =>
    have whole := Text.afterPrefix?_eq_some.1 after
    dsimp only
    rw [Piece.ofWord, fit?_spaces_word solid, whole]
    cases cs with
    | nil => simp only [List.append_nil, true_or, true_iff]; exact ⟨none, rfl, .inl rfl⟩
    | cons c rest =>
      have other : "endblock".toList ++ c :: rest ≠ "endblock".toList := by
        intro same
        have := congrArg List.length same
        simp at this
      by_cases white : Text.isWhite c = true
      · simp only [other, false_or, if_pos white, Option.some.injEq, Sign.endblock.injEq]
        constructor
        · rintro ⟨c', rest', same, -, behind⟩
          obtain ⟨rfl, rfl⟩ := List.cons.inj same
          exact ⟨_, rfl, .inr (by rw [behind, String.ofList_toList])⟩
        · rintro ⟨name, rfl, same⟩
          refine ⟨c, rest, rfl, white, ?_⟩
          have same := same.resolve_left (by simp)
          rw [← Option.some.inj same, String.toList_ofList]
      · simp only [other, false_or, if_neg white]
        constructor
        · rintro ⟨c', rest', same, white', -⟩
          obtain ⟨rfl, rfl⟩ := List.cons.inj same
          exact absurd white' white
        · rintro ⟨name, h, -⟩
          cases h

/-- A run at the end of a pattern captures its first character. -/
theorem fit?_run {first others : Char → Bool} {preference : Preference} {cs : List Char}
    {captures : Captures} (h : Pattern.fit? [.run first others preference true] cs = some captures) :
    ∃ c rest, first c = true ∧ captures.group 0 = String.ofList (c :: rest) := by
  rw [fit?_run_cons] at h
  obtain ⟨n, mem, fits⟩ := List.exists_of_findSome?_eq_some h
  obtain ⟨captured, -, rfl⟩ := Option.map_eq_some_iff.1 fits
  cases cs with
  | nil => cases preference <;> simp [runLength, Preference.lengths] at mem
  | cons c rest =>
    by_cases starts : first c = true
    · obtain ⟨k, rfl⟩ : ∃ k, n = k + 1 := by
        refine ⟨n - 1, ?_⟩
        cases preference <;> simp [Preference.lengths] at mem <;> omega
      exact ⟨c, rest.take k, starts, rfl⟩
    · rw [runLength, if_neg starts] at mem
      cases preference <;> simp [Preference.lengths] at mem

theorem fit?_ofWord {w : String} {pattern : Pattern} {cs : List Char} {captures : Captures}
    (h : Pattern.fit? (.ofWord w :: pattern) cs = some captures) :
    ∃ rest, cs = w.toList ++ rest ∧ Pattern.fit? pattern rest = some captures := by
  rw [Piece.ofWord, fit?_word_cons] at h
  cases after : Text.afterPrefix? w.toList cs with
  | none =>
    rw [after] at h
    cases h
  | some rest =>
    rw [after] at h
    exact ⟨rest, Text.afterPrefix?_eq_some.1 after, h⟩

theorem fit?_spaces {pattern : Pattern} {cs : List Char} {captures : Captures}
    (h : Pattern.fit? (.spaces :: pattern) cs = some captures) :
    ∃ n, Pattern.fit? pattern (cs.drop n) = some captures := by
  rw [Piece.spaces, fit?_run_cons] at h
  obtain ⟨n, -, fits⟩ := List.exists_of_findSome?_eq_some h
  obtain ⟨captures', fits, same⟩ := Option.map_eq_some_iff.1 fits
  rw [if_neg Bool.false_ne_true] at same
  exact ⟨n, by rw [fits, same]⟩

/-- What a macro captures is what one of its patterns fits to. -/
theorem fitAny?_of_taken {tag : String} {m : Macro} {captures : Captures}
    (h : taken? tag = some (m, captures)) : m ∈ standard ∧ fitAny? m.patterns tag = some captures := by
  obtain ⟨m', mem, found⟩ := List.exists_of_findSome?_eq_some h
  obtain ⟨captures', fits, same⟩ := Option.map_eq_some_iff.1 found
  cases same
  exact ⟨mem, fits⟩

/-- The name of a block starts with no white space. -/
theorem solid_of_taken {tag : String} {captures : Captures}
    (h : taken? tag = some (blockTag, captures)) :
    ∀ c ∈ (captures.group 0).toList.head?, Text.isWhite c = false := by
  obtain ⟨pattern, mem, fits⟩ := List.exists_of_findSome?_eq_some (fitAny?_of_taken h).2
  obtain rfl := List.mem_singleton.1 mem
  obtain ⟨rest, -, fits⟩ := fit?_ofWord fits
  obtain ⟨n, fits⟩ := fit?_spaces fits
  obtain ⟨c, rest, starts, captured⟩ := fit?_run fits
  rw [captured, String.toList_ofList]
  rintro _ ⟨⟩
  refine Text.isWhite_of_startsName ?_
  rw [Bool.or_eq_true] at starts
  rcases starts with alpha | low
  · simp [Text.startsName, Text.isLetter, alpha]
  · simp [Text.startsName, of_decide_eq_true low]

/-! ## Tags and their signs -/

/-- What it means for a tag to be a sign, in the terms of the parser. -/
def Means (tag : String) : Sign String String → Prop
  | .assign t e => ∃ c, taken? tag = some (setTag, c) ∧ c.group 0 = e ∧ c.group 1 = t
  | .print e => ∃ c, taken? tag = some (printTag, c) ∧ c.group 0 = e
  | .include e => ∃ c, taken? tag = some (includeTag, c) ∧ c.group 0 = e
  | .super => ∃ c, taken? tag = some (superTag, c)
  | .branch e => ∃ c, taken? tag = some (ifTag, c) ∧ c.group 0 = e
  | .loop t e => ∃ c, taken? tag = some (forTag, c) ∧ c.group 0 = t ∧ c.group 1 = e
  | .bind t e => ∃ c, taken? tag = some (withTag, c) ∧ c.group 0 = e ∧ c.group 1 = t
  | .block x => ∃ c, taken? tag = some (blockTag, c) ∧ c.group 0 = x
  | .extend e => ∃ c, taken? tag = some (extendsTag, c) ∧ c.group 0 = e
  | .elif e => taken? tag = none ∧ Clause.read? tag = some (.elif e)
  | .orelse => taken? tag = none ∧ Clause.read? tag = some .orelse
  | .endif => taken? tag = none ∧ Clause.read? tag = some .endif
  | .endfor => taken? tag = none ∧ isWord "endfor" tag = some ()
  | .endwith => taken? tag = none ∧ isWord "endwith" tag = some ()
  | .endblock name => taken? tag = none ∧ endblock? tag = some (.endblock name)
  | .literal _ | .output _ => False

theorem sign?_of_taken {line : Nat} {tag : String} {m : Macro} {captures : Captures}
    (h : taken? tag = some (m, captures)) :
    sign? ⟨line, .tag, tag⟩ = opening? captures m.name := by
  rw [sign?, h]

theorem sign?_of_untaken {line : Nat} {tag : String} (h : taken? tag = none) :
    sign? ⟨line, .tag, tag⟩ = closing? tag := by
  rw [sign?, h]

/-- The end of a block is no end of another kind. -/
theorem closing?_of_endblock {tag : String} {sign : Sign String String}
    (h : endblock? tag = some sign) : closing? tag = some sign := by
  unfold endblock? at h
  cases after : Text.afterPrefix? "endblock".toList tag.toList with
  | none =>
    rw [after] at h
    cases h
  | some rest =>
    obtain rfl : tag = String.ofList ("endblock".toList ++ rest) := by
      rw [← Text.afterPrefix?_eq_some.1 after, String.ofList_toList]
    have noElif : fitAny? [[.ofWord "elif", .spaces, .text]]
        (String.ofList ("endblock".toList ++ rest)) = none := by
      rw [fitAny?, String.toList_ofList]
      rfl
    have other : ∀ w ∈ ["else", "endif", "endfor", "endwith"],
        String.ofList ("endblock".toList ++ rest) ≠ w := by
      have heads : ∀ w ∈ ["else", "endif", "endfor", "endwith"], w.toList.take 4 ≠ "endb".toList := by
        decide
      intro w mem same
      refine heads w mem ?_
      rw [← same, String.toList_ofList]
      rfl
    rw [closing?, noElif]
    dsimp only
    rw [if_neg (other _ (by decide)), if_neg (other _ (by decide)), if_neg (other _ (by decide)),
      if_neg (other _ (by decide)), endblock?, after, ← h, after]

theorem means_of_closing {tag : String} {sign : Sign String String} (untaken : taken? tag = none)
    (h : closing? tag = some sign) : Means tag sign := by
  unfold closing? at h
  cases fits : fitAny? [[.ofWord "elif", .spaces, .text]] tag with
  | some captures =>
    rw [fits] at h
    cases h
    exact ⟨untaken, by rw [Clause.read?, fits]⟩
  | none =>
    rw [fits] at h
    dsimp only at h
    split at h
    · next same =>
      cases h
      exact ⟨untaken, by rw [same]; rfl⟩
    · split at h
      · next same =>
        cases h
        exact ⟨untaken, by rw [same]; rfl⟩
      · split at h
        · next same =>
          cases h
          exact ⟨untaken, by rw [same]; rfl⟩
        · split at h
          · next same =>
            cases h
            exact ⟨untaken, by rw [same]; rfl⟩
          · have whole := h
            unfold endblock? at h
            split at h
            · cases h
            · cases h
              exact ⟨untaken, whole⟩
            · split at h
              · cases h
                exact ⟨untaken, whole⟩
              · cases h

/-- What the end of a body of `if` is to the grammar. -/
def Clause.sign : Clause → Sign String String
  | .elif test => .elif test
  | .orelse => .orelse
  | .endif => .endif

theorem closing?_of_means {tag : String} {sign : Sign String String} (untaken : taken? tag = none)
    (h : Means tag sign) : closing? tag = some sign := by
  have taken : ∀ {m : Macro} {p : Captures → Prop} {q : Prop},
      (∃ c, taken? tag = some (m, c) ∧ p c) → q := by
    rintro m p q ⟨c, taken, -⟩
    rw [untaken] at taken
    cases taken
  have clause : ∀ {clause : Clause}, Clause.read? tag = some clause →
      closing? tag = some clause.sign := by
    intro clause read
    unfold Clause.read? at read
    unfold closing?
    cases fits : fitAny? [[.ofWord "elif", .spaces, .text]] tag with
    | some captures =>
      rw [fits] at read
      cases read
      rfl
    | none =>
      rw [fits] at read
      dsimp only at read ⊢
      split at read
      · next same =>
        cases read
        rw [if_pos same]
        rfl
      · next other =>
        split at read
        · next same =>
          cases read
          rw [if_neg other, if_pos same]
          rfl
        · cases read
  have word : ∀ {w : String}, isWord w tag = some () → tag = w := by
    intro w h
    unfold isWord at h
    split at h
    · next same => exact same
    · cases h
  cases sign with
  | literal | output => exact h.elim
  | elif | orelse | endif => exact clause h.2
  | endfor | endwith =>
    obtain rfl := word h.2
    rfl
  | endblock => exact closing?_of_endblock h.2
  | super => exact taken (p := fun _ => True) (h.imp fun _ h => ⟨h, trivial⟩)
  | assign | print | «include» | branch | loop | bind | block | extend => exact taken h

theorem sign?_eq_some {line : Nat} {tag : String} {sign : Sign String String} :
    sign? ⟨line, .tag, tag⟩ = some sign ↔ Means tag sign := by
  cases taken : taken? tag with
  | none =>
    rw [sign?_of_untaken taken]
    exact ⟨means_of_closing taken, closing?_of_means taken⟩
  | some found =>
    obtain ⟨m, captures⟩ := found
    rw [sign?_of_taken taken]
    constructor
    · intro h
      have mem := (fitAny?_of_taken taken).1
      simp only [standard_eq, List.mem_cons, List.not_mem_nil, or_false] at mem
      rcases mem with rfl | rfl | rfl | rfl | rfl | rfl | rfl | rfl | rfl <;> cases h
      · exact ⟨captures, taken, rfl, rfl⟩
      · exact ⟨captures, taken, rfl⟩
      · exact ⟨captures, taken, rfl⟩
      · exact ⟨captures, taken, rfl, rfl⟩
      · exact ⟨captures, taken, rfl, rfl⟩
      · exact ⟨captures, taken, rfl⟩
      · exact ⟨captures, taken, rfl⟩
      · exact ⟨captures, taken⟩
      · exact ⟨captures, taken, rfl⟩
    · intro h
      have untaken : ∀ {p q : Prop}, taken? tag = none ∧ p → q := by
        rintro p q ⟨h, -⟩
        rw [taken] at h
        cases h
      cases sign with
      | literal | output => exact h.elim
      | elif | orelse | endif | endfor | endwith | endblock => exact untaken h
      | super =>
        obtain ⟨c, taken'⟩ := h
        rw [taken] at taken'
        cases taken'
        rfl
      | assign | loop | bind =>
        obtain ⟨c, taken', rfl, rfl⟩ := h
        rw [taken] at taken'
        cases taken'
        rfl
      | print | «include» | branch | block | extend =>
        obtain ⟨c, taken', rfl⟩ := h
        rw [taken] at taken'
        cases taken'
        rfl

end TextTemplate.Tag
