import Mathlib
import TextTemplate.Proofs.Tag.Sentence

/-!
# Sentences and derivations

Without tags that extend templates, what is derived is a sentence and the other way round: a sentence
whose texts can be read is derived (`Sentence.derivable`), and of a derivation the tokens are a sentence
that the nodes recount (`Derives.recounted`).  With the parser that finds all derivations and nothing
else, this is `Grammar.compile_iff_sentence`.
-/

namespace TextTemplate.Tag

open TextTemplate.Markup

/-! ## From sentences to derivations -/

/-- Tokens that are derived as something. -/
def Derivable (name : String) (tokens : List Token) : Phrase → Prop
  | .nodes => ∀ start, ∃ nodes blocks, Derives name (.nodes start nodes) tokens blocks
  | .clauses => ∀ test, ∃ clauses orelse blocks, Derives name (.clauses test clauses orelse) tokens blocks

theorem Readable.expression {token : Token} {sign : Sign String String} (h : Readable token)
    (is : sign? token = some sign) {text : String} (mem : text ∈ sign.expressions) :
    ∃ e, Expression.compile text = .ok e := (h sign is).1 text mem

theorem Readable.target {token : Token} {sign : Sign String String} (h : Readable token)
    (is : sign? token = some sign) {text : String} (mem : text ∈ sign.targets) :
    ∃ t, Target.parse text = .ok t := (h sign is).2 text mem

/-- A tag is what its sign says, and any other token is no tag. -/
theorem means_of_sign {token : Token} {sign : Sign String String} (h : sign? token = some sign)
    (tag : (∀ text, sign ≠ .literal text) ∧ ∀ text, sign ≠ .output text) :
    token.kind = .tag ∧ Means token.text sign := by
  obtain ⟨line, kind, text⟩ := token
  cases kind with
  | literal =>
    cases h
    exact absurd rfl (tag.1 text)
  | expression =>
    cases h
    exact absurd rfl (tag.2 text)
  | tag => exact ⟨rfl, sign?_eq_some.1 h⟩

/-- A token that makes up a node by itself goes before what is derived. -/
theorem derives_single {name : String} {token : Token} {sign : Sign String String}
    {tokens : List Token} (is : sign? token = some sign) (single : sign.isSingle = true)
    (readable : Readable token) (rest : Derivable name tokens .nodes) :
    Derivable name (token :: tokens) .nodes := by
  intro start
  obtain ⟨line, kind, text⟩ := token
  cases kind with
  | literal =>
    by_cases empty : text.isEmpty = true
    · obtain ⟨nodes, blocks, derived⟩ := rest start
      obtain rfl := String.isEmpty_iff.1 empty
      exact ⟨nodes, blocks, .empty derived⟩
    · obtain ⟨nodes, blocks, derived⟩ := rest (start && isBlankText text)
      exact ⟨_, blocks, .text (Bool.eq_false_iff.2 empty) derived⟩
  | expression =>
    cases is
    obtain ⟨e, compiled⟩ := readable.expression rfl (.head _)
    obtain ⟨nodes, blocks, derived⟩ := rest false
    exact ⟨_, blocks, .output compiled derived⟩
  | tag =>
    obtain ⟨nodes, blocks, derived⟩ := rest false
    suffices plain : ∃ n, Plain text n by
      obtain ⟨n, plain⟩ := plain
      exact ⟨_, blocks, .plain plain derived⟩
    have means := sign?_eq_some.1 is
    cases sign with
    | literal | output => exact means.elim
    | assign target e =>
      obtain ⟨e', compiled⟩ := readable.expression is (.head _)
      obtain ⟨t, parsed⟩ := readable.target is (.head _)
      obtain ⟨c, taken, rfl, rfl⟩ := means
      exact ⟨_, .assign taken compiled parsed⟩
    | print e =>
      obtain ⟨e', compiled⟩ := readable.expression is (.head _)
      obtain ⟨c, taken, rfl⟩ := means
      exact ⟨_, .print taken compiled⟩
    | «include» e =>
      obtain ⟨e', compiled⟩ := readable.expression is (.head _)
      obtain ⟨c, taken, rfl⟩ := means
      exact ⟨_, .include taken compiled⟩
    | super =>
      obtain ⟨c, taken⟩ := means
      exact ⟨_, .super taken⟩
    | _ => cases single

/-- **A sentence whose texts can be read is derived.** -/
theorem Sentence.derivable {phrase : Phrase} {tokens : List Token} (h : Sentence phrase tokens)
    (readable : ∀ token ∈ tokens, Readable token) (name : String) : Derivable name tokens phrase := by
  induction h with
  | done => exact fun start => ⟨[], [], .done⟩
  | single is single _ ih =>
    exact derives_single is single (readable _ (.head _)) (ih fun t mem => readable t (.tail _ mem))
  | @branch token test inner tokens is _ _ ihInner ihRest =>
    intro start
    rw [List.forall_mem_cons, List.forall_mem_append] at readable
    obtain ⟨first, within, behind⟩ := readable
    obtain ⟨e, compiled⟩ := first.expression is (.head _)
    obtain ⟨clauses, orelse, blocks, body⟩ := ihInner within e
    obtain ⟨nodes, later, derived⟩ := ihRest behind false
    obtain ⟨kind, c, taken, rfl⟩ := means_of_sign is (by simp)
    obtain ⟨line, _, tag⟩ := token
    cases kind
    exact ⟨_, _, .branch taken compiled body derived⟩
  | @loop token ending target e inner tokens is _ isEnd _ ihInner ihRest =>
    intro start
    simp only [List.forall_mem_cons, List.forall_mem_append] at readable
    obtain ⟨first, within, -, behind⟩ := readable
    obtain ⟨e', compiled⟩ := first.expression is (.head _)
    obtain ⟨t, parsed⟩ := first.target is (.head _)
    obtain ⟨body, blocks, inside⟩ := ihInner within false
    obtain ⟨nodes, later, derived⟩ := ihRest behind false
    obtain ⟨kind, c, taken, rfl, rfl⟩ := means_of_sign is (by simp)
    obtain ⟨kind', untaken, read⟩ := means_of_sign isEnd (by simp)
    obtain ⟨line, _, tag⟩ := token
    cases kind
    exact ⟨_, _, .loop taken parsed compiled inside ⟨kind', untaken, read⟩ derived⟩
  | @bind token ending target e inner tokens is _ isEnd _ ihInner ihRest =>
    intro start
    simp only [List.forall_mem_cons, List.forall_mem_append] at readable
    obtain ⟨first, within, -, behind⟩ := readable
    obtain ⟨e', compiled⟩ := first.expression is (.head _)
    obtain ⟨t, parsed⟩ := first.target is (.head _)
    obtain ⟨body, blocks, inside⟩ := ihInner within false
    obtain ⟨nodes, later, derived⟩ := ihRest behind false
    obtain ⟨kind, c, taken, rfl, rfl⟩ := means_of_sign is (by simp)
    obtain ⟨kind', untaken, read⟩ := means_of_sign isEnd (by simp)
    obtain ⟨line, _, tag⟩ := token
    cases kind
    exact ⟨_, _, .bind taken compiled parsed inside ⟨kind', untaken, read⟩ derived⟩
  | @block token ending x name' inner tokens is _ isEnd same _ ihInner ihRest =>
    intro start
    simp only [List.forall_mem_cons, List.forall_mem_append] at readable
    obtain ⟨-, within, -, behind⟩ := readable
    obtain ⟨body, blocks, inside⟩ := ihInner within false
    obtain ⟨nodes, later, derived⟩ := ihRest behind false
    obtain ⟨kind, c, taken, rfl⟩ := means_of_sign is (by simp)
    obtain ⟨kind', untaken, ends⟩ := means_of_sign isEnd (by simp)
    have read := (readEndblock?_eq_some (solid_of_taken taken)).2 ⟨_, ends, same⟩
    obtain ⟨line, _, tag⟩ := token
    cases kind
    exact ⟨_, _, .block taken inside ⟨kind', untaken, read⟩ derived⟩
  | @elif ending test inner tokens _ isEnd _ ihInner ihRest =>
    intro before
    simp only [List.forall_mem_cons, List.forall_mem_append] at readable
    obtain ⟨within, last, behind⟩ := readable
    obtain ⟨e, compiled⟩ := last.expression isEnd (.head _)
    obtain ⟨body, blocks, inside⟩ := ihInner within false
    obtain ⟨clauses, orelse, later, derived⟩ := ihRest behind e
    obtain ⟨kind, untaken, read⟩ := means_of_sign isEnd (by simp)
    exact ⟨_, _, _, .elif inside ⟨kind, untaken, read⟩ compiled derived⟩
  | @orelse ending last inner tokens _ isEnd _ isLast ihInner ihRest =>
    intro before
    simp only [List.forall_mem_cons, List.forall_mem_append] at readable
    obtain ⟨within, -, behind, -⟩ := readable
    obtain ⟨body, blocks, inside⟩ := ihInner within false
    obtain ⟨other, later, derived⟩ := ihRest behind false
    obtain ⟨kind, untaken, read⟩ := means_of_sign isEnd (by simp)
    obtain ⟨kind', untaken', read'⟩ := means_of_sign isLast (by simp)
    exact ⟨_, _, _, .orelse inside ⟨kind, untaken, read⟩ derived ⟨kind', untaken', read'⟩⟩
  | @endif ending inner _ isEnd ihInner =>
    intro before
    simp only [List.forall_mem_append] at readable
    obtain ⟨body, blocks, inside⟩ := ihInner readable.1 false
    obtain ⟨kind, untaken, read⟩ := means_of_sign isEnd (by simp)
    exact ⟨_, _, _, .endif inside ⟨kind, untaken, read⟩⟩

/-! ## From derivations to sentences -/

/-- The kind of phrase that a form is. -/
def Form.phrase : Form → Phrase
  | .nodes .. => .nodes
  | .clauses .. => .clauses

/-- The tokens of a form, in order. -/
def Form.outline : Form → List Entry
  | .nodes _ list => Tag.outline list
  | .clauses _ [] orelse => elseOutline orelse ++ [⟨none, .endif⟩]
  | .clauses _ ((_, body) :: list) orelse =>
    bodyOutline body ++ (elifOutline list ++ (elseOutline orelse ++ [⟨none, .endif⟩]))

/-- A form recounts its tokens, and the blocks are those whose tags stand among the tokens. -/
structure Recounted (form : Form) (tokens : List Token) (blocks : Blocks) : Prop where
  sentence : Sentence form.phrase tokens
  outline : List.Forall₂ Recounts form.outline (filled tokens)
  names : (blocks.map Prod.fst).Perm (tokens.filterMap blockName?)

theorem filled_append (first second : List Token) :
    filled (first ++ second) = filled first ++ filled second := List.filter_append ..

theorem filled_cons {token : Token} (h : ¬ (token.kind = .literal ∧ token.text.isEmpty = true))
    (tokens : List Token) : filled (token :: tokens) = token :: filled tokens :=
  List.filter_cons_of_pos (by rw [not_and_or] at h; simpa using h)

theorem filled_tag (line : Nat) (tag : String) (tokens : List Token) :
    filled (⟨line, .tag, tag⟩ :: tokens) = ⟨line, .tag, tag⟩ :: filled tokens :=
  filled_cons (by simp) tokens

theorem Ends.filled {α : Type} {ending : Token} {ending? : String → Option α} {what : α}
    (h : Ends ending ending? what) (tokens : List Token) :
    filled (ending :: tokens) = ending :: filled tokens :=
  filled_cons (fun literal => by rw [h.kind] at literal; cases literal.1) tokens

theorem recounts_of {line : Option Nat} {token : Token} {sign : Sign String String}
    {c : Sign Expression Target} (is : sign? token = some sign) (compiled : sign.compile = .ok c)
    (same : ∀ l ∈ line, l = token.line) : Recounts ⟨line, c⟩ token :=
  ⟨⟨sign, is, compiled, (Sign.compile_eq_ok compiled).1⟩, same⟩

theorem recounts_end {token : Token} {sign : Sign String String} {c : Sign Expression Target}
    (is : sign? token = some sign) (compiled : sign.compile = .ok c) : Recounts ⟨none, c⟩ token :=
  recounts_of is compiled fun _ mem => by cases mem

theorem recounts_start {line : Nat} {kind : TokenKind} {text : String} {sign : Sign String String}
    {c : Sign Expression Target} (is : sign? ⟨line, kind, text⟩ = some sign)
    (compiled : sign.compile = .ok c) : Recounts ⟨some line, c⟩ ⟨line, kind, text⟩ :=
  recounts_of is compiled fun _ mem => by cases mem; rfl

/-- The tags that open blocks. -/
theorem blockName?_eq_some {token : Token} {x : String} :
    blockName? token = some x ↔ token.kind = .tag ∧
      ∃ captures, taken? token.text = some (blockTag, captures) ∧ captures.group 0 = x := by
  have sign : blockName? token = some x ↔ sign? token = some (.block x) := by
    unfold blockName?
    split
    · next y is => rw [is, Option.some.injEq, Option.some.injEq, Sign.block.injEq]
    · next other => exact ⟨(fun h => nomatch h), fun is => absurd is (other x)⟩
  rw [sign]
  obtain ⟨line, kind, text⟩ := token
  cases kind with
  | literal => exact ⟨(fun h => nomatch h), fun h => nomatch h.1⟩
  | expression => exact ⟨(fun h => nomatch h), fun h => nomatch h.1⟩
  | tag => exact sign?_eq_some.trans ⟨fun h => ⟨rfl, h⟩, fun h => h.2⟩

theorem blockName?_of_sign {token : Token} {sign : Sign String String} (is : sign? token = some sign)
    (other : ∀ x, sign ≠ .block x) : blockName? token = none := by
  rw [blockName?, is]
  cases sign with
  | block x => exact absurd rfl (other x)
  | _ => rfl

/-- A tag of another macro opens no block. -/
theorem blockName?_of_taken {line : Nat} {tag : String} {m : Macro} {captures : Captures}
    (taken : taken? tag = some (m, captures)) (other : m.name ≠ "block") :
    blockName? ⟨line, .tag, tag⟩ = none := by
  rw [Option.eq_none_iff_forall_ne_some]
  intro x opens
  obtain ⟨-, captures', taken', -⟩ := blockName?_eq_some.1 opens
  exact taken?_ne taken other taken'

theorem Ends.blockName? {α : Type} {ending : Token} {ending? : String → Option α} {what : α}
    (h : Ends ending ending? what) : Tag.blockName? ending = none := by
  rw [Option.eq_none_iff_forall_ne_some]
  intro x opens
  obtain ⟨-, captures, taken, -⟩ := blockName?_eq_some.1 opens
  exact h.taken?_ne taken

/-- The sign of a tag that ends a body. -/
theorem Ends.sign {α : Type} {ending : Token} {ending? : String → Option α} {what : α}
    (h : Ends ending ending? what) {sign : Sign String String} (means : Means ending.text sign) :
    sign? ending = some sign := by
  obtain ⟨line, kind, tag⟩ := ending
  obtain rfl : kind = .tag := h.kind
  exact sign?_eq_some.2 means

/-- The sign of a tag without a body, and the outline of its node. -/
theorem Plain.sign {tag : String} {n : Node} (h : Plain tag n) (line : Nat) :
    ∃ sign c, sign? ⟨line, .tag, tag⟩ = some sign ∧ sign.isSingle = true ∧ sign.compile = .ok c ∧
      nodeOutline line n = [⟨some line, c⟩] := by
  cases h with
  | assign taken compiled parsed =>
    refine ⟨_, _, sign?_eq_some.2 (show Means tag (.assign _ _) from ⟨_, taken, rfl, rfl⟩), rfl, ?_, rfl⟩
    rw [Sign.compile, compiled, parsed]
    rfl
  | print taken compiled =>
    refine ⟨_, _, sign?_eq_some.2 (show Means tag (.print _) from ⟨_, taken, rfl⟩), rfl, ?_, rfl⟩
    rw [Sign.compile, compiled]
    rfl
  | «include» taken compiled =>
    refine ⟨_, _, sign?_eq_some.2 (show Means tag (.include _) from ⟨_, taken, rfl⟩), rfl, ?_, rfl⟩
    rw [Sign.compile, compiled]
    rfl
  | super taken => exact ⟨_, _, sign?_eq_some.2 (show Means tag .super from ⟨_, taken⟩), rfl, rfl, rfl⟩

/-- The names of the blocks of one node with a body and of those behind it. -/
theorem names_append {blocks later : Blocks} {head : Token} {inner rest : List Token} {ending : Token}
    (first : (blocks.map Prod.fst).Perm (inner.filterMap blockName?))
    (second : (later.map Prod.fst).Perm (rest.filterMap blockName?)) (hhead : blockName? head = none)
    (hending : blockName? ending = none) :
    ((blocks ++ later).map Prod.fst).Perm ((head :: (inner ++ ending :: rest)).filterMap blockName?) := by
  rw [List.map_append, List.filterMap_cons_none hhead, List.filterMap_append,
    List.filterMap_cons_none hending]
  exact first.append second

/-- A tag with a body up to the tag that ends it, and what is behind them. -/
theorem recounts_body {α : Type} {line : Nat} {tag : String} {ending : Token}
    {ending? : String → Option α} {what : α} {opening closing : Entry} {inside behind : List Entry}
    {inner rest : List Token} (ends : Ends ending ending? what)
    (first : Recounts opening ⟨line, .tag, tag⟩)
    (within : List.Forall₂ Recounts inside (filled inner)) (last : Recounts closing ending)
    (after : List.Forall₂ Recounts behind (filled rest)) :
    List.Forall₂ Recounts (opening :: (inside ++ [closing]) ++ behind)
      (filled (⟨line, .tag, tag⟩ :: (inner ++ ending :: rest))) := by
  rw [filled_tag, filled_append, ends.filled, List.cons_append, List.append_assoc]
  exact .cons first (List.rel_append within (.cons last after))

/-- **The blocks are those whose tags stand among the tokens.** -/
theorem Derives.names {name : String} {form : Form} {tokens : List Token} {blocks : Blocks}
    (d : Derives name form tokens blocks) :
    (blocks.map Prod.fst).Perm (tokens.filterMap blockName?) := by
  induction d with
  | done => exact .nil
  | empty _ ih | text _ _ ih | output _ _ ih =>
    rw [List.filterMap_cons_none rfl]
    exact ih
  | @plain _ line _ _ _ _ _ node _ ih =>
    obtain ⟨sign, _, is, single, -, -⟩ := node.sign line
    have other : ∀ x, sign ≠ .block x := by
      rintro x rfl
      cases single
    rw [List.filterMap_cons_none (blockName?_of_sign is other)]
    exact ih
  | branch taken _ _ _ ihInner ihRest =>
    rw [List.filterMap_cons_none (blockName?_of_taken taken (by decide)), List.map_append,
      List.filterMap_append]
    exact ihInner.append ihRest
  | loop taken _ _ _ ends _ ihInner ihRest | bind taken _ _ _ ends _ ihInner ihRest =>
    exact names_append ihInner ihRest (blockName?_of_taken taken (by decide)) ends.blockName?
  | @block _ line tag captures _ _ _ _ _ _ _ _ taken _ ends _ ihInner ihRest =>
    -- the block comes behind the blocks in its body, and its tag before their tags
    have is : sign? ⟨line, .tag, tag⟩ = some (.block (captures.group 0)) :=
      sign?_eq_some.2 ⟨captures, taken, rfl⟩
    have first : blockName? ⟨line, .tag, tag⟩ = some (captures.group 0) := by rw [blockName?, is]
    rw [List.filterMap_cons_some first, List.filterMap_append, List.filterMap_cons_none ends.blockName?,
      List.map_append, List.map_cons]
    exact List.perm_middle.trans ((ihInner.append ihRest).cons _)
  | extend taken _ _ _ ih =>
    rw [List.filterMap_cons_none (blockName?_of_taken taken (by decide))]
    exact ih
  | elif _ ends _ _ ihInner ihRest =>
    rw [List.map_append, List.filterMap_append, List.filterMap_cons_none ends.blockName?]
    exact ihInner.append ihRest
  | orelse _ ends _ last ihInner ihRest =>
    rw [List.map_append, List.filterMap_append, List.filterMap_cons_none ends.blockName?,
      List.filterMap_append, List.filterMap_cons_none last.blockName?, List.filterMap_nil,
      List.append_nil]
    exact ihInner.append ihRest
  | endif _ ends ih =>
    rw [List.filterMap_append, List.filterMap_cons_none ends.blockName?, List.filterMap_nil,
      List.append_nil]
    exact ih

/-- Every tag of a block in the tokens of a derivation declares it. -/
theorem Derives.exists_mem_of_tag {name : String} {form : Form} {tokens : List Token}
    {blocks : Blocks} (d : Derives name form tokens blocks) {token : Token} {captures : Captures}
    (mem : token ∈ tokens) (kind : token.kind = .tag)
    (taken : taken? token.text = some (blockTag, captures)) :
    ∃ body, (captures.group 0, body) ∈ blocks := by
  have opens : blockName? token = some (captures.group 0) :=
    blockName?_eq_some.2 ⟨kind, captures, taken, rfl⟩
  have named : captures.group 0 ∈ blocks.map Prod.fst :=
    d.names.mem_iff.2 (List.mem_filterMap.2 ⟨token, mem, opens⟩)
  obtain ⟨⟨x, body⟩, listed, same⟩ := List.mem_map.1 named
  exact ⟨body, same ▸ listed⟩

/-- What is derived without tags that extend templates is a sentence, and recounts its tokens. -/
theorem Derives.outlined {name : String} {form : Form} {tokens : List Token} {blocks : Blocks}
    (d : Derives name form tokens blocks)
    (plain : ∀ token ∈ tokens, ∀ parent, sign? token ≠ some (.extend parent)) :
    Sentence form.phrase tokens ∧ List.Forall₂ Recounts form.outline (filled tokens) := by
  induction d with
  | done => exact ⟨.done, .nil⟩
  | @empty start line nodes tokens blocks _ ih =>
    obtain ⟨sentence, outline⟩ := ih fun token mem => plain token (.tail _ mem)
    exact ⟨.single rfl rfl sentence, outline⟩
  | @text start line text nodes tokens blocks filled _ ih =>
    obtain ⟨sentence, outline⟩ := ih fun token mem => plain token (.tail _ mem)
    refine ⟨.single rfl rfl sentence, ?_⟩
    rw [filled_cons (by rw [filled]; simp)]
    have is : sign? ⟨line, .literal, text⟩ = some (.literal text) := rfl
    exact .cons (recounts_start is rfl) outline
  | @output start line text e nodes tokens blocks compiled _ ih =>
    obtain ⟨sentence, outline⟩ := ih fun token mem => plain token (.tail _ mem)
    refine ⟨.single rfl rfl sentence, ?_⟩
    rw [filled_cons (by simp)]
    have read : Sign.compile (.output text) = .ok (.output e) := by
      rw [Sign.compile, compiled]
      rfl
    have is : sign? ⟨line, .expression, text⟩ = some (.output text) := rfl
    exact .cons (recounts_start is read) outline
  | @plain start line tag n nodes tokens blocks node _ ih =>
    obtain ⟨sentence, outline⟩ := ih fun token mem => plain token (.tail _ mem)
    obtain ⟨sign, c, is, single, compiled, shape⟩ := node.sign line
    refine ⟨.single is single sentence, ?_⟩
    rw [filled_tag]
    show List.Forall₂ Recounts (nodeOutline line n ++ Tag.outline nodes) _
    rw [shape]
    exact .cons (recounts_start is compiled) outline
  | @branch start line tag captures test clauses orelse nodes inner tokens blocks later taken compiled
      derived _ ihInner ihRest =>
    simp only [List.forall_mem_cons, List.forall_mem_append] at plain
    obtain ⟨body, within⟩ := ihInner plain.2.1
    obtain ⟨rest, behind⟩ := ihRest plain.2.2
    have is : sign? ⟨line, .tag, tag⟩ = some (.branch (captures.group 0)) :=
      sign?_eq_some.2 ⟨captures, taken, rfl⟩
    have read : Sign.compile (.branch (captures.group 0)) = .ok (.branch test) := by
      rw [Sign.compile, compiled]
      rfl
    refine ⟨.branch is body rest, ?_⟩
    have shape : nodeOutline line (.branch clauses orelse) =
        ⟨some line, .branch test⟩ :: Form.outline (.clauses test clauses orelse) := by
      cases derived <;> rfl
    rw [filled_tag, filled_append]
    show List.Forall₂ Recounts (nodeOutline line _ ++ Tag.outline nodes) _
    rw [shape]
    exact .cons (recounts_start is read) (List.rel_append within behind)
  | @loop start line tag captures target e body nodes ending what inner tokens blocks later taken parsed
      compiled _ ends _ ihInner ihRest =>
    simp only [List.forall_mem_cons, List.forall_mem_append] at plain
    obtain ⟨body, within⟩ := ihInner plain.2.1
    obtain ⟨rest, behind⟩ := ihRest plain.2.2.2
    have is : sign? ⟨line, .tag, tag⟩ = some (.loop (captures.group 0) (captures.group 1)) :=
      sign?_eq_some.2 ⟨captures, taken, rfl, rfl⟩
    have read : Sign.compile (.loop (captures.group 0) (captures.group 1)) = .ok (.loop target e) := by
      rw [Sign.compile, parsed, compiled]
      rfl
    have isEnd : sign? ending = some .endfor := ends.sign ⟨ends.untaken, ends.read⟩
    refine ⟨.loop is body isEnd rest, ?_⟩
    exact recounts_body ends (recounts_start is read) within (recounts_end isEnd rfl) behind
  | @bind start line tag captures target e body nodes ending what inner tokens blocks later taken compiled
      parsed _ ends _ ihInner ihRest =>
    simp only [List.forall_mem_cons, List.forall_mem_append] at plain
    obtain ⟨body, within⟩ := ihInner plain.2.1
    obtain ⟨rest, behind⟩ := ihRest plain.2.2.2
    have is : sign? ⟨line, .tag, tag⟩ = some (.bind (captures.group 1) (captures.group 0)) :=
      sign?_eq_some.2 ⟨captures, taken, rfl, rfl⟩
    have read : Sign.compile (.bind (captures.group 1) (captures.group 0)) = .ok (.bind target e) := by
      rw [Sign.compile, parsed, compiled]
      rfl
    have isEnd : sign? ending = some .endwith := ends.sign ⟨ends.untaken, ends.read⟩
    refine ⟨.bind is body isEnd rest, ?_⟩
    exact recounts_body ends (recounts_start is read) within (recounts_end isEnd rfl) behind
  | @block start line tag captures body nodes ending what inner tokens blocks later taken _ ends _
      ihInner ihRest =>
    simp only [List.forall_mem_cons, List.forall_mem_append] at plain
    obtain ⟨body, within⟩ := ihInner plain.2.1
    obtain ⟨rest, behind⟩ := ihRest plain.2.2.2
    have is : sign? ⟨line, .tag, tag⟩ = some (.block (captures.group 0)) :=
      sign?_eq_some.2 ⟨captures, taken, rfl⟩
    obtain ⟨x, read, same⟩ := (readEndblock?_eq_some (solid_of_taken taken)).1 ends.read
    have isEnd : sign? ending = some (.endblock x) := ends.sign ⟨ends.untaken, read⟩
    refine ⟨.block is body isEnd same rest, ?_⟩
    exact recounts_body ends (recounts_start is rfl) within (recounts_end isEnd rfl) behind
  | @extend line tag captures parent nodes tokens blocks registry taken =>
    have means : Means tag (.extend (captures.group 0)) := ⟨captures, taken, rfl⟩
    exact absurd (sign?_eq_some.2 means) (plain _ (.head _) (captures.group 0))
  | @elif test next source body ending clauses orelse inner tokens blocks later _ ends compiled derived
      ihInner ihRest =>
    simp only [List.forall_mem_cons, List.forall_mem_append] at plain
    obtain ⟨first, within⟩ := ihInner plain.1
    obtain ⟨rest, behind⟩ := ihRest plain.2.2
    have isEnd : sign? ending = some (.elif source) := ends.sign ⟨ends.untaken, ends.read⟩
    have read : Sign.compile (.elif source) = .ok (.elif next) := by
      rw [Sign.compile, compiled]
      rfl
    refine ⟨.elif first isEnd rest, ?_⟩
    have shape : Form.outline (.clauses test ((test, ⟨name, body⟩) :: clauses) orelse) =
        Tag.outline body ++ ⟨none, .elif next⟩ :: Form.outline (.clauses next clauses orelse) := by
      cases derived <;> simp [Form.outline, elifOutline, bodyOutline]
    rw [filled_append, ends.filled, shape]
    exact List.rel_append within (.cons (recounts_end isEnd read) behind)
  | @orelse test body other ending last inner tokens blocks later _ ends _ ends' ihInner ihRest =>
    simp only [List.forall_mem_cons, List.forall_mem_append] at plain
    obtain ⟨first, within⟩ := ihInner plain.1
    obtain ⟨second, behind⟩ := ihRest plain.2.2.1
    have isEnd : sign? ending = some .orelse := ends.sign ⟨ends.untaken, ends.read⟩
    have isLast : sign? last = some .endif := ends'.sign ⟨ends'.untaken, ends'.read⟩
    refine ⟨.orelse first isEnd second isLast, ?_⟩
    rw [filled_append, ends.filled, filled_append, ends'.filled]
    show List.Forall₂ Recounts (Tag.outline body ++ _ :: (Tag.outline other ++ [_])) _
    refine List.rel_append within (.cons (recounts_end isEnd rfl) ?_)
    exact List.rel_append behind (.cons (recounts_end isLast rfl) .nil)
  | @endif test body ending inner blocks _ ends ihInner =>
    simp only [List.forall_mem_append] at plain
    obtain ⟨first, within⟩ := ihInner plain.1
    have isEnd : sign? ending = some .endif := ends.sign ⟨ends.untaken, ends.read⟩
    refine ⟨.endif first isEnd, ?_⟩
    rw [filled_append, ends.filled]
    exact List.rel_append within (.cons (recounts_end isEnd rfl) .nil)

/-- **What is derived recounts its tokens.** -/
theorem Derives.recounted {name : String} {form : Form} {tokens : List Token} {blocks : Blocks}
    (d : Derives name form tokens blocks)
    (plain : ∀ token ∈ tokens, ∀ parent, sign? token ≠ some (.extend parent)) :
    Recounted form tokens blocks :=
  ⟨(d.outlined plain).1, (d.outlined plain).2, d.names⟩

theorem exists_recounts {entries : List Entry} {tokens : List Token}
    (h : List.Forall₂ Recounts entries tokens) {token : Token} (mem : token ∈ tokens) :
    ∃ entry, Recounts entry token := by
  induction h with
  | nil => cases mem
  | cons first _ ih =>
    cases mem with
    | head => exact ⟨_, first⟩
    | tail _ mem => exact ih mem

/-- What recounts tokens has read all texts in them. -/
theorem readable_of_recounts {entries : List Entry} {tokens : List Token}
    (h : List.Forall₂ Recounts entries (filled tokens)) : ∀ token ∈ tokens, Readable token := by
  intro token mem sign is
  by_cases empty : token.kind = .literal ∧ token.text.isEmpty = true
  · obtain ⟨line, kind, text⟩ := token
    obtain rfl : kind = .literal := empty.1
    cases is
    exact ⟨fun _ mem => by (cases mem), fun _ mem => by (cases mem)⟩
  · have inside : token ∈ filled tokens := by
      rw [not_and_or] at empty
      exact List.mem_filter.2 ⟨mem, by simpa using empty⟩
    obtain ⟨entry, recounts⟩ := exists_recounts h inside
    obtain ⟨sign', is', compiled, -⟩ := recounts.sign
    rw [Option.mem_def] at is
    rw [is] at is'
    cases is'
    exact (Sign.compile_eq_ok compiled).2

end TextTemplate.Tag

namespace TextTemplate.Grammar

open Markup Tag

section Compile

variable {g : Grammar} {id : TemplateId} {source name : String} {defaults further : Dictionary Value}

/-- **The parser accepts exactly the block grammar and loses nothing.**  A template without tags that
extend others is compiled exactly if its tokens are a sentence, all texts in them can be read and no two
blocks have the same name.  The tree, read in order, recounts all tokens but the empty literals, each
node with the line of the token that opens it. -/
theorem compile_iff_sentence (standard : g.macros = Tag.standard)
    (plain : ∀ token ∈ tokenize source, ∀ parent, sign? token ≠ some (.extend parent)) :
    ((∃ t, g.compile id source name defaults further = .ok t) ↔
      Sentence .nodes (tokenize source) ∧ (∀ token ∈ tokenize source, Readable token) ∧
        ((tokenize source).filterMap blockName?).Nodup) ∧
    ∀ t, g.compile id source name defaults further = .ok t →
      List.Forall₂ Recounts (outline t.body.nodes) (filled (tokenize source)) := by
  have derived : ∀ t, g.compile id source name defaults further = .ok t → ∃ blocks registry,
      Recounted (.nodes true t.body.nodes) (tokenize source) blocks ∧
        Registers .empty blocks registry := by
    intro t compiled
    obtain ⟨body, parsed, rfl⟩ := compile_eq_ok compiled
    rw [standard] at parsed
    obtain ⟨nodes, blocks, registry, rfl, derived, registers⟩ := parseTemplate_sound parsed
    exact ⟨blocks, registry, derived.recounted plain, registers⟩
  refine ⟨⟨?_, ?_⟩, ?_⟩
  · rintro ⟨t, compiled⟩
    obtain ⟨blocks, registry, recounted, registers⟩ := derived t compiled
    refine ⟨recounted.sentence, readable_of_recounts recounted.outline, ?_⟩
    exact recounted.names.nodup_iff.1 (exists_registers_iff.1 ⟨registry, registers⟩).2
  · rintro ⟨sentence, readable, distinct⟩
    obtain ⟨nodes, blocks, derived⟩ := sentence.derivable readable name true
    have names := (derived.recounted plain).names
    obtain ⟨registry, registers⟩ : ∃ registry, Registers .empty blocks registry :=
      exists_registers_iff.2 ⟨fun _ _ => rfl, names.nodup_iff.2 distinct⟩
    have parsed : parseTemplate g.macros source name = .ok ⟨name, nodes⟩ := by
      rw [standard]
      exact parseTemplate_complete derived registers
    exact ⟨_, compile_of_parse id defaults further parsed⟩
  · intro t compiled
    obtain ⟨blocks, registry, recounted, -⟩ := derived t compiled
    exact recounted.outline

end Compile

/-! ### A template with clauses and a block -/

namespace Clauses

def source : String :=
  "\x7b% if a %\x7dx\x7b% elif b %\x7d\n\x7b% block y %\x7d" ++
    "\x7b\x7b c \x7d\x7d\x7b% endblock y %\x7d\x7b% else %\x7dz\x7b% endif %\x7d"

def tokens : List Token :=
  [⟨1, .tag, "if a"⟩, ⟨1, .literal, "x"⟩, ⟨1, .tag, "elif b"⟩, ⟨1, .literal, "\n"⟩,
    ⟨2, .tag, "block y"⟩, ⟨2, .expression, "c"⟩, ⟨2, .tag, "endblock y"⟩, ⟨2, .tag, "else"⟩,
    ⟨2, .literal, "z"⟩, ⟨2, .tag, "endif"⟩, ⟨2, .literal, ""⟩]

def nodes : List (Nat × Node) :=
  [(1, .branch
    [(⟨"a", .name "a"⟩, ⟨unnamed, [(1, .text "x")]⟩),
      (⟨"b", .name "b"⟩, ⟨unnamed, [(1, .text "\n"),
        (2, .block "y" ⟨unnamed, [(2, .output ⟨"c", .name "c"⟩)]⟩)]⟩)]
    (some ⟨unnamed, [(2, .text "z")]⟩))]

def grammar : Grammar := .standard (.escaper 0)

set_option maxRecDepth 100000 in
theorem tokenize_source : tokenize source = tokens := by
  cbv

set_option maxRecDepth 100000 in
theorem parse_source : parseTemplate Tag.standard source unnamed = .ok ⟨unnamed, nodes⟩ := by
  cbv

theorem plain_source : ∀ token ∈ tokenize source, ∀ parent, sign? token ≠ some (.extend parent) := by
  rw [tokenize_source]
  intro token mem parent
  simp only [tokens, List.mem_cons, List.not_mem_nil, or_false] at mem
  rcases mem with rfl | rfl | rfl | rfl | rfl | rfl | rfl | rfl | rfl | rfl | rfl <;>
    exact fun h => nomatch h

/-- The template is compiled, its tokens are a sentence, and all but the last are recounted. -/
theorem recounted_source :
    Sentence .nodes (tokenize source) ∧ List.Forall₂ Recounts (outline nodes) (filled tokens) := by
  have compiled := compile_of_parse (g := grammar) ⟨none, 0⟩ .empty .empty parse_source
  obtain ⟨accepted, recounts⟩ :=
    @compile_iff_sentence grammar ⟨none, 0⟩ source unnamed .empty .empty rfl plain_source
  refine ⟨(accepted.1 ⟨_, compiled⟩).1, ?_⟩
  rw [← tokenize_source]
  exact recounts _ compiled

end Clauses

end TextTemplate.Grammar
