import TextTemplate.Proofs.Tag.Agreement
import TextTemplate.Proofs.Tag.Recount
import TextTemplate.Proofs.Tag.Splitting

/-!
# The order of tags makes no difference

A macro is found by the first word of a tag, and the standard macros have different words, none of which
ends a body (`pairwise_standard`, `not_takes_of_closes`).  So at most one of them takes a tag, and the
one that does is found wherever it stands among macros that leave the tag alone (`findTaking_perm`).
Macros that answer alike for the tags of a template parse it alike, so their order makes no difference.
-/

namespace TextTemplate.Tag

open TextTemplate.Markup

/-! ## First words -/

/-- A macro whose pattern fits a tag. -/
def Macro.Takes (m : Macro) (tag : String) : Prop := (fitAny? m.patterns tag).isSome = true

instance (m : Macro) (tag : String) : Decidable (m.Takes tag) := inferInstanceAs (Decidable (_ = true))

/-- A tag that ends some body of a standard macro. -/
inductive Closes (tag : String) : Prop
  | clause {clause : Clause} : Clause.read? tag = some clause → Closes tag
  | loop : isWord "endfor" tag = some () → Closes tag
  | bind : isWord "endwith" tag = some () → Closes tag
  | block {name : String} : readEndblock? name tag = some () → Closes tag

/-- The characters in front of the first white space. -/
def firstWord (cs : List Char) : List Char := cs.takeWhile (!Text.isWhite ·)

section FirstWord

variable {w tag : String} {pattern : Pattern} {cs : List Char} {captures : Captures}

/-- A word of letters. -/
def IsLetters (w : String) : Prop := w.toList.all Char.isAlpha = true

instance (w : String) : Decidable (IsLetters w) := inferInstanceAs (Decidable (_ = true))

/-- There is no white space in a word of letters. -/
theorem IsLetters.solid (letters : IsLetters w) {c : Char} (mem : c ∈ w.toList) :
    Text.isWhite c = false := by
  refine Text.isWhite_of_startsName ?_
  simp [Text.startsName, Text.isLetter, List.all_eq_true.1 letters c mem]

theorem firstWord_self (letters : IsLetters w) : firstWord w.toList = w.toList :=
  List.takeWhile_eq_self_iff.2 fun c mem => by rw [letters.solid mem]; rfl

/-- A pattern that starts with a word and white space is fitted by tags of this first word. -/
theorem firstWord_of_spaces (letters : IsLetters w)
    (fits : Pattern.fit? (.ofWord w :: .spaces :: pattern) cs = some captures) :
    firstWord cs = w.toList := by
  obtain ⟨rest, rfl, behind⟩ := fit?_ofWord fits
  obtain ⟨white, rest, rfl, filled, all, -⟩ := exists_white_of_fit? behind
  obtain ⟨c, white, rfl⟩ := List.exists_cons_of_ne_nil filled
  have stops : (c :: white ++ rest).takeWhile (!Text.isWhite ·) = [] :=
    List.takeWhile_cons_of_neg (by simp [all c (.head _)])
  rw [firstWord, List.takeWhile_append_of_pos fun d mem => by rw [letters.solid mem]; rfl, stops,
    List.append_nil]

/-- A pattern that is a word alone. -/
theorem firstWord_of_word (letters : IsLetters w) (fits : Pattern.fit? [.ofWord w] cs = some captures) :
    firstWord cs = w.toList := by
  have whole : cs = w.toList := fit?_word.1 (Option.isSome_of_eq_some fits)
  rw [whole, firstWord_self letters]

/-- A tag that is fitted by some pattern has the first word that all patterns ask for. -/
theorem firstWord_of_fitAny? {patterns : List Pattern} (fits : (fitAny? patterns tag).isSome = true)
    (all : ∀ p ∈ patterns, ∀ captures, Pattern.fit? p tag.toList = some captures →
      firstWord tag.toList = w.toList) : firstWord tag.toList = w.toList := by
  obtain ⟨captures, fits⟩ := Option.isSome_iff_exists.1 fits
  obtain ⟨pattern, mem, fits⟩ := List.exists_of_findSome?_eq_some fits
  exact all pattern mem captures fits

end FirstWord

/-- A standard macro takes tags whose first word is its name. -/
theorem firstWord_of_takes {m : Macro} {tag : String} (mem : m ∈ standard) (takes : m.Takes tag) :
    firstWord tag.toList = m.name.toList := by
  refine firstWord_of_fitAny? takes ?_
  revert m
  simp only [standard_eq, List.forall_mem_cons]
  refine ⟨?set, ?print, ?branch, ?loop, ?bind, ?insert, ?block, ?super, ?extend,
    List.forall_mem_nil _⟩
  all_goals
    intro _ pattern mem captures fits
    obtain rfl := List.mem_singleton.1 mem
  case super => exact firstWord_of_word (by decide) fits
  all_goals exact firstWord_of_spaces (by decide) fits

/-- What ends a body starts with one of six words. -/
theorem firstWord_of_closes {tag : String} (closes : Closes tag) :
    firstWord tag.toList ∈
      ["elif", "else", "endif", "endfor", "endwith", "endblock"].map String.toList := by
  have word {w : String} (letters : IsLetters w) (same : tag = w) : firstWord tag.toList = w.toList := by
    rw [same, firstWord_self letters]
  have isWord_eq {w : String} (h : isWord w tag = some ()) : tag = w := by
    unfold isWord at h
    split at h
    · assumption
    · cases h
  cases closes with
  | @clause clause read =>
    unfold Clause.read? at read
    split at read
    · next captures fits =>
      have : firstWord tag.toList = "elif".toList := by
        refine firstWord_of_fitAny? (Option.isSome_of_eq_some fits) fun p mem captures fits => ?_
        obtain rfl := List.mem_singleton.1 mem
        exact firstWord_of_spaces (by decide) fits
      simp [this]
    · split at read
      · next same => simp [word (by decide) same]
      · split at read
        · next same => simp [word (by decide) same]
        · cases read
  | loop h => simp [word (by decide) (isWord_eq h)]
  | bind h => simp [word (by decide) (isWord_eq h)]
  | @block name h =>
    have fits := Option.isSome_map.symm.trans (Option.isSome_of_eq_some h)
    have : firstWord tag.toList = "endblock".toList := by
      refine firstWord_of_fitAny? fits ?_
      simp only [List.forall_mem_cons]
      exact ⟨fun _ => firstWord_of_word (by decide), fun _ => firstWord_of_spaces (by decide),
        List.forall_mem_nil _⟩
    simp [this]

/-- No two standard macros take the same tag. -/
theorem pairwise_standard : standard.Pairwise fun m m' => ∀ tag, ¬ (m.Takes tag ∧ m'.Takes tag) := by
  have names : (standard.map Macro.name).Nodup := by decide
  have apart := List.pairwise_map.1 names
  refine List.Pairwise.imp_of_mem (fun {m m'} mem mem' ne tag => ?_) apart
  rintro ⟨takes, takes'⟩
  have same := (firstWord_of_takes mem takes).symm.trans (firstWord_of_takes mem' takes')
  exact ne (String.toList_inj.1 same)

/-- What ends a body is taken by no standard macro. -/
theorem not_takes_of_closes {tag : String} (closes : Closes tag) {m : Macro} (mem : m ∈ standard) :
    ¬ m.Takes tag := by
  intro takes
  have other : ∀ m ∈ standard, m.name.toList ∉
      ["elif", "else", "endif", "endfor", "endwith", "endblock"].map String.toList := by decide
  exact other m mem (firstWord_of_takes mem takes ▸ firstWord_of_closes closes)

/-! ## The macro that takes a tag -/

/-- What a macro captures of a tag, with the macro. -/
def Macro.capture? (tag : String) (m : Macro) : Option (Macro × Captures) :=
  (fitAny? m.patterns tag).map fun captures => (m, captures)

theorem Macro.capture?_eq_none {m : Macro} {tag : String} : m.capture? tag = none ↔ ¬ m.Takes tag := by
  rw [capture?, Option.map_eq_none_iff, Takes, Bool.not_eq_true, Option.isSome_eq_false_iff,
    Option.isNone_iff_eq_none]

theorem Macro.takes_of_capture? {m : Macro} {tag : String} {found : Macro × Captures}
    (h : m.capture? tag = some found) : m.Takes tag := by
  by_contra leaves
  rw [capture?_eq_none.2 leaves] at h
  cases h

/-- The first macro that takes a tag. -/
def findTaking (macros : List Macro) (tag : String) : Option (Macro × Captures) :=
  macros.findSome? (Macro.capture? tag)

/-- Where macros exclude each other, the one that takes a tag is found in any order, and among any
macros that leave the tag alone. -/
theorem findTaking_perm {macros own more : List Macro} {tag : String}
    (perm : macros.Perm (own ++ more))
    (apart : own.Pairwise fun m m' => ¬ (m.Takes tag ∧ m'.Takes tag))
    (alone : ∀ m ∈ more, ¬ m.Takes tag) : findTaking macros tag = findTaking own tag := by
  -- all that macros capture of the tag, in order: at most one entry
  have none : more.filterMap (Macro.capture? tag) = [] :=
    List.filterMap_eq_nil_iff.2 fun m mem => Macro.capture?_eq_none.2 (alone m mem)
  have same : (macros.filterMap (Macro.capture? tag)).Perm (own.filterMap (Macro.capture? tag)) := by
    have := perm.filterMap (Macro.capture? tag)
    rwa [List.filterMap_append, none, List.append_nil] at this
  have one : (own.filterMap (Macro.capture? tag)).Pairwise fun _ _ => False := by
    refine List.pairwise_filterMap.2 (apart.imp fun {m m'} excluded _ found _ found' => ?_)
    exact excluded ⟨Macro.takes_of_capture? found, Macro.takes_of_capture? found'⟩
  rw [findTaking, findTaking, ← List.head?_filterMap, ← List.head?_filterMap]
  cases captured : own.filterMap (Macro.capture? tag) with
  | nil =>
    rw [captured] at same
    rw [List.perm_nil.1 same]
  | cons first others =>
    rw [captured] at same one
    cases others with
    | nil => rw [List.perm_singleton.1 same]
    | cons second others => exact absurd (List.rel_of_pairwise_cons one (.head _)) id

/-- The macro that is found builds the node. -/
theorem builder?_congr {macros macros' : List Macro} {tag : String}
    (same : findTaking macros tag = findTaking macros' tag) :
    builder? macros tag = builder? macros' tag := by
  rw [builder?_eq_map, builder?_eq_map]
  exact congrArg _ same

end TextTemplate.Tag

namespace TextTemplate.Grammar

open Markup Tag

/-- **The standard tags exclude each other, and stand in any order.**  No tag is taken by two of the
standard macros, and none that ends a body is taken by one.  So a grammar with the standard macros in any
order, and among them any others that take no tag of a template, compiles the template as the standard
grammar does, be it to a template or to a fault. -/
theorem compile_in_any_order :
    (Tag.standard.Pairwise fun m m' => ∀ tag, ¬ (m.Takes tag ∧ m'.Takes tag)) ∧
    (∀ tag, Closes tag → ∀ m ∈ Tag.standard, ¬ m.Takes tag) ∧
    ∀ (macros more : List Macro) (source name : String),
      macros.Perm (Tag.standard ++ more) →
      (∀ m ∈ more, ∀ token ∈ tokenize source, token.kind = .tag → ¬ m.Takes token.text) →
      ∀ (escaper : Function) (id : TemplateId) (defaults further : Dictionary Value),
        (ofMacros macros escaper).compile id source name defaults further =
          (Grammar.standard escaper).compile id source name defaults further := by
  refine ⟨pairwise_standard, fun tag closes m mem => not_takes_of_closes closes mem, ?_⟩
  intro macros more source name perm alone escaper id defaults further
  have alike : ∀ token ∈ tokenize source, BuildAlike macros Tag.standard token := by
    intro token mem tag
    refine builder?_congr (findTaking_perm perm ?_ fun m other => alone m other token mem tag)
    exact pairwise_standard.imp fun apart => apart token.text
  have parsed := parseTemplate_congr keepsAgreement_standard source name alike
  unfold compile
  rw [show parseTemplate (ofMacros macros escaper).macros source name = _ from parsed]
  rfl

/-! ### A grammar whose tags are reversed -/

namespace Reversed

/-- A tag of its own. -/
def shoutTag : Macro where
  name := "shout"
  patterns := [[.ofWord "shout"]]
  build _ _ := return .text "LOUD"

/-- The tag comes first, and the standard ones follow from the last to the first. -/
def macros : List Macro := shoutTag :: Tag.standard.reverse

set_option maxRecDepth 100000 in
/-- The grammar compiles a template with clauses and a block like the standard one. -/
theorem compile_reversed :
    macros.Perm (Tag.standard ++ [shoutTag]) ∧
    (∀ token ∈ tokenize Clauses.source, token.kind = .tag → ¬ shoutTag.Takes token.text) ∧
    (ofMacros macros (.escaper 0)).compile ⟨none, 0⟩ Clauses.source unnamed .empty .empty =
      .ok ⟨⟨none, 0⟩, ⟨unnamed, Clauses.nodes⟩, .empty, Clauses.grammar.entries unnamed .empty⟩ := by
  have perm : macros.Perm (Tag.standard ++ [shoutTag]) :=
    ((List.reverse_perm Tag.standard).cons shoutTag).trans (List.perm_append_singleton _ _).symm
  have alone : ∀ token ∈ tokenize Clauses.source, token.kind = .tag → ¬ shoutTag.Takes token.text := by
    rw [Clauses.tokenize_source]
    decide
  refine ⟨perm, alone, ?_⟩
  rw [compile_in_any_order.2.2 macros [shoutTag] Clauses.source unnamed perm
    (List.forall_mem_singleton.2 alone)]
  exact compile_of_parse ⟨none, 0⟩ .empty .empty Clauses.parse_source

end Reversed

end TextTemplate.Grammar
