import Mathlib
import TextTemplate.Target
import TextTemplate.Proofs.Markup.Lossless
import TextTemplate.Proofs.Text.Search

/-!
# What binding targets are written as

The names of a target stand between commas, each without white space in it.  So no two words stand side
by side in a target (`not_infix_of_parse`), and there is no comma in front (`head_ne_comma`).
-/

namespace TextTemplate

namespace Text

/-- A run of characters that starts and ends with no white space stands in a trimmed text if it stands
in the whole text. -/
theorem infix_of_trims {inside text run : List Char} (trims : Markup.Trims inside text)
    (filled : run ≠ []) (solid : ∀ c ∈ run.head?, isWhite c = false)
    (solid' : ∀ c ∈ run.getLast?, isWhite c = false) (h : run <:+: inside) : run <:+: text := by
  obtain ⟨left, right, rfl, white, white', -, -⟩ := trims
  have front {part : List Char} (start : part <+: run) (all : ∀ c ∈ part, isWhite c = true) :
      part = [] := by
    cases part with
    | nil => rfl
    | cons c part =>
      obtain ⟨rest, rfl⟩ := start
      exact absurd (all c (.head _)) (by simp [solid c rfl])
  have back {part : List Char} (ending : part <:+ run) (all : ∀ c ∈ part, isWhite c = true) :
      part = [] := by
    cases last : part.getLast? with
    | none => exact List.getLast?_eq_none_iff.1 last
    | some c =>
      obtain ⟨rest, rfl⟩ := ending
      have solid := solid' c (by rw [List.getLast?_append, last]; rfl)
      exact absurd (all c (List.mem_of_getLast? last)) (by simp [solid])
  have behind : run <:+: text ++ right := by
    rcases List.infix_append_iff.1 h with inner | inner | ⟨part, rest, rfl, inner, start⟩
    · exact absurd (front List.prefix_rfl fun c mem => white c (inner.subset mem)) filled
    · exact inner
    · obtain rfl := front (List.prefix_append part rest) fun c mem => white c (inner.subset mem)
      exact start.isInfix
  rcases List.infix_append_iff.1 behind with inner | inner | ⟨rest, part, rfl, ending, inner⟩
  · exact inner
  · exact absurd (back List.suffix_rfl fun c mem => white' c (inner.subset mem)) filled
  · obtain rfl := back (List.suffix_append rest part) fun c mem => white' c (inner.subset mem)
    rw [List.append_nil]
    exact ending.isInfix

/-- A run of characters without the separator stands in one of the pieces. -/
theorem exists_infix_of_split {sep : Char} {run cs : List Char} (apart : sep ∉ run)
    (h : run <:+: cs) : ∃ piece ∈ split [sep] cs, run <:+: piece := by
  show ∃ piece ∈ splitWithin [sep] cs.length cs, run <:+: piece
  generalize cs.length = steps
  induction steps generalizing cs with
  | zero => exact ⟨cs, .head _, h⟩
  | succ steps ih =>
    rw [splitWithin]
    cases cut : cut? [sep] cs with
    | none => exact ⟨cs, .head _, h⟩
    | some found =>
      obtain ⟨before, rest⟩ := found
      obtain ⟨rfl, -⟩ := (cut?_eq_some (List.cons_ne_nil _ _)).1 cut
      have none {part : List Char} (inner : part ⊆ run) (start : part <+: [sep] ++ rest) :
          part = [] := by
        cases part with
        | nil => rfl
        | cons c part =>
          obtain ⟨rfl, -⟩ := List.cons_prefix_cons.1 start
          exact absurd (inner (.head _)) apart
      have later (inner : run <:+: rest) : ∃ piece ∈ before :: splitWithin [sep] steps rest,
          run <:+: piece := by
        obtain ⟨piece, mem, inner⟩ := ih inner
        exact ⟨piece, .tail _ mem, inner⟩
      rcases List.infix_append_iff.1 h with inner | inner | ⟨part, more, rfl, inner, start⟩
      · exact ⟨before, .head _, inner⟩
      · rcases List.infix_cons_iff.1 inner with start | inner
        · obtain rfl := none (List.Subset.refl _) start
          exact ⟨before, .head _, List.nil_infix⟩
        · exact later inner
      · obtain rfl := none (List.subset_append_right part more) start
        rw [List.append_nil]
        exact ⟨before, .head _, inner.isInfix⟩

end Text

namespace Target

open Text

theorem dropEmptyLast_eq (names : List (List Char)) :
    dropEmptyLast names = names ∨ names = dropEmptyLast names ++ [[]] := by
  unfold dropEmptyLast
  split
  · next before eq =>
    right
    rw [← List.reverse_reverse names, eq, List.reverse_cons]
  · exact .inl rfl

theorem isName_of_find?_eq_none {names : List String}
    (none : names.find? (fun n => !isName n.toList) = none) : ∀ n ∈ names, isName n.toList = true := by
  intro n mem
  simpa using List.find?_eq_none.1 none n mem

/-- What a target is read as: the trimmed text, or the trimmed texts between commas. -/
theorem names_of_parse {source : String} {t : Target} (h : parse source = .ok t) :
    (∀ n ∈ t.names, isName n.toList = true) ∧ t.names =
      if ',' ∈ trim source.toList then
        (dropEmptyLast ((split [','] (trim source.toList)).map trim)).map String.ofList
      else [String.ofList (trim source.toList)] := by
  unfold parse at h
  dsimp only at h
  split
  · next comma =>
    rw [if_pos comma] at h
    split at h
    · cases h
    · rw [pure_bind] at h
      split at h
      · cases h
      · next none =>
        cases h
        exact ⟨isName_of_find?_eq_none none, rfl⟩
  · next single =>
    rw [if_neg single, pure_bind] at h
    split at h
    · cases h
    · next none =>
      cases h
      exact ⟨isName_of_find?_eq_none none, rfl⟩

/-- Between commas there are two names or more. -/
theorem two_le_of_parse {source : String} {names : List String}
    (h : parse source = .ok (.unpack names)) : 2 ≤ names.length := by
  unfold parse at h
  dsimp only at h
  split at h
  · split at h
    · cases h
    · next enough =>
      rw [pure_bind] at h
      split at h
      · cases h
      · cases h
        rw [List.length_map]
        omega
  · rw [pure_bind] at h
    split at h <;> cases h

/-- A name holds no blank. -/
theorem not_mem_of_isName {name : List Char} (h : isName name = true) : ' ' ∉ name := by
  cases name with
  | nil => exact List.not_mem_nil
  | cons c rest =>
    rw [isName, Bool.and_eq_true, List.all_eq_true] at h
    intro mem
    rcases List.mem_cons.1 mem with rfl | mem
    · exact absurd h.1 (by decide)
    · exact absurd (h.2 _ mem) (by decide)

/-- No two words stand side by side in a target. -/
theorem not_infix_of_parse {source : String} {t : Target} (h : parse source = .ok t) {a b : Char}
    (ha : isWhite a = false) (hb : isWhite b = false) (ha' : a ≠ ',') (hb' : b ≠ ',') :
    ¬ [a, ' ', b] <:+: source.toList := by
  intro inside
  have trimmed {cs : List Char} (inside : [a, ' ', b] <:+: cs) : [a, ' ', b] <:+: trim cs := by
    refine infix_of_trims (Markup.trims_trim cs) (List.cons_ne_nil _ _) ?_ ?_ inside
    · rintro _ ⟨⟩
      exact ha
    · rintro _ ⟨⟩
      exact hb
  obtain ⟨named, names⟩ := names_of_parse h
  -- the two words are in one of the names
  have absurd {name : List Char} (inside : [a, ' ', b] <:+: name) (mem : String.ofList name ∈ t.names) :
      False := by
    have isName := named _ mem
    rw [String.toList_ofList] at isName
    exact not_mem_of_isName isName (inside.subset (.tail _ (.head _)))
  split at names
  · have apart : ',' ∉ [a, ' ', b] := by simp [ha'.symm, hb'.symm]
    obtain ⟨piece, mem, inner⟩ := exists_infix_of_split apart (trimmed inside)
    have mem := List.mem_map_of_mem (f := trim) mem
    refine absurd (trimmed inner) ?_
    rw [names]
    refine List.mem_map_of_mem ?_
    rcases dropEmptyLast_eq ((split [','] (trim source.toList)).map trim) with same | same
    · rwa [same]
    · rw [same] at mem
      refine (List.mem_append.1 mem).resolve_right fun last => ?_
      have := trimmed inner
      rw [List.mem_singleton.1 last] at this
      cases List.infix_nil.1 this
  · refine absurd (trimmed inside) ?_
    rw [names]
    exact .head _

/-- No comma stands in front of the names. -/
theorem head_ne_comma {source : String} {t : Target} {rest : List Char} (h : parse source = .ok t) :
    trim source.toList ≠ ',' :: rest := by
  intro comma
  obtain ⟨named, names⟩ := names_of_parse h
  rw [comma, if_pos (.head _)] at names
  obtain ⟨piece, pieces, more⟩ : ∃ piece pieces,
      (split [','] (',' :: rest)).map trim = [] :: piece :: pieces := by
    have first : split [','] (',' :: rest) = [] :: splitWithin [','] rest.length rest := rfl
    rw [first]
    unfold splitWithin
    split
    · exact ⟨_, _, rfl⟩
    · split <;> exact ⟨_, _, rfl⟩
  -- the empty piece in front is not the one that may be empty
  have kept : [] ∈ dropEmptyLast ([] :: piece :: pieces) := by
    rcases dropEmptyLast_eq ([] :: piece :: pieces) with same | same
    · rw [same]
      exact .head _
    · cases kept : dropEmptyLast ([] :: piece :: pieces) with
      | nil =>
        rw [kept] at same
        cases same
      | cons first others =>
        rw [kept] at same
        obtain ⟨rfl, -⟩ := List.cons.inj same
        exact .head _
  have mem : String.ofList [] ∈ t.names := by
    rw [names, more]
    exact List.mem_map_of_mem kept
  exact absurd (named _ mem) (by decide)

end Target

end TextTemplate
