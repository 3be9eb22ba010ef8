import Mathlib
import TextTemplate.Proofs.Tag.Blame
import TextTemplate.Proofs.Target

/-!
# Where a tag is split

The tags `set` and `with` hold an expression and a target with the word `as` between them.  They are
split at the first such word that stands between white space, so the expression is the intended one
exactly if it holds no such word itself (`HoldsAs`), be it in a literal or as a name.  Otherwise what
stands behind the first word is no target, as it holds two words side by side.  The main result is
`split_at_first_as`.
-/

namespace TextTemplate.Tag

open TextTemplate.Text

/-! ## Runs in patterns -/

theorem runLength_self (p : Char → Bool) (cs : List Char) :
    runLength p p cs = (cs.takeWhile p).length := by
  cases cs with
  | nil => rfl
  | cons c rest =>
    rw [runLength, List.takeWhile_cons]
    split <;> rfl

theorem Preference.mem_lengths {preference : Preference} {n most : Nat} :
    n ∈ preference.lengths most ↔ 0 < n ∧ n ≤ most := by
  cases preference <;>
  · simp only [lengths, List.mem_reverse, List.mem_map, List.mem_range]
    constructor
    · rintro ⟨k, less, rfl⟩
      omega
    · rintro ⟨pos, le⟩
      exact ⟨n - 1, by omega, by omega⟩

/-- What is found first among the lengths that begin with the shortest. -/
theorem Preference.findSome?_shortest {β : Type} {f : Nat → Option β} {b : β} {most : Nat} :
    (shortest.lengths most).findSome? f = some b ↔
      ∃ n, 0 < n ∧ n ≤ most ∧ f n = some b ∧ ∀ m, 0 < m → m < n → f m = none := by
  induction most with
  | zero =>
    constructor
    · intro h
      cases h
    · rintro ⟨n, pos, le, -⟩
      omega
  | succ most ih =>
    have lengths_succ : shortest.lengths (most + 1) = shortest.lengths most ++ [most + 1] := by
      simp [lengths, List.range_succ]
    rw [lengths_succ, List.findSome?_append, Option.or_eq_some_iff, ih, List.findSome?_singleton,
      List.findSome?_eq_none_iff]
    constructor
    · rintro (⟨n, pos, le, found, first⟩ | ⟨none, found⟩)
      · exact ⟨n, pos, by omega, found, first⟩
      · exact ⟨most + 1, by omega, le_rfl, found, fun m pos less =>
          none m (mem_lengths.2 ⟨pos, by omega⟩)⟩
    · rintro ⟨n, pos, le, found, first⟩
      by_cases last : n = most + 1
      · subst last
        refine .inr ⟨fun m mem => ?_, found⟩
        obtain ⟨pos, le⟩ := mem_lengths.1 mem
        exact first m pos (by omega)
      · exact .inl ⟨n, pos, by omega, found, first⟩

/-- A text of a pattern ends at the first place from where the rest of the pattern fits. -/
theorem fit?_text_cons {pattern : Pattern} {cs : List Char} {captures : Captures}
    (line : '\n' ∉ cs) : Pattern.fit? (.text :: pattern) cs = some captures ↔
      ∃ n, 0 < n ∧ n ≤ cs.length ∧
        (∃ more, Pattern.fit? pattern (cs.drop n) = some more ∧
          String.ofList (cs.take n) :: more = captures) ∧
        ∀ m, 0 < m → m < n → Pattern.fit? pattern (cs.drop m) = none := by
  have whole : cs.takeWhile (· ≠ '\n') = cs := by
    refine List.takeWhile_eq_self_iff.2 fun c mem => decide_eq_true fun same => ?_
    exact line (same ▸ mem)
  rw [Piece.text, fit?_run_cons, runLength_self, whole, Preference.findSome?_shortest]
  simp only [Option.map_eq_some_iff, Option.map_eq_none_iff, if_true]

/-- A text at the end of a pattern is all that is left. -/
theorem fit?_text {cs : List Char} {captures : Captures} (line : '\n' ∉ cs) :
    Pattern.fit? [.text] cs = some captures ↔ cs ≠ [] ∧ captures = [String.ofList cs] := by
  rw [fit?_text_cons line]
  constructor
  · rintro ⟨n, pos, le, ⟨more, fits, rfl⟩, -⟩
    cases rest : cs.drop n with
    | cons c rest' =>
      rw [rest] at fits
      cases fits
    | nil =>
      rw [rest] at fits
      cases fits
      have : n = cs.length := le_antisymm le (List.drop_eq_nil_iff.1 rest)
      subst this
      rw [List.take_length]
      exact ⟨List.ne_nil_of_length_pos pos, rfl⟩
  · rintro ⟨filled, rfl⟩
    refine ⟨cs.length, List.length_pos_iff.2 filled, le_rfl, ⟨[], ?_, ?_⟩, fun m pos less => ?_⟩
    · rw [List.drop_length]
      rfl
    · rw [List.take_length]
    · cases rest : cs.drop m with
      | nil => exact absurd (List.drop_eq_nil_iff.1 rest) (by omega)
      | cons c rest' => rfl

/-- A blank before something else is all of the white space. -/
theorem fit?_blank {pattern : Pattern} {cs : List Char} (solid : ∀ c ∈ cs.head?, isWhite c = false) :
    Pattern.fit? (.spaces :: pattern) (' ' :: cs) = Pattern.fit? pattern cs := by
  have white : (' ' :: cs).takeWhile isWhite = [' '] := by
    cases cs with
    | nil => rfl
    | cons c cs =>
      have stop : (c :: cs).takeWhile isWhite = [] :=
        List.takeWhile_cons_of_neg (by simp [solid c rfl])
      rw [List.takeWhile_cons_of_pos (by decide), stop]
  have one : Preference.longest.lengths [' '].length = [1] := rfl
  rw [Piece.spaces, fit?_run_cons, runLength_self, white, one, List.findSome?_singleton]
  simp

/-- White space of a pattern is a run of white space in front. -/
theorem exists_white_of_fit? {pattern : Pattern} {cs : List Char} {captures : Captures}
    (h : Pattern.fit? (.spaces :: pattern) cs = some captures) :
    ∃ white rest, cs = white ++ rest ∧ white ≠ [] ∧ (∀ c ∈ white, isWhite c = true) ∧
      Pattern.fit? pattern rest = some captures := by
  rw [Piece.spaces, fit?_run_cons, runLength_self] at h
  obtain ⟨n, mem, fits⟩ := List.exists_of_findSome?_eq_some h
  obtain ⟨captures', fits, same⟩ := Option.map_eq_some_iff.1 fits
  rw [if_neg Bool.false_ne_true] at same
  obtain ⟨pos, le⟩ := Preference.mem_lengths.1 mem
  have start : cs.take n <+: cs.takeWhile isWhite := by
    refine List.prefix_of_prefix_length_le (List.take_prefix n cs) (List.takeWhile_prefix _) ?_
    rw [List.length_take]
    omega
  refine ⟨cs.take n, cs.drop n, (List.take_append_drop n cs).symm, ?_, fun c mem => ?_, ?_⟩
  · have := (List.takeWhile_prefix (l := cs) isWhite).length_le
    refine List.ne_nil_of_length_pos ?_
    rw [List.length_take]
    omega
  · exact List.all_eq_true.1 List.all_takeWhile c (start.subset mem)
  · rw [fits, same]

/-- One character of white space is enough. -/
theorem isSome_fit?_white {pattern : Pattern} {c : Char} {cs : List Char} (white : isWhite c = true)
    (fits : (Pattern.fit? pattern cs).isSome = true) :
    (Pattern.fit? (.spaces :: pattern) (c :: cs)).isSome = true := by
  rw [Piece.spaces, fit?_run_cons, runLength_self, List.findSome?_isSome_iff]
  refine ⟨1, Preference.mem_lengths.2 ⟨Nat.one_pos, ?_⟩, ?_⟩
  · rw [List.takeWhile_cons_of_pos white]
    exact Nat.succ_pos _
  · rw [Option.isSome_map]
    exact fits

/-! ## The word between an expression and a target -/

/-- A text within a line, with no white space at its ends. -/
structure Inline (s : String) : Prop where
  filled : s ≠ ""
  first : ∀ c ∈ s.toList.head?, isWhite c = false
  last : ∀ c ∈ s.toList.getLast?, isWhite c = false
  line : '\n' ∉ s.toList

instance (s : String) : Decidable (Inline s) :=
  decidable_of_iff (s ≠ "" ∧ s.toList.head?.all (!isWhite ·) = true ∧
    s.toList.getLast?.all (!isWhite ·) = true ∧ '\n' ∉ s.toList)
    ⟨fun ⟨filled, first, last, line⟩ => ⟨filled, by simpa [Option.all_eq_true] using first,
      by simpa [Option.all_eq_true] using last, line⟩,
    fun h => ⟨h.filled, by simpa [Option.all_eq_true] using h.first,
      by simpa [Option.all_eq_true] using h.last, h.line⟩⟩

theorem Inline.toList_ne_nil {s : String} (h : Inline s) : s.toList ≠ [] :=
  fun none => h.filled (String.toList_eq_nil_iff.1 none)

/-- The word `as` stands in an expression behind white space, and before white space or at the end. -/
def HoldsAs (e : String) : Prop :=
  ∃ before a b after, e.toList ++ [' '] = before ++ a :: 'a' :: 's' :: b :: after ∧
    isWhite a = true ∧ isWhite b = true

/-- The word before a target. -/
def asTarget : Pattern := [.spaces, .ofWord "as", .spaces, .text]

/-- White space that begins in a text which ends with something else ends in it, too. -/
theorem white_within {text behind white rest : List Char} (h : text ++ behind = white ++ rest)
    (filled : text ≠ []) (solid : ∀ c ∈ text.getLast?, isWhite c = false)
    (all : ∀ c ∈ white, isWhite c = true) :
    ∃ inner, inner ≠ [] ∧ (∀ c ∈ inner.getLast?, isWhite c = false) ∧ text = white ++ inner ∧
      rest = inner ++ behind := by
  have notWhite : ¬ ∀ c ∈ text, isWhite c = true := by
    intro all
    have last := List.getLast?_eq_some_getLast filled
    have := all _ (List.getLast_mem filled)
    rw [solid _ last] at this
    cases this
  rcases List.append_eq_append_iff.1 h with ⟨more, rfl, -⟩ | ⟨inner, rfl, rfl⟩
  · exact absurd (fun c mem => all c (List.mem_append_left _ mem)) notWhite
  · have filled' : inner ≠ [] := by
      rintro rfl
      rw [List.append_nil] at notWhite
      exact notWhite all
    refine ⟨inner, filled', fun c mem => solid c ?_, rfl, rfl⟩
    rw [List.getLast?_append, Option.mem_def.1 mem]
    rfl

/-- The word before a target is found early only where it stands in the expression, and then two words
stand side by side behind it. -/
theorem fit?_asTarget {text t : List Char} {captures : Captures} (filled : text ≠ [])
    (solid : ∀ c ∈ text.getLast?, isWhite c = false) (line : '\n' ∉ text ++ " as ".toList ++ t)
    (fits : Pattern.fit? asTarget (text ++ " as ".toList ++ t) = some captures) :
    (∃ white b after, white ≠ [] ∧ (∀ c ∈ white, isWhite c = true) ∧ isWhite b = true ∧
      text ++ [' '] = white ++ 'a' :: 's' :: b :: after) ∧
    ∃ words, captures = [String.ofList (words ++ 's' :: ' ' :: t)] := by
  rw [List.append_assoc] at fits line
  obtain ⟨white, rest, whole, more, all, fits⟩ := exists_white_of_fit? fits
  obtain ⟨inner, filled', solid', rfl, rfl⟩ := white_within whole filled solid all
  obtain ⟨rest, word, fits⟩ := fit?_ofWord fits
  -- the word is a part of the expression, as what stands behind the expression begins with a blank
  obtain ⟨tail, rfl, rfl⟩ : ∃ tail, inner = 'a' :: 's' :: tail ∧
      rest = tail ++ (" as ".toList ++ t) := by
    match inner with
    | [] => exact absurd rfl filled'
    | [c] => simp at word
    | c :: d :: tail =>
      simp at word
      obtain ⟨rfl, rfl, same⟩ := word
      exact ⟨tail, rfl, by simp [same]⟩
  obtain ⟨white', x, whole', more', all', fits⟩ := exists_white_of_fit? fits
  have line' : '\n' ∉ x := by
    intro mem
    have mem' : '\n' ∈ tail ++ (" as ".toList ++ t) := whole' ▸ List.mem_append_right white' mem
    simp only [List.mem_append, List.mem_cons] at line mem'
    tauto
  obtain ⟨-, rfl⟩ := (fit?_text line').1 fits
  obtain ⟨b, white', rfl⟩ := List.exists_cons_of_ne_nil more'
  have blank : isWhite b = true := all' b (.head _)
  cases tail with
  | nil =>
    obtain ⟨rfl, same⟩ := List.cons.inj whole'
    cases white' with
    | nil =>
      obtain rfl := same
      exact ⟨⟨white, ' ', [], more, all, blank, by simp⟩, ['a'], rfl⟩
    | cons c white' =>
      obtain ⟨rfl, -⟩ := List.cons.inj same
      have white : isWhite 'a' = true := all' _ (.tail _ (.head _))
      exact absurd white (by decide)
  | cons d tail =>
    obtain ⟨inner, -, -, eq, rfl⟩ := white_within whole' (List.cons_ne_nil _ _) solid' all'
    rw [eq]
    exact ⟨⟨white, b, white' ++ inner ++ [' '], more, all, blank, by simp⟩, inner ++ [' ', 'a'], by simp⟩

/-- The intended word is found. -/
theorem fit?_asTarget_here {t : String} (ht : Inline t) :
    Pattern.fit? asTarget (" as ".toList ++ t.toList) = some [t] := by
  have word : Text.afterPrefix? "as".toList ("as".toList ++ ' ' :: t.toList) = some (' ' :: t.toList) :=
    Text.afterPrefix?_eq_some.2 rfl
  have solid : ∀ c ∈ ("as".toList ++ ' ' :: t.toList).head?, isWhite c = false := by
    rintro _ ⟨⟩
    decide
  show Pattern.fit? (.spaces :: _) (' ' :: ("as".toList ++ ' ' :: t.toList)) = _
  rw [fit?_blank solid, Piece.ofWord, fit?_word_cons, word, Option.bind_some, fit?_blank ht.first,
    fit?_text ht.line, String.ofList_toList]
  exact ⟨ht.toList_ne_nil, rfl⟩

/-- An expression and a target with the word between them. -/
def joined (e t : String) : List Char := e.toList ++ " as ".toList ++ t.toList

section Split

variable {e t : String} (he : Inline e) (ht : Inline t)

include he ht

theorem line_of_joined : '\n' ∉ joined e t := by
  simp [joined, he.line, ht.line]

/-- Inside of the expression the word is found only if the expression holds it. -/
theorem holdsAs_of_fit? {n : Nat} {captures : Captures} (less : n < e.toList.length)
    (fits : Pattern.fit? asTarget ((joined e t).drop n) = some captures) :
    HoldsAs e ∧ ∃ words, captures = [String.ofList (words ++ 's' :: ' ' :: t.toList)] := by
  have split : (joined e t).drop n = e.toList.drop n ++ " as ".toList ++ t.toList := by
    rw [joined, List.append_assoc, List.append_assoc, List.drop_append_of_le_length less.le]
  have solid : ∀ c ∈ (e.toList.drop n).getLast?, isWhite c = false := by
    rw [List.getLast?_drop, if_neg (by omega)]
    exact he.last
  have line : '\n' ∉ e.toList.drop n ++ " as ".toList ++ t.toList := by
    rw [← split]
    exact fun mem => line_of_joined he ht (List.mem_of_mem_drop mem)
  rw [split] at fits
  obtain ⟨⟨white, b, after, filled, all, blank, eq⟩, words⟩ :=
    fit?_asTarget (List.ne_nil_of_length_pos (by rw [List.length_drop]; omega)) solid line fits
  refine ⟨?_, words⟩
  obtain ⟨white, a, rfl⟩ := (List.eq_nil_or_concat white).resolve_left filled
  refine ⟨e.toList.take n ++ white, a, b, after, ?_, all a (by simp), blank⟩
  conv_lhs => rw [← List.take_append_drop n e.toList]
  rw [List.append_assoc, eq]
  simp

/-- If the expression holds the word, then the word is found there. -/
theorem exists_fit?_of_holdsAs (holds : HoldsAs e) : ∃ n, 0 < n ∧ n < e.toList.length ∧
    (Pattern.fit? asTarget ((joined e t).drop n)).isSome = true := by
  obtain ⟨before, a, b, after, eq, white, white'⟩ := holds
  have length := congrArg List.length eq
  simp only [List.length_append, List.length_cons, List.length_nil] at length
  refine ⟨before.length, ?_, by omega, ?_⟩
  · -- the expression does not begin with white space
    cases before with
    | cons c before => exact Nat.succ_pos _
    | nil =>
      obtain ⟨c, rest, start⟩ := List.exists_cons_of_ne_nil he.toList_ne_nil
      have solid := he.first c (by rw [start]; rfl)
      rw [start] at eq
      obtain ⟨rfl, -⟩ := List.cons.inj eq
      rw [solid] at white
      cases white
  · have whole : joined e t =
        before ++ a :: ("as".toList ++ b :: (after ++ "as ".toList ++ t.toList)) := by
      have : joined e t = (e.toList ++ [' ']) ++ ("as ".toList ++ t.toList) := by simp [joined]
      rw [this, eq]
      simp
    have line : '\n' ∉ after ++ "as ".toList ++ t.toList := by
      intro mem
      refine line_of_joined he ht ?_
      rw [whole]
      simp only [List.mem_append, List.mem_cons] at mem ⊢
      tauto
    have word (cs : List Char) : Text.afterPrefix? "as".toList ("as".toList ++ cs) = some cs :=
      Text.afterPrefix?_eq_some.2 rfl
    rw [whole, List.drop_left]
    refine isSome_fit?_white white ?_
    rw [Piece.ofWord, fit?_word_cons, word, Option.bind_some]
    refine isSome_fit?_white white' ?_
    rw [(fit?_text line).2 ⟨by simp, rfl⟩]
    rfl

/-- **The split is at the first word `as`.**  It gives the expression and the target if the expression
holds no such word; otherwise two words stand side by side in the second part. -/
theorem fit?_joined : ∃ captures, Pattern.fit? (.text :: asTarget) (joined e t) = some captures ∧
    (¬ HoldsAs e → captures = [e, t]) ∧
    (HoldsAs e → ∃ text words, captures = [text, String.ofList (words ++ 's' :: ' ' :: t.toList)]) := by
  have split : joined e t = e.toList ++ (" as ".toList ++ t.toList) := List.append_assoc ..
  have here : Pattern.fit? asTarget ((joined e t).drop e.toList.length) = some [t] := by
    rw [split, List.drop_left]
    exact fit?_asTarget_here ht
  have exists_first : ∃ n, 0 < n ∧ (Pattern.fit? asTarget ((joined e t).drop n)).isSome = true :=
    ⟨e.toList.length, List.length_pos_iff.2 he.toList_ne_nil, by rw [here]; rfl⟩
  obtain ⟨n, ⟨pos, found⟩, first⟩ := Nat.findX exists_first
  obtain ⟨more, fits⟩ := Option.isSome_iff_exists.1 found
  have le : n ≤ e.toList.length := by
    by_contra greater
    exact first _ (by omega) ⟨List.length_pos_iff.2 he.toList_ne_nil, by rw [here]; rfl⟩
  refine ⟨_, (fit?_text_cons (line_of_joined he ht)).2
    ⟨n, pos, ?_, ⟨more, fits, rfl⟩, fun m pos less => ?_⟩, fun free => ?_, fun holds => ?_⟩
  · rw [split, List.length_append]
    omega
  · exact Option.not_isSome_iff_eq_none.1 fun some => first m less ⟨pos, some⟩
  · obtain rfl : n = e.toList.length := by
      by_contra other
      exact free (holdsAs_of_fit? he ht (by omega) fits).1
    rw [here] at fits
    cases fits
    rw [split, List.take_left, String.ofList_toList]
  · obtain ⟨m, pos', less, some⟩ := exists_fit?_of_holdsAs he ht holds
    have : n ≤ m := by
      by_contra greater
      exact first m (by omega) ⟨pos', some⟩
    obtain ⟨-, words, rfl⟩ := holdsAs_of_fit? he ht (by omega) fits
    exact ⟨_, words, rfl⟩

end Split

/-! ## Tags with an expression and a target -/

/-- The text of a tag with an expression and a target. -/
def bindingTag (keyword e t : String) : String := keyword ++ " " ++ e ++ " as " ++ t

/-- The pattern of a tag with an expression and a target. -/
def binding (keyword : String) : Pattern := .ofWord keyword :: .spaces :: .text :: asTarget

theorem fit?_binding {keyword e t : String} (he : Inline e) :
    Pattern.fit? (binding keyword) (bindingTag keyword e t).toList =
      Pattern.fit? (.text :: asTarget) (joined e t) := by
  have text : (bindingTag keyword e t).toList = keyword.toList ++ ' ' :: joined e t := by
    simp [bindingTag, joined, String.toList_append]
  have word : Text.afterPrefix? keyword.toList (keyword.toList ++ ' ' :: joined e t) =
      some (' ' :: joined e t) := Text.afterPrefix?_eq_some.2 rfl
  have solid : ∀ c ∈ (joined e t).head?, isWhite c = false := by
    obtain ⟨c, rest, start⟩ := List.exists_cons_of_ne_nil he.toList_ne_nil
    rw [joined, start]
    rintro _ ⟨⟩
    exact he.first c (by rw [start]; rfl)
  rw [binding, Piece.ofWord, fit?_word_cons, text, word, Option.bind_some, fit?_blank solid]

theorem taken?_set {e t : String} {captures : Captures}
    (fits : Pattern.fit? (binding "set") (bindingTag "set" e t).toList = some captures) :
    taken? (bindingTag "set" e t) = some (setTag, captures) := by
  have taken : fitAny? setTag.patterns (bindingTag "set" e t) = some captures := by
    show List.findSome? _ [binding "set"] = _
    rw [List.findSome?_singleton, fits]
  rw [taken?, standard_eq, List.findSome?_cons, taken]
  rfl

theorem taken?_with {e t : String} {captures : Captures}
    (fits : Pattern.fit? (binding "with") (bindingTag "with" e t).toList = some captures) :
    taken? (bindingTag "with" e t) = some (withTag, captures) := by
  have taken : fitAny? withTag.patterns (bindingTag "with" e t) = some captures := by
    show List.findSome? _ [binding "with"] = _
    rw [List.findSome?_singleton, fits]
  have text : bindingTag "with" e t = String.ofList ("with".toList ++ ' ' :: joined e t) := by
    rw [← String.toList_inj, String.toList_ofList]
    simp [bindingTag, joined, String.toList_append]
  have others : ∀ m ∈ [setTag, printTag, ifTag, forTag],
      fitAny? m.patterns (bindingTag "with" e t) = none := by
    rw [text]
    simp only [List.forall_mem_cons, fitAny?, String.toList_ofList]
    exact ⟨rfl, rfl, rfl, rfl, List.forall_mem_nil _⟩
  have tried : standard = [setTag, printTag, ifTag, forTag] ++
      withTag :: [includeTag, blockTag, superTag, extendsTag] := rfl
  rw [taken?, tried, List.findSome?_append, List.findSome?_eq_none_iff.2 fun m mem => by
    rw [others m mem]; rfl, Option.none_or, List.findSome?_cons, taken]
  rfl

/-! ## Building the nodes -/

section Build

variable {α : Type} {chunk : Run Chunk} {s s' : RunState} {tag : String} {m : Macro} {captures : Captures}

/-- A text that is no target makes a tag fail, whatever the expression is. -/
theorem target_fails {text source : String} (bad : ∀ t, Target.parse source ≠ .ok t)
    (next : Expression → Target → Run α) : ∃ cause,
    (expression text >>= fun e => target source >>= next e) s = .error (.badSyntax cause) s := by
  cases compiled : Expression.compile text with
  | error cause =>
    refine ⟨cause, bind_eq_error.2 (.inl ?_)⟩
    rw [expression, compiled]
    rfl
  | ok e =>
    cases parsed : Target.parse source with
    | ok t => exact absurd parsed (bad t)
    | error cause =>
      refine ⟨cause, bind_eq_error.2 (.inr ⟨e, s, expression_eq_ok.2 ⟨compiled, rfl⟩, ?_⟩)⟩
      refine bind_eq_error.2 (.inl ?_)
      rw [target, parsed]
      rfl

/-- Words in front of a target do not belong to a target. -/
theorem not_target {t : String} {target : Target} (parsed : Target.parse t = .ok target)
    (ht : Inline t) (words : List Char) (other : Target) :
    Target.parse (String.ofList (words ++ 's' :: ' ' :: t.toList)) ≠ .ok other := by
  intro parsed'
  obtain ⟨c, rest, start⟩ := List.exists_cons_of_ne_nil ht.toList_ne_nil
  have solid : isWhite c = false := ht.first c (by rw [start]; rfl)
  have trimmed : t.toList = trim t.toList :=
    Markup.Trims.eq_trim ⟨[], [], by simp, nofun, nofun, ht.first, ht.last⟩
  have name : c ≠ ',' := by
    rintro rfl
    exact Target.head_ne_comma parsed (trimmed.symm.trans start)
  refine Target.not_infix_of_parse parsed' (a := 's') (by decide) solid (by decide) name ?_
  rw [String.toList_ofList, start]
  exact ⟨words, rest, by simp⟩

/-- A tag that a macro takes is built by it. -/
theorem dispatch_of_taken (taken : taken? tag = some (m, captures)) :
    dispatch standard chunk tag s = (m.build chunk captures >>= fun n => pure (some n)) s := by
  unfold dispatch
  rw [show standard.findSome? _ = some (m, captures) from taken]

/-- A body that ends with the tag that is looked for. -/
theorem parseBody_of_word {opening word : String} {line : Nat} {nodes : List (Nat × Node)}
    (body : inBody chunk s = .ok ⟨line, some word, nodes⟩ s') :
    parseBody chunk opening word (isWord word) s = .ok (⟨line, ()⟩, ⟨s'.name, nodes⟩) s' := by
  have ends : isWord word word = some () := if_pos rfl
  refine bind_eq_ok.2 ⟨_, s', body, ?_⟩
  dsimp only
  rw [ends]
  rfl

end Build

/-- **Tags are split at the first word `as`.**  Take the text of an expression and that of a target, each
within a line and with no white space at its ends.  If the expression does not hold the word `as` between
white space, then `set` and `with` are built of just this expression and this target; otherwise both
fail. -/
theorem split_at_first_as {e t : String} {x : Expression} {target : Target}
    (compiled : Expression.compile e = .ok x) (parsed : Target.parse t = .ok target)
    (he : Inline e) (ht : Inline t) :
    (¬ HoldsAs e → ∀ chunk s,
      dispatch standard chunk (bindingTag "set" e t) s = .ok (some (.assign target x)) s ∧
      ∀ line nodes s', inBody chunk s = .ok ⟨line, some "endwith", nodes⟩ s' →
        dispatch standard chunk (bindingTag "with" e t) s =
          .ok (some (.bind target x ⟨s'.name, nodes⟩)) s') ∧
    (HoldsAs e → ∀ chunk s,
      (∃ cause, dispatch standard chunk (bindingTag "set" e t) s = .error (.badSyntax cause) s) ∧
      ∃ cause, dispatch standard chunk (bindingTag "with" e t) s = .error (.badSyntax cause) s) := by
  obtain ⟨captures, fits, split, cut⟩ := fit?_joined he ht
  have set := taken?_set ((fit?_binding he).trans fits)
  have «with» := taken?_with ((fit?_binding he).trans fits)
  constructor
  · intro free chunk s
    obtain rfl := split free
    refine ⟨dispatch_of_plain (.assign set compiled parsed), fun line nodes s' body => ?_⟩
    have built : withTag.build chunk [e, t] s = .ok (.bind target x ⟨s'.name, nodes⟩) s' := by
      refine bind_eq_ok.2 ⟨x, s, expression_eq_ok.2 ⟨compiled, rfl⟩, ?_⟩
      refine bind_eq_ok.2 ⟨target, s, target_eq_ok.2 ⟨parsed, rfl⟩, ?_⟩
      exact bind_eq_ok.2 ⟨_, s', parseBody_of_word body, rfl⟩
    rw [dispatch_of_taken «with»]
    exact bind_eq_ok.2 ⟨_, s', built, rfl⟩
  · intro holds chunk s
    obtain ⟨text, words, rfl⟩ := cut holds
    have bad := not_target parsed ht words
    have set_fails : ∃ cause, setTag.build chunk
        [text, String.ofList (words ++ 's' :: ' ' :: t.toList)] s = .error (.badSyntax cause) s :=
      target_fails bad _
    have with_fails : ∃ cause, withTag.build chunk
        [text, String.ofList (words ++ 's' :: ' ' :: t.toList)] s = .error (.badSyntax cause) s :=
      target_fails bad _
    rw [dispatch_of_taken set, dispatch_of_taken «with»]
    exact ⟨set_fails.imp fun _ fails => bind_eq_error.2 (.inl fails),
      with_fails.imp fun _ fails => bind_eq_error.2 (.inl fails)⟩

namespace Split

/-- A body that is open, with a text in it. -/
def body : RunState where
  tokens := [⟨1, .literal, "x"⟩, ⟨1, .tag, "endwith"⟩]
  lineCount := 1
  name := unnamed
  blocks := .empty
  seenContent := true
  depth := 0

/-- `[1, 2]`. -/
def items : Expression := ⟨"[1, 2]", .list [.literal (.int 1), .literal (.int 2)]⟩

set_option maxRecDepth 100000 in
theorem compile_items : Expression.compile "[1, 2]" = .ok items := by cbv

theorem not_holdsAs_items : ¬ HoldsAs "[1, 2]" := by
  rintro ⟨before, a, b, after, eq, -⟩
  have mem : 'a' ∈ "[1, 2]".toList ++ [' '] := by
    rw [eq]
    simp
  exact absurd mem (by decide)

theorem inBody_body : inBody (parseChunk standard) body =
    .ok ⟨1, some "endwith", [(1, .text "x")]⟩ { body with tokens := [] } := by cbv

/-- A pair is taken apart by both tags. -/
theorem splits_pair :
    (Expression.compile "[1, 2]" = .ok items ∧ Target.parse "a, b" = .ok (.unpack ["a", "b"]) ∧
      Inline "[1, 2]" ∧ Inline "a, b" ∧ ¬ HoldsAs "[1, 2]") ∧
    dispatch standard (parseChunk standard) "set [1, 2] as a, b" body =
      .ok (some (.assign (.unpack ["a", "b"]) items)) body ∧
    dispatch standard (parseChunk standard) "with [1, 2] as a, b" body =
      .ok (some (.bind (.unpack ["a", "b"]) items ⟨unnamed, [(1, .text "x")]⟩))
        { body with tokens := [] } := by
  have parsed : Target.parse "a, b" = .ok (.unpack ["a", "b"]) := by cbv
  have items : Inline "[1, 2]" := by decide
  have names : Inline "a, b" := by decide
  have split := (split_at_first_as compile_items parsed items names).1 not_holdsAs_items
    (parseChunk standard) body
  exact ⟨⟨compile_items, parsed, items, names, not_holdsAs_items⟩, split.1, split.2 1 _ _ inBody_body⟩

set_option maxRecDepth 100000 in
/-- A literal is cut at the word that it holds. -/
theorem cuts_literal :
    Expression.compile "'a as b'" = .ok ⟨"'a as b'", .literal (.text "a as b")⟩ ∧
    Target.parse "c" = .ok (.name "c") ∧ Inline "'a as b'" ∧ Inline "c" ∧
    dispatch standard (parseChunk standard) "set 'a as b' as c" body =
      .error (.badSyntax .openText) body :=
  ⟨by cbv, by cbv, by decide, by decide, by cbv⟩

end Split

end TextTemplate.Tag
