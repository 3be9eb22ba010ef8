import Mathlib
import TextTemplate.Proofs.Dictionary
import TextTemplate.Proofs.Value.Written

/-!
# Values with one written form

Two values are told apart by their written forms, wherever these end (`Told`).  The first character
tells the kind; a number goes on up to the next delimiter, a text up to its closing quote, and what
stands between brackets is told apart item by item (`eq_of_listed`).

Only a name in a map has no end of its own, as quotes in it are not escaped.  It is taken to end at the
first quote with a colon and a blank behind it, so no name may hold these three characters.  With this
the main result is `written_eq_iff`; without it, two maps are written alike (`written_not_injective`).
-/

namespace TextTemplate.Value

open TextTemplate.Expr (scanText_escaped takeWhile_append_of_head)

/-- What stands behind a name in a map. -/
def behindName : List Char := ['\'', ':', ' ']

/-- The names of a map do not hold what stands behind a name. -/
def NamesEnd (entries : Dictionary Value) : Prop :=
  ∀ name ∈ entries.keys, ¬ behindName <:+: name.toList

/-- Data whose names end where they seem to end. -/
abbrev Legible : Value → Prop := Data (fun _ => True) NamesEnd

/-! ## Telling apart -/

/-- Two things are told apart by their texts, and where these end. -/
def Told {α : Type} (text : α → List Char) (x y : α) : Prop :=
  ∀ s t, Delimited s → Delimited t → text x ++ s = text y ++ t → x = y ∧ s = t

section Told

variable {α : Type} {text : α → List Char} {closing : Char} {s t : List Char}

/-- Further items, each with a comma in front, are told apart if each two items are. -/
theorem eq_of_further (closes : isDelimiter closing = true) (other : closing ≠ ',') {xs ys : List α}
    (told : ∀ x ∈ xs, ∀ y ∈ ys, Told text x y)
    (same : further (xs.map text) ++ closing :: s = further (ys.map text) ++ closing :: t) :
    xs = ys ∧ s = t := by
  induction xs generalizing ys with
  | nil =>
    cases ys with
    | nil => exact ⟨rfl, (List.cons.inj same).2⟩
    | cons y ys => exact absurd (List.cons.inj same).1 other
  | cons x xs ih =>
    cases ys with
    | nil => exact absurd (List.cons.inj same).1.symm other
    | cons y ys =>
      simp only [List.map_cons, further_cons, List.cons_append, List.append_assoc,
        List.cons.injEq, true_and] at same
      obtain ⟨rfl, behind⟩ := told x (.head _) y (.head _) _ _ (delimited_further closes _ _)
        (delimited_further closes _ _) same
      obtain ⟨rfl, rest⟩ := ih (fun x hx y hy => told x (.tail _ hx) y (.tail _ hy)) behind
      exact ⟨rfl, rest⟩

/-- Items between brackets are told apart if each two items are and none starts with a delimiter. -/
theorem eq_of_listed (closes : isDelimiter closing = true) (other : closing ≠ ',') {xs ys : List α}
    (told : ∀ x ∈ xs, ∀ y ∈ ys, Told text x y)
    (starts : ∀ x, x ∈ xs ∨ x ∈ ys → ∃ c rest, text x = c :: rest ∧ isDelimiter c = false)
    (same : listed (xs.map text) ++ closing :: s = listed (ys.map text) ++ closing :: t) :
    xs = ys ∧ s = t := by
  have nonempty : ∀ {x : α} {tail rest : List Char}, x ∈ xs ∨ x ∈ ys →
      closing :: rest ≠ text x ++ tail := by
    intro x tail rest mem eq
    obtain ⟨c, _, chars, noDelimiter⟩ := starts x mem
    rw [chars] at eq
    rw [← (List.cons.inj eq).1, closes] at noDelimiter
    cases noDelimiter
  cases xs with
  | nil =>
    cases ys with
    | nil => exact ⟨rfl, (List.cons.inj same).2⟩
    | cons y ys =>
      rw [List.map_cons, listed, List.append_assoc] at same
      exact absurd same (nonempty (.inr (.head _)))
  | cons x xs =>
    cases ys with
    | nil =>
      rw [List.map_cons, listed, List.append_assoc] at same
      exact absurd same.symm (nonempty (.inl (.head _)))
    | cons y ys =>
      rw [List.map_cons, List.map_cons, listed, listed, List.append_assoc, List.append_assoc] at same
      obtain ⟨rfl, behind⟩ := told x (.head _) y (.head _) _ _ (delimited_further closes _ _)
        (delimited_further closes _ _) same
      obtain ⟨rfl, rest⟩ := eq_of_further closes other
        (fun x hx y hy => told x (.tail _ hx) y (.tail _ hy)) behind
      exact ⟨rfl, rest⟩

end Told

/-! ## Names -/

/-- A name ends in front of the first quote, colon and blank. -/
theorem eq_of_behindName {k l s t : List Char} (hk : ¬ behindName <:+: k) (hl : ¬ behindName <:+: l)
    (same : k ++ behindName ++ s = l ++ behindName ++ t) : k = l ∧ s = t := by
  -- a name that goes on where the other one ends would hold what stands behind it
  have ends : ∀ {l s t : List Char}, ¬ behindName <:+: l →
      behindName ++ s = l ++ behindName ++ t → l = [] := by
    intro l s t hl same
    rcases l with _ | ⟨a, _ | ⟨b, _ | ⟨c, l⟩⟩⟩
    · rfl
    · simp [behindName] at same
    · simp [behindName] at same
    · simp only [behindName, List.cons_append, List.cons.injEq] at same
      obtain ⟨rfl, rfl, rfl, -⟩ := same
      exact absurd ⟨[], l, rfl⟩ hl
  induction k generalizing l with
  | nil =>
    obtain rfl := ends hl same
    exact ⟨rfl, List.append_cancel_left same⟩
  | cons c k ih =>
    cases l with
    | nil => exact absurd (ends hk same.symm) (List.cons_ne_nil c k)
    | cons d l =>
      obtain ⟨rfl, rest⟩ := List.cons.inj same
      obtain ⟨rfl, behind⟩ := ih (fun inside => hk (inside.trans (List.suffix_cons c k).isInfix))
        (fun inside => hl (inside.trans (List.suffix_cons c l).isInfix)) rest
      exact ⟨rfl, behind⟩

/-- Entries are told apart by their names and then by their values. -/
theorem told_entryText {d e : String × Value} (hd : ¬ behindName <:+: d.1.toList)
    (he : ¬ behindName <:+: e.1.toList) (told : Told chars d.2 e.2) :
    Told entryText d e := by
  intro s t hs ht same
  have names : d.1.toList ++ behindName ++ (d.2.chars ++ s) =
      e.1.toList ++ behindName ++ (e.2.chars ++ t) := by
    simpa [entryText, behindName] using same
  obtain ⟨name, values⟩ := eq_of_behindName hd he names
  obtain ⟨value, rest⟩ := told s t hs ht values
  exact ⟨Prod.ext (String.toList_inj.1 name) value, rest⟩

/-! ## Values -/

theorem told_int (m n : Int64) : Told chars (.int m) (.int n) := by
  intro s t hs ht same
  have ends : ∀ {tail : List Char}, Delimited tail → ∀ c ∈ tail.head?, isIntegral c = false := by
    intro tail delimited c mem
    rcases isDelimiter_iff.1 (delimited c mem) with rfl | rfl | rfl <;> rfl
  obtain ⟨taken, left⟩ := takeWhile_append_of_head (integral_of_int m).2 (ends hs)
  obtain ⟨taken', left'⟩ := takeWhile_append_of_head (integral_of_int n).2 (ends ht)
  rw [same] at taken left
  have same : chars (.int m) = chars (.int n) := taken.symm.trans taken'
  have number : m.toInt = n.toInt := Int.repr_injective (String.toList_inj.1 same)
  exact ⟨congrArg _ (Int64.toInt_inj.1 number), left.symm.trans left'⟩

theorem told_text (a b : String) : Told chars (.text a) (.text b) := by
  intro s t _ _ same
  rw [chars_text, chars_text, List.cons_append, List.cons_append,
    List.append_assoc, List.append_assoc] at same
  have read := scanText_escaped a.toList s
  have read' := scanText_escaped b.toList t
  rw [← List.singleton_append, (List.cons.inj same).2] at read
  obtain ⟨same, rest⟩ := Prod.mk.inj (Except.ok.inj (read.symm.trans read'))
  exact ⟨congrArg _ (String.toList_inj.1 same), rest⟩

theorem told_bool (a b : Bool) : Told chars (.bool a) (.bool b) := by
  intro s t _ _ same
  cases a <;> cases b
  · exact ⟨rfl, List.append_cancel_left same⟩
  · exact absurd (List.cons.inj same).1 (by decide)
  · exact absurd (List.cons.inj same).1 (by decide)
  · exact ⟨rfl, List.append_cancel_left same⟩

/-- It is enough to tell values of one kind apart. -/
theorem told_of_kind {v w : Value} (hv : Legible v) (hw : Legible w)
    (h : v.kind = w.kind → Told chars v w) : Told chars v w := by
  intro s t hs ht same
  obtain ⟨c, rest, first, kind, -⟩ := hv.exists_first
  obtain ⟨c', rest', first', kind', -⟩ := hw.exists_first
  have one : c = c' := by
    rw [first, first'] at same
    exact (List.cons.inj same).1
  exact h (by rw [← kind, ← kind', one]) s t hs ht same

theorem told_list {xs ys : List Value} (hxs : ∀ x ∈ xs, Legible x) (hys : ∀ y ∈ ys, Legible y)
    (told : ∀ x ∈ xs, ∀ y ∈ ys, Told chars x y) : Told chars (.list xs) (.list ys) := by
  intro s t _ _ same
  have items : listed (xs.map chars) ++ ']' :: s = listed (ys.map chars) ++ ']' :: t := by
    simpa [chars_list] using same
  have starts : ∀ x, x ∈ xs ∨ x ∈ ys → ∃ c rest, x.chars = c :: rest ∧ isDelimiter c = false := by
    intro x mem
    have legible : Legible x := mem.elim (hxs x) (hys x)
    obtain ⟨c, rest, first, -, noDelimiter⟩ := legible.exists_first
    exact ⟨c, rest, first, noDelimiter⟩
  obtain ⟨rfl, rest⟩ := eq_of_listed rfl (by decide) told starts items
  exact ⟨rfl, rest⟩

theorem told_map {a b : Dictionary Value}
    (told : ∀ d ∈ a.entries, ∀ e ∈ b.entries, Told entryText d e) :
    Told chars (.map a) (.map b) := by
  intro s t _ _ same
  have entries : listed (a.entries.map entryText) ++ '\x7d' :: s =
      listed (b.entries.map entryText) ++ '\x7d' :: t := by
    simpa [chars_map] using same
  obtain ⟨eq, rest⟩ := eq_of_listed rfl (by decide) told (fun e _ => ⟨_, _, rfl, rfl⟩) entries
  exact ⟨congrArg _ (congrArg Dictionary.mk eq), rest⟩

/-- Values are told apart by their written forms. -/
theorem Data.told {v w : Value} (hv : Legible v) (hw : Legible w) : Told chars v w := by
  refine told_of_kind hv hw fun kinds => ?_
  induction hv generalizing w with
  | null =>
    cases hw with
    | null => exact fun s t _ _ same => ⟨rfl, List.append_cancel_left same⟩
    | _ => cases kinds
  | bool a =>
    cases hw with
    | bool b => exact told_bool a b
    | _ => cases kinds
  | @int m _ =>
    cases hw with
    | @int n _ => exact told_int m n
    | _ => cases kinds
  | text a =>
    cases hw with
    | text b => exact told_text a b
    | _ => cases kinds
  | list hxs ih =>
    cases hw with
    | list hys =>
      exact told_list hxs hys fun x hx y hy =>
        told_of_kind (hxs x hx) (hys y hy) (ih x hx (hys y hy))
    | _ => cases kinds
  | map ha values ih =>
    cases hw with
    | map hb values' =>
      refine told_map fun d hd e he => ?_
      refine told_entryText (ha d.1 (List.mem_map_of_mem hd)) (hb e.1 (List.mem_map_of_mem he)) ?_
      exact told_of_kind (values d hd) (values' e he) (ih d hd (values' e he))
    | _ => cases kinds

/-- **A written form belongs to one value.**  Two values of null, truth values, integers, texts, lists
and maps are written alike only if they are the same, if no name in a map holds a quote with a colon and
a blank behind it. -/
theorem written_eq_iff {v w : Value} (hv : Legible v) (hw : Legible w) :
    v.written = w.written ↔ v = w := by
  constructor
  · intro same
    have chars : v.chars ++ [] = w.chars ++ [] := by rw [Value.chars, same, ← Value.chars]
    exact (hv.told hw [] [] delimited_nil delimited_nil chars).1
  · rintro rfl
    rfl

/-- A text that looks like the end of one entry and another entry. -/
def oneEntry : Value := .map ⟨[("a", .text "1', 'b': '2")]⟩

/-- The two entries that it looks like. -/
def twoEntries : Value := .map ⟨[("a", .text "1"), ("b", .text "2")]⟩

theorem written_oneEntry_ne : Legible oneEntry ∧ Legible twoEntries ∧
    oneEntry.written ≠ twoEntries.written := by
  have one : Legible oneEntry := by
    have names : ∀ name ∈ ["a"], ¬ behindName <:+: name.toList := by decide
    refine .map names fun e mem => ?_
    obtain rfl := List.mem_singleton.1 mem
    exact .text _
  have two : Legible twoEntries := by
    have names : ∀ name ∈ ["a", "b"], ¬ behindName <:+: name.toList := by decide
    refine .map names fun e mem => ?_
    rcases List.mem_pair.1 mem with rfl | rfl
    · exact .text _
    · exact .text _
  refine ⟨one, two, fun same => ?_⟩
  have eq := (written_eq_iff one two).1 same
  simp [oneEntry, twoEntries] at eq

/-- A name is written as it is, so that a quote in it may look like its end: here one entry is written
like two. -/
theorem written_not_injective : ¬ ∀ v w : Value, Data (fun _ => True) Dictionary.Ascending v →
    Data (fun _ => True) Dictionary.Ascending w → v.written = w.written → v = w := by
  intro injective
  have one : Data (fun _ => True) Dictionary.Ascending (.map ⟨[("a': 1, 'b", .int 2)]⟩) := by
    refine .map (List.pairwise_singleton _ _) fun e mem => ?_
    obtain rfl := List.mem_singleton.1 mem
    exact .int trivial
  have two : Data (fun _ => True) Dictionary.Ascending (.map ⟨[("a", .int 1), ("b", .int 2)]⟩) := by
    have before : "a" < "b" := by decide
    refine .map (List.pairwise_pair.2 before) fun e mem => ?_
    rcases List.mem_pair.1 mem with rfl | rfl
    · exact .int trivial
    · exact .int trivial
  have same := injective _ _ one two rfl
  simp at same

end TextTemplate.Value
