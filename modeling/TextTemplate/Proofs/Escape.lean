import Mathlib
import TextTemplate.Proofs.Grammar

/-!
# The choice of an escape function

An escape function is found by the suffix of the file that a template is named for, which has one point,
at its front, and no slash (`Text.extension?_eq_some_iff`).  So a function that is registered for such a
suffix escapes every template whose name ends in it, as long as the file has a name in front of the
suffix.  One that is registered for any other text never does, although there are names that end in it.
The main result is `Grammar.escape_of_suffix`.
-/

namespace TextTemplate

namespace Text

/-- A point with neither a point nor a slash behind it. -/
def IsFileSuffix (ext : String) : Prop :=
  ∃ tail, ext.toList = '.' :: tail ∧ '.' ∉ tail ∧ '/' ∉ tail

/-- What stands in front of a suffix ends with a part of the name of a file. -/
def EndsInFile (stem : String) : Prop := ∃ c ∈ stem.toList.getLast?, c ≠ '/'

theorem not_mem_takeWhile_ne (c : Char) (cs : List Char) : c ∉ cs.takeWhile (· ≠ c) := by
  intro mem
  have other := List.mem_takeWhile_imp (p := fun d => decide (d ≠ c)) mem
  simp at other

/-- The suffix of a file name stands at the end of the name. -/
theorem exists_of_extension? {name ext : String} (h : extension? name = some ext) :
    ∃ stem, name = stem ++ ext ∧ IsFileSuffix ext ∧ EndsInFile stem := by
  unfold extension? fileName at h
  rw [List.reverse_reverse] at h
  dsimp only at h
  have name_eq := name.toList.reverse.takeWhile_append_dropWhile (p := (· ≠ '/'))
  have no_slash := not_mem_takeWhile_ne '/' name.toList.reverse
  generalize name.toList.reverse.takeWhile (· ≠ '/') = file at *
  generalize name.toList.reverse.dropWhile (· ≠ '/') = path at *
  have file_eq := file.takeWhile_append_dropWhile (p := (· ≠ '.'))
  have no_point := not_mem_takeWhile_ne '.' file
  have at_point := file.head?_dropWhile_not (· ≠ '.')
  generalize file.takeWhile (· ≠ '.') = back at *
  generalize file.dropWhile (· ≠ '.') = front at *
  match front with
  | [] => cases h
  | [_] => cases h
  | d :: c :: front =>
    obtain rfl : d = '.' := by simpa using at_point
    rw [← file_eq] at name_eq no_slash
    have whole : name.toList = path.reverse ++ front.reverse ++ [c] ++ '.' :: back.reverse := by
      rw [← name.toList.reverse_reverse, ← name_eq]
      simp
    have ext_eq : ext.toList = '.' :: back.reverse := by
      rw [← Option.some.inj h, String.toList_ofList]
    refine ⟨String.ofList (path.reverse ++ front.reverse ++ [c]), ?_, ⟨back.reverse, ext_eq, ?_, ?_⟩, c, ?_, ?_⟩
    · apply String.toList_injective
      rw [String.toList_append, String.toList_ofList, ext_eq, whole]
    · rwa [List.mem_reverse]
    · intro mem
      exact no_slash (List.mem_append_left _ (List.mem_reverse.1 mem))
    · simp
    · rintro rfl
      simp at no_slash

theorem extension?_of_suffix {stem ext : String} (suffix : IsFileSuffix ext) (file : EndsInFile stem) :
    extension? (stem ++ ext) = some ext := by
  obtain ⟨tail, ext_eq, no_point, no_slash⟩ := suffix
  obtain ⟨c, last, other⟩ := file
  obtain ⟨front, stem_eq⟩ := List.getLast?_eq_some_iff.1 last
  have name_eq : (stem ++ ext).toList.reverse = tail.reverse ++ '.' :: c :: front.reverse := by
    rw [String.toList_append, ext_eq, stem_eq]
    simp
  have point : ∀ d ∈ tail.reverse, decide (d ≠ '.') = true := by
    intro d mem
    exact decide_eq_true fun same => no_point (same ▸ List.mem_reverse.1 mem)
  have slash : ∀ d ∈ tail.reverse, decide (d ≠ '/') = true := by
    intro d mem
    exact decide_eq_true fun same => no_slash (same ▸ List.mem_reverse.1 mem)
  unfold extension? fileName
  rw [List.reverse_reverse, name_eq, List.takeWhile_append_of_pos slash,
    List.takeWhile_cons_of_pos (by decide),
    List.takeWhile_cons_of_pos (p := (· ≠ '/')) (decide_eq_true other)]
  dsimp only
  rw [List.dropWhile_append_of_pos point, List.dropWhile_cons_of_neg (by decide),
    List.takeWhile_append_of_pos point, List.takeWhile_cons_of_neg (by decide)]
  dsimp only
  rw [List.append_nil, List.reverse_reverse, ← ext_eq, String.ofList_toList]

/-- A text at the end of a name is the suffix of its file if it looks like one, and the file has a name
in front of it. -/
theorem extension?_append_iff (stem ext : String) :
    extension? (stem ++ ext) = some ext ↔ IsFileSuffix ext ∧ EndsInFile stem := by
  refine ⟨fun h => ?_, fun h => extension?_of_suffix h.1 h.2⟩
  obtain ⟨stem', same, suffix, file⟩ := exists_of_extension? h
  have same : stem.toList = stem'.toList := by
    refine List.append_cancel_right (?_ : _ ++ ext.toList = _)
    rw [← String.toList_append, ← String.toList_append, same]
  rw [String.toList_injective same]
  exact ⟨suffix, file⟩

end Text

namespace Grammar

open Text

variable {g : Grammar} {ext name : String} {f : Function}

theorem escapeFor_withEscape (g : Grammar) (ext name : String) (f : Function) :
    (g.withEscape ext f).escapeFor name =
      if extension? name = some ext then some f else g.escapeFor name := by
  unfold escapeFor withEscape
  cases extension? name with
  | none => rfl
  | some suffix =>
    show (g.escapes.insert ext f).get? suffix = _
    rw [Dictionary.get?_insert]
    by_cases same : suffix = ext
    · rw [if_pos same, if_pos (congrArg some same)]
    · rw [if_neg same, if_neg (mt Option.some.inj same)]
      rfl

/-- A name is escaped only if it ends in a suffix that a function is registered for. -/
theorem escapeFor_eq_none (other : ∀ e ∈ g.escapes.keys, ∀ stem, name ≠ stem ++ e) :
    g.escapeFor name = none := by
  unfold escapeFor
  cases found : extension? name with
  | none => rfl
  | some suffix =>
    obtain ⟨stem, name_eq, -⟩ := exists_of_extension? found
    show g.escapes.get? suffix = none
    rw [Dictionary.get?_eq_none]
    rintro ⟨e, _⟩ mem rfl
    exact other e (List.mem_map_of_mem mem) stem name_eq

/-- **The choice of an escape function.**  The function that is registered last escapes the templates
whose names end in its suffix, if that is the suffix of a file and the file has a name in front of it.
If it is not, templates whose names end in it are escaped as if it had not been registered.  Where a name
ends in no registered suffix, the template is not escaped. -/
theorem escape_of_suffix {id : TemplateId} {source : String} {defaults further : Dictionary Value}
    {t : Template}
    (compiled : (g.withEscape ext f).compile id source name defaults further = .ok t)
    (free : further.get? escapeKey = none) :
    (∀ stem, name = stem ++ ext →
      (IsFileSuffix ext ∧ EndsInFile stem → t.globals.get? escapeKey = some (.function f)) ∧
      (¬ (IsFileSuffix ext ∧ EndsInFile stem) →
        t.globals.get? escapeKey = some (g.escapeEntry name))) ∧
    ((∀ e ∈ (g.withEscape ext f).escapes.keys, ∀ stem, name ≠ stem ++ e) →
      t.globals.get? escapeKey = some .null) := by
  obtain ⟨body, -, rfl⟩ := compile_eq_ok compiled
  rw [entries_get?_escapeKey _ _ free]
  unfold escapeEntry
  constructor
  · rintro stem rfl
    rw [← extension?_append_iff, escapeFor_withEscape]
    refine ⟨fun found => ?_, fun missed => ?_⟩
    · rw [if_pos found]
    · rw [if_neg missed]
  · intro other
    rw [escapeFor_eq_none other]

namespace Suffixes

/-- Writes a value. -/
def source : String := "\x7b\x7b v \x7d\x7d"

/-- The standard grammar with an escape function of its own for one more suffix. -/
def grammar (ext : String) : Grammar := (standard (.escaper 0)).withEscape ext (.escaper 1)

def template (ext name : String) : Template :=
  ⟨⟨none, 0⟩, ⟨name, [(1, .output ⟨"v", .name "v"⟩)]⟩, .empty, (grammar ext).entries name .empty⟩

set_option maxRecDepth 100000 in
theorem compile_source (ext name : String) :
    (grammar ext).compile ⟨none, 0⟩ source name .empty .empty = .ok (template ext name) := by
  refine compile_of_parse _ _ _ ?_
  show Tag.parseTemplate Tag.standard source name = .ok _
  cbv

/-- Text files are escaped, but not a file without a suffix in a directory with one. -/
theorem escape_of_text_files :
    ((grammar ".txt").compile ⟨none, 0⟩ source "notes.d/page.txt" .empty .empty =
        .ok (template ".txt" "notes.d/page.txt") ∧
      (template ".txt" "notes.d/page.txt").globals.get? escapeKey = some (.function (.escaper 1))) ∧
    ((grammar ".txt").compile ⟨none, 0⟩ source "notes.d/page" .empty .empty =
        .ok (template ".txt" "notes.d/page") ∧
      (template ".txt" "notes.d/page").globals.get? escapeKey = some .null) := by
  refine ⟨⟨compile_source _ _, ?_⟩, compile_source _ _, ?_⟩
  · have suffix : IsFileSuffix ".txt" := ⟨['t', 'x', 't'], by decide, by decide, by decide⟩
    have file : EndsInFile "notes.d/page" := ⟨'e', by decide, by decide⟩
    have free : (Dictionary.empty : Dictionary Value).get? escapeKey = none := rfl
    exact ((escape_of_suffix (compile_source ".txt" "notes.d/page.txt") free).1 "notes.d/page"
      (by decide)).1 ⟨suffix, file⟩
  · have other : ∀ e ∈ (grammar ".txt").escapes.keys, ¬ e.toList <:+ "notes.d/page".toList := by
      decide
    refine (escape_of_suffix (compile_source ".txt" "notes.d/page") rfl).2 fun e mem stem same => ?_
    refine other e mem ⟨stem.toList, ?_⟩
    rw [same, String.toList_append]

/-- A page that ends in a registered suffix with two points, and in no longer one, is not escaped. -/
theorem missed_suffix : "page.html.j2" = "page" ++ ".html.j2" ∧
    (∀ e ∈ (grammar ".html.j2").escapes.keys, e.length ≤ ".html.j2".length) ∧
    (grammar ".html.j2").compile ⟨none, 0⟩ source "page.html.j2" .empty .empty =
      .ok (template ".html.j2" "page.html.j2") ∧
    (template ".html.j2" "page.html.j2").globals.get? escapeKey = some .null := by
  refine ⟨by decide, by decide, compile_source _ _, rfl⟩

end Suffixes

end Grammar

end TextTemplate
