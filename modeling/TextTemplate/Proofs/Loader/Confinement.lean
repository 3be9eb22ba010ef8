import Mathlib
import TextTemplate.Loader.Source
import TextTemplate.Proofs.Text.Search

/-!
# A directory source stays below its root

Whether a name is refused is decided on its components, while what is opened is the text of the joined
path, in which a name with a slash in front would replace the root.  Both are read off the segments of a
text (`isLocal_iff`, `steps_join`), so the two views agree: a name is refused exactly if it is absolute or
has a segment that leads upward, and what is opened for any other name lies at the steps of the root and
some segments of the name, one below the other (`read_below_root`).
-/

namespace TextTemplate

namespace Text

/-- A text is split at a character as the lists of the library are. -/
theorem split_eq_splitOn (sep : Char) (cs : List Char) : split [sep] cs = cs.splitOn sep := by
  show splitWithin [sep] cs.length cs = _
  have within (steps : Nat) (cs : List Char) (le : cs.length ≤ steps) :
      splitWithin [sep] steps cs = cs.splitOn sep := by
    induction steps generalizing cs with
    | zero =>
      obtain rfl := List.eq_nil_of_length_eq_zero (Nat.le_zero.1 le)
      rfl
    | succ steps ih =>
      rw [splitWithin]
      cases cut : cut? [sep] cs with
      | none =>
        have absent : sep ∉ cs := fun mem =>
          (cut?_eq_none (List.cons_ne_nil _ _)).1 cut ((List.singleton_infix_iff _ _).2 mem)
        rw [List.splitOn_eq_singleton absent]
      | some found =>
        obtain ⟨before, rest⟩ := found
        obtain ⟨rfl, first⟩ := (cut?_eq_some (List.cons_ne_nil _ _)).1 cut
        have absent : sep ∉ before := by
          intro mem
          obtain ⟨n, lt, here⟩ := List.getElem_of_mem mem
          refine first n lt ?_
          rw [List.drop_append_of_le_length lt.le, List.drop_eq_getElem_cons lt, here]
          exact List.prefix_append [sep] _
        have shorter : rest.length ≤ steps := by
          simp only [List.length_append, List.length_cons] at le
          omega
        show before :: splitWithin [sep] steps rest = (before ++ sep :: rest).splitOn sep
        rw [ih rest shorter, List.splitOn_append_cons_self, List.splitOn_eq_singleton absent]
        rfl
  exact within _ cs le_rfl

end Text

namespace Loader

/-! ## Segments -/

section Segments

variable {path name root s : List Char}

theorem segments_eq_splitOn (path : List Char) : segments path = path.splitOn '/' :=
  Text.split_eq_splitOn _ _

/-- A slash stands between the segments of what is in front of it and those of what is behind. -/
theorem segments_append_slash (path name : List Char) :
    segments (path ++ '/' :: name) = segments path ++ segments name := by
  simp only [segments_eq_splitOn, List.splitOn_append_cons_self]

theorem segments_ne_nil (path : List Char) : segments path ≠ [] := by
  rw [segments_eq_splitOn]
  exact List.splitOn_ne_nil _ _

theorem segments_nil : segments [] = [[]] := rfl

theorem segments_slash (path : List Char) : segments ('/' :: path) = [] :: segments path :=
  segments_append_slash [] path

/-- A character that is no slash belongs to the first segment. -/
theorem segments_cons {c : Char} (other : c ≠ '/') (path : List Char) :
    segments (c :: path) = (segments path).modifyHead (c :: ·) := by
  rw [segments_eq_splitOn, List.splitOn_cons_eq_if_modifyHead, if_neg (by simpa using other),
    segments_eq_splitOn]

theorem slash_not_mem (mem : s ∈ segments path) : '/' ∉ s := by
  induction path generalizing s with
  | nil =>
    obtain rfl := List.mem_singleton.1 mem
    exact List.not_mem_nil
  | cons c path ih =>
    by_cases slash : c = '/'
    · subst slash
      rw [segments_slash] at mem
      cases mem with
      | head => exact List.not_mem_nil
      | tail _ mem => exact ih mem
    · rw [segments_cons slash] at mem
      obtain ⟨first, rest, parts⟩ := List.exists_cons_of_ne_nil (segments_ne_nil path)
      rw [parts] at mem ih
      cases mem with
      | head => simpa [Ne.symm slash] using ih (.head _)
      | tail _ mem => exact ih (.tail _ mem)

end Segments

/-! ## Steps -/

/-- A segment that names a file or a directory. -/
structure IsOrdinary (s : List Char) : Prop where
  filled : s ≠ []
  solid : '/' ∉ s
  notCurrent : s ≠ ['.']
  notParent : s ≠ ['.', '.']

/-- An absolute name, or one with a segment that leads upward. -/
def Escapes (name : List Char) : Prop := name.head? = some '/' ∨ ['.', '.'] ∈ segments name

instance (name : List Char) : Decidable (Escapes name) := inferInstanceAs (Decidable (_ ∨ _))

/-- The segments of a name but for empty ones and single points. -/
def ordinary (name : List Char) : List (List Char) :=
  (segments name).filter fun s => s ≠ [] ∧ s ≠ ['.']

/-- What a path leads through: the root if it begins there, and then a step for each segment, but for
empty ones and single points. -/
def steps (path : List Char) : List Component :=
  (if path.head? = some '/' then [.root] else []) ++ (segments path).filterMap component?

section Steps

variable {path name root : List Char}

/-- The steps of a path are its components, but for a point in front. -/
theorem steps_eq_filter (path : List Char) :
    steps path = (components path).filter (· ≠ .current) := by
  have inner : ((segments path).filterMap component?).filter (· ≠ .current) =
      (segments path).filterMap component? := by
    refine List.filter_eq_self.2 fun c mem => ?_
    obtain ⟨s, -, is⟩ := List.mem_filterMap.1 mem
    unfold component? at is
    split at is
    · cases is
    · split at is <;> cases is <;> rfl
  have front : (leading (segments path)).filter (· ≠ .current) =
      if path.head? = some '/' then [.root] else [] := by
    cases path with
    | nil => rfl
    | cons c path =>
      obtain ⟨first, rest, parts⟩ := List.exists_cons_of_ne_nil (segments_ne_nil path)
      by_cases slash : c = '/'
      · subst slash
        rw [segments_slash, parts]
        rfl
      · rw [segments_cons slash, parts, if_neg (by simpa using slash)]
        show (leading ((c :: first) :: rest)).filter _ = _
        unfold leading
        split
        · next same => cases same
        · rfl
        · rfl
  rw [components, List.filter_append, inner, front, steps]

/-- **The check refuses what escapes**, and nothing else. -/
theorem isLocal_iff (name : List Char) : isLocal name = true ↔ ¬ Escapes name := by
  have steps_local : isLocal name = true ↔ ∀ c ∈ steps name, c ≠ .root ∧ c ≠ .parent := by
    rw [steps_eq_filter, isLocal, List.all_eq_true]
    constructor
    · intro all c mem
      have := all c (List.mem_of_mem_filter mem)
      cases c with
      | root | parent => cases this
      | current | name => exact ⟨nofun, nofun⟩
    · intro all c mem
      by_cases current : c = .current
      · rw [current]
        rfl
      · have := all c (List.mem_filter.2 ⟨mem, by simpa using current⟩)
        cases c with
        | root => exact absurd rfl this.1
        | parent => exact absurd rfl this.2
        | current | name => rfl
  have parent {s : List Char} : component? s = some .parent ↔ s = ['.', '.'] := by
    unfold component?
    split
    · next skipped => rcases skipped with rfl | rfl <;> simp
    · split <;> simp_all
  have root {s : List Char} : component? s ≠ some .root := by
    unfold component?
    split
    · simp
    · split <;> simp
  rw [steps_local, steps, Escapes, not_or]
  constructor
  · intro all
    refine ⟨fun slash => (all .root ?_).1 rfl, fun up => (all .parent ?_).2 rfl⟩
    · rw [if_pos slash]
      exact .head _
    · exact List.mem_append_right _ (List.mem_filterMap.2 ⟨_, up, parent.2 rfl⟩)
  · rintro ⟨relative, down⟩ c mem
    rw [if_neg relative, List.nil_append] at mem
    obtain ⟨s, within, is⟩ := List.mem_filterMap.1 mem
    constructor
    · rintro rfl
      exact root is
    · rintro rfl
      exact down (parent.1 is ▸ within)

theorem isOrdinary_of_mem {s : List Char} (stays : ¬ Escapes name) (mem : s ∈ ordinary name) :
    IsOrdinary s := by
  obtain ⟨within, other⟩ := List.mem_filter.1 mem
  obtain ⟨filled, notCurrent⟩ := of_decide_eq_true other
  refine ⟨filled, slash_not_mem within, notCurrent, ?_⟩
  rintro rfl
  exact stays (.inr within)

/-- Where no segment leads upward, the steps of segments are ordinary names. -/
theorem filterMap_component? {segments : List (List Char)} (down : ['.', '.'] ∉ segments) :
    segments.filterMap component? =
      (segments.filter fun s => s ≠ [] ∧ s ≠ ['.']).map .name := by
  induction segments with
  | nil => rfl
  | cons s rest ih =>
    obtain ⟨ne, down⟩ := not_or.1 (List.mem_cons.not.1 down)
    by_cases skipped : s = [] ∨ s = ['.']
    · rw [List.filterMap_cons_none (by rw [component?, if_pos skipped]), ih down,
        List.filter_cons_of_neg (by simpa [or_iff_not_imp_left] using skipped)]
    · rw [List.filterMap_cons_some (by rw [component?, if_neg skipped, if_neg (Ne.symm ne)]),
        ih down, List.filter_cons_of_pos (by simpa [or_iff_not_imp_left] using skipped), List.map_cons]

/-- A root and a relative name have a slash between them, or the root is empty. -/
theorem join_eq (root : List Char) (relative : name.head? ≠ some '/') :
    root = [] ∧ join root name = name ∨
      ∃ front, (root = front ∧ front ≠ [] ∨ root = front ++ ['/']) ∧
        join root name = front ++ '/' :: name := by
  have start : Text.startsWith name ['/'] = false := by
    rw [Text.startsWith, Option.isSome_eq_false_iff, Option.isNone_iff_eq_none,
      Text.afterPrefix?_eq_none]
    rintro ⟨rest, rfl⟩
    exact relative rfl
  unfold join
  rw [start, if_neg Bool.false_ne_true]
  rcases List.eq_nil_or_concat' root with rfl | ⟨front, c, rfl⟩
  · exact .inl ⟨rfl, rfl⟩
  · refine .inr ?_
    by_cases slash : c = '/'
    · subst slash
      refine ⟨front, .inr rfl, ?_⟩
      have ends : Text.endsWith (front ++ ['/']) ['/'] = true := by
        simp [Text.endsWith, Text.startsWith, Text.afterPrefix?]
      rw [ends, Bool.or_true, if_pos rfl, List.append_assoc]
      rfl
    · refine ⟨front ++ [c], .inl ⟨rfl, by simp⟩, ?_⟩
      have open' : Text.endsWith (front ++ [c]) ['/'] = false := by
        simp [Text.endsWith, Text.startsWith, Text.afterPrefix?, Ne.symm slash]
      have filled : (front ++ [c]).isEmpty = false := by simp
      rw [open', filled, Bool.or_false, if_neg Bool.false_ne_true]

/-- **The path that is opened leads to the root and from there downward.** -/
theorem steps_join (stays : ¬ Escapes name) :
    steps (join root name) = steps root ++ (ordinary name).map .name := by
  obtain ⟨relative, down⟩ := not_or.1 stays
  rcases join_eq root relative with ⟨rfl, joined⟩ | ⟨front, root_eq, joined⟩
  · rw [joined, steps, if_neg relative, List.nil_append, filterMap_component? down]
    rfl
  · have upto : steps (front ++ '/' :: name) =
        steps (front ++ ['/']) ++ (segments name).filterMap component? := by
      have same : (front ++ '/' :: name).head? = (front ++ ['/']).head? := by
        cases front <;> rfl
      rw [steps, steps, same, segments_append_slash, segments_append_slash, List.filterMap_append,
        List.filterMap_append, segments_nil, List.filterMap_cons_none rfl, List.filterMap_nil,
        List.append_nil, List.append_assoc]
    have slashed : steps (front ++ ['/']) = steps root := by
      rcases root_eq with ⟨rfl, filled⟩ | rfl
      · obtain ⟨c, front, rfl⟩ := List.exists_cons_of_ne_nil filled
        rw [steps, segments_append_slash, segments_nil, List.filterMap_append,
          List.filterMap_cons_none rfl, List.filterMap_nil, List.append_nil]
        rfl
      · rfl
    rw [joined, upto, slashed, filterMap_component? down, ordinary]

end Steps

/-! ## Walks -/

namespace Disk

variable {d : Disk} {dir names : List (List Char)}

theorem walk?_append (d : Disk) (dir : List (List Char)) (front behind : List (List Char)) :
    d.walk? dir (front ++ behind) = (d.walk? dir front).bind fun dir' => d.walk? dir' behind := by
  induction front generalizing dir with
  | nil => rfl
  | cons s front ih =>
    rw [List.cons_append, walk?, walk?]
    split
    · rfl
    · split
      · exact ih _
      · split
        · exact ih _
        · exact ih _

/-- Where no segment leads upward, a walk goes from name to name. -/
theorem walk?_down {segments : List (List Char)} (down : ['.', '.'] ∉ segments)
    (found : d.walk? dir segments = some names) :
    names = dir ++ segments.filter fun s => s ≠ [] ∧ s ≠ ['.'] := by
  induction segments generalizing dir with
  | nil =>
    cases found
    rw [List.filter_nil, List.append_nil]
  | cons s rest ih =>
    obtain ⟨ne, down⟩ := not_or.1 (List.mem_cons.not.1 down)
    rw [walk?] at found
    split at found
    · cases found
    · split at found
      · next skipped =>
        rw [ih down found, List.filter_cons_of_neg (by simpa [or_iff_not_imp_left] using skipped)]
      · next kept =>
        rw [if_neg (Ne.symm ne)] at found
        rw [ih down found, List.filter_cons_of_pos (by simpa [not_or] using kept), List.append_assoc]
        rfl

/-- A walk that goes on from somewhere comes from a directory. -/
theorem walk?_of_isDirectory {segments : List (List Char)} (filled : segments ≠ [])
    (found : d.walk? dir segments = some names) : d.walk? dir [[]] = some dir := by
  obtain ⟨s, rest, rfl⟩ := List.exists_cons_of_ne_nil filled
  rw [walk?] at found ⊢
  split at found
  · cases found
  · next isDirectory =>
    rw [if_neg isDirectory, if_pos (.inl rfl)]
    rfl

/-- What lies at a joined path lies below the directory that the root leads to. -/
theorem file?_join {root name : List Char} {content : ByteArray} (stays : ¬ Escapes name)
    (found : d.file? (join root name) = some content) :
    ∃ dir, d.walk? [] (segments root) = some dir ∧
      d.files.lookup (dir ++ ordinary name) = some content := by
  obtain ⟨relative, down⟩ := not_or.1 stays
  unfold file? at found
  split at found
  · cases found
  · obtain ⟨names, walked, content⟩ := Option.bind_eq_some_iff.1 found
    rcases join_eq root relative with ⟨rfl, joined⟩ | ⟨front, root_eq, joined⟩
    · rw [joined] at walked
      refine ⟨[], walk?_of_isDirectory (segments_ne_nil name) walked, ?_⟩
      rwa [ordinary, ← walk?_down down walked]
    · rw [joined, segments_append_slash, walk?_append] at walked
      obtain ⟨dir, reached, walked⟩ := Option.bind_eq_some_iff.1 walked
      refine ⟨dir, ?_, by rwa [ordinary, ← walk?_down down walked]⟩
      rcases root_eq with ⟨rfl, -⟩ | rfl
      · exact reached
      · rw [segments_append_slash, walk?_append, reached]
        exact walk?_of_isDirectory (segments_ne_nil name) walked

end Disk

/-! ## Sources -/

/-- **A source of files never leaves its root.**  For a name that is neither absolute nor leads upward
with some segment, all that counts is the file at one path: the steps of the root, and below them the
ordinary segments of the name.  On a disk that is a file below the directory that the root leads to.  Any
other name has no template, whatever files there are. -/
theorem read_below_root (root name : String) :
    (¬ Escapes name.toList →
      (∀ s ∈ ordinary name.toList, IsOrdinary s) ∧
      (∃ path, steps path = steps root.toList ++ (ordinary name.toList).map .name ∧
        ∀ file?, (Source.below file? root).read name = Source.text? (file? path)) ∧
      ∀ (disk : Disk) (text : String), (Source.directory disk root).read name = .ok (some text) →
        ∃ dir content, disk.walk? [] (segments root.toList) = some dir ∧
          disk.files.lookup (dir ++ ordinary name.toList) = some content ∧
          Source.decode content = .ok text) ∧
    (Escapes name.toList → ∀ file?, (Source.below file? root).read name = .ok none) := by
  have read_of {path : Option (List Char)} (is : Source.path? root.toList name.toList = path)
      (file? : List Char → Option ByteArray) :
      (Source.below file? root).read name = path.elim (.ok none) fun p => Source.text? (file? p) := by
    subst is
    unfold Source.below
    dsimp only
    cases Source.path? root.toList name.toList <;> rfl
  constructor
  · intro stays
    have opened : Source.path? root.toList name.toList = some (join root.toList name.toList) :=
      if_pos ((isLocal_iff _).2 stays)
    refine ⟨fun s => isOrdinary_of_mem stays, ⟨_, steps_join stays, read_of opened⟩, ?_⟩
    intro disk text found
    rw [Source.directory, read_of opened, Option.elim_some] at found
    cases there : disk.file? (join root.toList name.toList) with
    | none =>
      rw [there] at found
      cases found
    | some content =>
      obtain ⟨dir, reached, lies⟩ := Disk.file?_join stays there
      refine ⟨dir, content, reached, lies, ?_⟩
      rw [there] at found
      cases decoded : Source.decode content with
      | error fault =>
        rw [Source.text?, decoded] at found
        cases found
      | ok text' =>
        rw [Source.text?, decoded] at found
        cases found
        rfl
  · intro escapes file?
    have refused : Source.path? root.toList name.toList = none :=
      if_neg fun stays => (isLocal_iff _).1 stays escapes
    rw [read_of refused, Option.elim_none]

/-! ### A file in a directory -/

namespace Nested

/-- One file, two directories below the working one. -/
def disk : Disk := Disk.empty.write "tpl/d/x".toList "X".toUTF8

theorem read_name : (Source.directory disk "tpl/").read "d/.//x" = .ok (some "X") := by cbv

/-- A name with points and slashes to spare leads to the file, and one that goes up and down again has no
template. -/
theorem read_nested :
    (¬ Escapes "d/.//x".toList ∧ Escapes "d/../d/x".toList) ∧
    (∃ dir content, disk.walk? [] (segments "tpl/".toList) = some dir ∧
      disk.files.lookup (dir ++ [['d'], ['x']]) = some content ∧ Source.decode content = .ok "X") ∧
    (Source.directory disk "tpl/").read "d/../d/x" = .ok none := by
  have stays : ¬ Escapes "d/.//x".toList := by decide
  have escapes : Escapes "d/../d/x".toList := by decide
  have names : ordinary "d/.//x".toList = [['d'], ['x']] := by decide
  have found := ((read_below_root "tpl/" "d/.//x").1 stays).2.2 disk "X" read_name
  rw [names] at found
  exact ⟨⟨stays, escapes⟩, found, (read_below_root "tpl/" "d/../d/x").2 escapes disk.file?⟩

end Nested

end Loader

end TextTemplate
