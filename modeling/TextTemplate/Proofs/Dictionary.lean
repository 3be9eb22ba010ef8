import TextTemplate.Dictionary

/-!
# What a dictionary holds

A name that was put in has the value that was put in last (`get?_insert`).  The entries of a
dictionary that was built by insertions stand in ascending order of their names (`Ascending`), so
each name occurs once, and what lies on top decides (`get?_overlay_of_some`).
-/

namespace TextTemplate.Dictionary

variable {α : Type}

/-! ## Looking up -/

/-- A value that is found stands among the entries. -/
theorem mem_of_get? {d : Dictionary α} {name : String} {a : α} (h : d.get? name = some a) :
    (name, a) ∈ d.entries := by
  unfold get? at h
  obtain ⟨before, after, rest, -⟩ := List.lookup_eq_some_iff.1 h
  simp [rest]

theorem get?_cons (n : String) (v : α) (rest : List (String × α)) (name : String) :
    get? ⟨(n, v) :: rest⟩ name = if name = n then some v else get? ⟨rest⟩ name := by
  unfold get?
  rw [List.lookup_cons]
  by_cases h : name = n
  · rw [if_pos h, beq_iff_eq.2 h]
  · rw [if_neg h, beq_eq_false_iff_ne.2 h]

theorem get?_eq_none {d : Dictionary α} {name : String} :
    d.get? name = none ↔ ∀ e ∈ d.entries, e.1 ≠ name := by
  unfold get?
  rw [List.lookup_eq_none_iff]
  constructor
  · intro h e he same
    have := h e he
    simp [same] at this
  · intro h e he
    simpa using (h e he).symm

/-! ## Putting in -/

/-- The value put in, and for every other name what it was. -/
theorem get?_insert (d : Dictionary α) (n : String) (v : α) (name : String) :
    (d.insert n v).get? name = if name = n then some v else d.get? name := by
  obtain ⟨entries⟩ := d
  unfold insert
  dsimp only
  induction entries with
  | nil => exact get?_cons n v [] name
  | cons e rest ih =>
    obtain ⟨m, w⟩ := e
    rw [insertEntry]
    by_cases before : n < m
    · rw [if_pos before, get?_cons]
    · rw [if_neg before]
      by_cases same : n = m
      · subst same
        rw [if_pos rfl, get?_cons, get?_cons]
        by_cases h : name = n
        · rw [if_pos h, if_pos h]
        · rw [if_neg h, if_neg h, if_neg h]
      · rw [if_neg same, get?_cons, get?_cons, ih]
        by_cases h : name = m
        · subst h
          rw [if_pos rfl, if_neg (Ne.symm same), if_pos rfl]
        · rw [if_neg h, if_neg h]

theorem get?_insert_self (d : Dictionary α) (n : String) (v : α) :
    (d.insert n v).get? n = some v := by
  rw [get?_insert, if_pos rfl]

theorem get?_insert_of_ne (d : Dictionary α) {n name : String} (v : α) (h : name ≠ n) :
    (d.insert n v).get? name = d.get? name := by
  rw [get?_insert, if_neg h]

section Map

variable {β : Type} (f : α → β)

/-- The entries of a dictionary are changed one by one. -/
theorem get?_map (entries : List (String × α)) (name : String) :
    get? ⟨entries.map fun e => (e.1, f e.2)⟩ name = (get? ⟨entries⟩ name).map f := by
  induction entries with
  | nil => rfl
  | cons e rest ih =>
    obtain ⟨n, v⟩ := e
    rw [List.map_cons, get?_cons, get?_cons, ih]
    split <;> rfl

theorem insertEntry_map (n : String) (v : α) (entries : List (String × α)) :
    insertEntry n (f v) (entries.map fun e => (e.1, f e.2)) =
      (insertEntry n v entries).map fun e => (e.1, f e.2) := by
  induction entries with
  | nil => rfl
  | cons e rest ih =>
    obtain ⟨m, w⟩ := e
    rw [List.map_cons, insertEntry, insertEntry, ih]
    split
    · rfl
    · split <;> rfl

end Map

/-- Putting in a new name adds it to the names. -/
theorem perm_keys_insert {d : Dictionary α} {n : String} (v : α)
    (new : d.get? n = none) : (d.insert n v).keys.Perm (n :: d.keys) := by
  obtain ⟨entries⟩ := d
  show ((insertEntry n v entries).map Prod.fst).Perm (n :: entries.map Prod.fst)
  induction entries with
  | nil => exact .refl _
  | cons e rest ih =>
    obtain ⟨m, w⟩ := e
    obtain ⟨other, new⟩ : m ≠ n ∧ get? ⟨rest⟩ n = none := by
      rw [get?_eq_none, List.forall_mem_cons] at new
      exact ⟨new.1, get?_eq_none.2 new.2⟩
    rw [insertEntry]
    by_cases before : n < m
    · rw [if_pos before]
      exact .refl _
    · rw [if_neg before, if_neg other.symm]
      exact ((ih new).cons m).trans (.swap n m _)

/-- Names that are not among some entries keep their values when these are put in. -/
theorem get?_foldl_of_ne {entries : List (String × α)} {name : String}
    (h : ∀ e ∈ entries, e.1 ≠ name) (d : Dictionary α) :
    (entries.foldl (fun d e => d.insert e.1 e.2) d).get? name = d.get? name := by
  induction entries generalizing d with
  | nil => rfl
  | cons e rest ih =>
    rw [List.foldl_cons, ih fun e' he' => h e' (.tail _ he')]
    exact get?_insert_of_ne d e.2 (h e (.head _)).symm

theorem get?_overlay_of_none {lower upper : Dictionary α} {name : String}
    (h : upper.get? name = none) : (lower.overlay upper).get? name = lower.get? name :=
  get?_foldl_of_ne (get?_eq_none.1 h) lower

/-! ## Putting in one after the other -/

/-- The dictionary with some entries put in, one after the other. -/
def assign (d : Dictionary α) (entries : List (String × α)) : Dictionary α :=
  entries.foldl (fun d e => d.insert e.1 e.2) d

theorem assign_append (d : Dictionary α) (first later : List (String × α)) :
    d.assign (first ++ later) = (d.assign first).assign later := List.foldl_append

/-- The last entry for a name counts. -/
theorem get?_assign (d : Dictionary α) (entries : List (String × α)) (name : String) :
    (d.assign entries).get? name = (entries.reverse.lookup name).or (d.get? name) := by
  induction entries generalizing d with
  | nil => rfl
  | cons e rest ih =>
    obtain ⟨n, v⟩ := e
    show ((d.insert n v).assign rest).get? name = _
    rw [ih, List.reverse_cons, List.lookup_append, Option.or_assoc, get?_insert]
    congr 1
    by_cases same : name = n
    · rw [if_pos same, List.lookup_cons, beq_iff_eq.2 same]
      rfl
    · rw [if_neg same, List.lookup_cons, beq_eq_false_iff_ne.2 same]
      rfl

/-! ## The order of the entries -/

/-- The names ascend, so that each occurs once. -/
def Ascending (d : Dictionary α) : Prop := d.entries.Pairwise fun a b => a.1 < b.1

theorem ascending_empty : (empty : Dictionary α).Ascending := .nil

theorem mem_insertEntry {n : String} {v : α} {e : String × α} {entries : List (String × α)}
    (h : e ∈ insertEntry n v entries) : e = (n, v) ∨ e ∈ entries := by
  induction entries with
  | nil => exact .inl (List.mem_singleton.1 h)
  | cons first rest ih =>
    obtain ⟨m, w⟩ := first
    rw [insertEntry] at h
    split at h
    · exact List.mem_cons.1 h
    · split at h
      · exact (List.mem_cons.1 h).imp id (.tail _)
      · rcases List.mem_cons.1 h with rfl | h
        · exact .inr (.head _)
        · exact (ih h).imp id (.tail _)

/-- A name behind all others is put in at the end. -/
theorem insert_of_forall_lt {entries : List (String × α)} {n : String} (v : α)
    (h : ∀ e ∈ entries, e.1 < n) : insert ⟨entries⟩ n v = ⟨entries ++ [(n, v)]⟩ := by
  unfold Dictionary.insert
  congr 1
  induction entries with
  | nil => rfl
  | cons e rest ih =>
    obtain ⟨m, w⟩ := e
    have before : m < n := h _ (.head _)
    have notBefore : ¬ n < m := String.lt_asymm before
    have other : n ≠ m := by
      rintro rfl
      exact String.lt_irrefl n before
    rw [insertEntry, if_neg notBefore, if_neg other, ih fun e mem => h e (.tail _ mem)]
    rfl

theorem lt_of_not_lt_of_ne {a b : String} (h : ¬ a < b) (ne : a ≠ b) : b < a := by
  rw [← String.not_le]
  intro le
  exact ne (String.le_antisymm le (String.not_lt.1 h))

theorem Ascending.insert {d : Dictionary α} (h : d.Ascending) (n : String) (v : α) :
    (d.insert n v).Ascending := by
  obtain ⟨entries⟩ := d
  unfold Ascending at h ⊢
  unfold Dictionary.insert
  dsimp only at h ⊢
  induction entries with
  | nil => exact .cons (fun _ h => by cases h) .nil
  | cons e rest ih =>
    obtain ⟨m, w⟩ := e
    have rel := (List.pairwise_cons.1 h).1
    have tail := (List.pairwise_cons.1 h).2
    rw [insertEntry]
    by_cases before : n < m
    · rw [if_pos before]
      refine .cons (fun e he => ?_) h
      rcases List.mem_cons.1 he with rfl | he
      · exact before
      · exact String.lt_trans before (rel e he)
    · rw [if_neg before]
      by_cases same : n = m
      · subst same
        rw [if_pos rfl]
        exact .cons rel tail
      · rw [if_neg same]
        refine .cons (fun e he => ?_) (ih tail)
        rcases mem_insertEntry he with rfl | he
        · exact lt_of_not_lt_of_ne before same
        · exact rel e he

theorem ascending_foldl {d : Dictionary α} (h : d.Ascending) (entries : List (String × α)) :
    (entries.foldl (fun d e => d.insert e.1 e.2) d).Ascending := by
  induction entries generalizing d with
  | nil => exact h
  | cons e rest ih => exact ih (h.insert e.1 e.2)

theorem ascending_ofList (entries : List (String × α)) : (ofList entries).Ascending :=
  ascending_foldl ascending_empty entries

theorem Ascending.overlay {lower : Dictionary α} (h : lower.Ascending) (upper : Dictionary α) :
    (lower.overlay upper).Ascending := ascending_foldl h upper.entries

/-- A name does not occur again behind its entry. -/
theorem get?_rest_of_ascending {n : String} {v : α} {rest : List (String × α)}
    (h : Ascending ⟨(n, v) :: rest⟩) : get? ⟨rest⟩ n = none := by
  refine get?_eq_none.2 fun e mem same => ?_
  have less := (List.pairwise_cons.1 h).1 e mem
  rw [same] at less
  exact String.lt_irrefl n less

/-- The names with their values decide what a dictionary is. -/
theorem Ascending.ext {d e : Dictionary α} (hd : d.Ascending) (he : e.Ascending)
    (same : ∀ name, d.get? name = e.get? name) : d = e := by
  obtain ⟨a⟩ := d
  obtain ⟨b⟩ := e
  induction a generalizing b with
  | nil =>
    cases b with
    | nil => rfl
    | cons entry rest =>
      have := same entry.1
      rw [get?_cons, if_pos rfl] at this
      cases this
  | cons entry rest ih =>
    obtain ⟨n, v⟩ := entry
    cases b with
    | nil =>
      have := same n
      rw [get?_cons, if_pos rfl] at this
      cases this
    | cons entry rest' =>
      obtain ⟨m, w⟩ := entry
      have here := same n
      have there := same m
      rw [get?_cons, get?_cons, if_pos rfl] at here there
      -- of two different first names the smaller one would stand in one dictionary only
      obtain rfl : n = m := by
        by_cases eq : n = m
        · exact eq
        · rw [if_neg eq] at here
          rw [if_neg (Ne.symm eq)] at there
          have less := (List.pairwise_cons.1 he).1 _ (mem_of_get? here.symm)
          have less' := (List.pairwise_cons.1 hd).1 _ (mem_of_get? there)
          exact absurd less' (String.lt_asymm less)
      rw [if_pos rfl] at here
      cases here
      have rest_eq : (⟨rest⟩ : Dictionary α) = ⟨rest'⟩ := by
        refine ih (List.pairwise_cons.1 hd).2 _ (List.pairwise_cons.1 he).2 fun name => ?_
        by_cases eq : name = n
        · rw [eq, get?_rest_of_ascending hd, get?_rest_of_ascending he]
        · have := same name
          rwa [get?_cons, get?_cons, if_neg eq, if_neg eq] at this
      cases rest_eq
      rfl

/-- Of entries with one name each, the entry of a name is found wherever it stands. -/
theorem lookup_eq_some_iff_mem {entries : List (String × α)} (once : (entries.map Prod.fst).Nodup)
    {name : String} {a : α} : entries.lookup name = some a ↔ (name, a) ∈ entries := by
  induction entries with
  | nil => simp
  | cons e rest ih =>
    obtain ⟨n, v⟩ := e
    obtain ⟨fresh, once'⟩ := List.nodup_cons.1 once
    rw [List.lookup_cons, List.mem_cons, ← ih once', Prod.mk.injEq]
    by_cases same : name = n
    · subst same
      have absent : rest.lookup name ≠ some a := fun found =>
        fresh (List.mem_map.2 ⟨_, (ih once').1 found, rfl⟩)
      simp [absent, eq_comm]
    · rw [beq_eq_false_iff_ne.2 same]
      simp [same]

theorem Ascending.nodup {d : Dictionary α} (h : d.Ascending) : (d.entries.map Prod.fst).Nodup :=
  (List.pairwise_map.2 h).imp fun less => String.ne_of_lt less

theorem Ascending.get?_eq_some_iff {d : Dictionary α} (h : d.Ascending) {name : String} {a : α} :
    d.get? name = some a ↔ (name, a) ∈ d.entries := lookup_eq_some_iff_mem h.nodup

/-- Entries in any order, put in one after the other, are the dictionary in which they ascend. -/
theorem Ascending.assign_perm {d : Dictionary α} (h : d.Ascending) {entries : List (String × α)}
    (perm : entries.Perm d.entries) : empty.assign entries = d := by
  have perm' : entries.reverse.Perm d.entries := entries.reverse_perm.trans perm
  have once : (entries.reverse.map Prod.fst).Nodup := (perm'.map Prod.fst).nodup_iff.2 h.nodup
  refine (ascending_foldl ascending_empty entries).ext h fun name => ?_
  show (empty.assign entries).get? name = d.get? name
  rw [get?_assign]
  show (entries.reverse.lookup name).or none = d.get? name
  rw [Option.or_none]
  ext a
  rw [h.get?_eq_some_iff, lookup_eq_some_iff_mem once, perm'.mem_iff]

/-- What lies on top decides. -/
theorem get?_overlay_of_some {lower upper : Dictionary α} (h : upper.Ascending) {name : String}
    {v : α} (found : upper.get? name = some v) : (lower.overlay upper).get? name = some v := by
  obtain ⟨entries⟩ := upper
  unfold Ascending at h
  unfold Dictionary.overlay
  dsimp only at h ⊢
  induction entries generalizing lower with
  | nil => cases found
  | cons e rest ih =>
    obtain ⟨m, w⟩ := e
    have rel := (List.pairwise_cons.1 h).1
    rw [get?_cons] at found
    rw [List.foldl_cons]
    by_cases same : name = m
    · rw [if_pos same] at found
      cases found
      -- the name does not occur again
      have once : ∀ e ∈ rest, e.1 ≠ name := by
        intro e he eq
        have less := rel e he
        rw [eq, same] at less
        exact String.lt_irrefl m less
      rw [get?_foldl_of_ne once, same]
      exact get?_insert_self lower m v
    · rw [if_neg same] at found
      exact ih (List.pairwise_cons.1 h).2 found

/-- What lies on top decides, and below it what lies there. -/
theorem get?_overlay {lower upper : Dictionary α} (ascending : upper.Ascending) (name : String) :
    (lower.overlay upper).get? name = (upper.get? name).or (lower.get? name) := by
  cases found : upper.get? name with
  | some v => exact get?_overlay_of_some ascending found
  | none => exact get?_overlay_of_none found

end TextTemplate.Dictionary
