import TextTemplate.Proofs.Dictionary
import TextTemplate.Value.Binding

/-!
# What binding does to a scope

A target that is bound gives each of its names the item in its place (`Target.bind_eq_ok`), and leaves
all other names as they are.  Of several places of one name the last one counts (`get?_assign_zip`).

Binding in place comes to the same scope, and where it fails it has changed nothing
(`Target.bindInPlace_apply`): the names are only set when it is known that there is one item for each.
-/

namespace TextTemplate

/-! ## The names that are bound -/

/-- The names of a target, each with what it takes of a value. -/
inductive Target.Gives : Target → Value → List (String × Value) → Prop
  | name (n : String) (v : Value) : Gives (.name n) v [(n, v)]
  | unpack {names : List String} {v : Value} {items : List Value} :
      v.iterate = .ok items → items.length = names.length →
      Gives (.unpack names) v (names.zip items)

/-- A target that can be bound gives its names something. -/
theorem Target.bind_eq_ok {target : Target} {v : Value} {scope bound : Dictionary Value} :
    target.bind v scope = .ok bound ↔
      ∃ entries, target.Gives v entries ∧ bound = scope.assign entries := by
  cases target with
  | name n =>
    constructor
    · intro h
      cases h
      exact ⟨_, .name n v, rfl⟩
    · rintro ⟨_, gives, rfl⟩
      cases gives
      rfl
  | unpack names =>
    unfold Target.bind
    cases hi : v.iterate with
    | error cause =>
      constructor
      · intro h
        cases h
      · rintro ⟨_, gives, -⟩
        cases gives with | unpack h => rw [hi] at h; cases h
    | ok items =>
      dsimp only
      constructor
      · intro h
        split at h
        · cases h
        · split at h
          · cases h
          · cases h
            exact ⟨_, .unpack hi (by omega), rfl⟩
      · rintro ⟨_, gives, rfl⟩
        cases gives with
        | unpack h count =>
          rw [hi] at h
          cases h
          rw [if_neg (by omega), if_neg (by omega)]
          rfl

theorem Target.Gives.mem_names {target : Target} {v : Value} {entries : List (String × Value)}
    (gives : target.Gives v entries) {e : String × Value} (h : e ∈ entries) :
    e.1 ∈ target.names := by
  cases gives with
  | name n v =>
    cases List.mem_singleton.1 h
    exact .head _
  | unpack _ _ => exact (List.of_mem_zip h).1

/-- A target leaves all names but its own as they are. -/
theorem Target.bind_get? {target : Target} {v : Value} {scope bound : Dictionary Value}
    (h : target.bind v scope = .ok bound) {name : String} (other : name ∉ target.names) :
    bound.get? name = scope.get? name := by
  obtain ⟨entries, gives, rfl⟩ := bind_eq_ok.1 h
  refine Dictionary.get?_foldl_of_ne (fun e mem same => other ?_) scope
  rw [← same]
  exact gives.mem_names mem

/-! ## Last places -/

/-- The last place of a name among some names. -/
structure IsLastPlace (names : List String) (name : String) (i : Nat) : Prop where
  here : names[i]? = some name
  last : ∀ j, i < j → names[j]? ≠ some name

/-- A name has a last place wherever it stands. -/
theorem exists_isLastPlace {names : List String} {name : String} (mem : name ∈ names) :
    ∃ i, IsLastPlace names name i := by
  induction names with
  | nil => cases mem
  | cons n rest ih =>
    by_cases later : name ∈ rest
    · obtain ⟨i, here, last⟩ := ih later
      refine ⟨i + 1, here, fun j lt => ?_⟩
      cases j with
      | zero => cases lt
      | succ j => exact last j (Nat.lt_of_succ_lt_succ lt)
    · obtain rfl : name = n := (List.mem_cons.1 mem).resolve_right later
      refine ⟨0, rfl, fun j lt found => ?_⟩
      cases j with
      | zero => cases lt
      | succ j => exact later (List.mem_of_getElem? found)

/-- Names that are given items hold the item in their last place. -/
theorem get?_assign_zip {names : List String} {items : List Value} {name : String} {i : Nat}
    (h : IsLastPlace names name i) (count : items.length = names.length) (scope : Dictionary Value) :
    (scope.assign (names.zip items)).get? name = items[i]? := by
  induction names generalizing items i scope with
  | nil => cases h.here
  | cons n rest ih =>
    cases items with
    | nil => cases count
    | cons v items =>
      cases i with
      | zero =>
        obtain rfl : n = name := Option.some.inj h.here
        have later : n ∉ rest := by
          intro mem
          obtain ⟨j, found⟩ := List.getElem?_of_mem mem
          exact h.last (j + 1) (Nat.succ_pos j) found
        show ((scope.insert n v).assign (rest.zip items)).get? n = some v
        have others : ∀ e ∈ rest.zip items, e.1 ≠ n :=
          fun e mem same => later (same ▸ (List.of_mem_zip mem).1)
        exact (Dictionary.get?_foldl_of_ne others _).trans (Dictionary.get?_insert_self scope n v)
      | succ i =>
        have rest' : IsLastPlace rest name i :=
          ⟨h.here, fun j lt => h.last (j + 1) (Nat.succ_lt_succ lt)⟩
        exact ih rest' (Nat.succ.inj count) (scope.insert n v)

/-! ## In place -/

theorem setNames_apply (names : List String) (items : List Value) (scope : Dictionary Value) :
    setNames names items scope = .ok () (scope.assign (names.zip items)) := by
  induction names generalizing items scope with
  | nil => rfl
  | cons n rest ih =>
    cases items with
    | nil => rfl
    | cons v items => exact ih items (scope.insert n v)

/-- Binding in place leaves the scope that binding gives; where that is a fault, nothing has been
changed. -/
theorem Target.bindInPlace_apply (target : Target) (v : Value) (scope : Dictionary Value) :
    target.bindInPlace v scope = match target.bind v scope with
      | .ok bound => .ok () bound
      | .error fault => .error fault scope := by
  cases target with
  | name n => rfl
  | unpack names =>
    unfold bindInPlace bind
    dsimp only
    cases v.iterate with
    | error cause => rfl
    | ok items =>
      dsimp only
      by_cases few : items.length < names.length
      · rw [if_pos few, if_pos few]
        rfl
      · rw [if_neg few, if_neg few]
        by_cases many : names.length < items.length
        · rw [if_pos many, if_pos many]
          rfl
        · rw [if_neg many, if_neg many]
          exact setNames_apply names items scope

end TextTemplate
