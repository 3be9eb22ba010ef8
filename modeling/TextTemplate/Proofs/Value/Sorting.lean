import Mathlib
import TextTemplate.Function.Global
import TextTemplate.Proofs.Value.Comparison

/-!
# The order that a sort goes by

A sort is handed a comparison that has a result for any two items (`comparator`): those without an order
count as equal, and the first failure is reported behind the end (`sort_eq`).  The result can always be
turned around.  It is a total order on the items of a list if all of them have an order and no float
among them is equal to two different integers (`Sortable`); then the list is sorted by it.  The main
result is `sorted_by_comparator`.

Neither condition can be left out.  Next to an item without an order, or next to a float that two
integers are rounded to, equality does not carry over from one pair to the next
(`Rounded.comparator_not_transitive`).
-/

namespace TextTemplate.Value

open Number

/-- The comparison that a sort goes by: values without an order count as equal. -/
def comparator (v w : Value) : Ordering :=
  match v.compare w with
  | .ok o => o
  | .error _ => .eq

/-- The failure of a comparison. -/
def failure? (v w : Value) : Option EvalFault :=
  match v.compare w with
  | .ok _ => none
  | .error cause => some cause

/-! ## Going on past a failure -/

/-- Puts an item among sorted ones, which stand greatest first, and keeps the first failure. -/
def insertAnyway (v : Value) : List Value → List Value × Option EvalFault
  | [] => ([v], none)
  | w :: rest =>
    match comparator v w with
    | .lt => (w :: (insertAnyway v rest).1, (failure? v w).or (insertAnyway v rest).2)
    | _ => (v :: w :: rest, failure? v w)

/-- Puts items among sorted ones, which stand greatest first, and keeps the first failure. -/
def sortAnyway (sorted : List Value) : List Value → List Value × Option EvalFault
  | [] => (sorted, none)
  | v :: rest =>
    let inserted := insertAnyway v sorted
    let (items, later) := sortAnyway inserted.1 rest
    (items, inserted.2.or later)

/-- What a failure leaves of a list. -/
def reported (run : List Value × Option EvalFault) : Except EvalFault (List Value) :=
  match run.2 with
  | some cause => .error cause
  | none => .ok run.1

section Anyway

variable {v w : Value} {o : Ordering} {cause : EvalFault}

theorem comparator_of_ok (h : v.compare w = .ok o) : comparator v w = o := by
  rw [comparator, h]

theorem comparator_of_error (h : v.compare w = .error cause) : comparator v w = .eq := by
  rw [comparator, h]

theorem failure?_of_ok (h : v.compare w = .ok o) : failure? v w = none := by
  rw [failure?, h]

theorem failure?_of_error (h : v.compare w = .error cause) : failure? v w = some cause := by
  rw [failure?, h]

theorem insertSorted_eq (v : Value) (sorted : List Value) :
    insertSorted v sorted = reported (insertAnyway v sorted) := by
  induction sorted with
  | nil => rfl
  | cons w rest ih =>
    rw [insertSorted, insertAnyway]
    cases h : v.compare w with
    | error cause =>
      rw [comparator_of_error h, failure?_of_error h]
      rfl
    | ok o =>
      rw [comparator_of_ok h, failure?_of_ok h]
      cases o with
      | lt =>
        rw [ih]
        unfold reported
        dsimp only [Option.none_or]
        cases (insertAnyway v rest).2 <;> rfl
      | eq => rfl
      | gt => rfl

theorem sortInto_eq (sorted items : List Value) :
    sortInto sorted items = reported (sortAnyway sorted items) := by
  induction items generalizing sorted with
  | nil => rfl
  | cons v rest ih =>
    rw [sortInto, sortAnyway, insertSorted_eq]
    unfold reported
    cases h : (insertAnyway v sorted).2 with
    | some cause => rfl
    | none => exact ih _

/-- A sort is one that goes on past failures, except that the first one is all that is left of it. -/
theorem sort_eq (items : List Value) :
    sort items = (reported (sortAnyway [] items)).map List.reverse := by
  rw [sort, sortInto_eq]

end Anyway

/-! ## The laws -/

/-- The comparison of a sort can be turned around, also where there is no order. -/
theorem comparator_swap (v w : Value) : comparator w v = (comparator v w).swap := by
  cases h : v.compare w with
  | ok o =>
    have back := (compare_iff.1 h).swap.compare_eq
    rw [comparator_of_ok h, comparator_of_ok back]
  | error cause =>
    rw [comparator_of_error h]
    cases back : w.compare v with
    | ok o => cases h.symm.trans (compare_iff.1 back).swap.compare_eq
    | error cause' => exact comparator_of_error back

theorem comparator_ne_lt_iff {v w : Value} : comparator v w ≠ .lt ↔ comparator w v ≠ .gt := by
  rw [comparator_swap v w, ne_eq, ne_eq, Ordering.swap_eq_gt]

/-- The items of a list and all values inside of them. -/
def PartOf (items : List Value) (w : Value) : Prop := ∃ v ∈ items, v.Part w

theorem PartOf.item {items held : List Value} {w : Value} (h : PartOf items (.list held))
    (mem : w ∈ held) : PartOf items w := by
  obtain ⟨v, hv, part⟩ := h
  exact ⟨v, hv, part.item mem⟩

/-- Items of which every two have an order, and among which no float is equal to two different
integers. -/
structure Sortable (items : List Value) : Prop where
  ordered : ∀ v ∈ items, ∀ w ∈ items, ∃ o, v.compare w = .ok o
  separate : Separate (PartOf items)

section Sortable

variable {items sorted rest : List Value} {u v w : Value}

/-- Items without floats are sortable if every two of them have an order. -/
theorem sortable_of_floatFree (ordered : ∀ v ∈ items, ∀ w ∈ items, ∃ o, v.compare w = .ok o)
    (free : ∀ v ∈ items, v.FloatFree) : Sortable items where
  ordered
  separate.item := PartOf.item
  separate.apart := fun ⟨v, mem, part⟩ _ _ _ _ => absurd part (free v mem _)

/-- Items with integers of at most 53 bits are sortable if every two of them have an order. -/
theorem sortable_of_small (ordered : ∀ v ∈ items, ∀ w ∈ items, ∃ o, v.compare w = .ok o)
    (small : ∀ n, PartOf items (.int n) → -2 ^ 53 ≤ n.toInt ∧ n.toInt ≤ 2 ^ 53) :
    Sortable items where
  ordered
  separate.item := PartOf.item
  separate.apart := by
    intro x m n _ hm hn left right
    have same : placeOfInt m.toInt = placeOfInt n.toInt :=
      Option.some_inj.1 ((place?_of_equals left).symm.trans (place?_of_equals right))
    obtain ⟨lowM, highM⟩ := small m hm
    obtain ⟨lowN, highN⟩ := small n hn
    rcases lt_trichotomy m.toInt n.toInt with lt | eq | gt
    · exact absurd same (placeOfInt_lt lt lowM highN).ne
    · exact Int64.toInt_inj.1 eq
    · exact absurd same (placeOfInt_lt gt lowN highM).ne'

theorem Sortable.trans (sortable : Sortable items) (hu : u ∈ items) (hv : v ∈ items)
    (hw : w ∈ items) (first : comparator u v ≠ .gt) (second : comparator v w ≠ .gt) :
    comparator u w ≠ .gt := by
  obtain ⟨o, uv⟩ := sortable.ordered u hu v hv
  obtain ⟨o', vw⟩ := sortable.ordered v hv w hw
  rw [comparator_of_ok uv] at first
  rw [comparator_of_ok vw] at second
  have row := (compare_iff.1 uv).trans sortable.separate (compare_iff.1 vw) ⟨u, hu, .self⟩
    ⟨v, hv, .self⟩ ⟨w, hw, .self⟩ first second
  rw [comparator_of_ok row.compare_eq]
  exact then_ne_gt first second

/-! ## Sorted lists -/

/-- Items in descending order. -/
def Descending (items : List Value) : Prop := items.Pairwise fun v w => comparator v w ≠ .lt

theorem Sortable.insert (sortable : Sortable items) (hv : v ∈ items) (held : ∀ w ∈ sorted, w ∈ items)
    (descending : Descending sorted) :
    ∃ inserted, insertSorted v sorted = .ok inserted ∧ inserted.Perm (v :: sorted) ∧
      Descending inserted := by
  induction sorted with
  | nil => exact ⟨[v], rfl, .refl _, List.pairwise_singleton _ _⟩
  | cons w rest ih =>
    obtain ⟨hw, others⟩ := List.forall_mem_cons.1 held
    obtain ⟨below, tail⟩ := List.pairwise_cons.1 descending
    obtain ⟨o, order⟩ := sortable.ordered v hv w hw
    rw [insertSorted, order]
    by_cases less : o = .lt
    · obtain ⟨inserted, eq, perm, lower⟩ := ih others tail
      subst less
      refine ⟨w :: inserted, ?_, (perm.cons w).trans (.swap v w rest), List.pairwise_cons.2 ⟨?_, lower⟩⟩
      · rw [eq]
        rfl
      · intro u hu
        obtain rfl | hu := List.mem_cons.1 (perm.mem_iff.1 hu)
        · rw [comparator_swap u w, comparator_of_ok order]
          nofun
        · exact below u hu
    · have here : comparator v w ≠ .lt := by rwa [comparator_of_ok order]
      refine ⟨v :: w :: rest, ?_, .refl _, List.pairwise_cons.2 ⟨?_, descending⟩⟩
      · cases o with
        | lt => exact absurd rfl less
        | eq => rfl
        | gt => rfl
      · rw [List.forall_mem_cons]
        refine ⟨here, fun u hu => ?_⟩
        have next := below u hu
        rw [comparator_ne_lt_iff] at here next ⊢
        exact sortable.trans (others u hu) hw hv next here

theorem Sortable.sortInto (sortable : Sortable items) (more : ∀ v ∈ rest, v ∈ items)
    (held : ∀ w ∈ sorted, w ∈ items) (descending : Descending sorted) :
    ∃ result, sortInto sorted rest = .ok result ∧ result.Perm (rest ++ sorted) ∧
      Descending result := by
  induction rest generalizing sorted with
  | nil => exact ⟨sorted, rfl, .refl _, descending⟩
  | cons v rest ih =>
    obtain ⟨hv, more⟩ := List.forall_mem_cons.1 more
    obtain ⟨inserted, eq, perm, lower⟩ := sortable.insert hv held descending
    have held' : ∀ w ∈ inserted, w ∈ items := by
      intro w hw
      obtain rfl | hw := List.mem_cons.1 (perm.mem_iff.1 hw)
      · exact hv
      · exact held w hw
    obtain ⟨result, eq', perm', lowest⟩ := ih more held' lower
    refine ⟨result, ?_, ?_, lowest⟩
    · rw [Value.sortInto, eq]
      exact eq'
    · exact perm'.trans ((perm.append_left rest).trans List.perm_middle)

end Sortable

theorem sorted_call (items : List Value) :
    Global.sorted.call [.list items] = (sort items).map .list := by
  show (sort items >>= fun sorted => pure (Value.list sorted)) = _
  cases sort items <;> rfl

/-- **The comparison of a sort** has a result for any two values, and goes on where they have no order;
of the sort then the first failure is left.  It can be turned around.  It is transitive on items that all
have an order, if no float among them is equal to two different integers: then they are sorted by it. -/
theorem sorted_by_comparator (items : List Value) :
    Global.sorted.call [.list items] =
      ((reported (sortAnyway [] items)).map fun sorted => .list sorted.reverse) ∧
    (∀ v w : Value, comparator w v = (comparator v w).swap) ∧
    (Sortable items →
      (∀ u ∈ items, ∀ v ∈ items, ∀ w ∈ items,
        comparator u v ≠ .gt → comparator v w ≠ .gt → comparator u w ≠ .gt) ∧
      ∃ sorted, Global.sorted.call [.list items] = .ok (.list sorted) ∧ sorted.Perm items ∧
        sorted.Pairwise fun v w => comparator v w ≠ .gt) := by
  rw [sorted_call]
  refine ⟨?_, comparator_swap, fun sortable => ⟨?_, ?_⟩⟩
  · rw [sort_eq]
    cases reported (sortAnyway [] items) <;> rfl
  · intro u hu v hv w hw
    exact sortable.trans hu hv hw
  · obtain ⟨result, eq, perm, descending⟩ := sortable.sortInto (fun v hv => hv)
      (List.forall_mem_nil _) List.Pairwise.nil
    refine ⟨result.reverse, ?_, ?_, ?_⟩
    · rw [sort, eq]
      rfl
    · rw [List.append_nil] at perm
      exact (List.reverse_perm result).trans perm
    · rw [List.pairwise_reverse]
      exact descending.imp comparator_ne_lt_iff.1

namespace Rounded

/-- A float between two integers that have an order with it and with each other. -/
def apart : List Value := [.int 2, .float 1.5, .bool true]

theorem sortable_apart : Sortable apart := by
  have parts : ∀ w, PartOf apart w → w = .int 2 ∨ w = .float 1.5 ∨ w = .bool true := by
    rintro w ⟨v, mem, part⟩
    simp only [apart, List.mem_cons, List.not_mem_nil, or_false] at mem
    rcases mem with rfl | rfl | rfl <;>
    · obtain rfl | ⟨items, eq, -⟩ | ⟨entries, eq, -⟩ := part_iff.1 part
      · simp
      · cases eq
      · cases eq
  constructor
  · intro v hv w hw
    simp only [apart, List.mem_cons, List.not_mem_nil, or_false] at hv hw
    rcases hv with rfl | rfl | rfl <;> rcases hw with rfl | rfl | rfl <;> exact ⟨_, rfl⟩
  · constructor
    · intro items w
      exact PartOf.item
    · intro x m n _ hm hn _ _
      have hm := parts _ hm
      have hn := parts _ hn
      simp only [Value.int.injEq, reduceCtorEq, or_false] at hm hn
      rw [hm, hn]

/-- Three numbers of different kinds are sorted. -/
theorem sorted_apart : Sortable apart ∧
    ∃ sorted, Global.sorted.call [.list apart] = .ok (.list sorted) ∧ sorted.Perm apart ∧
      sorted.Pairwise fun v w => comparator v w ≠ .gt :=
  ⟨sortable_apart, ((sorted_by_comparator apart).2.2 sortable_apart).2⟩

/-- An integer, the float that it is rounded to, and the integer that is equal to the float. -/
def close : List Value :=
  [.int 9007199254740993, .float 9007199254740992, .int 9007199254740992]

/-- **The comparison is not transitive.**  Two integers are equal to the float between them and not to
each other, so a list of the three is left in descending order.  Two integers count as equal to the text
between them, too, with which they have no order. -/
theorem comparator_not_transitive :
    (comparator close[0] close[1] = .eq ∧ comparator close[1] close[2] = .eq ∧
      comparator close[0] close[2] = .gt) ∧
    Global.sorted.call [.list close] = .ok (.list close) ∧
    comparator (.int 1) (.text "a") = .eq ∧ comparator (.text "a") (.int 0) = .eq ∧
      comparator (.int 1) (.int 0) = .gt :=
  ⟨⟨rfl, rfl, rfl⟩, rfl, rfl, rfl, rfl⟩

end Rounded

end TextTemplate.Value
