import Mathlib
import TextTemplate.Proofs.Number.Progression
import TextTemplate.Value.Access
import TextTemplate.Value.Arithmetic

/-!
# Slices

The bounds of a slice stand for places in the sequence (`sliceStart`, `sliceStop`), and the indices are
the run of terms from the one to the other (`isRun_sliceIndices`).  None of them lies outside the
sequence (`inside_of_mem`), so nothing is left out where the elements at the indices are selected
(`map_some_select`).  A slice up to a place and the slice from there on make up the sequence, and two
slices backward give it back.  The main result is `slice_selects`.

The walk over the indices ends, too, where the next index would not fit into 64 bits.  That never hides
an element, as no sequence in memory has more than `2 ^ 63 - 1` of them.
-/

namespace TextTemplate.Value

open Number

/-! ## Sequences -/

/-- A list is the sequence of its elements, a text that of its characters. -/
inductive IsSequence : Value → List Value → Prop
  | list (items : List Value) : IsSequence (.list items) items
  | text (s : String) : IsSequence (.text s) (s.toList.map fun c => .text (String.singleton c))

theorem singleton_injective : Function.Injective fun c => Value.text (String.singleton c) := by
  intro c d same
  have same : (String.singleton c).toList = (String.singleton d).toList := by
    rw [(Value.text.inj same)]
  simpa using same

namespace IsSequence

variable {v w : Value} {items more : List Value}

/-- Two values of one kind with the same elements are the same. -/
theorem unique (hv : IsSequence v items) (hw : IsSequence w items) (kind : v.kind = w.kind) : v = w := by
  cases hv with
  | list =>
    cases hw with
    | list => rfl
    | text => cases kind
  | text s =>
    generalize same : s.toList.map _ = chars at hw
    cases hw with
    | list => cases kind
    | text s' =>
      have := singleton_injective.list_map same
      rw [String.toList_injective this]

/-- Sequences of one kind are joined by `+`. -/
theorem add (hv : IsSequence v items) (hw : IsSequence w more) (kind : v.kind = w.kind) :
    ∃ joined, v.add w = .ok joined ∧ joined.kind = v.kind ∧ IsSequence joined (items ++ more) := by
  cases hv with
  | list =>
    cases hw with
    | list => exact ⟨_, rfl, rfl, .list _⟩
    | text => cases kind
  | text s =>
    cases hw with
    | list => cases kind
    | text s' =>
      refine ⟨_, rfl, rfl, ?_⟩
      rw [← List.map_append, ← String.toList_append]
      exact .text _

end IsSequence

/-! ## Selecting -/

section Select

variable {α β : Type} {items result : List α} {indices : List Int}

theorem select_cons (items : List α) (i : Int) (rest : List Int) :
    select items (i :: rest) = items[i.toNat]?.toList ++ select items rest := by
  unfold select
  dsimp only
  rw [List.filterMap_cons, List.getElem?_toArray]
  cases items[i.toNat]? <;> rfl

theorem select_map (f : α → β) (items : List α) (indices : List Int) :
    select (items.map f) indices = (select items indices).map f := by
  induction indices with
  | nil => rfl
  | cons i rest ih =>
    rw [select_cons, select_cons, ih, List.map_append, List.getElem?_map]
    cases items[i.toNat]? <;> rfl

/-- Nothing is left out of the elements at indices that lie in the sequence. -/
theorem map_some_select (inside : ∀ i ∈ indices, 0 ≤ i ∧ i < items.length) :
    (select items indices).map some = indices.map fun i => items[i.toNat]? := by
  induction indices with
  | nil => rfl
  | cons i rest ih =>
    rw [List.forall_mem_cons] at inside
    have here : i.toNat < items.length := by omega
    rw [select_cons, List.getElem?_eq_getElem here, List.map_append, ih inside.2, List.map_cons,
      List.getElem?_eq_getElem here]
    rfl

/-- What is selected, told place by place. -/
theorem select_eq (inside : ∀ i ∈ indices, 0 ≤ i ∧ i < items.length)
    (length : result.length = indices.length)
    (place : ∀ (j : Nat) (h : j < indices.length), items[indices[j].toNat]? = result[j]?) :
    select items indices = result := by
  refine (Option.some_injective α).list_map ?_
  rw [map_some_select inside]
  refine List.ext_getElem (by rw [List.length_map, List.length_map, length]) fun j h h' => ?_
  rw [List.length_map] at h h'
  rw [List.getElem_map, List.getElem_map, place j h, List.getElem?_eq_getElem h']

end Select

/-! ## Bounds -/

/-- The place that a bound stands for: a negative one counts from the end, and a place outside is moved to
the nearest one that a slice may start at or stop before. -/
def slicePlace (n : Nat) (step bound : Int) : Int :=
  let place := if bound < 0 then bound + n else bound
  if 0 < step then max 0 (min place n) else max (-1) (min place (n - 1))

/-- The place where a slice starts. -/
def sliceStart (n : Nat) (step : Int) : Option Int64 → Int
  | some bound => slicePlace n step bound.toInt
  | none => if 0 < step then 0 else n - 1

/-- The place that a slice stops before. -/
def sliceStop (n : Nat) (step : Int) : Option Int64 → Int
  | some bound => slicePlace n step bound.toInt
  | none => if 0 < step then n else -1

theorem clampBound_eq (n : Nat) (step bound : Int) : clampBound n (if 0 < step then 0 else -1)
    (if 0 < step then n else n - 1) bound = slicePlace n step bound := by
  unfold clampBound slicePlace
  dsimp only
  split <;> omega

section Indices

variable {n : Nat} {step : Int} {start stop : Option Int64}

/-- The places that a slice may start at or stop before. -/
def SlicePlace (n : Nat) (step place : Int) : Prop :=
  if 0 < step then 0 ≤ place ∧ place ≤ n else -1 ≤ place ∧ place ≤ n - 1

theorem slicePlace_within (n : Nat) (step bound : Int) : SlicePlace n step (slicePlace n step bound) := by
  unfold SlicePlace slicePlace
  dsimp only
  split <;> omega

theorem sliceStart_within (n : Nat) (step : Int) (start : Option Int64) :
    SlicePlace n step (sliceStart n step start) := by
  cases start with
  | some bound => exact slicePlace_within ..
  | none =>
    simp only [SlicePlace, sliceStart]
    split <;> omega

theorem sliceStop_within (n : Nat) (step : Int) (stop : Option Int64) :
    SlicePlace n step (sliceStop n step stop) := by
  cases stop with
  | some bound => exact slicePlace_within ..
  | none =>
    simp only [SlicePlace, sliceStop]
    split <;> omega

theorem SlicePlace.fits {place : Int} (h : SlicePlace n step place) (fits : (n : Int) ≤ maxInt) :
    minInt ≤ place ∧ place ≤ maxInt := by
  unfold SlicePlace at h
  unfold minInt maxInt at *
  split at h <;> omega

theorem sliceIndices_eq : sliceIndices n (start.map Int64.toInt) (stop.map Int64.toInt) step =
    (walk step (sliceStop n step stop) #[] (sliceStart n step start)).toList := by
  unfold sliceIndices
  by_cases up : 0 < step
  · have place (bound : Int) : clampBound n 0 n bound = slicePlace n step bound := by
      have := clampBound_eq n step bound
      rwa [if_pos up, if_pos up] at this
    cases start <;> cases stop <;> simp [up, place, sliceStart, sliceStop]
  · have place (bound : Int) : clampBound n (-1) (n - 1) bound = slicePlace n step bound := by
      have := clampBound_eq n step bound
      rwa [if_neg up, if_neg up] at this
    cases start <;> cases stop <;> simp [up, place, sliceStart, sliceStop]

/-- The indices of a slice are all terms from its start on that lie before its stop. -/
theorem isRun_sliceIndices (step : Int) (start stop : Option Int64) (fits : (n : Int) ≤ maxInt) :
    IsRun step (sliceStart n step start) (sliceStop n step stop)
      (sliceIndices n (start.map Int64.toInt) (stop.map Int64.toInt) step) := by
  rw [sliceIndices_eq]
  exact isRun_walk ((sliceStop_within ..).fits fits) ((sliceStart_within ..).fits fits)

/-- No index lies outside the sequence. -/
theorem inside_of_mem (fits : (n : Int) ≤ maxInt) :
    ∀ i ∈ sliceIndices n (start.map Int64.toInt) (stop.map Int64.toInt) step, 0 ≤ i ∧ i < n := by
  intro i mem
  obtain ⟨k, rfl, before⟩ := (isRun_sliceIndices step start stop fits).exists_of_mem mem
  have between := before.between
  have first := sliceStart_within n step start
  have last := sliceStop_within n step stop
  unfold SlicePlace at first last
  rcases before with ⟨up, before⟩ | ⟨down, before⟩
  · rw [if_pos up] at first last
    omega
  · rw [if_neg (Int.lt_asymm down)] at first last
    omega

end Indices

/-! ## Two parts, and backward -/

section Parts

variable {α : Type} {items : List α} {indices : List Int}

/-- The elements between two places. -/
theorem select_up (first stop : Nat) (run : IsRun 1 first stop indices)
    (within : stop ≤ items.length) : select items indices = (items.take stop).drop first := by
  have count : indices.length = stop - first := run.length_eq fun k => by
    unfold Before
    omega
  refine select_eq ?_ ?_ ?_
  · intro i mem
    obtain ⟨k, rfl, before⟩ := run.exists_of_mem mem
    unfold Before at before
    omega
  · rw [List.length_drop, List.length_take, count]
    omega
  · intro j h
    have place : ((first : Int) + j * 1).toNat = first + j := by omega
    rw [run.term j h, place, List.getElem?_drop, List.getElem?_take, if_pos (by omega)]

/-- All elements backward. -/
theorem select_down (run : IsRun (-1) (items.length - 1) (-1) indices) :
    select items indices = items.reverse := by
  have count : indices.length = items.length := run.length_eq fun k => by
    unfold Before
    omega
  refine select_eq ?_ ?_ ?_
  · intro i mem
    obtain ⟨k, rfl, before⟩ := run.exists_of_mem mem
    unfold Before at before
    omega
  · rw [List.length_reverse, count]
  · intro j h
    have place : ((items.length : Int) - 1 + j * -1).toNat = items.length - 1 - j := by omega
    rw [run.term j h, place, List.getElem?_reverse (by omega)]

variable (fits : (items.length : Int) ≤ maxInt)

include fits

/-- Without a start a slice takes what stands in front of its stop, and without a stop what stands behind. -/
theorem select_parts (k : Int64) : ∃ place : Nat,
    select items (sliceIndices items.length none (some k.toInt) 1) = items.take place ∧
      select items (sliceIndices items.length (some k.toInt) none 1) = items.drop place := by
  obtain ⟨low, high⟩ : 0 ≤ slicePlace items.length 1 k.toInt ∧
      slicePlace items.length 1 k.toInt ≤ items.length := slicePlace_within _ 1 k.toInt
  obtain ⟨place, eq⟩ := Int.eq_ofNat_of_zero_le low
  rw [eq] at high
  have front := isRun_sliceIndices 1 none (some k) fits
  have back := isRun_sliceIndices 1 (some k) none fits
  rw [sliceStop, eq] at front
  rw [sliceStart, eq] at back
  refine ⟨place, ?_, ?_⟩
  · exact select_up 0 place front (by omega)
  · have dropped := select_up place items.length back (Nat.le_refl _)
    rwa [List.take_length] at dropped

theorem select_backward : select items (sliceIndices items.length none none (-1)) = items.reverse :=
  select_down (isRun_sliceIndices (-1) none none fits)

end Parts

/-! ## Slices of sequences -/

variable {v : Value} {items : List Value}

/-- A slice selects the elements at its indices. -/
theorem slice_of_sequence (sequence : IsSequence v items) (start stop step : Option Int64)
    (nonzero : step ≠ some 0) :
    ∃ w, v.slice (start.map .int) (stop.map .int) (step.map .int) = .ok w ∧ w.kind = v.kind ∧
      IsSequence w (select items (sliceIndices items.length (start.map Int64.toInt)
        (stop.map Int64.toInt) (step.getD 1).toInt)) := by
  have bound (name : String) (n : Option Int64) :
      sliceBound name (n.map .int) = .ok (n.map Int64.toInt) := by
    cases n <;> rfl
  have stride : (step.map Int64.toInt).getD 1 = (step.getD 1).toInt := by
    cases step <;> rfl
  have nonzero : (step.getD 1).toInt ≠ 0 := by
    cases step with
    | none => decide
    | some n => exact fun zero => nonzero (congrArg some (Int64.toInt_inj.1 zero))
  unfold slice
  rw [bound, bound, bound]
  dsimp only [bind, Except.bind]
  rw [stride, if_neg nonzero]
  cases sequence with
  | list => exact ⟨_, rfl, rfl, .list _⟩
  | text s =>
    refine ⟨_, rfl, rfl, ?_⟩
    rw [select_map, List.length_map]
    have chars := IsSequence.text (String.ofList (select s.toList
      (sliceIndices s.toList.length (start.map Int64.toInt) (stop.map Int64.toInt) (step.getD 1).toInt)))
    rwa [String.toList_ofList] at chars

/-- A slice up to a place and the slice from there on make up the sequence. -/
theorem slice_add_slice (sequence : IsSequence v items) (fits : (items.length : Int) ≤ maxInt)
    (k : Int64) :
    ∃ front back, v.slice none (some (.int k)) none = .ok front ∧
      v.slice (some (.int k)) none none = .ok back ∧ front.add back = .ok v := by
  obtain ⟨place, taken, dropped⟩ := select_parts fits k
  obtain ⟨front, sliced, kind, first⟩ := slice_of_sequence sequence none (some k) none nofun
  obtain ⟨back, sliced', kind', second⟩ := slice_of_sequence sequence (some k) none none nofun
  have first : IsSequence front (items.take place) := by rwa [← taken]
  have second : IsSequence back (items.drop place) := by rwa [← dropped]
  obtain ⟨joined, sum, kind'', whole⟩ := first.add second (kind.trans kind'.symm)
  rw [List.take_append_drop] at whole
  refine ⟨front, back, sliced, sliced', ?_⟩
  rw [sum, whole.unique sequence (kind''.trans kind)]

/-- What is backward twice is the sequence again. -/
theorem slice_backward_twice (sequence : IsSequence v items) (fits : (items.length : Int) ≤ maxInt) :
    ∃ w, v.slice none none (some (.int (-1))) = .ok w ∧
      w.slice none none (some (.int (-1))) = .ok v := by
  have minus : some (-1 : Int64) ≠ some 0 := by decide
  obtain ⟨w, sliced, kind, backward⟩ := slice_of_sequence sequence none none (some (-1)) minus
  have backward : IsSequence w items.reverse := by rwa [← select_backward fits]
  rw [← List.length_reverse] at fits
  obtain ⟨u, sliced', kind', forward⟩ := slice_of_sequence backward none none (some (-1)) minus
  have forward : IsSequence u items.reverse.reverse := by rwa [← select_backward fits]
  rw [List.reverse_reverse] at forward
  refine ⟨w, sliced, ?_⟩
  rw [← forward.unique sequence (kind'.trans kind)]
  exact sliced'

/-- **A slice selects exactly the right elements**, whatever the bounds and the step are.  Its indices lie
in the sequence, so none is passed over; they are all terms from the start on that lie before the stop,
up to the last one there is.  So `v[:k] + v[k:]` is `v` again, and `v[::-1][::-1]` is. -/
theorem slice_selects {v : Value} {items : List Value} (sequence : IsSequence v items)
    (fits : (items.length : Int) ≤ maxInt) :
    (∀ start stop step : Option Int64, step ≠ some 0 →
      let stride := (step.getD 1).toInt
      let indices := sliceIndices items.length (start.map Int64.toInt) (stop.map Int64.toInt) stride
      (∀ i ∈ indices, 0 ≤ i ∧ i < items.length) ∧
      IsRun stride (sliceStart items.length stride start) (sliceStop items.length stride stop) indices ∧
      ∃ w picked, v.slice (start.map .int) (stop.map .int) (step.map .int) = .ok w ∧
        w.kind = v.kind ∧ IsSequence w picked ∧
        picked.map some = indices.map fun i => items[i.toNat]?) ∧
    (∀ k : Int64, ∃ front back, v.slice none (some (.int k)) none = .ok front ∧
      v.slice (some (.int k)) none none = .ok back ∧ front.add back = .ok v) ∧
    ∃ w, v.slice none none (some (.int (-1))) = .ok w ∧
      w.slice none none (some (.int (-1))) = .ok v := by
  refine ⟨fun start stop step nonzero => ?_, slice_add_slice sequence fits,
    slice_backward_twice sequence fits⟩
  obtain ⟨w, sliced, kind, picked⟩ := slice_of_sequence sequence start stop step nonzero
  exact ⟨inside_of_mem fits, isRun_sliceIndices _ _ _ fits, w, _, sliced, kind, picked,
    map_some_select (inside_of_mem fits)⟩

/-- A step so wide that no second index fits into 64 bits takes the one character at the start. -/
theorem slice_beyond_integers : (("añz".toList.map fun c => Value.text (String.singleton c)).length : Int)
      ≤ maxInt ∧ some Int64.maxValue ≠ some 0 ∧
    (Value.text "añz").slice (some (.int 1)) none (some (.int Int64.maxValue)) = .ok (.text "ñ") := by
  have fits : (("añz".toList.map fun c => Value.text (String.singleton c)).length : Int) ≤ maxInt := by
    decide
  have nonzero : some Int64.maxValue ≠ some 0 := by decide
  obtain ⟨inside, run, w, picked, sliced, kind, sequence, elements⟩ :=
    (slice_selects (.text "añz") fits).1 (some 1) none (some Int64.maxValue) nonzero
  have indices : sliceIndices 3 (some 1) none Int64.maxValue.toInt = [1] := by
    have before : Before Int64.maxValue.toInt 1 3 := by decide
    have beyond : ¬ (minInt ≤ 1 + Int64.maxValue.toInt ∧ 1 + Int64.maxValue.toInt ≤ maxInt) := by decide
    change (walk Int64.maxValue.toInt 3 #[] 1).toList = [1]
    rw [walk, if_pos before, if_neg beyond]
    rfl
  have elements : picked.map some = [some (.text "ñ")] := elements.trans (by
    change List.map _ (sliceIndices 3 (some 1) none Int64.maxValue.toInt) = _
    rw [indices]
    rfl)
  have picked_eq : picked = [.text "ñ"] := Option.some_injective _ |>.list_map elements
  rw [picked_eq] at sequence
  have := sequence.unique (.text "ñ") kind
  rw [this] at sliced
  exact ⟨fits, nonzero, sliced⟩

end TextTemplate.Value
