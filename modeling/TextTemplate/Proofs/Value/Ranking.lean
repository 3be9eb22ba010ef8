import Mathlib
import TextTemplate.Proofs.Value.Sorting

/-!
# Sorted items and their extremes

Items without floats are numbered by their places, and an item leads another one if it has the wanted
order with it, or is equal to it and stands in front of it (`Leads`).  So one relation says where a sort
puts an item and which of several equal items an extreme is.  It is transitive, and of two items with an
order one leads the other.

A sort compares an item only with those that are greater and with one that is not.  All others are below
that one, with which they were compared before, so by transitivity every two items have an order if the
sort goes through (`ranked_of_sort`).  The main result is `sorted_with_extremes`.
-/

namespace TextTemplate.Value

/-- Two values have an order. -/
def Comparable (v w : Value) : Prop := ∃ o, v.compare w = .ok o

theorem Comparable.symm {v w : Value} (h : Comparable v w) : Comparable w v := by
  obtain ⟨o, eq⟩ := h
  exact ⟨o.swap, (compare_iff.1 eq).swap.compare_eq⟩

/-- A numbered item has the wanted order with another one, or is equal to it and has the lower
number. -/
def Leads (wanted : Ordering) (a b : Value × Nat) : Prop :=
  a.1.compare b.1 = .ok wanted ∨ a.1.compare b.1 = .ok .eq ∧ a.2 < b.2

section Leads

variable {wanted : Ordering} {a b c : Value × Nat}

theorem Leads.comparable (h : Leads wanted a b) : Comparable a.1 b.1 := by
  rcases h with order | ⟨order, -⟩
  · exact ⟨_, order⟩
  · exact ⟨_, order⟩

/-- The order of a leading item with another one, read from the other one. -/
theorem Leads.back (h : Leads wanted a b) :
    b.1.compare a.1 = .ok wanted.swap ∨ b.1.compare a.1 = .ok .eq := by
  rcases h with order | ⟨order, -⟩
  · exact .inl (compare_iff.1 order).swap.compare_eq
  · exact .inr (compare_iff.1 order).swap.compare_eq

/-- Of two items only one leads the other. -/
theorem Leads.asymm (strict : wanted ≠ .eq) (h : Leads wanted a b) : ¬ Leads wanted b a := by
  rintro (order | ⟨order, less⟩)
  · rcases h.back with back | back
    · have same := Except.ok.inj (order.symm.trans back)
      cases wanted <;> first | exact strict rfl | cases same
    · exact strict (Except.ok.inj (order.symm.trans back))
  · rcases h with back | ⟨-, less'⟩
    · have same := (compare_iff.1 order).swap.unique (compare_iff.1 back)
      exact strict same.symm
    · exact Nat.lt_asymm less less'

/-- Values without floats in a row, in one direction or the other. -/
theorem compare_in_row (wanted : Ordering) {u v w : Value} {o o' : Ordering} (hu : u.FloatFree)
    (hv : v.FloatFree) (hw : w.FloatFree) (first : u.compare v = .ok o) (second : v.compare w = .ok o')
    (ho : o = wanted ∨ o = .eq) (ho' : o' = wanted ∨ o' = .eq) :
    u.compare w = .ok (o.then o') := by
  have first := compare_iff.1 first
  have second := compare_iff.1 second
  cases wanted with
  | lt =>
    have le : o ≠ .gt := by rcases ho with rfl | rfl <;> decide
    have le' : o' ≠ .gt := by rcases ho' with rfl | rfl <;> decide
    exact (first.trans separate_floatFree second hu hv hw le le').compare_eq
  | eq =>
    obtain rfl : o = .eq := ho.elim id id
    obtain rfl : o' = .eq := ho'.elim id id
    exact (first.trans separate_floatFree second hu hv hw (by decide) (by decide)).compare_eq
  | gt =>
    -- Turned around, the row goes in the direction in which the order is transitive.
    have le : o.swap ≠ .gt := by rcases ho with rfl | rfl <;> decide
    have le' : o'.swap ≠ .gt := by rcases ho' with rfl | rfl <;> decide
    have back := second.swap.trans separate_floatFree first.swap hw hv hu le' le
    have same : (o'.swap.then o.swap).swap = o.then o' := by
      rcases ho with rfl | rfl <;> rcases ho' with rfl | rfl <;> rfl
    rw [← same]
    exact back.swap.compare_eq

theorem Leads.trans (ha : a.1.FloatFree) (hb : b.1.FloatFree) (hc : c.1.FloatFree)
    (first : Leads wanted a b) (second : Leads wanted b c) : Leads wanted a c := by
  rcases first with ab | ⟨ab, less⟩
  · rcases second with bc | ⟨bc, -⟩
    · have ac := compare_in_row wanted ha hb hc ab bc (.inl rfl) (.inl rfl)
      left
      rw [ac]
      cases wanted <;> rfl
    · have ac := compare_in_row wanted ha hb hc ab bc (.inl rfl) (.inr rfl)
      left
      rw [ac]
      cases wanted <;> rfl
  · rcases second with bc | ⟨bc, less'⟩
    · exact .inl (compare_in_row wanted ha hb hc ab bc (.inr rfl) (.inl rfl))
    · have ac := compare_in_row wanted ha hb hc ab bc (.inr rfl) (.inr rfl)
      exact .inr ⟨ac, less.trans less'⟩

/-- An item behind another one leads it exactly if it has the wanted order; else it is led by it. -/
theorem leads_of_compare (wanted : Ordering) {v w : Value} {i j : Nat} {o : Ordering}
    (strict : wanted ≠ .eq) (less : i < j) (order : w.compare v = .ok o) :
    if o = wanted then Leads wanted (w, j) (v, i) else Leads wanted (v, i) (w, j) := by
  split
  · next same => exact .inl (same ▸ order)
  · next other =>
    have back := (compare_iff.1 order).swap.compare_eq
    by_cases equal : o = .eq
    · subst equal
      exact .inr ⟨back, less⟩
    · left
      show v.compare w = _
      rw [back]
      cases o <;> cases wanted <;> first | rfl | contradiction

end Leads

/-! ## Sorting numbered items -/

/-- Numbered items are the sorted items of a list, with their places in it. -/
structure Ranking (items : List Value) (ranked : List (Value × Nat)) : Prop where
  perm : ranked.Perm items.zipIdx
  ordered : ranked.Pairwise (Leads .lt)

section Ranking

variable {items sorted : List Value} {ranked : List (Value × Nat)} {v : Value} {k : Nat}

theorem exists_insertSorted (ordered : ∀ w ∈ sorted, Comparable v w) :
    ∃ inserted, insertSorted v sorted = .ok inserted ∧ inserted.Perm (v :: sorted) := by
  induction sorted with
  | nil => exact ⟨[v], rfl, .refl _⟩
  | cons w rest ih =>
    obtain ⟨⟨o, order⟩, others⟩ := List.forall_mem_cons.1 ordered
    obtain ⟨inserted, eq, perm⟩ := ih others
    rw [insertSorted, order]
    cases o with
    | lt =>
      rw [eq]
      exact ⟨w :: inserted, rfl, (perm.cons w).trans (.swap v w rest)⟩
    | eq => exact ⟨v :: w :: rest, rfl, .refl _⟩
    | gt => exact ⟨v :: w :: rest, rfl, .refl _⟩

/-- An item is put at its rank.  It need not be compared with the items below the first one that is not
greater, as these are led by it. -/
theorem ranked_insert {inserted : List Value} (hv : v.FloatFree) (free : ∀ a ∈ ranked, a.1.FloatFree)
    (later : ∀ a ∈ ranked, a.2 < k) (falling : ranked.Pairwise fun a b => Leads .lt b a)
    (h : insertSorted v (ranked.map Prod.fst) = .ok inserted) :
    ∃ ranked' : List (Value × Nat), inserted = ranked'.map Prod.fst ∧
      ranked'.Perm ((v, k) :: ranked) ∧ ranked'.Pairwise fun a b => Leads .lt b a := by
  induction ranked generalizing inserted with
  | nil =>
    cases h
    exact ⟨[(v, k)], rfl, .refl _, List.pairwise_singleton _ _⟩
  | cons a rest ih =>
    obtain ⟨ha, free⟩ := List.forall_mem_cons.1 free
    obtain ⟨less, later⟩ := List.forall_mem_cons.1 later
    obtain ⟨below, tail⟩ := List.pairwise_cons.1 falling
    rw [List.map_cons, insertSorted] at h
    cases order : v.compare a.1 with
    | error cause =>
      rw [order] at h
      cases h
    | ok o =>
      rw [order] at h
      have leads := leads_of_compare .lt (by decide) less order
      by_cases lt : o = .lt
      · subst lt
        cases eq : insertSorted v (rest.map Prod.fst) with
        | error cause =>
          rw [eq] at h
          cases h
        | ok put =>
          rw [eq] at h
          cases h
          obtain ⟨ranked', rfl, perm, lower⟩ := ih free later tail eq
          refine ⟨a :: ranked', rfl, (perm.cons a).trans (.swap (v, k) a rest),
            List.pairwise_cons.2 ⟨fun b hb => ?_, lower⟩⟩
          rcases List.mem_cons.1 (perm.mem_iff.1 hb) with rfl | hb
          · exact leads
          · exact below b hb
      · rw [if_neg lt] at leads
        have stays : inserted = v :: a.1 :: rest.map Prod.fst := by
          cases o with
          | lt => exact absurd rfl lt
          | eq => exact (Except.ok.inj h).symm
          | gt => exact (Except.ok.inj h).symm
        refine ⟨(v, k) :: a :: rest, stays, .refl _, List.pairwise_cons.2 ⟨?_, falling⟩⟩
        rw [List.forall_mem_cons]
        exact ⟨leads, fun b hb => (below b hb).trans (free b hb) ha hv leads⟩

theorem ranked_sortInto {result : List Value} (hitems : ∀ v ∈ items, v.FloatFree)
    (free : ∀ a ∈ ranked, a.1.FloatFree) (later : ∀ a ∈ ranked, a.2 < k)
    (falling : ranked.Pairwise fun a b => Leads .lt b a)
    (h : sortInto (ranked.map Prod.fst) items = .ok result) :
    ∃ ranked' : List (Value × Nat), result = ranked'.map Prod.fst ∧
      ranked'.Perm (items.zipIdx k ++ ranked) ∧ ranked'.Pairwise fun a b => Leads .lt b a := by
  induction items generalizing ranked k with
  | nil =>
    cases h
    exact ⟨ranked, rfl, .refl _, falling⟩
  | cons v rest ih =>
    obtain ⟨hv, hrest⟩ := List.forall_mem_cons.1 hitems
    rw [sortInto] at h
    cases put : insertSorted v (ranked.map Prod.fst) with
    | error cause =>
      rw [put] at h
      cases h
    | ok inserted =>
      rw [put] at h
      obtain ⟨next, rfl, perm, falling'⟩ := ranked_insert hv free later falling put
      have free' : ∀ a ∈ next, a.1.FloatFree := by
        intro a ha
        rcases List.mem_cons.1 (perm.mem_iff.1 ha) with rfl | ha
        · exact hv
        · exact free a ha
      have later' : ∀ a ∈ next, a.2 < k + 1 := by
        intro a ha
        rcases List.mem_cons.1 (perm.mem_iff.1 ha) with rfl | ha
        · exact Nat.lt_succ_self k
        · exact Nat.lt_succ_of_lt (later a ha)
      obtain ⟨ranked', eq, perm', falling''⟩ := ih hrest free' later' falling' h
      refine ⟨ranked', eq, perm'.trans ?_, falling''⟩
      rw [List.zipIdx_cons, List.cons_append]
      exact (perm.append_left _).trans List.perm_middle

/-- A sort of items without floats that goes through ranks them. -/
theorem ranked_of_sort (free : ∀ v ∈ items, v.FloatFree) (h : sort items = .ok sorted) :
    ∃ ranked, sorted = ranked.map Prod.fst ∧ Ranking items ranked := by
  unfold sort at h
  cases run : sortInto [] items with
  | error cause =>
    rw [run] at h
    cases h
  | ok result =>
    rw [run] at h
    cases h
    obtain ⟨falling, rfl, perm, ordered⟩ := ranked_sortInto (k := 0) free (List.forall_mem_nil _)
      (List.forall_mem_nil _) List.Pairwise.nil run
    rw [List.append_nil] at perm
    refine ⟨falling.reverse, (List.map_reverse ..).symm, (List.reverse_perm falling).trans perm, ?_⟩
    rw [List.pairwise_reverse]
    exact ordered

theorem pairwise_zipIdx {k : Nat} :
    ((items.zipIdx k).Pairwise fun a b => Comparable a.1 b.1) ↔ items.Pairwise Comparable := by
  rw [← List.pairwise_map (f := Prod.fst), List.zipIdx_map_fst]

/-- The sort goes through if every two items have an order. -/
theorem exists_sortInto (ordered : items.Pairwise Comparable)
    (mixed : ∀ v ∈ items, ∀ w ∈ sorted, Comparable v w) :
    ∃ result, sortInto sorted items = .ok result := by
  induction items generalizing sorted with
  | nil => exact ⟨sorted, rfl⟩
  | cons v rest ih =>
    obtain ⟨first, others⟩ := List.pairwise_cons.1 ordered
    obtain ⟨here, below⟩ := List.forall_mem_cons.1 mixed
    obtain ⟨inserted, eq, perm⟩ := exists_insertSorted here
    rw [sortInto, eq]
    refine ih others fun w hw u hu => ?_
    rcases List.mem_cons.1 (perm.mem_iff.1 hu) with rfl | hu
    · exact (first w hw).symm
    · exact below w hw u hu

/-- A sort of items without floats goes through exactly if every two of them have an order. -/
theorem sort_succeeds_iff (free : ∀ v ∈ items, v.FloatFree) :
    (∃ sorted, sort items = .ok sorted) ↔ items.Pairwise Comparable := by
  constructor
  · rintro ⟨sorted, h⟩
    obtain ⟨ranked, -, ranking⟩ := ranked_of_sort free h
    have ordered : ranked.Pairwise fun a b => Comparable a.1 b.1 :=
      ranking.ordered.imp fun leads => leads.comparable
    exact pairwise_zipIdx.1 (ranking.perm.pairwise ordered fun order => order.symm)
  · intro ordered
    obtain ⟨result, eq⟩ := exists_sortInto ordered fun _ _ => List.forall_mem_nil _
    exact ⟨result.reverse, by rw [sort, eq]; rfl⟩

end Ranking

/-! ## Extremes of numbered items -/

/-- An item that leads all others. -/
structure Foremost (wanted : Ordering) (a : Value × Nat) (among : List (Value × Nat)) : Prop where
  mem : a ∈ among
  leads : ∀ b ∈ among, b = a ∨ Leads wanted a b

section Extremes

variable {wanted : Ordering} {items : List Value} {a b c : Value × Nat}
  {among others : List (Value × Nat)}

theorem Foremost.perm (h : Foremost wanted a among) (perm : among.Perm others) :
    Foremost wanted a others where
  mem := perm.mem_iff.1 h.mem
  leads b hb := h.leads b (perm.mem_iff.2 hb)

/-- An item that is led by another one changes nothing. -/
theorem Foremost.cons (h : Foremost wanted a among) (free : ∀ c ∈ among, c.1.FloatFree)
    (hb : b.1.FloatFree) (hc : c ∈ among) (leads : Leads wanted c b) :
    Foremost wanted a (b :: among) where
  mem := .tail _ h.mem
  leads := by
    rw [List.forall_mem_cons]
    refine ⟨.inr ?_, h.leads⟩
    rcases h.leads c hc with rfl | before
    · exact leads
    · exact before.trans (free a h.mem) (free c hc) hb leads

theorem Foremost.unique (ha : Foremost wanted a among) (hb : Foremost wanted b among)
    (strict : wanted ≠ .eq) : a = b := by
  rcases hb.leads a ha.mem with same | before
  · exact same
  · rcases ha.leads b hb.mem with same | after
    · exact same.symm
    · exact absurd after (before.asymm strict)

/-- Items with lower numbers than the foremost one are not equal to it. -/
theorem Foremost.compare_of_lt (h : Foremost wanted a among) (hb : b ∈ among) (less : b.2 < a.2) :
    a.1.compare b.1 = .ok wanted := by
  rcases h.leads b hb with rfl | order | ⟨-, less'⟩
  · exact absurd less (Nat.lt_irrefl _)
  · exact order
  · exact absurd less (Nat.lt_asymm less')

/-- The best item so far is replaced by each one that leads it: by induction on the items to come. -/
theorem exists_extremum {best : Value} {i k : Nat} (strict : wanted ≠ .eq) (hbest : best.FloatFree)
    (free : ∀ v ∈ items, v.FloatFree) (ordered : (best :: items).Pairwise Comparable) (less : i < k) :
    ∃ result j, extremum wanted best items = .ok result ∧
      Foremost wanted (result, j) ((best, i) :: items.zipIdx k) := by
  induction items generalizing best i k with
  | nil => exact ⟨best, i, rfl, .head _, fun a ha => .inl (List.mem_singleton.1 ha)⟩
  | cons v rest ih =>
    obtain ⟨hv, hrest⟩ := List.forall_mem_cons.1 free
    obtain ⟨first, later⟩ := List.pairwise_cons.1 ordered
    obtain ⟨o, order⟩ := (first v (.head _)).symm
    have leads := leads_of_compare wanted strict less order
    have free' : ∀ n, ∀ a ∈ rest.zipIdx n, a.1.FloatFree :=
      fun n a ha => hrest a.1 (List.fst_mem_of_mem_zipIdx ha)
    rw [extremum, order, List.zipIdx_cons]
    show ∃ result j, (if o = wanted then _ else _ : Except EvalFault Value) = _ ∧ _
    by_cases better : o = wanted
    · rw [if_pos better] at leads ⊢
      obtain ⟨result, j, eq, foremost⟩ := ih hv hrest later (Nat.lt_succ_self k)
      refine ⟨result, j, eq, foremost.cons ?_ hbest (.head _) leads⟩
      exact List.forall_mem_cons.2 ⟨hv, free' _⟩
    · rw [if_neg better] at leads ⊢
      have ordered' := ordered.sublist ((List.sublist_cons_self v rest).cons_cons best)
      obtain ⟨result, j, eq, foremost⟩ := ih hbest hrest ordered' (Nat.lt_succ_of_lt less)
      refine ⟨result, j, eq, (foremost.cons ?_ hv (.head _) leads).perm (.swap _ _ _)⟩
      exact List.forall_mem_cons.2 ⟨hbest, free' _⟩

/-- The extreme of items that have an order is the foremost one. -/
theorem exists_extreme (wanted : Ordering) {xs : Value} (strict : wanted ≠ .eq)
    (iterable : xs.iterate = .ok items) (free : ∀ v ∈ items, v.FloatFree)
    (ordered : items.Pairwise Comparable) (some : items ≠ []) (function : String) :
    ∃ result j, extreme function wanted [xs] = .ok result ∧
      Foremost wanted (result, j) items.zipIdx := by
  obtain ⟨first, rest, rfl⟩ := List.exists_cons_of_ne_nil some
  obtain ⟨hfirst, hrest⟩ := List.forall_mem_cons.1 free
  obtain ⟨result, j, eq, foremost⟩ := exists_extremum strict hfirst hrest ordered Nat.zero_lt_one
  refine ⟨result, j, ?_, foremost⟩
  rw [extreme]
  dsimp only
  rw [iterable]
  exact eq

/-- The first of sorted items leads all others. -/
theorem Ranking.foremost {ranked : List (Value × Nat)} (h : Ranking items (a :: ranked)) :
    Foremost .lt a items.zipIdx := by
  refine Foremost.perm ⟨.head _, ?_⟩ h.perm
  rw [List.forall_mem_cons]
  exact ⟨.inl rfl, fun b hb => .inr ((List.pairwise_cons.1 h.ordered).1 b hb)⟩

/-- The greatest item is the last of the sorted ones, or the first of those that are equal to it. -/
theorem Ranking.greatest {ranked : List (Value × Nat)} {last greatest : Value} {p q : Nat}
    (h : Ranking items ranked) (free : ∀ v ∈ items, v.FloatFree)
    (behind : ranked.getLast? = some (last, p))
    (foremost : Foremost .gt (greatest, q) items.zipIdx) :
    (q = p ∨ greatest.compare last = .ok .eq) ∧
      ∀ j < q, ∀ v, items[j]? = some v → j ≠ p ∧ v.compare last ≠ .ok .eq := by
  have free' : ∀ a ∈ items.zipIdx, a.1.FloatFree :=
    fun a ha => free a.1 (List.fst_mem_of_mem_zipIdx ha)
  obtain ⟨before, rfl⟩ := List.getLast?_eq_some_iff.1 behind
  have hlast : (last, p) ∈ items.zipIdx := h.perm.mem_iff.1 (List.mem_append_right _ (.head _))
  have ahead : (greatest, q) ∈ before ++ [(last, p)] := h.perm.mem_iff.2 foremost.mem
  have tied : q = p ∧ greatest = last ∨ greatest.compare last = .ok .eq ∧ q < p := by
    rcases List.mem_append.1 ahead with mem | mem
    · -- It is not below the last item and the last item is not below it.
      have below := (List.pairwise_append.1 h.ordered).2.2 _ mem _ (.head _)
      rcases below with less | tie
      · rcases foremost.leads _ hlast with same | order | ⟨order, -⟩
        · cases same
          cases (compare_iff.1 less).self
        · cases less.symm.trans order
        · cases less.symm.trans order
      · exact .inr tie
    · cases List.mem_singleton.1 mem
      exact .inl ⟨rfl, rfl⟩
  refine ⟨tied.imp And.left And.left, fun j less v found => ?_⟩
  have hv : (v, j) ∈ items.zipIdx := List.mem_zipIdx_iff_getElem?.2 found
  have lt := (compare_iff.1 (foremost.compare_of_lt hv less)).swap.compare_eq
  rcases tied with ⟨rfl, rfl⟩ | ⟨equal, less'⟩
  · refine ⟨less.ne, fun eq => ?_⟩
    cases lt.symm.trans eq
  · refine ⟨(less.trans less').ne, fun eq => ?_⟩
    have row := compare_in_row .lt (free' _ hv) (free' _ foremost.mem) (free' _ hlast) lt equal
      (.inl rfl) (.inr rfl)
    cases row.symm.trans eq

end Extremes

/-! ## The functions -/

theorem sorted_call_of_iterate {xs : Value} {items : List Value} (iterable : xs.iterate = .ok items) :
    Global.sorted.call [xs] = (sort items).map .list := by
  show (xs.iterate >>= fun items => sort items >>= fun sorted => pure (Value.list sorted)) = _
  rw [iterable]
  show (sort items >>= fun sorted => pure (Value.list sorted)) = _
  cases sort items <;> rfl

/-- **A sort, the least and the greatest item agree.**  Items without floats can be sorted exactly if
every two of them at different places have an order.  Then the result are the items with none behind a
greater one, and equal ones in the order of their places (`Leads`).  If there are any, then there is a
least item, which is the first of the sorted ones, and a greatest one: of the last sorted item and those
equal to it, the one that came first. -/
theorem sorted_with_extremes {xs : Value} {items : List Value} (iterable : xs.iterate = .ok items)
    (free : ∀ v ∈ items, v.FloatFree) :
    ((∃ result, Global.sorted.call [xs] = .ok result) ↔
      ∀ i j, (hi : i < items.length) → (hj : j < items.length) → i ≠ j →
        ∃ o, items[i].compare items[j] = .ok o) ∧
    ∀ result, Global.sorted.call [xs] = .ok result →
      ∃ ranked, result = .list (ranked.map Prod.fst) ∧ Ranking items ranked ∧
        (items ≠ [] → ∃ least greatest last p q,
          Global.min.call [xs] = .ok least ∧ (ranked.map Prod.fst).head? = some least ∧
          Global.max.call [xs] = .ok greatest ∧ items[q]? = some greatest ∧
          ranked.getLast? = some (last, p) ∧ (q = p ∨ greatest.compare last = .ok .eq) ∧
          ∀ j < q, ∀ v, items[j]? = some v → j ≠ p ∧ v.compare last ≠ .ok .eq) := by
  have pairs : items.Pairwise Comparable ↔ ∀ i j, (hi : i < items.length) → (hj : j < items.length) →
      i ≠ j → ∃ o, items[i].compare items[j] = .ok o := by
    rw [List.pairwise_iff_getElem]
    refine ⟨fun ordered i j hi hj ne => ?_, fun ordered i j hi hj less => ordered i j hi hj less.ne⟩
    rcases Nat.lt_or_gt_of_ne ne with less | less
    · exact ordered i j hi hj less
    · exact (ordered j i hj hi less).symm
  rw [sorted_call_of_iterate iterable, ← pairs, ← sort_succeeds_iff free]
  refine ⟨?_, fun result h => ?_⟩
  · cases sort items <;> simp [Except.map]
  · cases sorts : sort items with
    | error cause =>
      rw [sorts] at h
      cases h
    | ok sorted =>
      rw [sorts] at h
      cases h
      obtain ⟨ranked, rfl, ranking⟩ := ranked_of_sort free sorts
      refine ⟨ranked, rfl, ranking, fun some => ?_⟩
      have ordered := (sort_succeeds_iff free).1 ⟨_, sorts⟩
      obtain ⟨least, i, eq, least_leads⟩ :=
        exists_extreme .lt (by decide) iterable free ordered some "min"
      obtain ⟨greatest, q, eq', greatest_leads⟩ :=
        exists_extreme .gt (by decide) iterable free ordered some "max"
      have nonempty : ranked ≠ [] := by
        rintro rfl
        have := ranking.perm.length_eq
        rw [List.length_nil, List.length_zipIdx] at this
        exact some (List.eq_nil_of_length_eq_zero this.symm)
      obtain ⟨tied, first⟩ := ranking.greatest free (List.getLast?_eq_some_getLast nonempty)
        greatest_leads
      have found := List.mem_zipIdx_iff_getElem?.1 greatest_leads.mem
      refine ⟨least, greatest, _, _, q, eq, ?_, eq', found, List.getLast?_eq_some_getLast nonempty,
        tied, first⟩
      obtain ⟨head, tail, rfl⟩ := List.exists_cons_of_ne_nil nonempty
      rw [List.map_cons, List.head?_cons, ranking.foremost.unique least_leads (by decide)]

namespace Tied

/-- `[[1], [True], []]`. -/
def lists : List Value := [.list [.int 1], .list [.bool true], .list []]

/-- Of two equal items the later one is the last of the sorted ones, and the first one is the
greatest. -/
theorem extremes_of_lists : ((Value.list lists).iterate = .ok lists ∧ ∀ v ∈ lists, v.FloatFree) ∧
    (∃ ranked, Ranking lists ranked ∧
      ranked.map Prod.fst = [.list [], .list [.int 1], .list [.bool true]] ∧
      Global.sorted.call [.list lists] = .ok (.list (ranked.map Prod.fst))) ∧
    Global.min.call [.list lists] = .ok (.list []) ∧
    Global.max.call [.list lists] = .ok (.list [.int 1]) := by
  have free : ∀ v ∈ lists, v.FloatFree := by simp [lists, floatFree_of_kind, Value.kind]
  have result : Global.sorted.call [.list lists] =
      .ok (.list [.list [], .list [.int 1], .list [.bool true]]) := rfl
  obtain ⟨ranked, eq, ranking, -⟩ := (sorted_with_extremes rfl free).2 _ result
  rw [result, eq]
  exact ⟨⟨rfl, free⟩, ⟨ranked, ranking, (Value.list.inj eq).symm, rfl⟩, rfl, rfl⟩

end Tied

end TextTemplate.Value
