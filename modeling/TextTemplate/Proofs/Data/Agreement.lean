import Mathlib
import TextTemplate.Data.Host
import TextTemplate.Proofs.Data.Conversion
import TextTemplate.Proofs.Value.Comparison

/-!
# Two ways from a plain value

A plain value becomes a value at once, or by way of the data that it hands over (`Hands`); the entries
of a map are handed over in any order.  Where the second way comes to an end, both give the same
(`becomes_iff`).  It does not come to an end for a size beyond 64 bits with a sign, which the first way
takes as the negative integer of the same bits.  Where each integer of a plain value is found in the
value that it becomes is told by `Lands`.  The main result is `conversions_agree`.
-/

namespace TextTemplate

namespace HostValue

open Data (Becomes)

/-! ## Parts -/

/-- What a plain value is made of, one level down. -/
def children : HostValue → List HostValue
  | .option (some v) => [v]
  | .list items => items
  | .map entries => entries.values
  | _ => []

theorem sizeOf_child {c v : HostValue} (h : c ∈ v.children) : sizeOf c < sizeOf v := by
  cases v with
  | option v =>
    cases v with
    | none => cases h
    | some v =>
      obtain rfl := List.mem_singleton.1 h
      simp only [option.sizeOf_spec, Option.some.sizeOf_spec]
      omega
  | list items =>
    have := List.sizeOf_lt_of_mem (show c ∈ items from h)
    simp only [list.sizeOf_spec]
    omega
  | map entries =>
    obtain ⟨⟨name, v⟩, mem, rfl⟩ := List.mem_map.1 h
    have := List.sizeOf_lt_of_mem mem
    cases entries
    simp only [map.sizeOf_spec, Dictionary.mk.sizeOf_spec, Prod.mk.sizeOf_spec] at this ⊢
    omega
  | _ => cases h

/-- What holds of a plain value if it holds of all that it is made of holds of all plain values. -/
theorem children_induction {motive : HostValue → Prop}
    (step : ∀ v : HostValue, (∀ c ∈ v.children, motive c) → motive v) (v : HostValue) : motive v :=
  step v fun c _ => children_induction step c
termination_by sizeOf v
decreasing_by exact sizeOf_child ‹_›

/-- A plain value and all that it is made of, at any depth. -/
inductive Part : HostValue → HostValue → Prop
  | self {v : HostValue} : Part v v
  | inner {c v p : HostValue} : c ∈ v.children → Part c p → Part v p

theorem Part.eq_of_bare {v p : HostValue} (part : v.Part p) (bare : v.children = []) : p = v := by
  cases part with
  | self => rfl
  | inner mem part =>
    rw [bare] at mem
    cases mem

/-- In each map, at any depth, the names ascend, so that each occurs once. -/
def Proper (v : HostValue) : Prop := ∀ entries, v.Part (.map entries) → entries.Ascending

/-- No size, at any depth, is beyond 64 bits with a sign. -/
def Small (v : HostValue) : Prop := ∀ n, v.Part (.size n) → n.toNat < 2 ^ 63

theorem Proper.child {c v : HostValue} (h : v.Proper) (mem : c ∈ v.children) : c.Proper :=
  fun entries part => h entries (.inner mem part)

theorem small_iff {v : HostValue} :
    v.Small ↔ (∀ n, v = .size n → n.toNat < 2 ^ 63) ∧ ∀ c ∈ v.children, c.Small := by
  constructor
  · intro h
    refine ⟨?_, fun c mem n part => h n (.inner mem part)⟩
    rintro n rfl
    exact h n .self
  · rintro ⟨fit, inside⟩ n part
    cases part with
    | self => exact fit n rfl
    | inner mem part => exact inside _ mem n part

theorem small_size {n : UInt64} : (size n).Small ↔ n.toNat < 2 ^ 63 := by
  rw [small_iff]
  constructor
  · exact fun h => h.1 n rfl
  · intro h
    refine ⟨fun m same => ?_, List.forall_mem_nil _⟩
    cases same
    exact h

/-- Of a plain value that is no size only the parts count. -/
theorem small_iff_of_ne {v : HostValue} (h : ∀ n, v ≠ .size n) :
    v.Small ↔ ∀ c ∈ v.children, c.Small := by
  rw [small_iff]
  exact and_iff_right fun n same => absurd same (h n)

/-! ## Values of items and entries -/

theorem toValues_eq_map (items : List HostValue) : toValues items = items.map toValue := by
  induction items with
  | nil => rfl
  | cons v rest ih => rw [toValues, ih, List.map_cons]

theorem toEntries_eq_map (entries : List (String × HostValue)) :
    toEntries entries = entries.map fun e => (e.1, e.2.toValue) := by
  induction entries with
  | nil => rfl
  | cons e rest ih => rw [toEntries, ih, List.map_cons]

theorem toValue_list (items : List HostValue) :
    (list items).toValue = .list (items.map toValue) := by
  rw [toValue, toValues_eq_map]

theorem toValue_map (entries : Dictionary HostValue) :
    (map entries).toValue = .map ⟨entries.entries.map fun e => (e.1, e.2.toValue)⟩ := by
  obtain ⟨entries⟩ := entries
  rw [toValue, toEntries_eq_map]

theorem get?_map_toValue (entries : List (String × HostValue)) (name : String) :
    Dictionary.get? ⟨entries.map fun e => (e.1, e.2.toValue)⟩ name =
      (Dictionary.get? ⟨entries⟩ name).map toValue := by
  induction entries with
  | nil => rfl
  | cons e rest ih =>
    rw [List.map_cons, Dictionary.get?_cons, Dictionary.get?_cons, ih]
    split <;> rfl

/-! ## Handing over -/

/-- The parts of a map with a text before each value. -/
def parts (fields : List (String × Data)) : List MapPart :=
  fields.flatMap fun f => [.key (.text f.1), .value f.2]

/-- The data that a plain value hands over.  The entries of a map come in any order. -/
inductive Hands : HostValue → Data → Prop
  | bool (b : Bool) : Hands (.bool b) (.bool b)
  | int (n : FixedInt) : Hands (.int n) (.int n)
  | size (n : UInt64) : Hands (.size n) (.natural n)
  | single (x : Float32) : Hands (.single x) (.single x)
  | float (x : Float) : Hands (.float x) (.float x)
  | char (c : Char) : Hands (.char c) (.char c)
  | text (s : String) : Hands (.text s) (.text s)
  | unit : Hands .unit .unit
  | none : Hands (.option none) .none
  | some {v : HostValue} {d : Data} : Hands v d → Hands (.option (some v)) (.some d)
  | list {items : List HostValue} {ds : List Data} :
      List.Forall₂ Hands items ds → Hands (.list items) (.seq ds)
  | map {entries : Dictionary HostValue} {es : List (String × HostValue)}
      {fields : List (String × Data)} : es.Perm entries.entries →
      es.map Prod.fst = fields.map Prod.fst →
      List.Forall₂ Hands (es.map Prod.snd) (fields.map Prod.snd) →
      Hands (.map entries) (.map (parts fields))

theorem toItems_eq_map (items : List HostValue) : toItems items = items.map toData := by
  induction items with
  | nil => rfl
  | cons v rest ih => rw [toItems, ih, List.map_cons]

theorem toParts_eq_parts (entries : List (String × HostValue)) :
    toParts entries = parts (entries.map fun e => (e.1, e.2.toData)) := by
  induction entries with
  | nil => rfl
  | cons e rest ih =>
    rw [toParts, ih]
    rfl

/-- The data of a plain value are handed over; the entries of a map come in the order of the names. -/
theorem hands_toData (v : HostValue) : Hands v v.toData := by
  have forall₂_toData {vs : List HostValue} (each : ∀ v ∈ vs, Hands v v.toData) :
      List.Forall₂ Hands vs (vs.map toData) :=
    List.forall₂_map_right_iff.2 (List.forall₂_same.2 each)
  induction v using children_induction with
  | step v ih =>
    cases v with
    | option v =>
      cases v with
      | none => exact .none
      | some v => exact .some (ih v (.head _))
    | list items =>
      rw [toData, toItems_eq_map]
      exact .list (forall₂_toData ih)
    | map entries =>
      obtain ⟨entries⟩ := entries
      rw [toData, toParts_eq_parts]
      refine .map (.refl _) (by rw [List.map_map]; rfl) ?_
      have handed := forall₂_toData ih
      rw [List.map_map]
      rw [children, Dictionary.values, List.map_map] at handed
      exact handed
    | _ => constructor

/-- In a map with a text before each value, what is written is what would be written into a record. -/
theorem takes_parts_iff {fields : List (String × Data)} {written : List (String × Value)} :
    Data.Takes none (parts fields) written ↔ ∃ vs, List.Forall₂ Becomes (fields.map Prod.snd) vs ∧
      written = (fields.map Prod.fst).zip vs := by
  induction fields generalizing written with
  | nil =>
    constructor
    · intro takes
      cases takes
      exact ⟨[], .nil, rfl⟩
    · rintro ⟨vs, -, rfl⟩
      exact .nil
  | cons f rest ih =>
    constructor
    · intro takes
      cases takes with
      | key become names takes =>
        cases become
        cases names
        cases takes with
        | value become takes =>
          obtain ⟨vs, others, rfl⟩ := ih.1 takes
          exact ⟨_, .cons become others, rfl⟩
    · rintro ⟨vs, become, rfl⟩
      obtain ⟨v, vs, here, others, rfl⟩ := List.forall₂_cons_left_iff.1 become
      exact .key rfl (.text f.1) (.value here (ih.2 ⟨vs, others, rfl⟩))

theorem becomes_parts {fields : List (String × Data)} {w : Value} :
    Becomes (.map (parts fields)) w ↔ ∃ vs, List.Forall₂ Becomes (fields.map Prod.snd) vs ∧
      w = .map (Dictionary.empty.assign ((fields.map Prod.fst).zip vs)) := by
  rw [Data.becomes_map]
  constructor
  · rintro ⟨written, takes, rfl⟩
    obtain ⟨vs, become, rfl⟩ := takes_parts_iff.1 takes
    exact ⟨vs, become, rfl⟩
  · rintro ⟨vs, become, rfl⟩
    exact ⟨_, takes_parts_iff.2 ⟨vs, become, rfl⟩, rfl⟩

/-! ## Sizes -/

/-- The integer that has the same 64 bits. -/
def wrapped (i : Int) : Int := if i < 2 ^ 63 then i else i - 2 ^ 64

theorem toInt_toInt64 (n : UInt64) : n.toInt64.toInt = wrapped n.toNat := by
  have : n.toInt64.toInt = n.toBitVec.toInt := rfl
  rw [this, BitVec.toInt_eq_toNat_cond]
  unfold wrapped
  simp only [UInt64.toNat_toBitVec]
  split <;> split <;> omega

theorem wrapped_eq_self {n : UInt64} : wrapped n.toNat = n.toNat ↔ n.toNat < 2 ^ 63 := by
  unfold wrapped
  split <;> omega

theorem wrapped_toInt (n : FixedInt) : wrapped n.toInt = n.toInt := by
  rw [← n.toInt_toInt64]
  exact if_pos n.toInt64.toInt_lt

theorem becomes_natural_iff {n : UInt64} {w : Value} :
    Becomes (.natural n) w ↔ n.toNat < 2 ^ 63 ∧ w = .int n.toInt64 := by
  rw [Data.becomes_natural, ← wrapped_eq_self, ← toInt_toInt64]
  constructor
  · rintro ⟨m, rfl, same⟩
    have small : n.toNat < 2 ^ 63 := by
      have := m.toInt_lt
      omega
    have same' : n.toInt64.toInt = n.toNat := (toInt_toInt64 n).trans (wrapped_eq_self.2 small)
    rw [Int64.toInt_inj.1 (same.trans same'.symm)]
    exact ⟨same', rfl⟩
  · rintro ⟨same, rfl⟩
    exact ⟨_, rfl, same⟩

/-! ## Both ways -/

/-- Items become values one by one. -/
theorem forall₂_becomes_iff {vs : List HostValue} {ds : List Data} {ws : List Value}
    (each : ∀ v ∈ vs, ∀ d w, Hands v d → (Becomes d w ↔ v.Small ∧ w = v.toValue))
    (hands : List.Forall₂ Hands vs ds) :
    List.Forall₂ Becomes ds ws ↔ (∀ v ∈ vs, v.Small) ∧ ws = vs.map toValue := by
  induction hands generalizing ws with
  | nil => simp
  | @cons v d vs ds first rest ih =>
    have ih := fun ws => @ih ws fun v mem => each v (.tail _ mem)
    rw [List.forall₂_cons_left_iff, List.forall_mem_cons, List.map_cons]
    constructor
    · rintro ⟨w, ws, become, others, rfl⟩
      obtain ⟨small, rfl⟩ := (each v (.head _) d w first).1 become
      obtain ⟨smalls, rfl⟩ := (ih ws).1 others
      exact ⟨⟨small, smalls⟩, rfl⟩
    · rintro ⟨⟨small, smalls⟩, rfl⟩
      exact ⟨_, _, (each v (.head _) d _ first).2 ⟨small, rfl⟩, (ih _).2 ⟨smalls, rfl⟩, rfl⟩

/-- **By way of the data a plain value becomes the value that it becomes at once, or nothing.** -/
theorem becomes_iff {v : HostValue} {d : Data} {w : Value} (proper : v.Proper) (hands : Hands v d) :
    Becomes d w ↔ v.Small ∧ w = v.toValue := by
  induction v using children_induction generalizing d w with
  | step v ih =>
    have each : ∀ c ∈ v.children, ∀ d w, Hands c d → (Becomes d w ↔ c.Small ∧ w = c.toValue) :=
      fun c mem d w hands => ih c mem (proper.child mem) hands
    cases hands with
    | size n => rw [becomes_natural_iff, small_size, toValue]
    | @some v d hands =>
      rw [small_iff_of_ne (by simp), toValue, children, List.forall_mem_singleton]
      exact each v (.head _) d w hands
    | list hands =>
      rw [small_iff_of_ne (by simp), toValue_list, Data.becomes_seq]
      constructor
      · rintro ⟨ws, become, rfl⟩
        obtain ⟨small, rfl⟩ := (forall₂_becomes_iff each hands).1 become
        exact ⟨small, rfl⟩
      · rintro ⟨small, rfl⟩
        exact ⟨_, (forall₂_becomes_iff each hands).2 ⟨small, rfl⟩, rfl⟩
    | @map entries es fields perm names hands =>
      have mem_iff (c : HostValue) : c ∈ es.map Prod.snd ↔ c ∈ (map entries).children :=
        (perm.map Prod.snd).mem_iff
      have each' : ∀ c ∈ es.map Prod.snd, _ := fun c mem => each c ((mem_iff c).1 mem)
      have small : (∀ c ∈ es.map Prod.snd, c.Small) ↔ (map entries).Small := by
        rw [small_iff_of_ne (by simp)]
        exact forall_congr' fun c => imp_congr_left (mem_iff c)
      -- the entries that are put in are those of the map, in another order
      have same : Dictionary.empty.assign ((fields.map Prod.fst).zip ((es.map Prod.snd).map toValue))
          = ⟨entries.entries.map fun e => (e.1, e.2.toValue)⟩ := by
        rw [← names, List.map_map, List.zip_map']
        refine Dictionary.Ascending.assign_perm ?_ (perm.map fun e => (e.1, e.2.toValue))
        exact List.pairwise_map.2 (proper entries .self)
      rw [becomes_parts, ← small, toValue_map, ← same]
      constructor
      · rintro ⟨ws, become, rfl⟩
        obtain ⟨small, rfl⟩ := (forall₂_becomes_iff each' hands).1 become
        exact ⟨small, rfl⟩
      · rintro ⟨small, rfl⟩
        exact ⟨_, (forall₂_becomes_iff each' hands).2 ⟨small, rfl⟩, rfl⟩
    | _ =>
      rw [small_iff_of_ne (by simp)]
      constructor
      · intro become
        cases become
        exact ⟨List.forall_mem_nil _, rfl⟩
      · rintro ⟨-, rfl⟩
        rfl

/-! ## Where the integers are -/

/-- The integer that a plain value is. -/
def integer? : HostValue → Option Int
  | .int n => some n.toInt
  | .size n => some n.toNat
  | _ => none

/-- An integer of a plain value and the integer that stands at its place in a value. -/
inductive Lands : HostValue → Value → Int → Int → Prop
  | int (m : FixedInt) (n : Int64) : Lands (.int m) (.int n) m.toInt n.toInt
  | size (m : UInt64) (n : Int64) : Lands (.size m) (.int n) m.toNat n.toInt
  | some {v : HostValue} {w : Value} {i j : Int} : Lands v w i j → Lands (.option (some v)) w i j
  | item {vs : List HostValue} {ws : List Value} {v : HostValue} {w : Value} {i j : Int} (k : Nat) :
      vs[k]? = some v → ws[k]? = some w → Lands v w i j → Lands (.list vs) (.list ws) i j
  | entry {es : Dictionary HostValue} {fs : Dictionary Value} {v : HostValue} {w : Value} {i j : Int}
      (name : String) : es.get? name = some v → fs.get? name = some w → Lands v w i j →
      Lands (.map es) (.map fs) i j

/-- An integer keeps its bits. -/
theorem Lands.eq_wrapped {v : HostValue} {i j : Int} (h : Lands v v.toValue i j) : j = wrapped i := by
  generalize eq : v.toValue = w at h
  induction h with
  | int m n =>
    cases eq
    rw [wrapped_toInt]
    exact m.toInt_toInt64
  | size m n =>
    cases eq
    exact toInt_toInt64 m
  | some inner ih => exact ih eq
  | item k hv hw inner ih =>
    rw [toValue_list] at eq
    cases eq
    rw [List.getElem?_map, hv] at hw
    exact ih (Option.some.inj hw)
  | @entry es fs v w i j name hv hw inner ih =>
    rw [toValue_map] at eq
    cases eq
    rw [get?_map_toValue, hv] at hw
    exact ih (Option.some.inj hw)

/-- An integer lands in a plain value if it lands in a part that is reached. -/
theorem Lands.of_mem {c v : HostValue} {i j : Int} (proper : v.Proper) (mem : c ∈ v.children)
    (h : Lands c c.toValue i j) : Lands v v.toValue i j := by
  cases v with
  | option v =>
    cases v with
    | none => cases mem
    | some v =>
      obtain rfl := List.mem_singleton.1 mem
      exact .some h
  | list items =>
    obtain ⟨k, found⟩ := List.mem_iff_getElem?.1 (show c ∈ items from mem)
    have found' : (items.map toValue)[k]? = Option.some c.toValue := by
      rw [List.getElem?_map, found]
      rfl
    rw [toValue_list]
    exact .item k found found' h
  | map entries =>
    obtain ⟨⟨name, c⟩, inside, rfl⟩ := List.mem_map.1 mem
    have found := (proper entries .self).get?_eq_some_iff.2 inside
    have found' := get?_map_toValue entries.entries name
    rw [found] at found'
    rw [toValue_map]
    exact .entry name found found' h
  | _ => cases mem

/-- Every integer lands somewhere, with its bits. -/
theorem lands_of_part {v p : HostValue} {i : Int} (proper : v.Proper) (part : v.Part p)
    (is : p.integer? = some i) : Lands v v.toValue i (wrapped i) := by
  induction part with
  | @self v =>
    cases v with
    | int n =>
      cases is
      have kept : n.toInt64.toInt = wrapped n.toInt := n.toInt_toInt64.trans (wrapped_toInt n).symm
      rw [← kept]
      exact .int n _
    | size n =>
      cases is
      rw [← toInt_toInt64]
      exact .size n _
    | _ => cases is
  | inner mem part ih => exact (ih (proper.child mem) is).of_mem proper mem

/-- A value that is no list and no map is its only part. -/
theorem eq_of_part_of_leaf {v w : Value} (noList : ∀ items, v ≠ .list items)
    (noMap : ∀ entries, v ≠ .map entries) (part : v.Part w) : w = v := by
  obtain same | ⟨items, eq, -⟩ | ⟨entries, eq, -⟩ := Value.part_iff.1 part
  · exact same
  · exact absurd eq (noList items)
  · exact absurd eq (noMap entries)

/-- Every integer in the value comes from somewhere. -/
theorem exists_lands_of_int {v : HostValue} {m : Int64} (proper : v.Proper)
    (part : v.toValue.Part (.int m)) : ∃ i, Lands v v.toValue i m.toInt := by
  induction v using children_induction with
  | step v ih =>
    have inside {c : HostValue} (mem : c ∈ v.children) (part : c.toValue.Part (.int m)) :
        ∃ i, Lands v v.toValue i m.toInt := by
      obtain ⟨i, lands⟩ := ih c mem (proper.child mem) part
      exact ⟨i, lands.of_mem proper mem⟩
    cases v with
    | int n =>
      cases eq_of_part_of_leaf (by simp [toValue]) (by simp [toValue]) part
      exact ⟨_, .int n _⟩
    | size n =>
      cases eq_of_part_of_leaf (by simp [toValue]) (by simp [toValue]) part
      exact ⟨_, .size n _⟩
    | option v =>
      cases v with
      | none => cases eq_of_part_of_leaf (by simp [toValue]) (by simp [toValue]) part
      | some v => exact inside (.head _) part
    | list items =>
      rw [toValue_list] at part
      obtain eq | ⟨_, eq, w, held, inner⟩ | ⟨_, eq, -⟩ := Value.part_iff.1 part <;> cases eq
      obtain ⟨c, mem, rfl⟩ := List.mem_map.1 held
      exact inside mem inner
    | map entries =>
      rw [toValue_map] at part
      obtain eq | ⟨_, eq, -⟩ | ⟨_, eq, e, held, inner⟩ := Value.part_iff.1 part <;> cases eq
      obtain ⟨e, mem, rfl⟩ := List.mem_map.1 held
      exact inside (List.mem_map.2 ⟨e, mem, rfl⟩) inner
    | _ => cases eq_of_part_of_leaf (by simp [toValue]) (by simp [toValue]) part

/-- What lands somewhere is an integer of the plain value. -/
theorem exists_part_of_lands {v : HostValue} {w : Value} {i j : Int} (h : Lands v w i j) :
    ∃ p, v.Part p ∧ p.integer? = some i := by
  have deeper {c v : HostValue} {i : Int} (mem : c ∈ v.children) :
      (∃ p, c.Part p ∧ p.integer? = some i) → ∃ p, v.Part p ∧ p.integer? = some i :=
    fun ⟨p, part, is⟩ => ⟨p, .inner mem part, is⟩
  induction h with
  | int m n => exact ⟨_, .self, rfl⟩
  | size m n => exact ⟨_, .self, rfl⟩
  | some inner ih => exact deeper (.head _) ih
  | item k found _ inner ih => exact deeper (List.mem_of_getElem? found) ih
  | entry name found _ inner ih =>
    exact deeper (List.mem_map.2 ⟨_, Dictionary.mem_of_get? found, rfl⟩) ih

/-- Each integer stands in the value as itself exactly if no size is too large. -/
theorem forall_lands_eq_iff {v : HostValue} (proper : v.Proper) :
    (∀ i j, Lands v v.toValue i j → j = i) ↔ v.Small := by
  constructor
  · intro same n part
    exact wrapped_eq_self.1 (same _ _ (lands_of_part proper part rfl))
  · intro small i j lands
    rw [lands.eq_wrapped]
    obtain ⟨p, part, is⟩ := exists_part_of_lands lands
    cases p with
    | int m =>
      cases is
      exact wrapped_toInt m
    | size n =>
      cases is
      exact wrapped_eq_self.2 (small n part)
    | _ => cases is

/-- **The two ways agree.**  Whatever a plain value hands over: if the data become a value, the plain
value becomes the same value at once; and they become one exactly if no size in them is beyond 64 bits
with a sign.  Each integer of the plain value lands in the value that it becomes at once, each integer
there comes from one, and both have the same 64 bits.  So all of them are the integers they come from
exactly if the data become a value. -/
theorem conversions_agree {v : HostValue} {d : Data} (proper : v.Proper) (hands : Hands v d) :
    (∀ w, d.toValue = .ok w → v.toValue = w) ∧
    ((∃ w, d.toValue = .ok w) ↔ v.Small) ∧
    (∀ p i, v.Part p → p.integer? = some i → ∃ j, Lands v v.toValue i j) ∧
    (∀ m, v.toValue.Part (.int m) → ∃ i, Lands v v.toValue i m.toInt) ∧
    (∀ i j, Lands v v.toValue i j → j = wrapped i) ∧
    ((∀ i j, Lands v v.toValue i j → j = i) ↔ ∃ w, d.toValue = .ok w) := by
  have succeeds : (∃ w, d.toValue = .ok w) ↔ v.Small := by
    constructor
    · rintro ⟨w, become⟩
      exact ((becomes_iff proper hands).1 become).1
    · intro small
      exact ⟨_, (becomes_iff proper hands).2 ⟨small, rfl⟩⟩
  refine ⟨fun w become => ((becomes_iff proper hands).1 become).2.symm, succeeds,
    fun p i part is => ⟨_, lands_of_part proper part is⟩, fun m => exists_lands_of_int proper,
    fun i j lands => lands.eq_wrapped, ?_⟩
  rw [succeeds]
  exact forall_lands_eq_iff proper

namespace Sample

/-- A map with a list of two integers and an option. -/
def plain : HostValue :=
  .map ⟨[("a", .list [.size 5, .int (.int32 (-1))]), ("b", .option (some (.text "x")))]⟩

/-- What the map may hand over: the second entry comes first. -/
def handed : Data :=
  .map [.key (.text "b"), .value (.some (.text "x")),
    .key (.text "a"), .value (.seq [.natural 5, .int (.int32 (-1))])]

theorem proper : plain.Proper := by
  intro entries part
  cases part with
  | self => exact .cons (by decide) (.cons (List.forall_mem_nil _) .nil)
  | inner mem part =>
    -- there is no map in a list of integers and in an option with a text
    obtain rfl | rfl := List.mem_pair.1 mem
    · cases part with
      | inner mem part =>
        obtain rfl | rfl := List.mem_pair.1 mem <;> cases part.eq_of_bare rfl
    · cases part with
      | inner mem part =>
        obtain rfl := List.mem_singleton.1 mem
        cases part.eq_of_bare rfl

theorem hands : Hands plain handed := by
  have : handed = .map (parts [("b", .some (.text "x")),
      ("a", .seq [.natural 5, .int (.int32 (-1))])]) := rfl
  rw [this]
  exact .map (.swap _ _ _) rfl
    (.cons (.some (.text "x")) (.cons (.list (.cons (.size 5) (.cons (.int _) .nil))) .nil))

/-- Both ways give one map. -/
theorem conversions_of_plain : plain.Proper ∧ Hands plain handed ∧
    plain.toValue = .map ⟨[("a", .list [.int 5, .int (-1)]), ("b", .text "x")]⟩ :=
  ⟨proper, hands, (conversions_agree proper hands).1 _ (by rfl)⟩

end Sample

/-- The largest size becomes minus one. -/
theorem lands_negative : ¬ ∀ v i j, Lands v v.toValue i j → j = i := by
  intro same
  have := same (.size 18446744073709551615) _ _ (.size _ (-1))
  exact absurd this (by decide)

end HostValue

end TextTemplate
