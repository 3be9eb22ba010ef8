import Mathlib
import TextTemplate.Proofs.Dictionary
import TextTemplate.Proofs.Value.Comparison

/-!
# Equal values

Two values are equal by one pair of parts after the other (`Equal`): texts, functions and the like are
the same, two integers too, and other numbers have the same place among the floats.  So equality can be
turned around, and a value is equal to itself unless it holds not-a-number.

It carries over from one pair to the next but for one case: two integers that differ may be rounded to
one float, and then both are equal to the float and not to each other (`Divided`).  The main result is
`equality_laws`.
-/

namespace TextTemplate.Value

open Number

/-! ## Equality part by part -/

mutual

/-- Two values are equal. -/
inductive Equal : Value → Value → Prop
  | null : Equal .null .null
  | text (s : String) : Equal (.text s) (.text s)
  | list {vs ws : List Value} : EqualItems vs ws → Equal (.list vs) (.list ws)
  | map {a b : List (String × Value)} : EqualEntries a b → Equal (.map ⟨a⟩) (.map ⟨b⟩)
  | function (f : Function) : Equal (.function f) (.function f)
  | template {s t : Template} : s.id = t.id → Equal (.template s) (.template t)
  | loader (id : LoaderId) : Equal (.loader id) (.loader id)
  | int (n : Int64) : Equal (.int n) (.int n)
  | numbers {v w : Value} {p : Place} : v.place? = some p → w.place? = some p → ¬ BothInt v w →
      Equal v w

/-- Two lists have equal items. -/
inductive EqualItems : List Value → List Value → Prop
  | nil : EqualItems [] []
  | cons {v w : Value} {vs ws : List Value} :
      Equal v w → EqualItems vs ws → EqualItems (v :: vs) (w :: ws)

/-- Two maps have the same names, with equal values. -/
inductive EqualEntries : List (String × Value) → List (String × Value) → Prop
  | nil : EqualEntries [] []
  | cons {name : String} {v w : Value} {a b : List (String × Value)} :
      Equal v w → EqualEntries a b → EqualEntries ((name, v) :: a) ((name, w) :: b)

end

mutual

theorem Equal.equals_eq {v w : Value} (h : Equal v w) : v.equals w = true := by
  cases h with
  | null => rfl
  | text s => exact beq_self_eq_true s
  | list items => exact items.equalItems_eq
  | map entries => exact entries.equalEntries_eq
  | function f => exact decide_eq_true rfl
  | template same => exact decide_eq_true same
  | loader id => exact decide_eq_true rfl
  | int n => exact beq_self_eq_true n
  | numbers hp hq mixed =>
    obtain ⟨x, hv, hx⟩ := place?_eq_some.1 hp
    obtain ⟨y, hw, hy⟩ := place?_eq_some.1 hq
    rw [equals_of_float? hv hw mixed]
    exact (beq_iff hx hy).2 rfl

theorem EqualItems.equalItems_eq {vs ws : List Value} (h : EqualItems vs ws) :
    equalItems vs ws = true := by
  cases h with
  | nil => rfl
  | cons first rest =>
    rw [equalItems, first.equals_eq, rest.equalItems_eq]
    rfl

theorem EqualEntries.equalEntries_eq {a b : List (String × Value)} (h : EqualEntries a b) :
    equalEntries a b = true := by
  cases h with
  | nil => rfl
  | cons first rest =>
    rw [equalEntries, beq_self_eq_true, first.equals_eq, rest.equalEntries_eq]
    rfl

end

theorem equal_and_equalEntries :
    (∀ v w, v.equals w = true → Equal v w) ∧
    (∀ a b, equalEntries a b = true → EqualEntries a b) ∧
    ∀ vs ws, equalItems vs ws = true → EqualItems vs ws := by
  refine equals.mutual_induct _ _ _ ?null ?text ?list ?map ?function ?template ?loader ?int ?numbers
    ?others ?nil ?cons ?uneven ?nilEntries ?consEntries ?unevenEntries
  case null =>
    intro _
    exact .null
  case text =>
    intro s t h
    obtain rfl : s = t := beq_iff_eq.1 h
    exact .text s
  case list =>
    intro vs ws ih h
    exact .list (ih h)
  case map =>
    intro a b ih h
    exact .map (ih h)
  case function =>
    intro f g h
    obtain rfl : f = g := of_decide_eq_true h
    exact .function f
  case template =>
    intro s t h
    exact .template (of_decide_eq_true h)
  case loader =>
    intro a b h
    obtain rfl : a = b := of_decide_eq_true h
    exact .loader a
  case int =>
    intro m n h
    obtain rfl : m = n := beq_iff_eq.1 h
    exact .int m
  case numbers =>
    intro v w _ _ _ _ _ _ _ ints x y hw hv h
    have mixed : ¬ BothInt v w := by
      rintro ⟨left, right⟩
      cases v <;> cases left
      cases w <;> cases right
      exact ints _ _ rfl rfl
    rw [equals_of_float? hv hw mixed] at h
    cases hx : Number.place? x with
    | none => exact absurd h (not_beq_of_unplaced (.inl hx))
    | some p =>
      cases hy : Number.place? y with
      | none => exact absurd h (not_beq_of_unplaced (.inr hy))
      | some q =>
        obtain rfl : p = q := (beq_iff hx hy).1 h
        exact .numbers (place?_eq_some.2 ⟨x, hv, hx⟩) (place?_eq_some.2 ⟨y, hw, hy⟩) mixed
  case others =>
    intro v w null text list map function template loader int floats h
    rw [equals.eq_9 v w null text list map function template loader int] at h
    split at h
    · exact (floats _ _ ‹_› ‹_›).elim
    · cases h
  case nil =>
    intro _
    exact .nil
  case cons =>
    intro v vs w ws ihFirst ihRest h
    rw [equalItems, Bool.and_eq_true] at h
    exact .cons (ihFirst h.1) (ihRest h.2)
  case uneven =>
    intro vs ws nil cons h
    rw [equalItems.eq_3 vs ws nil cons] at h
    cases h
  case nilEntries =>
    intro _
    exact .nil
  case consEntries =>
    intro m v a n w b ihFirst ihRest h
    rw [equalEntries, Bool.and_eq_true, Bool.and_eq_true] at h
    obtain ⟨⟨same, first⟩, rest⟩ := h
    obtain rfl : m = n := beq_iff_eq.1 same
    exact .cons (ihFirst first) (ihRest rest)
  case unevenEntries =>
    intro a b nil cons h
    rw [equalEntries.eq_3 a b nil cons] at h
    cases h

theorem equals_iff {v w : Value} : v.equals w = true ↔ Equal v w :=
  ⟨equal_and_equalEntries.1 v w, Equal.equals_eq⟩

/-! ## A value and itself -/

/-- A value without not-a-number, at any depth. -/
def NanFree (v : Value) : Prop := ∀ x, v.Part (.float x) → x.isNaN = false

theorem isNaN_eq_false_iff {x : Float} : x.isNaN = false ↔ ∃ p, Number.place? x = some p := by
  show x.toModel.unpack.isNaN = false ↔ ∃ p, Place.of? x.toModel.unpack = some p
  cases x.toModel.unpack with
  | notANumber => simp [Float.Model.UnpackedFloat.isNaN, Place.of?]
  | _ => simp [Float.Model.UnpackedFloat.isNaN, Place.of?]

section Reflexive

variable {v w : Value}

theorem NanFree.of_part (free : v.NanFree) (part : v.Part w) : w.NanFree :=
  fun x inner => free x (part.trans inner)

theorem NanFree.item {items : List Value} (free : (Value.list items).NanFree) (mem : v ∈ items) :
    v.NanFree :=
  free.of_part (Part.self.item mem)

theorem NanFree.entry {entries : List (String × Value)} {e : String × Value}
    (free : (Value.map ⟨entries⟩).NanFree) (mem : e ∈ entries) : e.2.NanFree :=
  free.of_part (Part.self.entry mem)

mutual

theorem Equal.refl : ∀ {v : Value}, v.NanFree → Equal v v
  | .null, _ => .null
  | .bool b, _ => .numbers (place?_bool b) (place?_bool b) (by rintro ⟨bool, -⟩; cases bool)
  | .int n, _ => .int n
  | .float x, free => by
    obtain ⟨p, placed⟩ := isNaN_eq_false_iff.1 (free x .self)
    have number : (Value.float x).place? = some p := place?_eq_some.2 ⟨x, rfl, placed⟩
    exact .numbers number number (by rintro ⟨float, -⟩; cases float)
  | .text s, _ => .text s
  | .list _, free => .list (EqualItems.refl fun _ mem => free.item mem)
  | .map ⟨_⟩, free => .map (EqualEntries.refl fun _ mem => free.entry mem)
  | .function f, _ => .function f
  | .template _, _ => .template rfl
  | .loader id, _ => .loader id

theorem EqualItems.refl : ∀ {vs : List Value}, (∀ v ∈ vs, v.NanFree) → EqualItems vs vs
  | [], _ => .nil
  | _ :: _, free =>
    .cons (Equal.refl (free _ (.head _))) (EqualItems.refl fun v mem => free v (.tail _ mem))

theorem EqualEntries.refl : ∀ {a : List (String × Value)}, (∀ e ∈ a, e.2.NanFree) → EqualEntries a a
  | [], _ => .nil
  | (_, _) :: _, free =>
    .cons (Equal.refl (free _ (.head _))) (EqualEntries.refl fun e mem => free e (.tail _ mem))

end

theorem EqualItems.getElem? {vs ws : List Value} {i : Nat} (h : EqualItems vs ws)
    (hv : vs[i]? = some v) (hw : ws[i]? = some w) : Equal v w := by
  induction vs generalizing ws i with
  | nil => cases hv
  | cons first vs ih =>
    cases h with
    | cons equal rest =>
      cases i with
      | zero =>
        cases hv
        cases hw
        exact equal
      | succ i => exact ih rest hv hw

theorem EqualEntries.getElem? {a b : List (String × Value)} {e f : String × Value} {i : Nat}
    (h : EqualEntries a b) (he : a[i]? = some e) (hf : b[i]? = some f) : Equal e.2 f.2 := by
  induction a generalizing b i with
  | nil => cases he
  | cons first a ih =>
    cases h with
    | cons equal rest =>
      cases i with
      | zero =>
        cases he
        cases hf
        exact equal
      | succ i => exact ih rest he hf

/-- A value that is equal to itself has only parts that are equal to themselves. -/
theorem Equal.of_part (h : Equal v v) (part : v.Part w) : Equal w w := by
  induction part with
  | self => exact h
  | item _ mem ih =>
    cases ih with
    | list items =>
      obtain ⟨i, found⟩ := List.mem_iff_getElem?.1 mem
      exact items.getElem? found found
    | numbers hp => cases hp
  | entry _ mem ih =>
    cases ih with
    | map entries =>
      obtain ⟨i, found⟩ := List.mem_iff_getElem?.1 mem
      exact entries.getElem? found found
    | numbers hp => cases hp

theorem Equal.nanFree (h : Equal v v) : v.NanFree := by
  intro x part
  cases h.of_part part with
  | numbers hp =>
    obtain ⟨y, eq, placed⟩ := place?_eq_some.1 hp
    cases eq
    exact isNaN_eq_false_iff.2 ⟨_, placed⟩

end Reflexive

/-! ## Turned around -/

mutual

theorem Equal.symm {v w : Value} (h : Equal v w) : Equal w v := by
  cases h with
  | null => exact .null
  | text s => exact .text s
  | list items => exact .list items.symm
  | map entries => exact .map entries.symm
  | function f => exact .function f
  | template same => exact .template same.symm
  | loader id => exact .loader id
  | int n => exact .int n
  | numbers hp hq mixed => exact .numbers hq hp (mt And.symm mixed)

theorem EqualItems.symm {vs ws : List Value} (h : EqualItems vs ws) : EqualItems ws vs := by
  cases h with
  | nil => exact .nil
  | cons first rest => exact .cons first.symm rest.symm

theorem EqualEntries.symm {a b : List (String × Value)} (h : EqualEntries a b) : EqualEntries b a := by
  cases h with
  | nil => exact .nil
  | cons first rest => exact .cons first.symm rest.symm

end

/-! ## One after the other -/

/-- At one place in three values, a float stands between two integers that differ. -/
inductive Divided : Value → Value → Value → Prop
  | float {m n : Int64} (x : Float) : m ≠ n → Divided (.int m) (.float x) (.int n)
  | item {us vs ws : List Value} {u v w : Value} (i : Nat) : us[i]? = some u → vs[i]? = some v →
      ws[i]? = some w → Divided u v w → Divided (.list us) (.list vs) (.list ws)
  | entry {ds es fs : List (String × Value)} {d e f : String × Value} (i : Nat) : ds[i]? = some d →
      es[i]? = some e → fs[i]? = some f → Divided d.2 e.2 f.2 →
      Divided (.map ⟨ds⟩) (.map ⟨es⟩) (.map ⟨fs⟩)

section Transitive

variable {u v w : Value}

/-- Three numbers, two integers of which may differ only if the third is a float between them. -/
theorem equal_of_places {p : Place} (hu : u.place? = some p) (hv : v.place? = some p)
    (hw : w.place? = some p) (number : v.kind ≠ .int) (whole : ¬ Divided u v w) : Equal u w := by
  by_cases ints : BothInt u w
  · obtain ⟨left, right⟩ := ints
    cases u <;> cases left
    cases w <;> cases right
    rename_i m n
    cases v with
    | float x =>
      by_cases same : m = n
      · exact same ▸ .int m
      · exact absurd (.float x same) whole
    | bool b =>
      rw [place?_int] at hu hw
      have left := toInt_of_place_bool (hv.trans hu.symm)
      have right := toInt_of_place_bool (hv.trans hw.symm)
      exact Int64.toInt_inj.1 (left.symm.trans right) ▸ .int m
    | int k => exact absurd rfl number
    | _ => cases hv
  · exact .numbers hu hw ints

mutual

theorem Equal.trans {u v w : Value} (first : Equal u v) (second : Equal v w) (whole : ¬ Divided u v w) :
    Equal u w := by
  cases first with
  | null =>
    cases second with
    | null => exact .null
    | numbers hp => cases hp
  | text s =>
    cases second with
    | text => exact .text s
    | numbers hp => cases hp
  | list items =>
    cases second with
    | list items' =>
      exact .list (items.trans items' fun i _ _ _ hu hv hw split => whole (.item i hu hv hw split))
    | numbers hp => cases hp
  | map entries =>
    cases second with
    | map entries' =>
      exact .map (entries.trans entries' fun i _ _ _ hd he hf split => whole (.entry i hd he hf split))
    | numbers hp => cases hp
  | function f =>
    cases second with
    | function => exact .function f
    | numbers hp => cases hp
  | template same =>
    cases second with
    | template same' => exact .template (same.trans same')
    | numbers hp => cases hp
  | loader id =>
    cases second with
    | loader => exact .loader id
    | numbers hp => cases hp
  | int n => exact second
  | numbers hp hq mixed =>
    cases second with
    | int n => exact .numbers hp hq mixed
    | numbers hq' hr mixed' =>
      obtain rfl := Option.some.inj (hq.symm.trans hq')
      by_cases number : v.kind = .int
      · exact .numbers hp hr fun both => mixed ⟨both.1, number⟩
      · exact equal_of_places hp hq hr number whole
    | _ => cases hq

theorem EqualItems.trans {us vs ws : List Value} (first : EqualItems us vs) (second : EqualItems vs ws)
    (whole : ∀ (i : Nat) (u v w : Value), us[i]? = some u → vs[i]? = some v → ws[i]? = some w →
      ¬ Divided u v w) : EqualItems us ws := by
  cases first with
  | nil => exact second
  | cons head tail =>
    cases second with
    | cons head' tail' =>
      exact .cons (head.trans head' (whole 0 _ _ _ rfl rfl rfl))
        (tail.trans tail' fun i => whole (i + 1))

theorem EqualEntries.trans {ds es fs : List (String × Value)} (first : EqualEntries ds es)
    (second : EqualEntries es fs)
    (whole : ∀ (i : Nat) (d e f : String × Value), ds[i]? = some d → es[i]? = some e →
      fs[i]? = some f → ¬ Divided d.2 e.2 f.2) : EqualEntries ds fs := by
  cases first with
  | nil => exact second
  | cons head tail =>
    cases second with
    | cons head' tail' =>
      exact .cons (head.trans head' (whole 0 _ _ _ rfl rfl rfl))
        (tail.trans tail' fun i => whole (i + 1))

end

/-- Equal values are not divided by anything. -/
theorem Divided.not_equal (h : Divided u v w) : ¬ Equal u w := by
  induction h with
  | float x differ =>
    rintro (- | - | - | - | - | - | - | same | ⟨-, -, mixed⟩)
    · exact differ rfl
    · exact mixed ⟨rfl, rfl⟩
  | item i hu _ hw _ ih =>
    intro equal
    cases equal with
    | list items => exact ih (items.getElem? hu hw)
    | numbers hp => cases hp
  | entry i hd _ hf _ ih =>
    intro equal
    cases equal with
    | map entries => exact ih (entries.getElem? hd hf)
    | numbers hp => cases hp

end Transitive

/-! ## The laws -/

/-- **The laws of equality.**  A value is equal to itself exactly if it holds no not-a-number; equality
can be turned around; and of values that are equal one to the next the first and the last are equal,
too, exactly if nowhere in them a float stands between two integers that differ. -/
theorem equality_laws (a b c : Value) :
    (a.equals a = true ↔ a.NanFree) ∧ a.equals b = b.equals a ∧
    (a.equals b = true → b.equals c = true → (a.equals c = true ↔ ¬ Divided a b c)) := by
  refine ⟨equals_iff.trans ⟨Equal.nanFree, Equal.refl⟩, ?_, fun first second => ?_⟩
  · rw [Bool.eq_iff_iff, equals_iff, equals_iff]
    exact ⟨Equal.symm, Equal.symm⟩
  · rw [equals_iff] at first second ⊢
    exact ⟨fun equal split => split.not_equal equal, first.trans second⟩

namespace Mixed

/-- `[1, {'k': True}]`. -/
def first : Value := .list [.int 1, .map ⟨[("k", .bool true)]⟩]

/-- `[True, {'k': 1.0}]`. -/
def second : Value := .list [.bool true, .map ⟨[("k", .float 1)]⟩]

/-- `[1.0, {'k': 1}]`. -/
def third : Value := .list [.float 1, .map ⟨[("k", .int 1)]⟩]

/-- No float stands between two integers here. -/
theorem not_divided : ¬ Divided first second third := by
  intro split
  cases split with
  | item i hu hv hw inner =>
    rcases i with _ | _ | i
    · cases hu
      cases hv
      cases inner
    · cases hu
      cases hv
      cases hw
      cases inner with
      | entry j hd he hf inner =>
        rcases j with _ | j
        · cases hd
          cases he
          cases inner
        · cases hd
    · cases hu

/-- Numbers of three kinds in lists and maps are equal one to the next, and the first to the last. -/
theorem equal_numbers : (first.equals second = true ∧ second.equals third = true) ∧
    first.equals third = true := by
  have equal : first.equals second = true := rfl
  have equal' : second.equals third = true := rfl
  exact ⟨⟨equal, equal'⟩, ((equality_laws first second third).2.2 equal equal').2 not_divided⟩

/-- **Equality is not transitive.**  Two integers that differ are equal to the float that both are
rounded to.  So it depends on their order what a set keeps of the three. -/
theorem equality_not_transitive :
    ((Value.int 9007199254740993).NanFree ∧ (Value.float 9007199254740992).NanFree ∧
      (Value.int 9007199254740992).NanFree) ∧
    (Value.int 9007199254740993).equals (.float 9007199254740992) = true ∧
    (Value.float 9007199254740992).equals (.int 9007199254740992) = true ∧
    (Value.int 9007199254740993).equals (.int 9007199254740992) = false ∧
    [Value.float 9007199254740992, .int 9007199254740992].foldl Expr.Tree.addToSet
      [.int 9007199254740993] = [.int 9007199254740993, .int 9007199254740992] ∧
    [Value.int 9007199254740993, .int 9007199254740992].foldl Expr.Tree.addToSet
      [.float 9007199254740992] = [.float 9007199254740992] := by
  have itself : ∀ v : Value, v.equals v = true → v.NanFree :=
    fun v equal => (equals_iff.1 equal).nanFree
  exact ⟨⟨itself _ rfl, itself _ rfl, itself _ rfl⟩, rfl, rfl, rfl, rfl, rfl⟩

end Mixed

end TextTemplate.Value
