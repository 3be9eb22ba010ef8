import Mathlib
import TextTemplate.Data.Basic
import TextTemplate.Proofs.Dictionary

/-!
# Data and their images

What a value should be that is made of structured data, said without making it: `Image` goes by the
structure of the data, and of the parts of a map it takes each value with the key right before it.
Which data may be handed over is said part by part (`Acceptable`), whatever the depth of a part.  Data
have one image at most (`Image.unique`).  Statements on all data are proved from the parts to the whole
(`Data.children_induction`).
-/

namespace TextTemplate

/-! ## Integers -/

/-- The numeric value of an integer. -/
def FixedInt.toInt : FixedInt → Int
  | .int8 n => n.toInt
  | .int16 n => n.toInt
  | .int32 n => n.toInt
  | .int64 n => n.toInt
  | .uint8 n => n.toNat
  | .uint16 n => n.toNat
  | .uint32 n => n.toNat

/-- A natural number below half the range is the integer of its own bits. -/
theorem toInt_toInt64_of_lt {n : UInt64} (small : n.toNat < 2 ^ 63) : n.toInt64.toInt = n.toNat := by
  have : n.toInt64.toInt = n.toBitVec.toInt := rfl
  rw [this, BitVec.toInt_eq_toNat_of_lt] <;> rw [UInt64.toNat_toBitVec]
  omega

/-- Widening keeps the numeric value. -/
theorem FixedInt.toInt_toInt64 (n : FixedInt) : n.toInt64.toInt = n.toInt := by
  cases n with
  | int8 n => exact Int8.toInt_toInt64 n
  | int16 n => exact Int16.toInt_toInt64 n
  | int32 n => exact Int32.toInt_toInt64 n
  | int64 n => rfl
  | uint8 n =>
    have := n.toNat_lt
    exact toInt_toInt64_of_lt (by rw [UInt8.toNat_toUInt64]; omega)
  | uint16 n =>
    have := n.toNat_lt
    exact toInt_toInt64_of_lt (by rw [UInt16.toNat_toUInt64]; omega)
  | uint32 n =>
    have := n.toNat_lt
    exact toInt_toInt64_of_lt (by rw [UInt32.toNat_toUInt64]; omega)

/-! ## Parts -/

/-- The data of a key or a value. -/
def MapPart.data : MapPart → Data
  | .key d => d
  | .value d => d

namespace Data

/-- What data are made of, one level down. -/
def children : Data → List Data
  | .some d | .newtypeStruct d | .newtypeVariant _ d => [d]
  | .seq items | .tuple items | .tupleStruct items | .tupleVariant _ items => items
  | .map parts => parts.map MapPart.data
  | .struct fields | .structVariant _ fields => fields.map Prod.snd
  | _ => []

theorem sizeOf_field {c : Data} {fields : List (String × Data)} (h : c ∈ fields.map Prod.snd) :
    sizeOf c < sizeOf fields := by
  obtain ⟨⟨name, d⟩, mem, rfl⟩ := List.mem_map.1 h
  have := List.sizeOf_lt_of_mem mem
  simp only [Prod.mk.sizeOf_spec] at this ⊢
  omega

theorem sizeOf_part {c : Data} {parts : List MapPart} (h : c ∈ parts.map MapPart.data) :
    sizeOf c < sizeOf parts := by
  obtain ⟨part, mem, rfl⟩ := List.mem_map.1 h
  have := List.sizeOf_lt_of_mem mem
  cases part <;>
  · simp only [MapPart.data, MapPart.key.sizeOf_spec, MapPart.value.sizeOf_spec] at this ⊢
    omega

theorem sizeOf_child {c d : Data} (h : c ∈ d.children) : sizeOf c < sizeOf d := by
  cases d with
  | some d | newtypeStruct d | newtypeVariant variant d =>
    obtain rfl := List.mem_singleton.1 h
    simp
  | seq items | tuple items | tupleStruct items | tupleVariant variant items =>
    have := List.sizeOf_lt_of_mem (show c ∈ items from h)
    simp only [seq.sizeOf_spec, tuple.sizeOf_spec, tupleStruct.sizeOf_spec, tupleVariant.sizeOf_spec]
    omega
  | map parts =>
    have := sizeOf_part h
    simp only [map.sizeOf_spec]
    omega
  | struct fields | structVariant variant fields =>
    have := sizeOf_field h
    simp only [struct.sizeOf_spec, structVariant.sizeOf_spec]
    omega
  | _ => cases h

/-- What holds of data if it holds of all that they are made of holds of all data. -/
theorem children_induction {motive : Data → Prop}
    (step : ∀ d : Data, (∀ c ∈ d.children, motive c) → motive d) (d : Data) : motive d :=
  step d fun c _ => children_induction step c
termination_by sizeOf d
decreasing_by exact sizeOf_child ‹_›

/-- Data and all that they are made of, at any depth. -/
inductive Part : Data → Data → Prop
  | self {d : Data} : Part d d
  | inner {c d p : Data} : c ∈ d.children → Part c p → Part d p

/-! ## Images -/

/-- The name that a text or an integer is in a map; an integer is written in decimal. -/
inductive Names : Value → String → Prop
  | text (s : String) : Names (.text s) s
  | int (n : Int64) : Names (.int n) (toString n.toInt)

/-- The values in a map, each with the key right before it. -/
def pairs : List MapPart → List (Data × Data)
  | .key k :: .value d :: rest => (k, d) :: pairs rest
  | _ :: rest => pairs rest
  | [] => []

/-- A map in which each name has what was written under it last, and which has no other name. -/
structure Holds (m : Dictionary Value) (written : List (String × Value)) : Prop where
  ascending : m.Ascending
  get? (name : String) : m.get? name = written.reverse.lookup name

/-- The value that stands for data. -/
inductive Image : Data → Value → Prop
  | bool (b : Bool) : Image (.bool b) (.bool b)
  | int {n : FixedInt} {m : Int64} : m.toInt = n.toInt → Image (.int n) (.int m)
  | natural {n : UInt64} {m : Int64} : m.toInt = n.toNat → Image (.natural n) (.int m)
  | single (x : Float32) : Image (.single x) (.float x.toFloat)
  | float (x : Float) : Image (.float x) (.float x)
  | char (c : Char) : Image (.char c) (.text (String.singleton c))
  | text (s : String) : Image (.text s) (.text s)
  | bytes {bytes : List UInt8} {ns : List Int64} :
      List.Forall₂ (fun b n => n.toInt = b.toNat) bytes ns → Image (.bytes bytes) (.list (ns.map .int))
  | none : Image .none .null
  | some {d : Data} {v : Value} : Image d v → Image (.some d) v
  | unit : Image .unit .null
  | unitStruct : Image .unitStruct .null
  | unitVariant (variant : String) : Image (.unitVariant variant) (.text variant)
  | newtypeStruct {d : Data} {v : Value} : Image d v → Image (.newtypeStruct d) v
  | newtypeVariant {variant : String} {d : Data} {v : Value} :
      Image d v → Image (.newtypeVariant variant d) (.map ⟨[(variant, v)]⟩)
  | seq {items : List Data} {vs : List Value} :
      List.Forall₂ Image items vs → Image (.seq items) (.list vs)
  | tuple {items : List Data} {vs : List Value} :
      List.Forall₂ Image items vs → Image (.tuple items) (.list vs)
  | tupleStruct {items : List Data} {vs : List Value} :
      List.Forall₂ Image items vs → Image (.tupleStruct items) (.list vs)
  | tupleVariant {variant : String} {items : List Data} {vs : List Value} :
      List.Forall₂ Image items vs →
      Image (.tupleVariant variant items) (.map ⟨[(variant, .list vs)]⟩)
  | map {parts : List MapPart} {keys vs : List Value} {names : List String} {m : Dictionary Value} :
      List.Forall₂ Image ((pairs parts).map Prod.fst) keys → List.Forall₂ Names keys names →
      List.Forall₂ Image ((pairs parts).map Prod.snd) vs → Holds m (names.zip vs) →
      Image (.map parts) (.map m)
  | struct {fields : List (String × Data)} {vs : List Value} {m : Dictionary Value} :
      List.Forall₂ Image (fields.map Prod.snd) vs → Holds m ((fields.map Prod.fst).zip vs) →
      Image (.struct fields) (.map m)
  | structVariant {variant : String} {fields : List (String × Data)} {vs : List Value}
      {m : Dictionary Value} :
      List.Forall₂ Image (fields.map Prod.snd) vs → Holds m ((fields.map Prod.fst).zip vs) →
      Image (.structVariant variant fields) (.map ⟨[(variant, .map m)]⟩)

/-! ## What may be handed over -/

/-- Every value has a key before it, with no other value in between. -/
def Fed (parts : List MapPart) : Prop :=
  ∀ before d after, parts = before ++ .value d :: after →
    ∃ earlier k later, before = earlier ++ .key k :: later ∧ ∀ e, .value e ∉ later

/-- What data have to be, apart from what they are made of: no integer is too large, and in a map each
key is a text or an integer and each value has its key. -/
def Fit : Data → Prop
  | .natural n => n.toNat ≤ 2 ^ 63 - 1
  | .wide _ => False
  | .refused _ => False
  | .map parts => (∀ k, .key k ∈ parts → ∃ v name, Image k v ∧ Names v name) ∧ Fed parts
  | _ => True

/-- All that stands in the data is fit. -/
def Acceptable (d : Data) : Prop := ∀ p, d.Part p → p.Fit

theorem acceptable_iff (d : Data) : d.Acceptable ↔ d.Fit ∧ ∀ c ∈ d.children, c.Acceptable := by
  constructor
  · exact fun h => ⟨h d .self, fun c mem p part => h p (.inner mem part)⟩
  · rintro ⟨fit, inside⟩ p part
    cases part with
    | self => exact fit
    | inner mem part => exact inside _ mem p part

/-! ## Images are unique -/

theorem Names.unique {v : Value} {name name' : String} (h : Names v name) (h' : Names v name') :
    name = name' := by
  cases h <;> cases h' <;> rfl

theorem Holds.unique {m m' : Dictionary Value} {written : List (String × Value)}
    (h : Holds m written) (h' : Holds m' written) : m = m' :=
  h.ascending.ext h'.ascending fun name => (h.get? name).trans (h'.get? name).symm

/-- Related lists are determined by the first one if each of its elements determines what it is
related to. -/
theorem forall₂_unique {α β : Type} {R : α → β → Prop} {l : List α} {l₁ l₂ : List β}
    (unique : ∀ a ∈ l, ∀ b c, R a b → R a c → b = c) (h : List.Forall₂ R l l₁)
    (h' : List.Forall₂ R l l₂) : l₁ = l₂ := by
  induction h generalizing l₂ with
  | nil =>
    cases h'
    rfl
  | cons first rest ih =>
    cases h' with
    | cons first' rest' =>
      rw [unique _ (.head _) _ _ first first', ih (fun a mem => unique a (.tail _ mem)) rest']

theorem mem_pairs {parts : List MapPart} {p : Data × Data} (h : p ∈ pairs parts) :
    .key p.1 ∈ parts ∧ .value p.2 ∈ parts := by
  induction parts using pairs.induct with
  | case1 k d rest ih =>
    rw [pairs] at h
    rcases List.mem_cons.1 h with rfl | h
    · exact ⟨.head _, .tail _ (.head _)⟩
    · exact ⟨.tail _ (.tail _ (ih h).1), .tail _ (.tail _ (ih h).2)⟩
  | case2 part rest apart ih =>
    rw [pairs] at h
    · exact ⟨.tail _ (ih h).1, .tail _ (ih h).2⟩
    · exact apart
  | case3 => cases h

/-- What stands in a pair is handed over with the map. -/
theorem mem_children_of_pairs {parts : List MapPart} {c : Data}
    (h : c ∈ (pairs parts).map Prod.fst ∨ c ∈ (pairs parts).map Prod.snd) :
    c ∈ (Data.map parts).children := by
  rcases h with h | h <;> obtain ⟨p, mem, rfl⟩ := List.mem_map.1 h
  · exact List.mem_map.2 ⟨_, (mem_pairs mem).1, rfl⟩
  · exact List.mem_map.2 ⟨_, (mem_pairs mem).2, rfl⟩

/-- **Data have one image at most.** -/
theorem Image.unique {d : Data} {v w : Value} (h : Image d v) (h' : Image d w) : v = w := by
  induction d using children_induction generalizing v w with
  | step d ih =>
    have items_unique {items : List Data} {vs ws : List Value} (within : ∀ c ∈ items, c ∈ d.children)
        (images : List.Forall₂ Image items vs) (images' : List.Forall₂ Image items ws) : vs = ws :=
      forall₂_unique (fun c mem _ _ => ih c (within c mem)) images images'
    cases h with
    | int same =>
      cases h' with
      | int same' => rw [Int64.toInt_inj.1 (same.trans same'.symm)]
    | natural same =>
      cases h' with
      | natural same' => rw [Int64.toInt_inj.1 (same.trans same'.symm)]
    | bytes same =>
      cases h' with
      | bytes same' =>
        rw [forall₂_unique (fun _ _ m n hm hn => Int64.toInt_inj.1 (hm.trans hn.symm)) same same']
    | some h =>
      cases h' with
      | some h' => exact ih _ (.head _) h h'
    | newtypeStruct h =>
      cases h' with
      | newtypeStruct h' => exact ih _ (.head _) h h'
    | newtypeVariant h =>
      cases h' with
      | newtypeVariant h' => rw [ih _ (.head _) h h']
    | seq images =>
      cases h' with
      | seq images' => rw [items_unique (fun _ => id) images images']
    | tuple images =>
      cases h' with
      | tuple images' => rw [items_unique (fun _ => id) images images']
    | tupleStruct images =>
      cases h' with
      | tupleStruct images' => rw [items_unique (fun _ => id) images images']
    | tupleVariant images =>
      cases h' with
      | tupleVariant images' => rw [items_unique (fun _ => id) images images']
    | map keys names images holds =>
      cases h' with
      | map keys' names' images' holds' =>
        rw [items_unique (fun c mem => mem_children_of_pairs (.inl mem)) keys keys'] at names
        rw [forall₂_unique (R := Names) (fun _ _ _ _ => Names.unique) names names',
          items_unique (fun c mem => mem_children_of_pairs (.inr mem)) images images'] at holds
        rw [holds.unique holds']
    | struct images holds =>
      cases h' with
      | struct images' holds' =>
        rw [items_unique (fun _ => id) images images'] at holds
        rw [holds.unique holds']
    | structVariant images holds =>
      cases h' with
      | structVariant images' holds' =>
        rw [items_unique (fun _ => id) images images'] at holds
        rw [holds.unique holds']
    | _ =>
      cases h'
      rfl

end Data

end TextTemplate
