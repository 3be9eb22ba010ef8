import Mathlib
import TextTemplate.Proofs.Data.Image
import TextTemplate.Proofs.Value.Overflow

/-!
# Conversion of data

Data become a value exactly if all of their parts are acceptable, and the value is their image.  What a
serializer holds when it is finished is told by `finish_items`, `finish_fields` and `finish_parts`, one
for each way of taking pieces, whether they belong to a variant or not.  The entries of a map are
followed with the key that waits for its value (`Takes`); what is taken in the end is the pairs of keys
and values that stand side by side (`Takes.pairing`).  The main result is `conversion_exact`.
-/

namespace TextTemplate

/-- An integer of 64 bits is found exactly for its own value. -/
theorem Number.int64?_eq_some {n : Int} {m : Int64} : Number.int64? n = some m ↔ m.toInt = n := by
  constructor
  · intro h
    unfold Number.int64? Number.minInt Number.maxInt at h
    obtain ⟨fits, same⟩ := Option.ite_none_right_eq_some.1 h
    cases same
    exact Int64.toInt_ofInt_of_le (by omega) (by omega)
  · rintro rfl
    have := Int64.le_toInt m
    have := Int64.toInt_lt m
    unfold Number.int64? Number.minInt Number.maxInt
    rw [if_pos (by omega), Int64.ofInt_toInt]

namespace Data

/-- The data become the value. -/
def Becomes (d : Data) (v : Value) : Prop := d.toValue = .ok v

theorem bind_ok_iff {α β : Type} {x : Except ValueFault α} {f : α → Except ValueFault β} {b : β} :
    (x >>= f) = .ok b ↔ ∃ a, x = .ok a ∧ f a = .ok b := by
  cases x with
  | ok a =>
    constructor
    · exact fun h => ⟨a, rfl, h⟩
    · rintro ⟨a', same, h⟩
      cases same
      exact h
  | error fault =>
    constructor
    · intro h
      cases h
    · rintro ⟨a, same, -⟩
      cases same

theorem pure_ok_iff {α : Type} {a b : α} : (pure a : Except ValueFault α) = .ok b ↔ a = b :=
  Except.ok.injEq a b ▸ Iff.rfl

theorem mapKey_eq_ok {v : Value} {name : String} : mapKey v = .ok name ↔ Names v name := by
  constructor
  · intro h
    cases v with
    | text s =>
      cases h
      exact .text name
    | int n =>
      cases h
      exact .int n
    | _ => cases h
  · intro h
    cases h <;> rfl

/-! ## Items and fields -/

/-- Items are taken one by one. -/
theorem takeItems_eq_ok {s s' : ListSerializer} {items : List Data} :
    takeItems s items = .ok s' ↔ ∃ vs, List.Forall₂ Becomes items vs ∧
      s' = ⟨s.variant, s.items ++ vs⟩ := by
  induction items generalizing s with
  | nil =>
    rw [takeItems, Except.ok.injEq]
    constructor
    · rintro rfl
      exact ⟨[], .nil, by rw [List.append_nil]⟩
    · rintro ⟨vs, none, rfl⟩
      cases none
      rw [List.append_nil]
  | cons d rest ih =>
    rw [takeItems, bind_ok_iff]
    constructor
    · rintro ⟨v, become, others⟩
      obtain ⟨vs, become', rfl⟩ := ih.1 others
      exact ⟨v :: vs, .cons become become', by simp [ListSerializer.push]⟩
    · rintro ⟨vs, become, rfl⟩
      obtain ⟨v, vs, here, others, rfl⟩ := List.forall₂_cons_left_iff.1 become
      exact ⟨v, here, ih.2 ⟨vs, others, by simp [ListSerializer.push]⟩⟩

/-- A list that is finished holds the values of its items, under the name of its variant. -/
theorem finish_items {variant : Option String} {items : List Data} {v : Value} :
    (do let s ← takeItems (.new variant) items; return s.finish) = .ok v ↔
      ∃ vs, List.Forall₂ Becomes items vs ∧ v = tagged variant (.list vs) := by
  rw [bind_ok_iff]
  simp only [takeItems_eq_ok, pure_ok_iff]
  constructor
  · rintro ⟨s, ⟨vs, become, rfl⟩, rfl⟩
    exact ⟨vs, become, rfl⟩
  · rintro ⟨vs, become, rfl⟩
    exact ⟨_, ⟨vs, become, rfl⟩, rfl⟩

/-- The fields of a record are put in one after the other. -/
theorem takeFields_eq_ok {s s' : MapSerializer} {fields : List (String × Data)} :
    takeFields s fields = .ok s' ↔ ∃ vs, List.Forall₂ Becomes (fields.map Prod.snd) vs ∧
      s' = { s with entries := s.entries.assign ((fields.map Prod.fst).zip vs) } := by
  induction fields generalizing s with
  | nil =>
    rw [takeFields, Except.ok.injEq]
    constructor
    · rintro rfl
      exact ⟨[], .nil, rfl⟩
    · rintro ⟨vs, none, rfl⟩
      rfl
  | cons field rest ih =>
    obtain ⟨key, d⟩ := field
    rw [takeFields, bind_ok_iff]
    constructor
    · rintro ⟨v, become, others⟩
      obtain ⟨vs, become', rfl⟩ := ih.1 others
      exact ⟨v :: vs, .cons become become', rfl⟩
    · rintro ⟨vs, become, rfl⟩
      obtain ⟨v, vs, here, others, rfl⟩ := List.forall₂_cons_left_iff.1 become
      exact ⟨v, here, ih.2 ⟨vs, others, rfl⟩⟩

/-- A record that is finished holds the values of its fields, under the name of its variant. -/
theorem finish_fields {variant : Option String} {fields : List (String × Data)} {v : Value} :
    (do let s ← takeFields (.new variant) fields; return s.finish) = .ok v ↔
      ∃ vs, List.Forall₂ Becomes (fields.map Prod.snd) vs ∧
        v = tagged variant (.map (Dictionary.empty.assign ((fields.map Prod.fst).zip vs))) := by
  rw [bind_ok_iff]
  simp only [takeFields_eq_ok, pure_ok_iff]
  constructor
  · rintro ⟨s, ⟨vs, become, rfl⟩, rfl⟩
    exact ⟨vs, become, rfl⟩
  · rintro ⟨vs, become, rfl⟩
    exact ⟨_, ⟨vs, become, rfl⟩, rfl⟩

/-! ## Keys and values -/

/-- What is written into a map by its parts, while a key may be waiting for its value. -/
inductive Takes : Option String → List MapPart → List (String × Value) → Prop
  | nil {waiting : Option String} : Takes waiting [] []
  | key {waiting : Option String} {k : Data} {v : Value} {name : String} {rest : List MapPart}
      {written : List (String × Value)} :
      Becomes k v → Names v name → Takes (Option.some name) rest written →
      Takes waiting (.key k :: rest) written
  | value {name : String} {d : Data} {v : Value} {rest : List MapPart}
      {written : List (String × Value)} :
      Becomes d v → Takes Option.none rest written →
      Takes (Option.some name) (.value d :: rest) ((name, v) :: written)

theorem takeKey_eq_ok {s s' : MapSerializer} {key : String} :
    s.takeKey = .ok (key, s') ↔
      s.pendingKey = Option.some key ∧ s' = { s with pendingKey := Option.none } := by
  unfold MapSerializer.takeKey
  cases s.pendingKey with
  | none =>
    constructor
    · intro h
      cases h
    · rintro ⟨h, -⟩
      cases h
  | some waiting =>
    constructor
    · intro h
      cases h
      exact ⟨rfl, rfl⟩
    · rintro ⟨h, rfl⟩
      cases h
      rfl

/-- A map that is finished holds what was written, under the name of its variant. -/
theorem finish_parts {s : MapSerializer} {parts : List MapPart} {v : Value} :
    (do let s' ← takeParts s parts; return s'.finish) = .ok v ↔
      ∃ written, Takes s.pendingKey parts written ∧
        v = tagged s.variant (.map (s.entries.assign written)) := by
  induction parts generalizing s with
  | nil =>
    rw [takeParts, bind_ok_iff]
    constructor
    · rintro ⟨s', same, finished⟩
      cases same
      exact ⟨[], .nil, (pure_ok_iff.1 finished).symm⟩
    · rintro ⟨written, takes, rfl⟩
      generalize s.pendingKey = waiting at takes
      cases takes
      exact ⟨s, rfl, rfl⟩
  | cons part rest ih =>
    cases part with
    | key k =>
      simp only [takeParts, bind_assoc, bind_ok_iff (x := k.toValue), bind_ok_iff (x := mapKey _),
        mapKey_eq_ok, ih]
      constructor
      · rintro ⟨v, become, key, names, written, takes, rfl⟩
        exact ⟨written, .key become names takes, rfl⟩
      · rintro ⟨written, takes, rfl⟩
        generalize s.pendingKey = waiting at takes
        cases takes with
        | key become names takes => exact ⟨_, become, _, names, written, takes, rfl⟩
    | value d =>
      simp only [takeParts, bind_assoc, bind_ok_iff (x := s.takeKey), bind_ok_iff (x := d.toValue),
        Prod.exists, takeKey_eq_ok, ih]
      constructor
      · rintro ⟨key, s', ⟨waits, rfl⟩, v, become, written, takes, rfl⟩
        rw [waits]
        exact ⟨_, .value become takes, rfl⟩
      · rintro ⟨written, takes, rfl⟩
        generalize waits : s.pendingKey = waiting at takes
        cases takes with
        | value become takes => exact ⟨_, _, ⟨rfl, rfl⟩, _, become, _, takes, rfl⟩

/-- What is written when keys and values are paired. -/
structure Pairing (ps : List (Data × Data)) (written : List (String × Value)) (ks : List Value)
    (ns : List String) (vs : List Value) : Prop where
  keys : List.Forall₂ Becomes (ps.map Prod.fst) ks
  names : List.Forall₂ Names ks ns
  values : List.Forall₂ Becomes (ps.map Prod.snd) vs
  written : written = ns.zip vs

/-- Each value is written under the key right before it.  A key that waits counts as the first part. -/
theorem Takes.pairing {waiting : Option String} {parts : List MapPart}
    {written : List (String × Value)} (h : Takes waiting parts written) :
    match waiting with
    | Option.none => ∃ ks ns vs, Pairing (pairs parts) written ks ns vs
    | Option.some name => ∀ k key, Becomes k key → Names key name →
        ∃ ks ns vs, Pairing (pairs (.key k :: parts)) written ks ns vs := by
  induction h with
  | @nil waiting =>
    cases waiting with
    | none => exact ⟨[], [], [], .nil, .nil, .nil, rfl⟩
    | some name => exact fun k key _ _ => ⟨[], [], [], .nil, .nil, .nil, rfl⟩
  | @key waiting k v name rest written become names takes ih =>
    have here := ih k v become names
    cases waiting with
    | none => exact here
    | some name' => exact fun k' key _ _ => here
  | @value name d v rest written become takes ih =>
    intro k key becomeKey named
    obtain ⟨ks, ns, vs, pairing⟩ := ih
    exact ⟨key :: ks, name :: ns, v :: vs, .cons becomeKey pairing.keys, .cons named pairing.names,
      .cons become pairing.values, by rw [pairing.written]; rfl⟩

/-- Every value has a key before it, with no other value in between; one may be waiting. -/
def FedFrom : Bool → List MapPart → Prop
  | _, [] => True
  | _, .key _ :: rest => FedFrom true rest
  | waiting, .value _ :: rest => waiting = true ∧ FedFrom false rest

theorem exists_takes_iff {waiting : Option String} {parts : List MapPart} :
    (∃ written, Takes waiting parts written) ↔
      (∀ k, .key k ∈ parts → ∃ v name, Becomes k v ∧ Names v name) ∧
      (∀ d, .value d ∈ parts → ∃ v, Becomes d v) ∧ FedFrom waiting.isSome parts := by
  induction parts generalizing waiting with
  | nil => exact ⟨fun _ => ⟨by simp, by simp, trivial⟩, fun _ => ⟨[], .nil⟩⟩
  | cons part rest ih =>
    cases part with
    | key k =>
      constructor
      · rintro ⟨written, takes⟩
        cases takes with
        | @key _ _ v name _ _ become names takes =>
          obtain ⟨keys, values, fed⟩ := ih.1 ⟨written, takes⟩
          refine ⟨fun k' mem => ?_, fun d mem => ?_, fed⟩
          · rcases List.mem_cons.1 mem with same | mem
            · cases same
              exact ⟨v, name, become, names⟩
            · exact keys k' mem
          · exact values d ((List.mem_cons.1 mem).resolve_left MapPart.noConfusion)
      · rintro ⟨keys, values, fed⟩
        obtain ⟨v, name, become, names⟩ := keys k (.head _)
        obtain ⟨written, takes⟩ := (@ih (Option.some name)).2
          ⟨fun k' mem => keys k' (.tail _ mem), fun d mem => values d (.tail _ mem), fed⟩
        exact ⟨written, .key become names takes⟩
    | value d =>
      constructor
      · rintro ⟨written, takes⟩
        cases takes with
        | @value name _ v _ written become takes =>
          obtain ⟨keys, values, fed⟩ := ih.1 ⟨written, takes⟩
          refine ⟨fun k mem => ?_, fun d' mem => ?_, rfl, fed⟩
          · exact keys k ((List.mem_cons.1 mem).resolve_left MapPart.noConfusion)
          · rcases List.mem_cons.1 mem with same | mem
            · cases same
              exact ⟨v, become⟩
            · exact values d' mem
      · rintro ⟨keys, values, waits, fed⟩
        obtain ⟨name, rfl⟩ := Option.isSome_iff_exists.1 waits
        obtain ⟨v, become⟩ := values d (.head _)
        obtain ⟨written, takes⟩ := (@ih Option.none).2
          ⟨fun k mem => keys k (.tail _ mem), fun d mem => values d (.tail _ mem), fed⟩
        exact ⟨_, .value become takes⟩

/-- A key that waits is a key with no value behind it. -/
theorem fedFrom_iff {waiting : Bool} {parts : List MapPart} :
    FedFrom waiting parts ↔ ∀ before d after, parts = before ++ .value d :: after →
      (∃ earlier k later, before = earlier ++ .key k :: later ∧ ∀ e, .value e ∉ later) ∨
      (waiting = true ∧ ∀ e, .value e ∉ before) := by
  induction parts generalizing waiting with
  | nil => simp [FedFrom]
  | cons part rest ih =>
    cases part with
    | key k =>
      rw [FedFrom, ih]
      constructor
      · rintro fed before d after eq
        cases before with
        | nil => cases eq
        | cons first before =>
          obtain ⟨rfl, behind⟩ := List.cons.inj eq
          left
          rcases fed before d after behind with ⟨earlier, k', later, rfl, none⟩ | ⟨-, none⟩
          · exact ⟨.key k :: earlier, k', later, rfl, none⟩
          · exact ⟨[], k, before, rfl, none⟩
      · rintro fed before d after rfl
        rcases fed (.key k :: before) d after rfl with ⟨earlier, k', later, eq, none⟩ | ⟨-, none⟩
        · cases earlier with
          | nil =>
            cases eq
            exact .inr ⟨rfl, none⟩
          | cons first earlier =>
            obtain ⟨-, rfl⟩ := List.cons.inj eq
            exact .inl ⟨earlier, k', later, rfl, none⟩
        · exact .inr ⟨rfl, fun e mem => none e (.tail _ mem)⟩
    | value d =>
      rw [FedFrom, ih]
      constructor
      · rintro ⟨waits, fed⟩ before d' after eq
        cases before with
        | nil => exact .inr ⟨waits, fun e mem => by cases mem⟩
        | cons first before =>
          obtain ⟨rfl, behind⟩ := List.cons.inj eq
          left
          rcases fed before d' after behind with ⟨earlier, k, later, rfl, none⟩ | ⟨waits', -⟩
          · exact ⟨.value d :: earlier, k, later, rfl, none⟩
          · cases waits'
      · intro fed
        constructor
        · rcases fed [] d rest rfl with ⟨earlier, k, later, eq, -⟩ | ⟨waits, -⟩
          · simp at eq
          · exact waits
        · rintro before d' after rfl
          rcases fed (.value d :: before) d' after rfl with ⟨earlier, k, later, eq, none⟩ | ⟨-, none⟩
          · cases earlier with
            | nil => cases eq
            | cons first earlier =>
              obtain ⟨-, rfl⟩ := List.cons.inj eq
              exact .inl ⟨earlier, k, later, rfl, none⟩
          · exact absurd (.head _) (none d)

theorem fed_iff {parts : List MapPart} : Fed parts ↔ FedFrom false parts := by
  rw [fedFrom_iff]
  simp [Fed]

/-! ## From the parts to the whole -/

theorem becomes_natural {n : UInt64} {v : Value} :
    Becomes (.natural n) v ↔ ∃ m : Int64, v = .int m ∧ m.toInt = n.toNat := by
  unfold Becomes
  rw [toValue]
  cases h : Number.int64? n.toNat with
  | none =>
    constructor
    · intro h
      cases h
    · rintro ⟨m, -, same⟩
      rw [Number.int64?_eq_some.2 same] at h
      cases h
  | some m =>
    constructor
    · intro same
      cases same
      exact ⟨m, rfl, Number.int64?_eq_some.1 h⟩
    · rintro ⟨m', rfl, same⟩
      rw [Number.int64?_eq_some.2 same] at h
      cases h
      rfl

theorem becomes_newtypeVariant {variant : String} {d : Data} {v : Value} :
    Becomes (.newtypeVariant variant d) v ↔ ∃ w, Becomes d w ∧ v = .map ⟨[(variant, w)]⟩ := by
  unfold Becomes
  rw [toValue, bind_ok_iff]
  refine exists_congr fun w => and_congr_right fun _ => ?_
  rw [pure_ok_iff, eq_comm]
  rfl

theorem becomes_seq {items : List Data} {v : Value} :
    Becomes (.seq items) v ↔ ∃ vs, List.Forall₂ Becomes items vs ∧ v = .list vs := finish_items

theorem becomes_tuple {items : List Data} {v : Value} :
    Becomes (.tuple items) v ↔ ∃ vs, List.Forall₂ Becomes items vs ∧ v = .list vs := finish_items

theorem becomes_tupleStruct {items : List Data} {v : Value} :
    Becomes (.tupleStruct items) v ↔ ∃ vs, List.Forall₂ Becomes items vs ∧ v = .list vs := finish_items

theorem becomes_tupleVariant {variant : String} {items : List Data} {v : Value} :
    Becomes (.tupleVariant variant items) v ↔
      ∃ vs, List.Forall₂ Becomes items vs ∧ v = .map ⟨[(variant, .list vs)]⟩ := finish_items

theorem becomes_map {parts : List MapPart} {v : Value} :
    Becomes (.map parts) v ↔ ∃ written, Takes Option.none parts written ∧
      v = .map (Dictionary.empty.assign written) := finish_parts

theorem becomes_struct {fields : List (String × Data)} {v : Value} :
    Becomes (.struct fields) v ↔ ∃ vs, List.Forall₂ Becomes (fields.map Prod.snd) vs ∧
      v = .map (Dictionary.empty.assign ((fields.map Prod.fst).zip vs)) := finish_fields

theorem becomes_structVariant {variant : String} {fields : List (String × Data)} {v : Value} :
    Becomes (.structVariant variant fields) v ↔
      ∃ vs, List.Forall₂ Becomes (fields.map Prod.snd) vs ∧ v = .map ⟨[(variant,
        .map (Dictionary.empty.assign ((fields.map Prod.fst).zip vs)))]⟩ := finish_fields

theorem holds_assign (written : List (String × Value)) :
    Holds (Dictionary.empty.assign written) written where
  ascending := Dictionary.ascending_foldl Dictionary.ascending_empty written
  get? name := by
    rw [Dictionary.get?_assign]
    exact Option.or_none

/-- Relations of lists element by element, where one relation implies the other on the elements. -/
theorem forall₂_imp_of_mem {α β : Type} {R S : α → β → Prop} {l : List α} {l' : List β}
    (imp : ∀ a ∈ l, ∀ b, R a b → S a b) (h : List.Forall₂ R l l') : List.Forall₂ S l l' := by
  induction h with
  | nil => exact .nil
  | cons first rest ih =>
    exact .cons (imp _ (.head _) _ first) (ih fun a mem => imp a (.tail _ mem))

/-- **What data become is their image.** -/
theorem Becomes.image {d : Data} {v : Value} (h : Becomes d v) : Image d v := by
  induction d using children_induction generalizing v with
  | step d ih =>
    have images {items : List Data} {vs : List Value} (within : ∀ c ∈ items, c ∈ d.children)
        (become : List.Forall₂ Becomes items vs) : List.Forall₂ Image items vs :=
      forall₂_imp_of_mem (fun c mem _ => ih c (within c mem)) become
    cases d with
    | int n =>
      cases h
      exact .int n.toInt_toInt64
    | natural n =>
      obtain ⟨m, rfl, same⟩ := becomes_natural.1 h
      exact .natural same
    | bytes bytes =>
      cases h
      have exact : List.Forall₂ (fun b n => n.toInt = b.toNat) bytes
          (bytes.map fun b => (FixedInt.uint8 b).toInt64) :=
        List.forall₂_map_right_iff.2
          (List.forall₂_same.2 fun b _ => (FixedInt.uint8 b).toInt_toInt64)
      have image := Image.bytes exact
      rwa [List.map_map] at image
    | some d => exact .some (ih d (.head _) h)
    | newtypeStruct d => exact .newtypeStruct (ih d (.head _) h)
    | newtypeVariant variant d =>
      obtain ⟨w, become, rfl⟩ := becomes_newtypeVariant.1 h
      exact .newtypeVariant (ih d (.head _) become)
    | seq items =>
      obtain ⟨vs, become, rfl⟩ := becomes_seq.1 h
      exact .seq (images (fun _ => id) become)
    | tuple items =>
      obtain ⟨vs, become, rfl⟩ := becomes_tuple.1 h
      exact .tuple (images (fun _ => id) become)
    | tupleStruct items =>
      obtain ⟨vs, become, rfl⟩ := becomes_tupleStruct.1 h
      exact .tupleStruct (images (fun _ => id) become)
    | tupleVariant variant items =>
      obtain ⟨vs, become, rfl⟩ := becomes_tupleVariant.1 h
      exact .tupleVariant (images (fun _ => id) become)
    | map parts =>
      obtain ⟨written, takes, rfl⟩ := becomes_map.1 h
      obtain ⟨ks, ns, vs, pairing⟩ := takes.pairing
      refine .map (images (fun c mem => ?_) pairing.keys) pairing.names
        (images (fun c mem => ?_) pairing.values) ?_
      · exact mem_children_of_pairs (.inl mem)
      · exact mem_children_of_pairs (.inr mem)
      · rw [pairing.written]
        exact holds_assign _
    | struct fields =>
      obtain ⟨vs, become, rfl⟩ := becomes_struct.1 h
      exact .struct (images (fun _ => id) become) (holds_assign _)
    | structVariant variant fields =>
      obtain ⟨vs, become, rfl⟩ := becomes_structVariant.1 h
      exact .structVariant (images (fun _ => id) become) (holds_assign _)
    | wide type => cases h
    | refused message => cases h
    | _ =>
      cases h
      constructor

theorem exists_forall₂_iff {α β : Type} {R : α → β → Prop} {l : List α} :
    (∃ l', List.Forall₂ R l l') ↔ ∀ a ∈ l, ∃ b, R a b := by
  induction l with
  | nil => exact ⟨fun _ _ => nofun, fun _ => ⟨[], .nil⟩⟩
  | cons a l ih =>
    rw [List.forall_mem_cons, ← ih]
    constructor
    · rintro ⟨_, related⟩
      cases related with
      | cons first rest => exact ⟨⟨_, first⟩, _, rest⟩
    · rintro ⟨⟨b, first⟩, l', rest⟩
      exact ⟨b :: l', .cons first rest⟩

/-- There is a value exactly if there is what it is built from. -/
theorem exists_built {α : Type} {P : Value → Prop} {Q : α → Prop} {f : α → Value}
    (h : ∀ v, P v ↔ ∃ a, Q a ∧ v = f a) : (∃ v, P v) ↔ ∃ a, Q a := by
  constructor
  · rintro ⟨v, hv⟩
    obtain ⟨a, ha, -⟩ := (h v).1 hv
    exact ⟨a, ha⟩
  · rintro ⟨a, ha⟩
    exact ⟨f a, (h _).2 ⟨a, ha, rfl⟩⟩

/-- Keys have to become a text or an integer, and their image says which. -/
theorem exists_becomes_map_iff {parts : List MapPart} :
    (∃ v, Becomes (.map parts) v) ↔
      (Data.map parts).Fit ∧ ∀ c ∈ (Data.map parts).children, ∃ v, Becomes c v := by
  rw [exists_built fun v => becomes_map, exists_takes_iff]
  constructor
  · rintro ⟨keys, values, fed⟩
    refine ⟨⟨fun k mem => ?_, fed_iff.2 fed⟩, fun c mem => ?_⟩
    · obtain ⟨v, name, become, named⟩ := keys k mem
      exact ⟨v, name, become.image, named⟩
    · obtain ⟨part, inside, rfl⟩ := List.mem_map.1 mem
      cases part with
      | key k =>
        obtain ⟨v, name, become, -⟩ := keys k inside
        exact ⟨v, become⟩
      | value d => exact values d inside
  · rintro ⟨⟨keys, fed⟩, become⟩
    refine ⟨fun k mem => ?_, fun d mem => become d (List.mem_map.2 ⟨_, mem, rfl⟩), fed_iff.1 fed⟩
    obtain ⟨v, name, image, named⟩ := keys k mem
    obtain ⟨w, become⟩ := become k (List.mem_map.2 ⟨_, mem, rfl⟩)
    obtain rfl := image.unique become.image
    exact ⟨v, name, become, named⟩

/-- Data become a value exactly if they are fit and all that they are made of becomes one. -/
theorem exists_becomes_iff {d : Data} :
    (∃ v, Becomes d v) ↔ d.Fit ∧ ∀ c ∈ d.children, ∃ v, Becomes c v := by
  have single (c : Data) : (∃ v, Becomes c v) ↔ True ∧ ∀ c' ∈ [c], ∃ v, Becomes c' v := by
    rw [List.forall_mem_singleton, true_and]
  have several {items : List Data} {P : Value → Prop} {f : List Value → Value}
      (built : ∀ v, P v ↔ ∃ vs, List.Forall₂ Becomes items vs ∧ v = f vs) :
      (∃ v, P v) ↔ True ∧ ∀ c ∈ items, ∃ v, Becomes c v := by
    rw [exists_built built, exists_forall₂_iff, true_and]
  cases d with
  | natural n =>
    have fits : (∃ v, Becomes (.natural n) v) ↔ n.toNat ≤ 2 ^ 63 - 1 := by
      simp only [becomes_natural]
      constructor
      · rintro ⟨v, m, -, same⟩
        have := m.toInt_lt
        omega
      · intro small
        exact ⟨_, _, rfl, Int64.toInt_ofNat_of_lt (n := n.toNat) (by omega)⟩
    rw [fits]
    exact ⟨fun fit => ⟨fit, fun _ => nofun⟩, And.left⟩
  | some d => exact single d
  | newtypeStruct d => exact single d
  | newtypeVariant variant d => exact (exists_built fun v => becomes_newtypeVariant).trans (single d)
  | seq items => exact several fun v => becomes_seq
  | tuple items => exact several fun v => becomes_tuple
  | tupleStruct items => exact several fun v => becomes_tupleStruct
  | tupleVariant variant items => exact several fun v => becomes_tupleVariant
  | struct fields => exact several fun v => becomes_struct
  | structVariant variant fields => exact several fun v => becomes_structVariant
  | map parts => exact exists_becomes_map_iff
  | wide type =>
    constructor
    · rintro ⟨v, h⟩
      cases h
    · exact fun h => h.1.elim
  | refused message =>
    constructor
    · rintro ⟨v, h⟩
      cases h
    · exact fun h => h.1.elim
  | _ => exact ⟨fun _ => ⟨trivial, fun _ => nofun⟩, fun _ => ⟨_, rfl⟩⟩

/-- **Data become a value exactly if they are acceptable.** -/
theorem exists_becomes_iff_acceptable {d : Data} : (∃ v, Becomes d v) ↔ d.Acceptable := by
  induction d using children_induction with
  | step d ih =>
    rw [exists_becomes_iff, acceptable_iff]
    exact and_congr_right fun _ => forall₂_congr ih

/-- **Conversion of data is exact.**  Data become a value exactly if no integer in them is too large,
nothing in them is of 128 bits or refuses to be handed over, each key in a map is a text or an integer,
and each value in a map has its key; whatever the depth.  The value is the image of the data, and data
have no other image. -/
theorem conversion_exact (d : Data) :
    ((∃ v, d.toValue = .ok v) ↔ d.Acceptable) ∧
    (∀ v, d.toValue = .ok v ↔ d.Acceptable ∧ Image d v) := by
  refine ⟨exists_becomes_iff_acceptable, fun v => ⟨fun h => ?_, fun ⟨acceptable, image⟩ => ?_⟩⟩
  · exact ⟨exists_becomes_iff_acceptable.1 ⟨v, h⟩, Becomes.image h⟩
  · obtain ⟨w, h⟩ := exists_becomes_iff_acceptable.2 acceptable
    rwa [image.unique (Becomes.image h)]

/-- A variant in a variant: each is a map with one entry. -/
example : Data.toValue (.structVariant "Named" [("size", .tupleVariant "Rect" [.unitStruct])]) =
    .ok (.map ⟨[("Named", .map ⟨[("size", .map ⟨[("Rect", .list [.null])]⟩)]⟩)]⟩) := rfl

/-- An integer and its decimal digits are one name, and what comes last counts. -/
example : Data.toValue (.map [.key (.int (.int64 1)), .value (.bool true),
      .key (.text "1"), .value .unit]) = .ok (.map ⟨[("1", .null)]⟩) := rfl

end Data

end TextTemplate
