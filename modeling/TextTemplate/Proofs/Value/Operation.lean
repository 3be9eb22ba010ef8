import TextTemplate.Function.Method
import TextTemplate.Proofs.Value.Pairing

/-!
# Operations on paired values

Operators, functions and methods see of a value no more than its kind, its text, its order and its
parts.  So each of them gives paired values for paired values, or else the same fault.
-/

namespace TextTemplate

namespace Value

variable {R : Pairing}

/-! ## Numbers -/

theorem Paired.isFloat_eq {v w : Value} (h : Paired R v w) : v.isFloat = w.isFloat := by
  cases h <;> rfl

theorem Paired.floats_eq {v v' w w' : Value} (hv : Paired R v v') (hw : Paired R w w')
    (op : String) : floats op v w = floats op v' w' := by
  unfold floats unsupported
  rw [hv.float?_eq, hw.float?_eq, hv.kind_eq, hw.kind_eq]

/-- A whole number is no template. -/
theorem ends_fitting (n : Option Int64) : Ends (Paired R) (fitting n) (fitting n) := by
  cases n with
  | none => exact .error _
  | some m => exact .ok (.int m)

theorem ends_ofInt (n : Int) : Ends (Paired R) (ofInt n) (ofInt n) := ends_fitting _

/-- An operation on two floats. -/
theorem ends_floats {v v' w w' : Value} (hv : Paired R v v') (hw : Paired R w w') (op : String)
    {f : Float × Float → Except EvalFault Value} (self : ∀ x v, f x = .ok v → Paired R v v) :
    Ends (Paired R) (floats op v w >>= f) (floats op v' w' >>= f) := by
  rw [hv.floats_eq hw op]
  exact .same_bind fun x => .refl fun v h => self x v h

theorem Paired.numeric {v v' w w' : Value} (hv : Paired R v v') (hw : Paired R w w') (op : String)
    (onInts : Int → Int → Int) (onFloats : Float → Float → Float) :
    Ends (Paired R) (Value.numeric op onInts onFloats v w)
      (Value.numeric op onInts onFloats v' w') := by
  unfold Value.numeric unsupported
  rw [hv.isFloat_eq, hw.isFloat_eq, hv.int?_eq, hw.int?_eq, hv.floats_eq hw, hv.kind_eq, hw.kind_eq]
  split
  · exact Ends.map (.refl fun _ _ => rfl) fun x _ same => by cases same; exact .float _
  · split
    · exact ends_ofInt _
    · exact .error _

theorem Paired.add {v v' w w' : Value} (hv : Paired R v v') (hw : Paired R w w') :
    Ends (Paired R) (v.add w) (v'.add w') := by
  have numbers := hv.numeric hw "+" (· + ·) (· + ·)
  cases hv with
  | text a =>
    cases hw with
    | text b => exact .ok (.text _)
    | _ => exact numbers
  | list items =>
    cases hw with
    | list others => exact .ok (.list (items.append others))
    | _ => exact numbers
  | _ => exact numbers

/-! ## Repetition -/

theorem PairedItems.replicate {vs ws : List Value} (h : PairedItems R vs ws) (n : Nat) :
    PairedItems R (List.replicate n vs).flatten (List.replicate n ws).flatten := by
  induction n with
  | zero => exact .nil
  | succ n ih =>
    rw [List.replicate_succ, List.replicate_succ, List.flatten_cons, List.flatten_cons]
    exact h.append ih

theorem ends_repeatText (s : String) (factor : Int) :
    Ends (Paired R) (repeatText s factor) (repeatText s factor) :=
  .same_bind fun _ => .ok (.text _)

theorem PairedItems.repeatList {vs ws : List Value} (h : PairedItems R vs ws) (factor : Int) :
    Ends (Paired R) (Value.repeatList vs factor) (Value.repeatList ws factor) := by
  unfold Value.repeatList
  rw [h.length_eq, h.isEmpty_eq]
  refine .same_bind fun n => ?_
  refine .ok (.list ?_)
  split
  · exact .nil
  · exact h.replicate n

theorem Paired.mul {v v' w w' : Value} (hv : Paired R v v') (hw : Paired R w w') :
    Ends (Paired R) (v.mul w) (v'.mul w') := by
  have numbers := hv.numeric hw "*" (· * ·) (· * ·)
  cases hv with
  | text s =>
    cases hw with
    | int n => exact ends_repeatText s _
    | bool b => exact ends_repeatText s _
    | _ => exact numbers
  | list items =>
    cases hw with
    | int n => exact items.repeatList _
    | bool b => exact items.repeatList _
    | _ => exact numbers
  | int n =>
    cases hw with
    | text s => exact ends_repeatText s _
    | list items => exact items.repeatList _
    | _ => exact numbers
  | bool b =>
    cases hw with
    | text s => exact ends_repeatText s _
    | list items => exact items.repeatList _
    | _ => exact numbers
  | _ => cases hw <;> exact numbers

/-! ## Division, powers and signs -/

theorem Paired.div {v v' w w' : Value} (hv : Paired R v v') (hw : Paired R w w') :
    Ends (Paired R) (v.div w) (v'.div w') := by
  refine ends_floats hv hw "/" fun x v h => ?_
  obtain ⟨x, y⟩ := x
  dsimp only at h
  split at h <;> cases h
  exact .float _

theorem Paired.floorDiv {v v' w w' : Value} (hv : Paired R v v') (hw : Paired R w w') :
    Ends (Paired R) (v.floorDiv w) (v'.floorDiv w') := by
  unfold Value.floorDiv
  rw [hv.int64?_eq, hw.int64?_eq]
  split
  · split
    · exact .error _
    · exact ends_fitting _
  · refine ends_floats hv hw "//" fun x v h => ?_
    obtain ⟨x, y⟩ := x
    dsimp only at h
    split at h <;> cases h
    exact .float _

theorem ends_modulo_floats {v v' w w' : Value} (hv : Paired R v v') (hw : Paired R w w') :
    Ends (Paired R)
      (do
        let (x, y) ← floats "%" v w
        if y == 0 then throw .zeroModulo
        return .float (floatModulo x y))
      (do
        let (x, y) ← floats "%" v' w'
        if y == 0 then throw .zeroModulo
        return .float (floatModulo x y)) := by
  refine ends_floats hv hw "%" fun x v h => ?_
  obtain ⟨x, y⟩ := x
  dsimp only at h
  split at h <;> cases h
  exact .float _

theorem Paired.modulo {v v' w w' : Value} (hv : Paired R v v') (hw : Paired R w w') :
    Ends (Paired R) (v.modulo w) (v'.modulo w') := by
  have floats := ends_modulo_floats hv hw
  cases hv with
  | int a =>
    cases hw with
    | int b =>
      unfold Value.modulo
      dsimp only
      split
      · exact .error _
      · exact ends_fitting _
    | _ => exact floats
  | _ => exact floats

theorem Paired.pow {v v' w w' : Value} (hv : Paired R v v') (hw : Paired R w w') :
    Ends (Paired R) (v.pow w) (v'.pow w') := by
  have floats : Ends (Paired R) ((floats "**" v w).map fun (x, y) => .float (Float.pow x y))
      ((Value.floats "**" v' w').map fun (x, y) => .float (Float.pow x y)) := by
    rw [hv.floats_eq hw]
    exact Ends.map (.refl fun _ _ => rfl) fun x _ same => by cases same; exact .float _
  cases hv with
  | int a =>
    cases hw with
    | int b =>
      unfold Value.pow
      dsimp only
      split
      · exact .ok (.float _)
      · split
        · exact .error _
        · exact ends_fitting _
    | _ => exact floats
  | _ => exact floats

theorem Paired.neg {v w : Value} (h : Paired R v w) : Ends (Paired R) v.neg w.neg := by
  cases h with
  | int n => exact ends_ofInt _
  | float x => exact .ok (.float _)
  | bool b => exact .ok (.int _)
  | _ => exact .error _

theorem Paired.pos {v w : Value} (h : Paired R v w) : Ends (Paired R) v.pos w.pos := by
  cases h with
  | int n => exact .ok (.int _)
  | float x => exact .ok (.float _)
  | bool b => exact .ok (.int _)
  | _ => exact .error _

/-! ## Sorting -/

theorem PairedItems.insertSorted {vs ws : List Value} (h : PairedItems R vs ws) {v w : Value}
    (paired : Paired R v w) :
    Ends (PairedItems R) (Value.insertSorted v vs) (Value.insertSorted w ws) := by
  induction vs generalizing ws with
  | nil =>
    cases h
    exact .ok (.cons paired .nil)
  | cons first vs ih =>
    cases h with
    | cons here rest =>
      rw [Value.insertSorted, Value.insertSorted, paired.compare_eq here]
      refine .same_bind fun order => ?_
      cases order with
      | lt => exact Ends.bind (ih rest) fun _ _ sorted => .ok (.cons here sorted)
      | _ => exact .ok (.cons paired (.cons here rest))

theorem PairedItems.sortInto {sorted sorted' vs ws : List Value}
    (before : PairedItems R sorted sorted') (h : PairedItems R vs ws) :
    Ends (PairedItems R) (Value.sortInto sorted vs) (Value.sortInto sorted' ws) := by
  induction vs generalizing sorted sorted' ws with
  | nil =>
    cases h
    exact .ok before
  | cons _ vs ih =>
    cases h with
    | cons first rest =>
      exact Ends.bind (before.insertSorted first) fun _ _ sorted => ih sorted rest

theorem PairedItems.sort {vs ws : List Value} (h : PairedItems R vs ws) :
    Ends (PairedItems R) (Value.sort vs) (Value.sort ws) :=
  (PairedItems.nil.sortInto h).map fun _ _ sorted => sorted.reverse

theorem PairedItems.extremum {vs ws : List Value} (h : PairedItems R vs ws) (wanted : Ordering)
    {best best' : Value} (paired : Paired R best best') :
    Ends (Paired R) (Value.extremum wanted best vs) (Value.extremum wanted best' ws) := by
  induction vs generalizing best best' ws with
  | nil =>
    cases h
    exact .ok paired
  | cons _ vs ih =>
    cases h with
    | cons first rest =>
      rw [Value.extremum, Value.extremum, first.compare_eq paired]
      refine .same_bind fun order => ?_
      split
      · exact ih rest first
      · exact ih rest paired

/-! ## Global functions -/

theorem PairedItems.checkArity_eq {vs ws : List Value} (h : PairedItems R vs ws) (function : String)
    (takes : Arity) : checkArity function takes vs = checkArity function takes ws := by
  unfold checkArity
  rw [h.length_eq]

theorem Paired.intArgument_eq {v w : Value} (h : Paired R v w) (function : String) :
    intArgument function v = intArgument function w := by
  unfold intArgument
  rw [h.int?_eq, h.kind_eq]

theorem Paired.textArgument_eq {v w : Value} (h : Paired R v w) (function : String) :
    textArgument function v = textArgument function w := by
  cases h <;> rfl

theorem ends_range (start stop step : Int) :
    Ends (Paired R) (range start stop step) (range start stop step) := by
  refine .refl fun v h => ?_
  unfold range at h
  dsimp only at h
  split at h
  · cases h
  · split at h
    · cases h
    · cases h
      exact .list (pairedItems_map (fun _ => .int _) _)

theorem PairedItems.rangeArguments_eq {vs ws : List Value} (h : PairedItems R vs ws) :
    rangeArguments vs = rangeArguments ws := by
  cases h with
  | nil => rfl
  | cons first rest =>
    cases rest with
    | nil => rw [rangeArguments, rangeArguments, first.intArgument_eq]
    | cons second rest =>
      cases rest with
      | nil => rw [rangeArguments, rangeArguments, first.intArgument_eq, second.intArgument_eq]
      | cons third _ =>
        rw [rangeArguments, rangeArguments, first.intArgument_eq, second.intArgument_eq,
          third.intArgument_eq]

theorem Paired.length {v w : Value} (h : Paired R v w) : Ends (Paired R) v.length w.length := by
  cases h with
  | text s => exact ends_ofInt _
  | list items =>
    unfold Value.length
    dsimp only
    rw [items.length_eq]
    exact ends_ofInt _
  | map entries =>
    unfold Value.length Dictionary.size
    dsimp only
    rw [entries.length_eq]
    exact ends_ofInt _
  | _ => exact .error _

theorem Paired.toInt {v w : Value} (h : Paired R v w) : Ends (Paired R) v.toInt w.toInt := by
  cases h with
  | int n => exact .ok (.int _)
  | bool b => exact .ok (.int _)
  | float x =>
    unfold Value.toInt
    dsimp only
    split
    · exact .ok (.int _)
    · exact .error _
  | text s =>
    unfold Value.toInt
    dsimp only
    split
    · exact .ok (.int _)
    · exact .error _
  | _ => exact .error _

theorem Paired.toFloat {v w : Value} (h : Paired R v w) : Ends (Paired R) v.toFloat w.toFloat := by
  cases h with
  | int n => exact .ok (.float _)
  | bool b => exact .ok (.float _)
  | float x => exact .ok (.float _)
  | text s =>
    unfold Value.toFloat
    dsimp only
    split
    · exact .ok (.float _)
    · exact .error _
  | _ => exact .error _

theorem Paired.absolute {v w : Value} (h : Paired R v w) :
    Ends (Paired R) v.absolute w.absolute := by
  cases h with
  | int n => exact ends_ofInt _
  | float x => exact .ok (.float _)
  | _ => exact .error _

theorem PairedItems.extreme {vs ws : List Value} (h : PairedItems R vs ws) (function : String)
    (wanted : Ordering) :
    Ends (Paired R) (Value.extreme function wanted vs) (Value.extreme function wanted ws) := by
  cases h with
  | nil => exact .error _
  | cons first rest =>
    cases rest with
    | nil =>
      refine Ends.bind first.iterate fun vs ws items => ?_
      cases items with
      | nil => exact .error _
      | cons first rest => exact rest.extremum wanted first
    | cons second rest => exact (PairedItems.cons second rest).extremum wanted first

theorem PairedItems.total {vs ws : List Value} (h : PairedItems R vs ws) {first first' : Value}
    (paired : Paired R first first') :
    Ends (Paired R) (Value.total first vs) (Value.total first' ws) := by
  induction vs generalizing first first' ws with
  | nil =>
    cases h
    exact .ok paired
  | cons _ vs ih =>
    cases h with
    | cons here rest => exact Ends.bind (paired.add here) fun _ _ sum => ih rest sum

theorem PairedItems.enumerateFrom {vs ws : List Value} (h : PairedItems R vs ws) (number : Int) :
    Ends (PairedItems R) (Value.enumerateFrom number vs) (Value.enumerateFrom number ws) := by
  induction vs generalizing number ws with
  | nil =>
    cases h
    exact .ok .nil
  | cons _ vs ih =>
    cases h with
    | cons here rest =>
      refine Ends.bind (r := Paired R) (ends_ofInt number) fun _ _ n => ?_
      exact Ends.bind (ih rest (number + 1)) fun _ _ later =>
        .ok (.cons (.list (.cons n (.cons here .nil))) later)

/-- **Global functions give paired values for paired values.** -/
theorem PairedItems.global_call (agrees : R.Agrees) {vs ws : List Value} (h : PairedItems R vs ws)
    (g : Global) : Ends (Paired R) (g.call vs) (g.call ws) := by
  have unfit (g : Global) : Ends (Paired R) (.error (EvalFault.arity g.name g.arity vs.length))
      (.error (EvalFault.arity g.name g.arity ws.length)) := by
    rw [h.length_eq]
    exact .error _
  unfold Global.call
  rw [h.checkArity_eq]
  refine .same_bind fun _ => ?_
  cases g with
  | range =>
    dsimp only
    rw [h.rangeArguments_eq]
    exact .same_bind fun args => ends_range _ _ _
  | len =>
    cases h with
    | nil => exact .error _
    | cons first rest =>
      cases rest with
      | nil => exact first.length
      | cons _ _ => exact unfit .len
  | str =>
    cases h with
    | nil => exact .ok (.text _)
    | cons first _ =>
      dsimp only
      rw [first.display_eq agrees]
      exact .ok (.text _)
  | int =>
    cases h with
    | nil => exact .ok (.int _)
    | cons first _ => exact first.toInt
  | float =>
    cases h with
    | nil => exact .ok (.float _)
    | cons first _ => exact first.toFloat
  | bool =>
    cases h with
    | nil => exact .ok (.bool _)
    | cons first _ =>
      dsimp only
      rw [first.isTruthy_eq]
      exact .ok (.bool _)
  | list =>
    cases h with
    | nil => exact .ok (.list .nil)
    | cons first _ => exact Ends.bind first.iterate fun _ _ items => .ok (.list items)
  | abs =>
    cases h with
    | nil => exact .error _
    | cons first rest =>
      cases rest with
      | nil => exact first.absolute
      | cons _ _ => exact unfit .abs
  | min => exact h.extreme "min" .lt
  | max => exact h.extreme "max" .gt
  | sum =>
    cases h with
    | nil => exact .error _
    | cons first rest =>
      cases rest with
      | nil => exact Ends.bind first.iterate fun _ _ items => items.total (.int 0)
      | cons second _ => exact Ends.bind first.iterate fun _ _ items => items.total second
  | sorted =>
    cases h with
    | nil => exact .error _
    | cons first rest =>
      cases rest with
      | nil =>
        refine Ends.bind first.iterate fun _ _ items => ?_
        exact Ends.bind items.sort fun _ _ sorted => .ok (.list sorted)
      | cons _ _ => exact unfit .sorted
  | enumerate =>
    cases h with
    | nil => exact .error _
    | cons first rest =>
      cases rest with
      | nil =>
        refine Ends.bind first.iterate fun _ _ items => ?_
        exact Ends.bind (items.enumerateFrom 0) fun _ _ numbered => .ok (.list numbered)
      | cons second _ =>
        dsimp only
        rw [second.intArgument_eq]
        refine .same_bind fun number => ?_
        refine Ends.bind first.iterate fun _ _ items => ?_
        exact Ends.bind (items.enumerateFrom number) fun _ _ numbered => .ok (.list numbered)

/-! ## Methods -/

theorem PairedItems.textArguments_eq {vs ws : List Value} (h : PairedItems R vs ws)
    (function : String) : Method.textArguments function vs = Method.textArguments function ws := by
  induction vs generalizing ws with
  | nil => cases h; rfl
  | cons _ vs ih =>
    cases h with
    | cons first rest =>
      rw [Method.textArguments, Method.textArguments, first.textArgument_eq, ih rest]

theorem PairedItems.method_ofTextWith {vs ws : List Value} (h : PairedItems R vs ws)
    (s name : String) :
    Ends (Paired R) (Method.ofTextWith s name vs) (Method.ofTextWith s name ws) := by
  fun_cases Method.ofTextWith s name vs with
  | case1 v | case2 v =>
    cases h with
    | cons first rest =>
      cases rest
      rw [Method.ofTextWith, first.textArgument_eq]
      exact .same_bind fun _ => .ok (.bool _)
  | case3 old new =>
    cases h with
    | cons first rest =>
      cases rest with
      | cons second rest =>
        cases rest
        rw [Method.ofTextWith, first.textArgument_eq, second.textArgument_eq]
        exact .same_bind fun _ => .same_bind fun _ => .ok (.text _)
  | case4 =>
    cases h
    exact .ok (.list (pairedItems_map (fun _ => .text _) _))
  | case5 =>
    cases h with
    | cons first rest =>
      cases rest
      cases first
      exact .ok (.list (pairedItems_map (fun _ => .text _) _))
  | case6 v given =>
    cases h with
    | cons first rest =>
      cases rest
      have given' : ∀ w, Paired R v w → w = .null → False := by
        rintro _ paired rfl
        cases paired
        exact given rfl
      have := given' _ first
      simp only [Method.ofTextWith, first.textArgument_eq]
      exact .same_bind fun _ => .ok (.list (pairedItems_map (fun _ => .text _) _))
  | case7 v =>
    cases h with
    | cons first rest =>
      cases rest
      rw [Method.ofTextWith]
      refine Ends.bind first.iterate fun _ _ items => ?_
      rw [items.textArguments_eq]
      exact .same_bind fun _ => .ok (.text _)
  | case8 _ other | case9 _ other | case12 _ other =>
    rw [h.length_eq]
    cases h with
    | nil => exact .error _
    | cons _ rest =>
      cases rest with
      | nil => exact (other _ rfl).elim
      | cons _ _ => exact .error _
  | case10 _ other =>
    rw [h.length_eq]
    cases h with
    | nil => exact .error _
    | cons _ rest =>
      cases rest with
      | nil => exact .error _
      | cons _ rest =>
        cases rest with
        | nil => exact (other _ _ rfl).elim
        | cons _ _ => exact .error _
  | case11 _ empty _ other =>
    rw [h.length_eq]
    cases h with
    | nil => exact (empty rfl).elim
    | cons first rest =>
      cases rest with
      | nil => exact (other _ rfl).elim
      | cons _ _ => cases first <;> exact .error _
  | case13 =>
    unfold Method.ofTextWith
    split <;> first | contradiction | exact .error _

theorem PairedItems.method_ofText {vs ws : List Value} (h : PairedItems R vs ws) (s name : String) :
    Ends (Paired R) (Method.ofText s name vs) (Method.ofText s name ws) := by
  unfold Method.ofText
  cases Method.plain? name with
  | none => exact h.method_ofTextWith s name
  | some f =>
    dsimp only
    rw [h.checkArity_eq]
    exact .same_bind fun _ => .ok (.text _)

theorem PairedItems.method_ofList (agrees : R.Agrees) {items items' vs ws : List Value}
    (inside : PairedItems R items items') (h : PairedItems R vs ws) (name : String) :
    Ends (Paired R) (Method.ofList items name vs) (Method.ofList items' name ws) := by
  -- where an item stands, and how often, is the same in both lists
  have tests (v w : Value) (paired : Paired R v w) :
      (items.map fun x => x.equals v) = items'.map fun x => x.equals w :=
    inside.map_eq fun _ _ item => item.equals_eq agrees paired
  have index (v w : Value) (paired : Paired R v w) :
      (items.findIdx? fun x => x.equals v) = items'.findIdx? fun x => x.equals w := by
    have := congrArg (List.findIdx? id) (tests v w paired)
    rwa [List.findIdx?_map, List.findIdx?_map] at this
  have count (v w : Value) (paired : Paired R v w) :
      (items.countP fun x => x.equals v) = items'.countP fun x => x.equals w := by
    have := congrArg (List.countP id) (tests v w paired)
    rwa [List.countP_map, List.countP_map] at this
  fun_cases Method.ofList items name vs with
  | case1 v i found =>
    cases h with
    | cons first rest =>
      cases rest
      rw [index _ _ first] at found
      rw [Method.ofList, found]
      exact ends_ofInt _
  | case2 v missing =>
    cases h with
    | cons first rest =>
      cases rest
      rw [index _ _ first] at missing
      rw [Method.ofList, missing, first.display_eq agrees]
      exact .error _
  | case3 v =>
    cases h with
    | cons first rest =>
      cases rest
      rw [Method.ofList, count _ _ first]
      exact ends_ofInt _
  | case4 _ other | case5 _ other =>
    rw [h.length_eq]
    cases h with
    | nil => exact .error _
    | cons _ rest =>
      cases rest with
      | nil => exact (other _ rfl).elim
      | cons _ _ => exact .error _
  | case6 =>
    unfold Method.ofList
    split <;> first | contradiction | exact .error _

theorem PairedItems.head? {vs ws : List Value} (h : PairedItems R vs ws) :
    Option.Rel (Paired R) vs.head? ws.head? := by
  cases h with
  | nil => exact .none
  | cons first _ => exact .some first

theorem paired_getD {v w : Option Value} (h : Option.Rel (Paired R) v w) {default default' : Value}
    (paired : Paired R default default') : Paired R (v.getD default) (w.getD default') := by
  cases h with
  | none => exact paired
  | some first => exact first

theorem PairedEntries.pairs {a b : List (String × Value)} (h : PairedEntries R a b) :
    PairedItems R (a.map fun (k, v) => .list [.text k, v])
      (b.map fun (k, v) => .list [.text k, v]) := by
  induction a generalizing b with
  | nil => cases h; exact .nil
  | cons _ a ih =>
    cases h with
    | cons first rest => exact .cons (.list (.cons (.text _) (.cons first .nil))) (ih rest)

theorem PairedEntries.method_ofMap {a b : List (String × Value)} {vs ws : List Value}
    (inside : PairedEntries R a b) (h : PairedItems R vs ws) (name : String) :
    Ends (Paired R) (Method.ofMap ⟨a⟩ name vs) (Method.ofMap ⟨b⟩ name ws) := by
  fun_cases Method.ofMap ⟨a⟩ name vs with
  | case1 key default =>
    rw [h.checkArity_eq]
    cases h with
    | cons first rest =>
      rw [Method.ofMap, first.textArgument_eq]
      refine .same_bind fun _ => ?_
      exact .same_bind fun name => .ok (paired_getD (inside.lookup name) (paired_getD rest.head? .null))
  | case2 =>
    cases h
    exact .error _
  | case3 =>
    cases h
    refine .ok (.list ?_)
    rw [Dictionary.keys, Dictionary.keys, inside.keys_eq]
    exact pairedItems_map (fun _ => .text _) _
  | case4 =>
    cases h
    exact .ok (.list inside.values)
  | case5 =>
    cases h
    exact .ok (.list inside.pairs)
  | case6 _ other | case7 _ other | case8 _ other =>
    rw [h.length_eq]
    cases h with
    | nil => exact (other rfl).elim
    | cons _ _ => exact .error _
  | case9 _ _ _ _ _ some none =>
    have notGet : name ≠ "get" := by
      rintro rfl
      cases vs with
      | nil => exact none rfl rfl
      | cons key default => exact some key default rfl rfl
    unfold Method.ofMap
    split <;> first | contradiction | exact .error _

/-- **Methods give paired values for paired values.** -/
theorem Paired.method_call (agrees : R.Agrees) {target target' : Value}
    (h : Paired R target target') {vs ws : List Value} (args : PairedItems R vs ws) (name : String) :
    Ends (Paired R) (Method.call target name vs) (Method.call target' name ws) := by
  cases h with
  | text s => exact args.method_ofText s name
  | list items => exact items.method_ofList agrees args name
  | map entries => exact entries.method_ofMap args name
  | _ => exact .error _

end Value

end TextTemplate
