import TextTemplate.Eval
import TextTemplate.Proofs.Expr.RoundTrip
import TextTemplate.Proofs.Target
import TextTemplate.Proofs.Value.Binding

/-!
# Names that are bound

A target that was read binds all of its names or none (`bind_all_or_nothing`).  A name that was bound is
an expression that gives what the name took of the value (`bound_name_read_back`), but for the words that
the language of expressions keeps for itself: these are names of targets too, and an expression that
consists of one is a literal, or none at all.
-/

namespace TextTemplate

open TextTemplate.Expr TextTemplate.Text

/-! ## Shares -/

/-- What the names of a target take of a value, in order: a single name all of it, several names an item
each. -/
inductive Target.Takes (t : Target) (v : Value) : List Value → Prop
  | whole : t.names.length = 1 → Takes t v [v]
  | items {items : List Value} : 2 ≤ t.names.length → v.iterate = .ok items →
      items.length = t.names.length → Takes t v items

/-- What one name takes: the item in its last place. -/
def Target.Share (t : Target) (v : Value) (name : String) (item : Value) : Prop :=
  ∃ items i, t.Takes v items ∧ IsLastPlace t.names name i ∧ items[i]? = some item

/-- Why the items of a value do not go with a number of names. -/
inductive Misfit (count : Nat) : Except EvalFault (List Value) → Fault → Prop
  | none (cause : EvalFault) : Misfit count (.error cause) (.eval cause)
  | few {items : List Value} : items.length < count →
      Misfit count (.ok items) (.unpack (.tooFew count items.length))
  | many {items : List Value} : count < items.length →
      Misfit count (.ok items) (.unpack (.tooMany count))

section Shares

variable {t : Target} {v : Value} {items : List Value} {name : String}

theorem Target.Takes.length_eq (h : t.Takes v items) : items.length = t.names.length := by
  cases h with
  | whole one => exact one.symm
  | items _ _ count => exact count

/-- Every name takes something. -/
theorem Target.Takes.exists_share (h : t.Takes v items) (mem : name ∈ t.names) :
    ∃ i item, IsLastPlace t.names name i ∧ items[i]? = some item := by
  obtain ⟨i, last⟩ := exists_isLastPlace mem
  have inside : i < items.length := by
    rw [h.length_eq]
    exact (List.getElem?_eq_some_iff.1 last.here).1
  exact ⟨i, items[i], last, List.getElem?_eq_getElem inside⟩

/-- What does not fit has no items, or another number of them. -/
theorem exists_misfit_iff {count : Nat} {found : Except EvalFault (List Value)} :
    (∃ fault, Misfit count found fault) ↔
      (∃ cause, found = .error cause) ∨ ∃ items, found = .ok items ∧ items.length ≠ count := by
  constructor
  · rintro ⟨fault, misfit⟩
    cases misfit with
    | none cause => exact .inl ⟨cause, rfl⟩
    | few less => exact .inr ⟨_, rfl, Nat.ne_of_lt less⟩
    | many more => exact .inr ⟨_, rfl, Nat.ne_of_gt more⟩
  · rintro (⟨cause, rfl⟩ | ⟨items, rfl, other⟩)
    · exact ⟨_, .none cause⟩
    · rcases Nat.lt_or_gt_of_ne other with less | more
      · exact ⟨_, .few less⟩
      · exact ⟨_, .many more⟩

end Shares

/-! ## Targets that were read -/

section Parsed

variable {source : String} {t : Target} {v : Value} {scope after : Dictionary Value}

/-- A target that was read is bound exactly by what its names take. -/
theorem Target.bind_eq_ok_of_parse (parsed : Target.parse source = .ok t) :
    t.bind v scope = .ok after ↔
      ∃ items, t.Takes v items ∧ after = scope.assign (t.names.zip items) := by
  rw [Target.bind_eq_ok]
  constructor
  · rintro ⟨entries, gives, rfl⟩
    cases gives with
    | name n v => exact ⟨[v], .whole rfl, rfl⟩
    | unpack h count => exact ⟨_, .items (Target.two_le_of_parse parsed) h count, rfl⟩
  · rintro ⟨items, takes, rfl⟩
    cases t with
    | name n =>
      cases takes with
      | whole => exact ⟨_, .name n v, rfl⟩
      | items two => exact absurd two (by decide : ¬ 2 ≤ 1)
    | unpack names =>
      have two := Target.two_le_of_parse parsed
      cases takes with
      | whole one =>
        have one : names.length = 1 := one
        omega
      | items _ h count => exact ⟨_, .unpack h count, rfl⟩

/-- Several names cannot be bound exactly if the items do not go with them. -/
theorem Target.bind_unpack_eq_error {names : List String} {fault : Fault} :
    (Target.unpack names).bind v scope = .error fault ↔ Misfit names.length v.iterate fault := by
  unfold Target.bind
  cases v.iterate with
  | error cause =>
    constructor
    · intro same
      cases same
      exact .none cause
    · intro misfit
      cases misfit
      rfl
  | ok items =>
    dsimp only
    constructor
    · intro same
      split at same
      · next less =>
        cases same
        exact .few less
      · split at same
        · next more =>
          cases same
          exact .many more
        · cases same
    · intro misfit
      cases misfit with
      | few less => rw [if_pos less]
      | many more => rw [if_neg (Nat.lt_asymm more), if_pos more]

/-- Only several names can fail to be bound. -/
theorem Target.bind_eq_error_of_parse (parsed : Target.parse source = .ok t) {fault : Fault} :
    t.bind v scope = .error fault ↔ 2 ≤ t.names.length ∧ Misfit t.names.length v.iterate fault := by
  cases t with
  | name n =>
    constructor
    · intro h
      cases h
    · rintro ⟨two, -⟩
      exact absurd two (by decide : ¬ 2 ≤ 1)
  | unpack names =>
    have two : 2 ≤ (Target.unpack names).names.length := Target.two_le_of_parse parsed
    rw [and_iff_right two]
    exact Target.bind_unpack_eq_error

theorem Target.bindInPlace_eq_ok :
    t.bindInPlace v scope = .ok () after ↔ t.bind v scope = .ok after := by
  rw [Target.bindInPlace_apply]
  cases t.bind v scope with
  | ok bound => simp
  | error fault => simp

theorem Target.bindInPlace_eq_error {fault : Fault} :
    t.bindInPlace v scope = .error fault after ↔ t.bind v scope = .error fault ∧ after = scope := by
  rw [Target.bindInPlace_apply]
  cases t.bind v scope with
  | ok bound => simp
  | error cause => simp [eq_comm]

/-- Names that were bound hold their shares. -/
theorem Target.Takes.get?_assign {items : List Value} (takes : t.Takes v items) {name : String} {i : Nat}
    (last : IsLastPlace t.names name i) :
    (scope.assign (t.names.zip items)).get? name = items[i]? :=
  get?_assign_zip last takes.length_eq scope

/-- **Binding is all or nothing.**  Where a target that was read cannot be bound, the scope is what it
was, and the fault says how the value does not fit.  Where it can, a single name takes all of the value or
several names take one item each, every name holds its share, and no other name has changed.  A target
cannot be bound exactly if it has several names and the value has no items, or another number of them. -/
theorem bind_all_or_nothing (parsed : Target.parse source = .ok t) (v : Value)
    (scope : Dictionary Value) :
    (∀ fault after, t.bindInPlace v scope = .error fault after →
      after = scope ∧ Misfit t.names.length v.iterate fault) ∧
    (∀ after, t.bindInPlace v scope = .ok () after →
      (∃ items, t.Takes v items) ∧
      (∀ name ∈ t.names, ∃ item, t.Share v name item ∧ after.get? name = some item) ∧
      ∀ name, name ∉ t.names → after.get? name = scope.get? name) ∧
    ((∃ fault after, t.bindInPlace v scope = .error fault after) ↔
      2 ≤ t.names.length ∧ ((∃ cause, v.iterate = .error cause) ∨
        ∃ items, v.iterate = .ok items ∧ items.length ≠ t.names.length)) := by
  refine ⟨fun fault after failed => ?_, fun after done => ?_, ?_⟩
  · obtain ⟨failed, same⟩ := Target.bindInPlace_eq_error.1 failed
    exact ⟨same, ((Target.bind_eq_error_of_parse parsed).1 failed).2⟩
  · have bound := Target.bindInPlace_eq_ok.1 done
    obtain ⟨items, takes, rfl⟩ := (Target.bind_eq_ok_of_parse parsed).1 bound
    refine ⟨⟨items, takes⟩, fun name mem => ?_, fun name other => Target.bind_get? bound other⟩
    obtain ⟨i, item, last, found⟩ := takes.exists_share mem
    exact ⟨item, ⟨items, i, takes, last, found⟩, (takes.get?_assign last).trans found⟩
  · rw [← exists_misfit_iff]
    constructor
    · rintro ⟨fault, after, failed⟩
      obtain ⟨failed, -⟩ := Target.bindInPlace_eq_error.1 failed
      obtain ⟨two, misfit⟩ := (Target.bind_eq_error_of_parse parsed).1 failed
      exact ⟨two, fault, misfit⟩
    · rintro ⟨two, fault, misfit⟩
      exact ⟨fault, scope,
        Target.bindInPlace_eq_error.2 ⟨(Target.bind_eq_error_of_parse parsed).2 ⟨two, misfit⟩, rfl⟩⟩

end Parsed

namespace Letters

/-- A target with a name that stands in it twice. -/
def target : Target := .unpack ["a", "b", "a"]

def before : Dictionary Value := ⟨[("a", .null), ("c", .null)]⟩

def after : Dictionary Value := ⟨[("a", .text "z"), ("b", .text "y"), ("c", .null)]⟩

/-- Two letters do not go with three names, and three do: of the two for one name the later counts. -/
theorem letters_bound :
    Target.parse "a, b, a" = .ok target ∧
      (∃ fault left, target.bindInPlace (.text "xy") before = .error fault left) ∧
      target.bindInPlace (.text "xyz") before = .ok () after ∧
      ∃ item, target.Share (.text "xyz") "a" item ∧ after.get? "a" = some item := by
  have parsed : Target.parse "a, b, a" = .ok target := rfl
  have all := bind_all_or_nothing parsed
  exact ⟨parsed, (all (.text "xy") before).2.2.2 ⟨by decide, .inr ⟨_, rfl, by decide⟩⟩, rfl,
    ((all (.text "xyz") before).2.1 after rfl).2.1 "a" (.head _)⟩

end Letters

/-! ## Names as expressions -/

/-- The names of targets are names of expressions. -/
theorem isIdentifier_of_isName {name : String} (h : Target.isName name.toList = true) :
    isIdentifier name = true := by
  unfold isIdentifier
  cases chars : name.toList with
  | nil =>
    rw [chars] at h
    cases h
  | cons c rest =>
    rw [chars, Target.isName, Bool.and_eq_true, List.all_eq_true] at h
    obtain ⟨first, others⟩ := h
    have starts : startsName c = true := by
      rcases Bool.or_eq_true _ _ ▸ first with alpha | underscore
      · rw [startsName, isLetter, alpha, Bool.true_or, Bool.true_or]
      · rw [startsName, underscore, Bool.or_true]
    refine Bool.and_eq_true_iff.2 ⟨starts, List.all_eq_true.2 fun d mem => ?_⟩
    rcases Bool.or_eq_true _ _ ▸ others d mem with alphanum | underscore
    · rcases Bool.or_eq_true _ _ ▸ alphanum with alpha | digit
      · rw [continuesName, isLetter, alpha, Bool.true_or, Bool.true_or, Bool.true_or]
      · rw [continuesName, isNumeral, digit, Bool.true_or, Bool.or_true, Bool.true_or]
    · rw [continuesName, underscore, Bool.or_true]

/-- A name that is no word of the language is a variable. -/
theorem compile_name {name : String} (identifier : isIdentifier name = true)
    (free : isReserved name = false) (noLiteral : wordLiteral? name = none) :
    Expression.compile name = .ok ⟨name, .name name⟩ := by
  have written : (Tree.name name).print = name := by
    rw [Tree.print, Tree.lexemes]
    simp [spaced, Lexeme.written]
  have read := (parse_print (.name identifier free noLiteral)).2.2 (by decide : 1 ≤ 30)
  rw [written] at read
  rw [Expression.compile, read]
  rfl

/-- A word that stands for a literal is that literal. -/
theorem compile_wordLiteral {name : String} {l : Literal} (h : wordLiteral? name = some l) :
    Expression.compile name = .ok ⟨name, .literal l⟩ := by
  unfold wordLiteral? at h
  split at h
  · next word =>
    cases h
    rcases Bool.or_eq_true _ _ ▸ word with word | word <;> cases of_decide_eq_true word <;> rfl
  · split at h
    · next word =>
      cases h
      rcases Bool.or_eq_true _ _ ▸ word with word | word <;> cases of_decide_eq_true word <;> rfl
    · split at h
      · next word =>
        cases h
        rcases Bool.or_eq_true _ _ ▸ word with word | word <;> cases of_decide_eq_true word <;> rfl
      · cases h

/-- A word of an operator is no expression. -/
theorem compile_of_isReserved {name : String} (h : isReserved name = true) :
    ∃ cause, Expression.compile name = .error cause := by
  have word : name = "and" ∨ name = "or" ∨ name = "not" ∨ name = "if" ∨ name = "else" ∨
      name = "in" ∨ name = "is" := by
    simpa [isReserved, or_assoc] using h
  rcases word with rfl | rfl | rfl | rfl | rfl | rfl | rfl <;> exact ⟨_, by rfl⟩

/-- A name, as an expression, has a value in a scope; reading it changes nothing. -/
def ReadsAs {σ : Type} (scope : Dictionary Value)
    (host : String → Nat → List Value → σ → Except Fault Value × σ) (m : Memory σ)
    (name : String) (value : Value) : Prop :=
  ∃ e, Expression.compile name = .ok e ∧ e.eval ⟨scope.get?, host⟩ m = .ok value m

section ReadsAs

variable {σ : Type} {scope : Dictionary Value}
  {host : String → Nat → List Value → σ → Except Fault Value × σ} {m : Memory σ} {name : String}
  {value : Value}

theorem readsAs_of_get? (identifier : isIdentifier name = true) (free : isReserved name = false)
    (noLiteral : wordLiteral? name = none) (h : scope.get? name = some value) :
    ReadsAs scope host m name value := by
  refine ⟨_, compile_name identifier free noLiteral, ?_⟩
  show Tree.evalName ⟨scope.get?, host⟩ name m = .ok value m
  unfold Tree.evalName
  dsimp only
  rw [h]
  rfl

theorem readsAs_wordLiteral {l : Literal} (h : wordLiteral? name = some l) :
    ReadsAs scope host m name value ↔ value = l.value := by
  constructor
  · rintro ⟨e, compiled, evaluated⟩
    rw [compile_wordLiteral h] at compiled
    cases compiled
    cases evaluated
    rfl
  · rintro rfl
    exact ⟨_, compile_wordLiteral h, rfl⟩

end ReadsAs

/-- **A name that was bound can be read back, unless it is a word of the language.**  As an expression
it has the value that it took last.  The words of operators are names of targets too, but no
expressions; and the words that stand for a literal have the value of the literal, whatever they were
bound to. -/
theorem bound_name_read_back {source : String} {t : Target} (parsed : Target.parse source = .ok t)
    {v : Value} {scope after : Dictionary Value} (bound : t.bindInPlace v scope = .ok () after)
    {σ : Type} (host : String → Nat → List Value → σ → Except Fault Value × σ) (m : Memory σ)
    {name : String} (mem : name ∈ t.names) :
    ∃ item, t.Share v name item ∧
      (isReserved name = false → wordLiteral? name = none → ReadsAs after host m name item) ∧
      (isReserved name = true → ∃ cause, Expression.compile name = .error cause) ∧
      ∀ l, wordLiteral? name = some l → ∀ value, ReadsAs after host m name value ↔ value = l.value := by
  obtain ⟨items, takes, rfl⟩ := (Target.bind_eq_ok_of_parse parsed).1 (Target.bindInPlace_eq_ok.1 bound)
  obtain ⟨i, item, last, found⟩ := takes.exists_share mem
  have identifier := isIdentifier_of_isName ((Target.names_of_parse parsed).1 name mem)
  refine ⟨item, ⟨items, i, takes, last, found⟩, fun free noLiteral => ?_, compile_of_isReserved,
    fun l word value => readsAs_wordLiteral word⟩
  exact readsAs_of_get? identifier free noLiteral ((takes.get?_assign last).trans found)

namespace Letters

/-- A program that has no functions. -/
def host (name : String) (_ : Nat) (_ : List Value) (store : Unit) : Except Fault Value × Unit :=
  (.error (.eval (.custom name)), store)

/-- No function was found yet. -/
def fresh : Memory Unit := ⟨0, ()⟩

/-- A name that stands in the target twice is read back as the item in its last place. -/
theorem letter_read_back :
    Target.parse "a, b, a" = .ok target ∧ target.bindInPlace (.text "xyz") before = .ok () after ∧
      ∃ item, target.Share (.text "xyz") "a" item ∧ ReadsAs after host fresh "a" item := by
  have parsed : Target.parse "a, b, a" = .ok target := rfl
  have bound : target.bindInPlace (.text "xyz") before = .ok () after := rfl
  have first : "a" ∈ target.names := .head _
  obtain ⟨item, share, free, -⟩ := bound_name_read_back parsed bound host fresh first
  exact ⟨parsed, bound, item, share, free rfl rfl⟩

/-- A literal and an operator as names of a target. -/
def words : Target := .unpack ["true", "not"]

def numbers : Dictionary Value := ⟨[("not", .int 2), ("true", .int 1)]⟩

/-- Both words are bound, one to each number; but the first one reads as a literal still, and the second
one is no expression. -/
theorem words_not_read_back :
    Target.parse "true, not" = .ok words ∧
      words.bindInPlace (.list [.int 1, .int 2]) .empty = .ok () numbers ∧
      numbers.get? "true" = some (.int 1) ∧ ReadsAs numbers host fresh "true" (.bool true) ∧
      ¬ ReadsAs numbers host fresh "true" (.int 1) ∧
      numbers.get? "not" = some (.int 2) ∧ ¬ ReadsAs numbers host fresh "not" (.int 2) := by
  have literal : ∀ value, ReadsAs numbers host fresh "true" value ↔ value = .bool true :=
    fun _ => readsAs_wordLiteral (l := .bool true) rfl
  refine ⟨rfl, rfl, rfl, (literal _).2 rfl, fun reads => ?_, rfl, ?_⟩
  · cases (literal _).1 reads
  · rintro ⟨e, compiled, -⟩
    have word : isReserved "not" = true := rfl
    obtain ⟨cause, refused⟩ := compile_of_isReserved word
    rw [refused] at compiled
    cases compiled

end Letters

end TextTemplate
