import TextTemplate.Proofs.Expr.Scan
import TextTemplate.Value.Display

/-!
# Written values, character by character

What is called data here are the values that have a written form of their own: null, truth values,
integers, texts, and lists and maps of these (`Data`).  The items of a list and the entries of a map are
written alike, with a comma and a blank between each two (`listed`), and the first character of a
written value tells its kind (`Data.exists_first`).
-/

namespace TextTemplate.Value

open TextTemplate.Expr (escaped)

/-- Values of null, truth values, integers, texts, lists and maps, at any depth.  The integers and the
maps may be restricted further. -/
inductive Data (number : Int64 → Prop) (named : Dictionary Value → Prop) : Value → Prop
  | null : Data number named .null
  | bool (b : Bool) : Data number named (.bool b)
  | int {n : Int64} : number n → Data number named (.int n)
  | text (s : String) : Data number named (.text s)
  | list {items : List Value} : (∀ v ∈ items, Data number named v) → Data number named (.list items)
  | map {entries : Dictionary Value} : named entries →
      (∀ e ∈ entries.entries, Data number named e.2) → Data number named (.map entries)

/-! ## Characters -/

/-- The characters of a written value. -/
def chars (v : Value) : List Char := v.written.toList

/-- Texts with a comma and a blank in front of each. -/
def further (texts : List (List Char)) : List Char := texts.flatMap fun text => ',' :: ' ' :: text

/-- Texts with a comma and a blank between each two. -/
def listed : List (List Char) → List Char
  | [] => []
  | first :: rest => first ++ further rest

/-- An entry of a map as it is written. -/
def entryText (e : String × Value) : List Char :=
  '\'' :: e.1.toList ++ '\'' :: ':' :: ' ' :: e.2.chars

theorem further_cons (text : List Char) (texts : List (List Char)) :
    further (text :: texts) = ',' :: ' ' :: (text ++ further texts) := by
  rw [further, List.flatMap_cons]
  rfl

theorem toList_intercalate (texts : List String) :
    (", ".intercalate texts).toList = listed (texts.map String.toList) := by
  rw [String.toList_intercalate]
  induction texts.map String.toList with
  | nil => rfl
  | cons first rest ih =>
    cases rest with
    | nil => simp [listed, further]
    | cons second rest =>
      rw [List.intercalate_cons_cons, ih, listed, listed, further_cons]
      simp

theorem writtenItems_eq_map (items : List Value) : writtenItems items = items.map written := by
  induction items with
  | nil => rfl
  | cons v rest ih => rw [writtenItems, ih, List.map_cons]

theorem toList_writtenEntries (entries : List (String × Value)) :
    (writtenEntries entries).map String.toList = entries.map entryText := by
  induction entries with
  | nil => rfl
  | cons e rest ih =>
    rw [writtenEntries, List.map_cons, List.map_cons, ih]
    simp [entryText, chars]

theorem chars_list (items : List Value) :
    chars (.list items) = '[' :: (listed (items.map chars) ++ [']']) := by
  rw [chars, written, String.toList_append, String.toList_append, toList_intercalate,
    writtenItems_eq_map, List.map_map]
  rfl

theorem chars_map (entries : Dictionary Value) :
    chars (.map entries) = '\x7b' :: (listed (entries.entries.map entryText) ++ ['\x7d']) := by
  rw [chars, written, String.toList_append, String.toList_append, toList_intercalate,
    toList_writtenEntries]
  rfl

theorem writtenChar_eq_escaped (c : Char) : writtenChar c = escaped c := by
  unfold writtenChar escaped
  split
  · rfl
  · rfl
  · next noEscape noQuote => rw [if_neg (by simp; exact ⟨noQuote, noEscape⟩)]

theorem chars_text (s : String) :
    chars (.text s) = '\'' :: (s.toList.flatMap escaped ++ ['\'']) := by
  simp [chars, written, writtenText, funext writtenChar_eq_escaped]

theorem chars_int_of_nonneg {n : Int64} (h : 0 ≤ n.toInt) :
    chars (.int n) = Number.digitsOf n.toInt.toNat := by
  obtain ⟨m, eq⟩ := Int.eq_ofNat_of_zero_le h
  rw [chars, written, eq]
  exact Nat.toList_repr

theorem chars_int_of_neg {n : Int64} (h : n.toInt < 0) :
    chars (.int n) = '-' :: Number.digitsOf (-n.toInt).toNat := by
  obtain ⟨m, eq⟩ := Int.eq_negSucc_of_lt_zero h
  rw [chars, written, eq]
  show ("-" ++ (m + 1).repr).toList = _
  rw [String.toList_append, Nat.toList_repr]
  rfl

/-- The characters of integers. -/
def isIntegral (c : Char) : Bool := c.isDigit || c = '-'

/-- An integer is written with these characters, one or more. -/
theorem integral_of_int (n : Int64) :
    chars (.int n) ≠ [] ∧ ∀ c ∈ chars (.int n), isIntegral c = true := by
  have digits : ∀ m, ∀ c ∈ Number.digitsOf m, isIntegral c = true := by
    intro m c mem
    rw [isIntegral, Expr.isDigit_of_mem_digitsOf mem, Bool.true_or]
  rcases Int.lt_or_le n.toInt 0 with negative | nonneg
  · rw [chars_int_of_neg negative]
    exact ⟨by simp, List.forall_mem_cons.2 ⟨by decide, digits _⟩⟩
  · rw [chars_int_of_nonneg nonneg]
    exact ⟨Nat.toDigits_ne_nil, digits _⟩

/-! ## The first character -/

/-- What ends a value inside of a list or a map. -/
def isDelimiter (c : Char) : Bool := c = ',' || c = ']' || c = '\x7d'

theorem isDelimiter_iff {c : Char} : isDelimiter c = true ↔ c = ',' ∨ c = ']' ∨ c = '\x7d' := by
  simp [isDelimiter, or_assoc]

/-- What may follow a value: nothing, or a delimiter. -/
def Delimited (tail : List Char) : Prop := ∀ c ∈ tail.head?, isDelimiter c = true

theorem delimited_nil : Delimited [] := fun c mem => by cases mem

/-- In front of further items, or of what closes them, a value is delimited. -/
theorem delimited_further {closing : Char} (closes : isDelimiter closing = true)
    (texts : List (List Char)) (rest : List Char) :
    Delimited (further texts ++ closing :: rest) := by
  cases texts with
  | nil =>
    rintro c ⟨⟩
    exact closes
  | cons text texts =>
    rintro c ⟨⟩
    rfl

/-- The kind of the values that are written with this character in front. -/
def kindOf (c : Char) : Kind :=
  if c = 'N' then .null
  else if c = 'T' || c = 'F' then .bool
  else if c = '\'' then .text
  else if c = '[' then .list
  else if c = '\x7b' then .map
  else .int

variable {number : Int64 → Prop} {named : Dictionary Value → Prop}

/-- A written value is not empty.  Its first character tells its kind and is no delimiter. -/
theorem Data.exists_first {v : Value} (data : Data number named v) :
    ∃ c rest, v.chars = c :: rest ∧ kindOf c = v.kind ∧ isDelimiter c = false := by
  cases data with
  | null => exact ⟨_, _, rfl, rfl, rfl⟩
  | bool b => cases b <;> exact ⟨_, _, rfl, rfl, rfl⟩
  | @int n _ =>
    obtain ⟨some, integral⟩ := integral_of_int n
    obtain ⟨c, rest, eq⟩ := List.exists_cons_of_ne_nil some
    have own : isIntegral c = true := integral c (by simp [eq])
    have apart : ∀ d, isIntegral d = false → c ≠ d := by
      rintro d other rfl
      rw [other] at own
      cases own
    refine ⟨c, rest, eq, ?_, ?_⟩
    · simp [kindOf, kind, apart 'N' rfl, apart 'T' rfl, apart 'F' rfl, apart '\'' rfl,
        apart '[' rfl, apart '\x7b' rfl]
    · simp [isDelimiter, apart ',' rfl, apart ']' rfl, apart '\x7d' rfl]
  | text s => exact ⟨_, _, chars_text s, rfl, rfl⟩
  | list _ => exact ⟨_, _, chars_list _, rfl, rfl⟩
  | map _ _ => exact ⟨_, _, chars_map _, rfl, rfl⟩

end TextTemplate.Value
