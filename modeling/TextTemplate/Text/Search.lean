/-!
# Finding a piece of text

Occurrences of a pattern are taken from left to right and never overlap.  The empty pattern occurs
in front of every character and at the end.
-/

namespace TextTemplate.Text

/-- What follows `pattern` at the front of the text. -/
def afterPrefix? : List Char → List Char → Option (List Char)
  | [], cs => some cs
  | _ :: _, [] => none
  | p :: ps, c :: cs => if p = c then afterPrefix? ps cs else none

/-- Whether the text starts with `pattern`. -/
def startsWith (cs pattern : List Char) : Bool := (afterPrefix? pattern cs).isSome

/-- Whether the text ends with `pattern`. -/
def endsWith (cs pattern : List Char) : Bool := startsWith cs.reverse pattern.reverse

/-- Whether `pattern` occurs in the text. -/
def contains (pattern : List Char) : List Char → Bool
  | [] => pattern.isEmpty
  | c :: cs => startsWith (c :: cs) pattern || contains pattern cs

/-- The text before the first occurrence of a non-empty pattern, and the text after it. -/
def cut? (pattern : List Char) : List Char → Option (List Char × List Char)
  | [] => none
  | c :: cs =>
    match afterPrefix? pattern (c :: cs) with
    | some rest => some ([], rest)
    | none => (cut? pattern cs).map fun (before, rest) => (c :: before, rest)

/-- What follows a pattern is shorter by the pattern. -/
theorem length_afterPrefix? {pattern cs rest : List Char} (h : afterPrefix? pattern cs = some rest) :
    rest.length + pattern.length = cs.length := by
  induction pattern generalizing cs with
  | nil => simp_all [afterPrefix?]
  | cons p ps ih =>
    cases cs with
    | nil => simp [afterPrefix?] at h
    | cons c cs =>
      simp only [afterPrefix?] at h
      split at h
      · have := ih h
        simp only [List.length_cons]
        omega
      · cases h

/-- What follows the first occurrence is not longer than the text. -/
theorem length_cut? {pattern cs before rest : List Char} (h : cut? pattern cs = some (before, rest)) :
    rest.length ≤ cs.length := by
  induction cs generalizing before with
  | nil => simp [cut?] at h
  | cons c cs ih =>
    simp only [cut?] at h
    split at h
    · rename_i hp
      have := length_afterPrefix? hp
      simp only [Option.some.injEq, Prod.mk.injEq] at h
      obtain ⟨-, rfl⟩ := h
      omega
    · obtain ⟨⟨b, r⟩, hc, he⟩ := Option.map_eq_some_iff.1 h
      simp only [Prod.mk.injEq] at he
      obtain ⟨-, rfl⟩ := he
      have := ih hc
      simp only [List.length_cons]
      omega

/-- The pieces between the occurrences of a non-empty pattern.  `steps` bounds their number. -/
def splitWithin (pattern : List Char) : Nat → List Char → List (List Char)
  | 0, cs => [cs]
  | steps + 1, cs =>
    match cut? pattern cs with
    | none => [cs]
    | some (before, rest) => before :: splitWithin pattern steps rest

/-- The pieces between the occurrences of `pattern`; there is one more of them than occurrences. -/
def split (pattern cs : List Char) : List (List Char) :=
  if pattern.isEmpty then [] :: cs.map (fun c => [c]) ++ [[]]
  else splitWithin pattern cs.length cs

/-- The text with every occurrence of `pattern` replaced by `new`. -/
def replace (pattern new cs : List Char) : List Char :=
  new.intercalate (split pattern cs)

end TextTemplate.Text
