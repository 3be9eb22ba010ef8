import TextTemplate.Proofs.Expr.Scan
import TextTemplate.Proofs.Text.Search

/-!
# Lexemes on both sides of a separator

No lexeme but a text goes on across a bracket, a comma or a colon, so what stands in front of one is
scanned by itself (`scan_separator`): whatever stands behind, if it is scanned at all; and if nothing
stands behind, with the same fault too (`scan_separator_last`), as a text that is open there is open
without the separator.

Every lexeme takes a character or more (`length_le_of_scanLexeme`), so that the scan goes on with any
number of steps that is large enough (`scan_cons`).
-/

namespace TextTemplate.Expr

open TextTemplate.Text

/-! ## Brackets, commas and colons -/

/-- The characters that are a lexeme by themselves wherever they stand, but in a text. -/
inductive Separator : Char → Punct → Prop
  | comma : Separator ',' .comma
  | colon : Separator ':' .colon
  | openParen : Separator '(' .openParen
  | closeParen : Separator ')' .closeParen
  | openBracket : Separator '[' .openBracket
  | closeBracket : Separator ']' .closeBracket
  | openBrace : Separator '\x7b' .openBrace
  | closeBrace : Separator '\x7d' .closeBrace

section Separator

variable {d : Char} {p : Punct} (h : Separator d p)

include h

theorem Separator.solid : isWhite d = false := by cases h <;> decide

theorem Separator.ends : continuesName d = false := by cases h <;> decide

theorem Separator.gap : isDigitOrGap d = false := by cases h <;> decide

theorem Separator.digit : d.isDigit = false := by cases h <;> decide

theorem Separator.starts : startsName d = false := by cases h <;> decide

/-- No number has this character around its digits, and no text around what it holds. -/
theorem Separator.ne {c : Char} (mem : c ∈ ['.', 'e', 'E', '+', '-', '\'', '"', '\\']) : d ≠ c := by
  rintro rfl
  revert mem
  cases h <;> decide

/-- No punctuation goes on with it. -/
theorem Separator.notMem {q : Punct} : d ∉ q.text.toList.tail := by
  cases h <;> cases q <;> decide

theorem Separator.scanLexeme (tail : List Char) : scanLexeme d tail = .ok (.punct p, tail) := by
  cases h <;> cases tail <;> rfl

end Separator

/-! ## One lexeme in front of a separator -/

/-- What was read, with more behind what is left. -/
def followedBy {α : Type} (tail : List Char) (found : α × List Char) : α × List Char :=
  (found.1, found.2 ++ tail)

theorem of_map_ok {ε α β : Type} {read : Except ε α} {give : α → β} {b : β}
    (h : read.map give = .ok b) : ∃ a, read = .ok a ∧ b = give a := by
  cases read with
  | error cause => cases h
  | ok a =>
    cases h
    exact ⟨a, rfl, rfl⟩

section Lexeme

variable {d : Char} {p : Punct} {tail : List Char}

/-- A run ends where it would end without what stands behind. -/
theorem takeWhile_append_of_stop {r : Char → Bool} (stop : r d = false) (cs tail : List Char) :
    (cs ++ d :: tail).takeWhile r = cs.takeWhile r ∧
      (cs ++ d :: tail).dropWhile r = cs.dropWhile r ++ d :: tail := by
  induction cs with
  | nil => simp [stop]
  | cons c cs ih =>
    cases go : r c with
    | true => simp [go, ih]
    | false => simp [go]

theorem fractionPart_separator (h : Separator d p) (cs tail : List Char) :
    fractionPart (cs ++ d :: tail) = followedBy (d :: tail) (fractionPart cs) := by
  cases cs with
  | nil =>
    rw [List.nil_append, fractionPart.eq_2 _ fun rest eq => h.ne (by decide) (List.cons.inj eq).1]
    rfl
  | cons c cs =>
    by_cases point : c = '.'
    · subst point
      have same : (cs ++ d :: tail).head?.any startsName = cs.head?.any startsName := by
        cases cs with
        | nil => exact h.starts
        | cons c cs => rfl
      obtain ⟨taken, left⟩ := takeWhile_append_of_stop h.gap cs tail
      rw [List.cons_append, fractionPart, fractionPart, same, taken, left]
      split <;> rfl
    · rw [List.cons_append, fractionPart.eq_2 _ fun rest eq => point (List.cons.inj eq).1,
        fractionPart.eq_2 _ fun rest eq => point (List.cons.inj eq).1]
      rfl

theorem exponentSign_separator (h : Separator d p) (cs tail : List Char) :
    exponentSign (cs ++ d :: tail) = followedBy (d :: tail) (exponentSign cs) := by
  cases cs with
  | nil =>
    have noSign : ¬ ((decide (d = '+') || decide (d = '-')) = true) := by
      simp [h.ne (c := '+') (by decide), h.ne (c := '-') (by decide)]
    rw [List.nil_append, exponentSign, if_neg noSign]
    rfl
  | cons c cs =>
    rw [List.cons_append, exponentSign, exponentSign]
    split <;> rfl

theorem exponentPart_separator (h : Separator d p) (cs tail : List Char) :
    exponentPart (cs ++ d :: tail) = followedBy (d :: tail) (exponentPart cs) := by
  cases cs with
  | nil =>
    have noMark : ¬ ((decide (d = 'e') || decide (d = 'E')) = true) := by
      simp [h.ne (c := 'e') (by decide), h.ne (c := 'E') (by decide)]
    rw [List.nil_append, exponentPart, if_neg noMark]
    rfl
  | cons c cs =>
    rw [List.cons_append, exponentPart, exponentPart, exponentSign_separator h]
    split
    · dsimp only [followedBy]
      obtain ⟨taken, left⟩ := takeWhile_append_of_stop h.digit (exponentSign cs).2 tail
      rw [taken, left]
      split <;> rfl
    · rfl

theorem scanNumber_separator (h : Separator d p) (cs tail : List Char) :
    scanNumber (cs ++ d :: tail) = (scanNumber cs).map (followedBy (d :: tail)) := by
  obtain ⟨taken, left⟩ := takeWhile_append_of_stop h.gap cs tail
  unfold scanNumber
  simp only [taken, left, fractionPart_separator h, exponentPart_separator h, followedBy]
  split
  · cases Number.readInt? _ <;> rfl
  · cases Number.readFloat? _ <;> rfl

theorem scanText_quote (quote : Char) (cs : List Char) : scanText quote (quote :: cs) = .ok ([], cs) := by
  unfold scanText
  rw [if_pos rfl]

theorem scanText_escape {quote : Char} (other : '\\' ≠ quote) (e : Char) (cs : List Char) :
    scanText quote ('\\' :: e :: cs) =
      (scanText quote cs).map fun found => (unescape e ++ found.1, found.2) := by
  rw [scanText.eq_3, if_neg other, if_pos rfl]

theorem scanText_other {quote c : Char} (noQuote : c ≠ quote) (noEscape : c ≠ '\\') (cs : List Char) :
    scanText quote (c :: cs) = (scanText quote cs).map fun found => (c :: found.1, found.2) := by
  rw [scanText.eq_def]
  dsimp only
  rw [if_neg noQuote, if_neg noEscape]

/-- A text that is closed is read alike whatever stands behind. -/
theorem scanText_append {quote : Char} {cs : List Char} {found : List Char × List Char}
    (closed : scanText quote cs = .ok found) (tail : List Char) :
    scanText quote (cs ++ tail) = .ok (followedBy tail found) := by
  fun_induction scanText quote cs generalizing found with
  | case1 => cases closed
  | case2 rest =>
    cases closed
    exact scanText_quote quote (rest ++ tail)
  | case3 => cases closed
  | case4 e rest other ih =>
    obtain ⟨first, read, rfl⟩ := of_map_ok closed
    rw [List.cons_append, List.cons_append, scanText_escape other, ih read]
    rfl
  | case5 c rest noQuote noEscape ih =>
    obtain ⟨first, read, rfl⟩ := of_map_ok closed
    rw [List.cons_append, scanText_other noQuote noEscape, ih read]
    rfl

/-- A text that is open is still open with one more character behind, if this is no quote. -/
theorem scanText_open {quote : Char} (cs : List Char) (noQuote : d ≠ quote)
    (failed : ∀ found, scanText quote cs ≠ .ok found) :
    scanText quote cs = .error .openText ∧ scanText quote (cs ++ [d]) = .error .openText := by
  have inner {rest : List Char} {give : List Char × List Char → List Char × List Char}
      (failed : ∀ found, (scanText quote rest).map give ≠ .ok found) (found : List Char × List Char) :
      scanText quote rest ≠ .ok found := fun read => failed (give found) (by rw [read]; rfl)
  fun_induction scanText quote cs with
  | case1 =>
    refine ⟨rfl, ?_⟩
    rw [List.nil_append, scanText.eq_2, if_neg noQuote]
    split <;> rfl
  | case2 rest => exact absurd rfl (failed _)
  | case3 other =>
    refine ⟨rfl, ?_⟩
    show scanText quote ['\\', d] = _
    rw [scanText_escape other]
    rfl
  | case4 e rest other ih =>
    obtain ⟨first, still⟩ := ih (inner failed)
    rw [List.cons_append, List.cons_append, scanText_escape other, first, still]
    exact ⟨rfl, rfl⟩
  | case5 c rest noQuote noEscape ih =>
    obtain ⟨first, still⟩ := ih (inner failed)
    rw [List.cons_append, scanText_other noQuote noEscape, first, still]
    exact ⟨rfl, rfl⟩

theorem afterPrefix?_separator {w : List Char} (inert : d ∉ w) (cs : List Char) :
    afterPrefix? w (cs ++ d :: tail) = (afterPrefix? w cs).map (· ++ d :: tail) := by
  induction w generalizing cs with
  | nil => rfl
  | cons a w ih =>
    obtain ⟨other, inert⟩ : d ≠ a ∧ d ∉ w := not_or.1 fun mem => inert (List.mem_cons.2 mem)
    cases cs with
    | nil => exact if_neg (Ne.symm other)
    | cons c cs =>
      rw [List.cons_append, afterPrefix?, afterPrefix?, ih inert]
      split <;> rfl

theorem scanPunct_separator (h : Separator d p) (c : Char) (cs tail : List Char) :
    scanPunct (c :: (cs ++ d :: tail)) = (scanPunct (c :: cs)).map (followedBy (d :: tail)) := by
  have each (q : Punct) :
      (afterPrefix? q.text.toList (c :: (cs ++ d :: tail))).map (fun rest => (q, rest)) =
        ((afterPrefix? q.text.toList (c :: cs)).map fun rest => (q, rest)).map
          (followedBy (d :: tail)) := by
    have inert := h.notMem (q := q)
    cases text : q.text.toList with
    | nil => rfl
    | cons a w =>
      have inert : d ∉ w := by rwa [text] at inert
      rw [afterPrefix?, afterPrefix?, afterPrefix?_separator inert]
      split
      · cases afterPrefix? w cs <;> rfl
      · rfl
  unfold scanPunct
  simp only [each]
  induction Punct.all with
  | nil => rfl
  | cons q qs ih =>
    rw [List.findSome?_cons, List.findSome?_cons, ih]
    cases (afterPrefix? q.text.toList (c :: cs)) <;> rfl

theorem startsNumber_of_ne {c : Char} (noPoint : c ≠ '.') (cs : List Char) :
    startsNumber (c :: cs) = c.isDigit := by
  unfold startsNumber
  split
  · next eq => exact absurd (List.cons.inj eq).1 noPoint
  · next eq => rw [(List.cons.inj eq).1]
  · next eq => cases eq

theorem startsNumber_separator (h : Separator d p) (c : Char) (cs tail : List Char) :
    startsNumber (c :: (cs ++ d :: tail)) = startsNumber (c :: cs) := by
  by_cases point : c = '.'
  · subst point
    cases cs with
    | nil => exact h.digit
    | cons c cs => rfl
  · rw [startsNumber_of_ne point, startsNumber_of_ne point]

/-- **A lexeme ends in front of a separator**, unless it is a text that is open there. -/
theorem scanLexeme_separator (h : Separator d p) {c : Char} {cs : List Char}
    (closed : tail = [] ∨ ∃ found, scanLexeme c cs = .ok found) :
    scanLexeme c (cs ++ d :: tail) = (scanLexeme c cs).map (followedBy (d :: tail)) := by
  unfold scanLexeme at closed ⊢
  rw [startsNumber_separator h]
  by_cases isNumber : startsNumber (c :: cs) = true
  · rw [if_pos isNumber, if_pos isNumber]
    exact scanNumber_separator h (c :: cs) tail
  · rw [if_neg isNumber] at closed ⊢
    rw [if_neg isNumber]
    by_cases quote : (decide (c = '\'') || decide (c = '"')) = true
    · rw [if_pos quote] at closed ⊢
      rw [if_pos quote]
      cases text : scanText c cs with
      | ok found =>
        rw [scanText_append text]
        rfl
      | error cause =>
        obtain rfl | ⟨found, closed⟩ := closed
        · have noQuote : d ≠ c := by
            intro same
            rw [← same] at quote
            simp [h.ne (c := '\'') (by decide), h.ne (c := '"') (by decide)] at quote
          obtain ⟨first, still⟩ := scanText_open cs noQuote fun found read => by
            rw [read] at text
            cases text
          rw [← text, first, still]
          rfl
        · rw [text] at closed
          cases closed
    · rw [if_neg quote, if_neg quote]
      split
      · obtain ⟨taken, left⟩ := takeWhile_append_of_stop h.ends cs tail
        rw [taken, left]
        rfl
      · rw [scanPunct_separator h]
        cases scanPunct (c :: cs) <;> rfl

end Lexeme

/-! ## Every lexeme takes a character -/

section Length

variable {c : Char} {cs rest : List Char} {l : Lexeme}

theorem length_dropWhile_le (r : Char → Bool) (cs : List Char) : (cs.dropWhile r).length ≤ cs.length :=
  (List.dropWhile_suffix r).length_le

theorem length_fractionPart_le (cs : List Char) : (fractionPart cs).2.length ≤ cs.length := by
  unfold fractionPart
  split
  · next rest =>
    have := length_dropWhile_le isDigitOrGap rest
    split
    · exact Nat.le_refl _
    · exact Nat.le_succ_of_le this
  · exact Nat.le_refl _

theorem length_exponentPart_le (cs : List Char) : (exponentPart cs).2.length ≤ cs.length := by
  cases cs with
  | nil => exact Nat.le_refl _
  | cons c cs =>
    have sign : (exponentSign cs).2.length ≤ cs.length := by
      cases cs with
      | nil => exact Nat.le_refl _
      | cons c cs =>
        rw [exponentSign]
        split
        · exact Nat.le_succ _
        · exact Nat.le_refl _
    have digits := length_dropWhile_le Char.isDigit (exponentSign cs).2
    rw [exponentPart]
    split
    · dsimp only
      split
      · exact Nat.le_refl _
      · exact Nat.le_succ_of_le (Nat.le_trans digits sign)
    · exact Nat.le_refl _

/-- The digits in front of a point, or the point and the digits behind it, are one character or more. -/
theorem length_fractionPart_lt (number : startsNumber (c :: cs) = true) :
    (fractionPart ((c :: cs).dropWhile isDigitOrGap)).2.length ≤ cs.length := by
  by_cases point : c = '.'
  · subst point
    cases cs with
    | nil => cases number
    | cons c cs =>
      have digit : c.isDigit = true := number
      have noName : startsName c = false := by
        cases name : startsName c with
        | false => rfl
        | true => rw [isDigit_of_startsName name] at digit; cases digit
      show (if startsName c = true then _ else _ : List Char × List Char).2.length ≤ _
      rw [noName]
      exact length_dropWhile_le isDigitOrGap (c :: cs)
  · rw [startsNumber_of_ne point] at number
    have digit : isDigitOrGap c = true := by rw [isDigitOrGap, number, Bool.true_or]
    rw [List.dropWhile_cons_of_pos digit]
    exact Nat.le_trans (length_fractionPart_le _) (length_dropWhile_le _ _)

theorem length_le_of_scanText {quote : Char} {text : List Char}
    (h : scanText quote cs = .ok (text, rest)) : rest.length ≤ cs.length := by
  fun_induction scanText quote cs generalizing text rest with
  | case1 => cases h
  | case2 =>
    cases h
    exact Nat.le_succ _
  | case3 => cases h
  | case4 e cs other ih =>
    obtain ⟨first, read, same⟩ := of_map_ok h
    cases same
    exact Nat.le_trans (ih read) (by simp only [List.length_cons]; omega)
  | case5 c cs noQuote noEscape ih =>
    obtain ⟨first, read, same⟩ := of_map_ok h
    cases same
    exact Nat.le_succ_of_le (ih read)

theorem length_le_of_scanPunct {p : Punct} (h : scanPunct (c :: cs) = some (p, rest)) :
    rest.length ≤ cs.length := by
  obtain ⟨q, -, found⟩ := List.exists_of_findSome?_eq_some h
  obtain ⟨left, after, same⟩ := Option.map_eq_some_iff.1 found
  cases same
  have split := congrArg List.length (afterPrefix?_eq_some.1 after)
  have some : 0 < p.text.toList.length := by cases p <;> decide
  rw [List.length_append, List.length_cons] at split
  omega

/-- **Every lexeme takes a character or more.** -/
theorem length_le_of_scanLexeme (h : scanLexeme c cs = .ok (l, rest)) : rest.length ≤ cs.length := by
  unfold scanLexeme at h
  split at h
  · next number =>
    have fraction := length_fractionPart_lt number
    have exponent := length_exponentPart_le (fractionPart ((c :: cs).dropWhile isDigitOrGap)).2
    have left : rest = (exponentPart (fractionPart ((c :: cs).dropWhile isDigitOrGap)).2).2 := by
      unfold scanNumber at h
      dsimp only at h
      split at h
      · split at h <;> cases h; rfl
      · split at h <;> cases h; rfl
    rw [left]
    omega
  · split at h
    · cases text : scanText c cs with
      | error cause => rw [text] at h; cases h
      | ok found =>
        rw [text] at h
        cases h
        exact length_le_of_scanText text
    · split at h
      · cases h
        exact length_dropWhile_le _ _
      · cases punct : scanPunct (c :: cs) with
        | none => rw [punct] at h; cases h
        | some found =>
          rw [punct] at h
          cases h
          exact length_le_of_scanPunct punct

end Length

/-! ## All lexemes -/

section Scan

variable {c d : Char} {p : Punct} {cs : List Char} {ls : List Lexeme}

/-- More steps than there are characters make no difference. -/
theorem scanWithin_eq_scan {steps : Nat} (enough : cs.length ≤ steps) :
    scanWithin steps cs = scan cs := by
  suffices all : ∀ n m (cs : List Char), cs.length ≤ n → cs.length ≤ m →
      scanWithin n cs = scanWithin m cs from all steps cs.length cs enough (Nat.le_refl _)
  intro n
  induction n with
  | zero =>
    intro m cs none _
    obtain rfl := List.eq_nil_of_length_eq_zero (Nat.eq_zero_of_le_zero none)
    rw [scanWithin.eq_1, scanWithin.eq_1]
  | succ n ih =>
    intro m cs enough enough'
    cases cs with
    | nil => rw [scanWithin.eq_1, scanWithin.eq_1]
    | cons c cs =>
      cases m with
      | zero => cases enough'
      | succ m =>
        have shorter := Nat.le_of_succ_le_succ enough
        have shorter' := Nat.le_of_succ_le_succ enough'
        rw [scanWithin, scanWithin]
        split
        · exact ih m cs shorter shorter'
        · cases first : scanLexeme c cs with
          | error cause => rfl
          | ok found =>
            have taken := length_le_of_scanLexeme first
            show (scanWithin n found.2).bind _ = (scanWithin m found.2).bind _
            rw [ih m found.2 (by omega) (by omega)]

theorem scan_white (white : isWhite c = true) (cs : List Char) : scan (c :: cs) = scan cs := by
  rw [scan, List.length_cons, scanWithin, if_pos white]
  rfl

/-- The first lexeme, and then the others. -/
theorem scan_cons (solid : isWhite c = false) (cs : List Char) :
    scan (c :: cs) = (scanLexeme c cs).bind fun found => (scan found.2).map (found.1 :: ·) := by
  rw [scan, List.length_cons, scanWithin, solid, if_neg Bool.false_ne_true]
  cases first : scanLexeme c cs with
  | error cause => rfl
  | ok found =>
    show (scanWithin cs.length found.2).bind _ = (scan found.2).map _
    rw [scanWithin_eq_scan (length_le_of_scanLexeme first)]
    cases scan found.2 <;> rfl

theorem scan_punct (solid : isWhite c = false) (first : scanLexeme c cs = .ok (.punct p, cs)) :
    scan (c :: cs) = (scan cs).map (.punct p :: ·) := by
  rw [scan_cons solid, first]
  rfl

/-- A text is nothing, or white space in front of a text, or a lexeme in front of a text. -/
theorem scan_induction {motive : List Char → Prop} (nil : motive [])
    (white : ∀ c cs, isWhite c = true → motive cs → motive (c :: cs))
    (lexeme : ∀ c cs, isWhite c = false →
      (∀ l rest, scanLexeme c cs = .ok (l, rest) → motive rest) → motive (c :: cs))
    (cs : List Char) : motive cs := by
  suffices all : ∀ n (cs : List Char), cs.length ≤ n → motive cs from all _ cs (Nat.le_refl _)
  intro n
  induction n with
  | zero =>
    intro cs none
    obtain rfl := List.eq_nil_of_length_eq_zero (Nat.eq_zero_of_le_zero none)
    exact nil
  | succ n ih =>
    intro cs enough
    cases cs with
    | nil => exact nil
    | cons c cs =>
      have shorter := Nat.le_of_succ_le_succ enough
      cases solid : isWhite c with
      | true => exact white c cs solid (ih cs shorter)
      | false =>
        refine lexeme c cs solid fun l rest first => ih rest ?_
        exact Nat.le_trans (length_le_of_scanLexeme first) shorter

/-- **What stands in front of a separator is scanned by itself**, and then what stands behind. -/
theorem scan_separator (h : Separator d p) (scanned : scan cs = .ok ls) (tail : List Char) :
    scan (cs ++ d :: tail) = (scan tail).map fun more => ls ++ .punct p :: more := by
  induction cs using scan_induction generalizing ls with
  | nil =>
    cases scanned
    exact scan_punct h.solid (h.scanLexeme tail)
  | white c cs white ih =>
    rw [scan_white white] at scanned
    rw [List.cons_append, scan_white white, ih scanned]
  | lexeme c cs solid ih =>
    rw [scan_cons solid] at scanned
    cases first : scanLexeme c cs with
    | error cause =>
      rw [first] at scanned
      cases scanned
    | ok found =>
      rw [first] at scanned
      obtain ⟨more, rest, rfl⟩ := of_map_ok scanned
      rw [List.cons_append, scan_cons solid, scanLexeme_separator h (.inr ⟨_, first⟩), first]
      show (scan (found.2 ++ d :: tail)).map _ = _
      rw [ih found.1 found.2 first rest]
      cases scan tail <;> rfl

/-- A separator at the end of a text changes nothing in front of it. -/
theorem scan_separator_last (h : Separator d p) (cs : List Char) :
    scan (cs ++ [d]) = (scan cs).map (· ++ [.punct p]) := by
  induction cs using scan_induction with
  | nil => exact scan_punct h.solid (h.scanLexeme [])
  | white c cs white ih => rw [List.cons_append, scan_white white, scan_white white, ih]
  | lexeme c cs solid ih =>
    rw [List.cons_append, scan_cons solid, scan_cons solid, scanLexeme_separator h (.inl rfl)]
    cases first : scanLexeme c cs with
    | error cause => rfl
    | ok found =>
      show (scan (found.2 ++ [d])).map _ = ((scan found.2).map _).map _
      rw [ih found.1 found.2 first]
      cases scan found.2 <;> rfl

end Scan

end TextTemplate.Expr
