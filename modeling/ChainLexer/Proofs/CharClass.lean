import ChainLexer.Text.CharClass

/-!
# Character classes apart

Which characters can begin a lexeme of which category is decided by a chain of tests, and the tests
are not exclusive as they are written. What makes the order of the chain harmless are a few facts
about the Unicode tables: white space is never alphanumeric, and the ASCII digits are not
alphabetic. They are proved here from the tables themselves, row against row.

The second half of the module is about runs: how long a text keeps satisfying a predicate, and where
it stops.

## Main definitions

* `RangeTable.Apart`: no two rows of two tables meet
* `Stops`: a text does not go on with a character of a class

## Main results

* `isAlphanumeric_of_isWhiteSpace`: white space is not alphanumeric
* `isIdentStart_of_isNumberStart`: an ASCII digit starts no identifier
* `takeWhile_append_of_stops`: a run ends where the text stops
-/

namespace ChainLexer.Text

/-! ### Tables apart -/

namespace RangeTable

/-- No row of the one table meets a row of the other. -/
def Apart (rows rows' : List (Nat × Nat)) : Prop :=
  ∀ row ∈ rows, ∀ row' ∈ rows', row.2 < row'.1 ∨ row'.2 < row.1

instance (rows rows' : List (Nat × Nat)) : Decidable (Apart rows rows') :=
  inferInstanceAs (Decidable (∀ row ∈ rows, ∀ row' ∈ rows', row.2 < row'.1 ∨ row'.2 < row.1))

/-- A code point lies in at most one of two tables that are apart. -/
theorem inRows_of_apart {rows rows' : List (Nat × Nat)} (hrows : Ascending rows)
    (hrows' : Ascending rows') (h : Apart rows rows') {n : Nat} (hn : inRows rows n = true) :
    inRows rows' n = false := by
  rw [Bool.eq_false_iff]
  intro hn'
  obtain ⟨row, hrow, hlo, hhi⟩ := (inRows_iff hrows n).1 hn
  obtain ⟨row', hrow', hlo', hhi'⟩ := (inRows_iff hrows' n).1 hn'
  have := h row hrow row' hrow'
  omega

end RangeTable

theorem isAlphabetic_of_isWhiteSpace {c : Char} (h : isWhiteSpace c) : isAlphabetic c = false :=
  RangeTable.inRows_of_apart whiteSpaceTable_ascending alphabeticTable_ascending
    (by decide +kernel) h

theorem isNumeric_of_isWhiteSpace {c : Char} (h : isWhiteSpace c) : isNumeric c = false :=
  RangeTable.inRows_of_apart whiteSpaceTable_ascending numericTable_ascending
    (by decide +kernel) h

/-- **White space is not alphanumeric.** -/
theorem isAlphanumeric_of_isWhiteSpace {c : Char} (h : isWhiteSpace c) :
    isAlphanumeric c = false := by
  simp [isAlphanumeric, isAlphabetic_of_isWhiteSpace h, isNumeric_of_isWhiteSpace h]

/-- The ASCII digits as a table of one row. -/
theorem inRows_of_isAsciiDigit {c : Char} (h : isAsciiDigit c) :
    RangeTable.inRows [(0x30, 0x39)] c.toNat = true := by
  simp only [isAsciiDigit, Bool.and_eq_true, decide_eq_true_eq, Char.le_def,
    UInt32.le_iff_toNat_le] at h
  have hlo : 0x30 ≤ c.toNat := h.1
  have hhi : c.toNat ≤ 0x39 := h.2
  rw [RangeTable.inRows, if_neg (by omega), if_pos hhi]

theorem isAlphabetic_of_isAsciiDigit {c : Char} (h : isAsciiDigit c) : isAlphabetic c = false :=
  RangeTable.inRows_of_apart (by decide) alphabeticTable_ascending (by decide +kernel)
    (inRows_of_isAsciiDigit h)

theorem isWhiteSpace_of_isAsciiDigit {c : Char} (h : isAsciiDigit c) : isWhiteSpace c = false :=
  RangeTable.inRows_of_apart (by decide) whiteSpaceTable_ascending (by decide)
    (inRows_of_isAsciiDigit h)

/-! ### What white space is not -/

theorem isIdentContinue_of_isWhiteSpace {c : Char} (h : isWhiteSpace c) :
    isIdentContinue c = false := by
  have hunderscore : c ≠ '_' := by rintro rfl; exact absurd h (by decide)
  have hapostrophe : c ≠ '\'' := by rintro rfl; exact absurd h (by decide)
  simp [isIdentContinue, isAlphanumeric_of_isWhiteSpace h, hunderscore, hapostrophe]

theorem isNumberContinue_of_isWhiteSpace {c : Char} (h : isWhiteSpace c) :
    isNumberContinue c = false := by
  have hdigit : isAsciiDigit c = false := by
    rw [Bool.eq_false_iff]
    intro hdigit
    rw [isWhiteSpace_of_isAsciiDigit hdigit] at h
    cases h
  have hcontinue := isIdentContinue_of_isWhiteSpace h
  simp only [isIdentContinue, Bool.or_eq_false_iff] at hcontinue
  simp [isNumberContinue, isNumberSeparator, hdigit, hcontinue.1.1, hcontinue.1.2]

theorem isOperatorChar_of_isWhiteSpace {c : Char} (h : isWhiteSpace c) :
    isOperatorChar c = false := by
  simp [isOperatorChar, h]

theorem isWhiteSpace_of_isIdentStart {c : Char} (h : isIdentStart c) : isWhiteSpace c = false := by
  rw [Bool.eq_false_iff]
  intro hspace
  have := isIdentContinue_of_isIdentStart h
  rw [isIdentContinue_of_isWhiteSpace hspace] at this
  cases this

/-! ### First characters

The tests that choose a category, in pairs: each later one excludes all earlier ones. -/

/-- An ASCII digit starts no identifier. -/
theorem isIdentStart_of_isNumberStart {c : Char} (h : isNumberStart c) : isIdentStart c = false := by
  have hunderscore : c ≠ '_' := by rintro rfl; exact absurd h (by decide)
  have hapostrophe : c ≠ '\'' := by rintro rfl; exact absurd h (by decide)
  simp [isIdentStart, isAlphabetic_of_isAsciiDigit h, hunderscore, hapostrophe]

theorem isIdentStart_of_isOperatorChar {c : Char} (h : isOperatorChar c) :
    isIdentStart c = false := by
  rw [Bool.eq_false_iff]
  intro hstart
  simp [isOperatorChar, isIdentContinue_of_isIdentStart hstart] at h

theorem isNumberStart_of_isOperatorChar {c : Char} (h : isOperatorChar c) :
    isNumberStart c = false := by
  simp_all [isOperatorChar, isNumberStart]

theorem ne_quote_of_isOperatorChar {c : Char} (h : isOperatorChar c) : c ≠ '"' := by
  rintro rfl
  simp [isOperatorChar] at h

theorem isOperatorChar_of_isIdentStart {c : Char} (h : isIdentStart c) :
    isOperatorChar c = false := by
  simp [isOperatorChar, isIdentContinue_of_isIdentStart h]

theorem isOperatorChar_of_isNumberStart {c : Char} (h : isNumberStart c) :
    isOperatorChar c = false := by
  rw [isNumberStart] at h
  simp [isOperatorChar, h]

/-! ### Runs of a class -/

/-- The text does not go on with a character of the class. -/
def Stops (accept : Char → Bool) (cs : List Char) : Prop :=
  ∀ c ∈ cs.head?, accept c = false

variable {accept : Char → Bool}

@[simp] theorem stops_nil : Stops accept [] := by simp [Stops]

@[simp] theorem stops_cons {c : Char} {cs : List Char} :
    Stops accept (c :: cs) ↔ accept c = false := by
  simp [Stops]

theorem takeWhile_of_stops {cs : List Char} (h : Stops accept cs) : cs.takeWhile accept = [] := by
  cases cs with
  | nil => rfl
  | cons c cs => simp [stops_cons.1 h]

/-- A run ends where the text stops. -/
theorem takeWhile_append_of_stops {run rest : List Char} (hrun : ∀ c ∈ run, accept c)
    (hrest : Stops accept rest) : (run ++ rest).takeWhile accept = run := by
  rw [List.takeWhile_append_of_pos hrun, takeWhile_of_stops hrest, List.append_nil]

theorem accept_of_mem_takeWhile {cs : List Char} {c : Char} (h : c ∈ cs.takeWhile accept) :
    accept c :=
  List.all_eq_true.1 List.all_takeWhile c h

theorem drop_length_takeWhile (cs : List Char) :
    cs.drop (cs.takeWhile accept).length = cs.dropWhile accept := by
  have h : (cs.takeWhile accept ++ cs.dropWhile accept).drop (cs.takeWhile accept).length
      = cs.dropWhile accept := List.drop_left
  rwa [List.takeWhile_append_dropWhile] at h

theorem dropWhile_of_stops {cs : List Char} (h : Stops accept cs) : cs.dropWhile accept = cs := by
  rw [← drop_length_takeWhile, takeWhile_of_stops h, List.length_nil, List.drop_zero]

/-- Behind a run of the class the text stops. -/
theorem stops_dropWhile (cs : List Char) : Stops accept (cs.dropWhile accept) := by
  have hhead := List.head?_dropWhile_not accept cs
  intro c hc
  rw [hc] at hhead
  exact hhead

end ChainLexer.Text
