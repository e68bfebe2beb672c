/-!
# Tables of code point ranges

A set of characters given by ascending, closed ranges of code points, and membership in it. The walk
stops at the first range that lies above the character, so the frequent small code points are
decided after a few rows.

## Main definitions

* `RangeTable`: the rows of a set of characters
* `RangeTable.contains`: membership of a character
* `RangeTable.Ascending`: the rows are ranges in ascending order

## Main results

* `RangeTable.inRows_iff`: the walk over ascending rows finds a code point iff some row holds it
-/

namespace ChainLexer.Text

/-- A set of characters as ascending closed ranges of code points. -/
structure RangeTable where
  rows : List (Nat × Nat)

namespace RangeTable

/-- Membership of a code point in ascending rows; a row above the code point ends the walk. -/
def inRows : List (Nat × Nat) → Nat → Bool
  | [], _ => false
  | (lo, hi) :: rows, n => if n < lo then false else if n ≤ hi then true else inRows rows n

/-- The character lies in one of the ranges of the table. -/
def contains (table : RangeTable) (c : Char) : Bool :=
  inRows table.rows c.toNat

/-- Every row is a range, and every row ends below the start of the next one. -/
def Ascending : List (Nat × Nat) → Prop
  | [] => True
  | [(lo, hi)] => lo ≤ hi
  | (lo, hi) :: (lo', hi') :: rows => lo ≤ hi ∧ hi < lo' ∧ Ascending ((lo', hi') :: rows)

/-- Order of the rows is decided row by row. -/
instance decidableAscending : (rows : List (Nat × Nat)) → Decidable (Ascending rows)
  | [] => inferInstanceAs (Decidable True)
  | [(lo, hi)] => inferInstanceAs (Decidable (lo ≤ hi))
  | (lo, hi) :: (lo', hi') :: rows =>
    have := decidableAscending ((lo', hi') :: rows)
    inferInstanceAs (Decidable (lo ≤ hi ∧ hi < lo' ∧ Ascending ((lo', hi') :: rows)))

/-- All further rows start above the end of the first one. -/
theorem Ascending.lt_of_mem {lo hi : Nat} {rows : List (Nat × Nat)}
    (h : Ascending ((lo, hi) :: rows)) : ∀ row ∈ rows, hi < row.1 := by
  induction rows generalizing lo hi with
  | nil => simp
  | cons next rows ih =>
    obtain ⟨-, hlt, htail⟩ := h
    intro row hrow
    rcases List.mem_cons.1 hrow with rfl | hrow
    · exact hlt
    · have hle : next.1 ≤ next.2 := by
        cases rows with
        | nil => exact htail
        | cons _ _ => exact htail.1
      have := ih htail row hrow
      omega

theorem Ascending.tail {row : Nat × Nat} {rows : List (Nat × Nat)}
    (h : Ascending (row :: rows)) : Ascending rows := by
  cases rows with
  | nil => trivial
  | cons _ _ => exact h.2.2

/-- The walk over ascending rows finds a code point iff some row holds it. -/
theorem inRows_iff {rows : List (Nat × Nat)} (h : Ascending rows) (n : Nat) :
    inRows rows n = true ↔ ∃ row ∈ rows, row.1 ≤ n ∧ n ≤ row.2 := by
  induction rows with
  | nil => simp [inRows]
  | cons row rows ih =>
    obtain ⟨lo, hi⟩ := row
    simp only [inRows, List.mem_cons, exists_eq_or_imp]
    split
    · next hlo =>
      refine ⟨by simp, ?_⟩
      rintro (⟨hle, -⟩ | ⟨row, hrow, hle, -⟩)
      · omega
      · have := h.lt_of_mem row hrow
        have : lo ≤ hi := by
          cases rows with
          | nil => exact h
          | cons _ _ => exact h.1
        omega
    · split
      · simp; omega
      · rw [ih h.tail]
        constructor
        · exact Or.inr
        · rintro (⟨-, hle⟩ | hrow)
          · omega
          · exact hrow

end RangeTable

end ChainLexer.Text
