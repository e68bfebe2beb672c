import ChainLexer.Scan.Run

/-!
# Steady memories

A string literal keeps track of an open escape in the very field that classifiers read and write.
Whatever is said about where lexemes begin and end therefore rests on one invariant: between two
lexemes no escape is open. `Memory.Steady` is that invariant.

Classifiers cannot break it, because their writes of `escaping` have no effect, and neither can the
end of a qualifier, which returns to the plain context. So the invariant holds of a fresh memory and
survives every resolution, whatever the registry.

## Main definitions

* `Memory.Steady`: no escape is open
* `Memory.noted`: the memory after an escape has been opened and closed
* `Memory.afterLiteral`: the memory after the text of a string literal

## Main results

* `Memory.Steady.writeAll`: classifiers cannot open an escape
* `Memory.Steady.resolve`: no escape is open after a resolution
-/

namespace ChainLexer.Grammar

/-- A write cannot open an escape. -/
theorem Context.afterWrite_ne_escaping {context : Context} (h : context ≠ .escaping)
    (w : Context) : context.afterWrite w ≠ .escaping := by
  rw [afterWrite]
  split
  · exact h
  · assumption

theorem Context.afterWrites_ne_escaping {context : Context} (h : context ≠ .escaping)
    (ws : List Context) : context.afterWrites ws ≠ .escaping := by
  induction ws generalizing context with
  | nil => exact h
  | cons w ws ih => exact ih (afterWrite_ne_escaping h w)

namespace Memory

/-- No escape is open. -/
def Steady (m : Memory) : Prop := m.context ≠ .escaping

theorem steady_fresh : fresh.Steady := by simp [Steady, fresh]

/-- Steadiness is a matter of the context alone. -/
theorem Steady.of_context_eq {m m' : Memory} (h : m.Steady) (heq : m'.context = m.context) :
    m'.Steady := by
  rw [Steady, heq]
  exact h

theorem Steady.unmarked {m : Memory} (h : m.Steady) : m.unmarked.Steady := h.of_context_eq rfl

/-- Classifiers cannot open an escape, however much they write. -/
theorem Steady.writeAll {m : Memory} (h : m.Steady) (ws : List Context) :
    (m.writeAll ws).Steady := by
  rw [Steady, context_writeAll]
  exact Context.afterWrites_ne_escaping h ws

theorem Steady.settle {m m' : Memory} (h : m'.Steady) (category : Category) :
    (Scan.settle category m m').Steady := by
  rw [Scan.settle]
  split
  · simp [Steady, withContext]
  · exact h

/-- **No escape is open after a resolution.** -/
theorem Steady.resolve {T : Type} {m : Memory} (h : m.Steady) (registry : Registry T)
    (w : Scan.Lexeme) (span : Source.Span) : (Scan.resolve registry m w span).2.Steady :=
  (h.unmarked.writeAll _).settle _

/-! ### What escapes leave behind

An escape returns to the context in which it was opened, but it leaves a note of that context behind.
Nobody reads the note before the next escape overwrites it. -/

/-- The memory after an escape has been opened and closed. -/
def noted (m : Memory) : Memory := { m with resume := m.context }

theorem closeEscape_openEscape (m : Memory) : m.openEscape.closeEscape = m.noted := rfl

theorem Steady.noted {m : Memory} (h : m.Steady) : m.noted.Steady := h

/-- The memory after the text of a string literal: a backslash in it has left its note. -/
def afterLiteral (m : Memory) (text : List Char) : Memory :=
  if '\\' ∈ text then m.noted else m

@[simp] theorem context_afterLiteral (m : Memory) (text : List Char) :
    (m.afterLiteral text).context = m.context := by
  rw [afterLiteral]
  split <;> rfl

@[simp] theorem noted_afterLiteral (m : Memory) (text : List Char) :
    m.noted.afterLiteral text = m.noted := by
  rw [afterLiteral]
  split <;> rfl

end Memory

end ChainLexer.Grammar
