/-!
# Contexts

The context is what makes classification depend on more than the lexeme. Classifiers read it and may
write it; string literals borrow it while they decode an escape.

## Main definitions

* `Context`: the three contexts
* `Context.afterWrite`: the context after a classifier's write
* `Memory`: what a lexer remembers from one lexeme to the next

## Implementation notes

`Context.escaping` belongs to string literals. A classifier's attempt to write it has no effect, and
does not count as a write.
-/

namespace ChainLexer.Grammar

/-- The context in which a lexeme is classified. -/
inductive Context where
  /-- Nothing special; where every lexer begins. -/
  | plain
  /-- A qualifier may follow; lasts until the next identifier unless somebody writes it. -/
  | qualifying
  /-- Inside a string literal, after a backslash. -/
  | escaping
deriving DecidableEq, Hashable, Repr

namespace Context

instance : Inhabited Context := ⟨plain⟩

/-- The name of a context in messages. -/
def name : Context → String
  | plain => "Default"
  | qualifying => "ContextualQualifier"
  | escaping => "EscapeInProgress"

/-- The context after a classifier wrote `write`: a write of `escaping` has no effect. -/
def afterWrite (context write : Context) : Context :=
  if write = escaping then context else write

/-- The context after several writes in order. -/
def afterWrites (context : Context) (writes : List Context) : Context :=
  writes.foldl afterWrite context

@[simp] theorem afterWrites_nil (context : Context) : context.afterWrites [] = context := rfl

@[simp] theorem afterWrites_append (context : Context) (ws ws' : List Context) :
    context.afterWrites (ws ++ ws') = (context.afterWrites ws).afterWrites ws' := by
  simp [afterWrites]

end Context

/-- What a lexer remembers from one lexeme to the next: the context, whether a classifier has
written it since the last resolution began, and the context to return to after an escape. -/
structure Memory where
  context : Context := .plain
  written : Bool := false
  resume : Context := .plain
deriving DecidableEq, Repr

namespace Memory

/-- The memory of a lexer that has seen nothing. -/
def fresh : Memory := {}

instance : Inhabited Memory := ⟨fresh⟩

/-- A qualifier may follow. -/
def isQualifying (m : Memory) : Bool := m.context == .qualifying

/-- A classifier's write. -/
def write (m : Memory) (context : Context) : Memory :=
  if context = .escaping then m else { m with context := context, written := true }

/-- A classifier's writes in order. -/
def writeAll (m : Memory) (writes : List Context) : Memory :=
  writes.foldl write m

/-- The memory as a resolution begins: nobody has written yet. -/
def unmarked (m : Memory) : Memory := { m with written := false }

/-- Puts a context in place without counting it as a write. -/
def withContext (m : Memory) (context : Context) : Memory := { m with context := context }

/-- Enters the context of an escape, and notes where to return. -/
def openEscape (m : Memory) : Memory := { m with context := .escaping, resume := m.context }

/-- Returns from the context of an escape. -/
def closeEscape (m : Memory) : Memory := { m with context := m.resume }

@[simp] theorem writeAll_nil (m : Memory) : m.writeAll [] = m := rfl

@[simp] theorem writeAll_cons (m : Memory) (w : Context) (ws : List Context) :
    m.writeAll (w :: ws) = (m.write w).writeAll ws := rfl

@[simp] theorem writeAll_append (m : Memory) (ws ws' : List Context) :
    m.writeAll (ws ++ ws') = (m.writeAll ws).writeAll ws' := by
  simp [writeAll]

@[simp] theorem context_write (m : Memory) (w : Context) :
    (m.write w).context = m.context.afterWrite w := by
  by_cases h : w = .escaping <;> simp [write, Context.afterWrite, h]

@[simp] theorem context_writeAll (m : Memory) (ws : List Context) :
    (m.writeAll ws).context = m.context.afterWrites ws := by
  induction ws generalizing m with
  | nil => rfl
  | cons w ws ih => simp [ih, Context.afterWrites]

/-- An escape ends in the context in which it began. -/
theorem context_closeEscape_openEscape (m : Memory) :
    m.openEscape.closeEscape.context = m.context := rfl

end Memory

end ChainLexer.Grammar
