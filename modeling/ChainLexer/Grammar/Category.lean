/-!
# Categories of lexemes

The four kinds of lexemes. Every category has a chain of classifiers of its own.
-/

namespace ChainLexer.Grammar

/-- The kind of a lexeme, decided by its first character. -/
inductive Category where
  /-- Names and keywords. -/
  | identifier
  /-- Integer literals. -/
  | number
  /-- String literals, quotes included. -/
  | string
  /-- Runs of operator characters, and line feeds. -/
  | operator
deriving DecidableEq, Repr

namespace Category

/-- All categories in their customary order. -/
def all : List Category := [.identifier, .number, .string, .operator]

/-- The name of a category in messages. -/
def name : Category → String
  | .identifier => "identifier"
  | .number => "number"
  | .string => "string"
  | .operator => "operator"

theorem mem_all (category : Category) : category ∈ all := by cases category <;> simp [all]

end Category

end ChainLexer.Grammar
