import ChainLexer.Grammar.Context

/-!
# String literals

A string literal runs from a double quote to the next one that is not escaped, across the ends of
lines. A backslash opens an escape: the context becomes `escaping`, the next character is decoded as
one unit, and the context returns to what it was before the backslash.

## Main definitions

* `StringLiteral`: the text of a literal after its opening quote, its value, the memory after it
* `StringLiteral.read`: reads a literal from after its opening quote
-/

namespace ChainLexer.Scan

open ChainLexer.Grammar

/-- A string literal from after its opening quote up to its closing one, with the value it writes
and the memory it leaves behind. -/
structure StringLiteral where
  text : List Char
  value : List Char
  memory : Memory
deriving Repr

namespace StringLiteral

/-- The character that an escape stands for: a line feed for `n`, a carriage return for `r`, and any
other character for itself. -/
def unescape (c : Char) : Char :=
  if c = 'n' then '\n' else if c = 'r' then '\r' else c

/-- The literal with one more character before it, which has no value of its own. -/
def consText (c : Char) (s : StringLiteral) : StringLiteral := { s with text := c :: s.text }

/-- The literal with one more character and its value before it. -/
def consChar (c value : Char) (s : StringLiteral) : StringLiteral :=
  { s with text := c :: s.text, value := value :: s.value }

/-- Reads a literal from after its opening quote; `none` when the text ends before the literal. -/
def read (m : Memory) : List Char → Option StringLiteral
  | [] => none
  | c :: cs =>
    if m.context = .escaping then (read m.closeEscape cs).map (consChar c (unescape c))
    else if c = '"' then some ⟨[c], [], m⟩
    else if c = '\\' then (read m.openEscape cs).map (consText c)
    else (read m cs).map (consChar c c)

end StringLiteral

end ChainLexer.Scan
