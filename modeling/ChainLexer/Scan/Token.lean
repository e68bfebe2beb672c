import ChainLexer.Source.Span
import ChainLexer.Text.Quoted

/-!
# Tokens

A token is a lexeme that a classifier has given a kind. Literals carry the value that they write.
-/

namespace ChainLexer.Scan

open ChainLexer.Source ChainLexer.Text

/-- The value that a literal writes. -/
inductive Value where
  /-- The value of a number. -/
  | int (value : UInt64)
  /-- The value of a string. -/
  | text (value : String)
deriving DecidableEq, Repr

/-- The display of a value: a number in decimal, a text in quotes. -/
def Value.display : Value → String
  | int n => toString n.toNat
  | text s => quoted s

/-- A lexeme with its kind, its place and its value. -/
structure Token (T : Type) where
  kind : T
  lexeme : String
  span : Span
  value : Option Value
deriving DecidableEq, Repr

namespace Token

/-- The display of a token: its kind, its lexeme if that is not empty, and its value if it has one,
between angle brackets. -/
def display {T : Type} (showKind : T → String) (t : Token T) : String :=
  let lexeme := if t.lexeme.isEmpty then "" else " " ++ quoted t.lexeme
  let value :=
    match t.value with
    | some v => " " ++ v.display
    | none => ""
  "<" ++ showKind t.kind ++ lexeme ++ value ++ ">"

end Token

end ChainLexer.Scan
