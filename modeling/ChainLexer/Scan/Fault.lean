import ChainLexer.Grammar.Category
import ChainLexer.Source.Span
import ChainLexer.Text.Quoted

/-!
# Faults

Why a scan stops. Every fault names the place in the source at which it arises.
-/

namespace ChainLexer.Scan

open ChainLexer.Grammar ChainLexer.Source ChainLexer.Text

/-- Why a scan stops. -/
inductive Fault where
  /-- No classifier of the category has a verdict on the lexeme. -/
  | unrecognized (category : Category) (lexeme : String) (span : Span)
  /-- No lexeme starts with the character. -/
  | unexpected (char : Char) (position : Nat)
  /-- The source ends inside the string that starts here. -/
  | unterminated (start : Nat)
  /-- The value of the number does not fit into 64 bits. -/
  | overflow (lexeme : String) (span : Span)
deriving DecidableEq, Repr

namespace Fault

/-- The wording of a fault. -/
def message : Fault → String
  | unrecognized category lexeme _ => "unknown " ++ category.name ++ ": " ++ quoted lexeme
  | unexpected char position =>
    "unexpected character " ++ quotedChar char ++ " at byte " ++ toString position
  | unterminated start => "unterminated string literal starting at byte " ++ toString start
  | overflow lexeme _ => "integer literal " ++ quoted lexeme ++ " is too large"

/-- The byte offset at which a fault arises. -/
def offset : Fault → Nat
  | unrecognized _ _ span => span.start
  | unexpected _ position => position
  | unterminated start => start
  | overflow _ span => span.start

end Fault

end ChainLexer.Scan
