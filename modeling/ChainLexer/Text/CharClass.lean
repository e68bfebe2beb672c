import ChainLexer.Text.WhiteSpace
import ChainLexer.Text.Numeric
import ChainLexer.Text.Alphabetic

/-!
# Character classes of the lexical grammar

Which characters separate lexemes, and which start and continue identifiers, numbers and operators.
An operator character is one that nothing else claims, so that class is defined by exclusion.
-/

namespace ChainLexer.Text

/-- White space that separates lexemes; a line feed is a lexeme of its own and does not count. -/
def isBlank (c : Char) : Bool :=
  isWhiteSpace c && c != '\n'

/-- One of the digits `0` to `9`. -/
def isAsciiDigit (c : Char) : Bool :=
  '0' ≤ c && c ≤ '9'

/-- A letter or a number of any script. -/
def isAlphanumeric (c : Char) : Bool :=
  isAlphabetic c || isNumeric c

/-- Starts an identifier: a letter, an underscore or an apostrophe. -/
def isIdentStart (c : Char) : Bool :=
  c == '_' || c == '\'' || isAlphabetic c

/-- Continues an identifier: a letter, a number, an underscore or an apostrophe. -/
def isIdentContinue (c : Char) : Bool :=
  c == '_' || c == '\'' || isAlphanumeric c

/-- Starts a number. -/
def isNumberStart (c : Char) : Bool :=
  isAsciiDigit c

/-- Groups the digits of a number without changing its value. -/
def isNumberSeparator (c : Char) : Bool :=
  c == '_' || c == '\''

/-- Continues a number: a digit or a separator. -/
def isNumberContinue (c : Char) : Bool :=
  isAsciiDigit c || isNumberSeparator c

/-- Belongs to an operator: no white space, identifier, digit or quote claims the character. -/
def isOperatorChar (c : Char) : Bool :=
  !(isWhiteSpace c || isIdentContinue c || isAsciiDigit c || c == '"')

theorem isIdentContinue_of_isIdentStart {c : Char} (h : isIdentStart c) : isIdentContinue c := by
  simp only [isIdentStart, isIdentContinue, isAlphanumeric, Bool.or_eq_true] at *
  grind

theorem isNumberContinue_of_isNumberStart {c : Char} (h : isNumberStart c) :
    isNumberContinue c := by
  simp_all [isNumberStart, isNumberContinue]

/-- No operator character is white space. -/
theorem isWhiteSpace_of_isOperatorChar {c : Char} (h : isOperatorChar c) :
    isWhiteSpace c = false := by
  simp_all [isOperatorChar]

theorem isOperatorChar_newline : isOperatorChar '\n' = false := by decide

/-- A line feed is not an operator character, so no operator runs across the end of a line. -/
theorem ne_newline_of_isOperatorChar {c : Char} (h : isOperatorChar c) : c ≠ '\n' := by
  rintro rfl
  simp [isOperatorChar_newline] at h

end ChainLexer.Text
