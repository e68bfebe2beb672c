import ChainLexer.Text.Unprintable

/-!
# Quoted texts and characters

The written form of a text in messages and token displays: the text between quotes, with the
delimiter, the backslash and every character that cannot be shown as itself written by an escape. A
text stands between double quotes and a single character between apostrophes; each form escapes its
own delimiter only.
-/

namespace ChainLexer.Text

namespace Quoted

/-- The code point in lower-case hexadecimal, without leading zeros. -/
def hex (c : Char) : List Char :=
  Nat.toDigits 16 c.toNat

/-- The written form of one character between a pair of the given delimiter. -/
def escape (delimiter c : Char) : List Char :=
  if c = '\x00' then ['\\', '0']
  else if c = '\t' then ['\\', 't']
  else if c = '\n' then ['\\', 'n']
  else if c = '\r' then ['\\', 'r']
  else if c = '\\' then ['\\', '\\']
  else if c = delimiter then ['\\', c]
  else if isUnprintable c then ['\\', 'u', '\x7b'] ++ hex c ++ ['\x7d']
  else [c]

/-- The written form of the characters of a text, without the delimiters around it. -/
def body (delimiter : Char) (cs : List Char) : List Char :=
  cs.flatMap (escape delimiter)

end Quoted

/-- A text between double quotes. -/
def quoted (s : String) : String :=
  String.ofList ('"' :: (Quoted.body '"' s.toList ++ ['"']))

/-- A character between apostrophes. -/
def quotedChar (c : Char) : String :=
  String.ofList ('\'' :: (Quoted.escape '\'' c ++ ['\'']))

end ChainLexer.Text
