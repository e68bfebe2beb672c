import ChainLexer.Text.CharClass

/-!
# Values of number literals

A number literal writes a natural number in decimal. Separators group its digits and have no value.
Only numbers below `2 ^ 64` have a value here.
-/

namespace ChainLexer.Scan.Number

open ChainLexer.Text

/-- The value of a decimal digit. -/
def digitValue (c : Char) : Nat := c.toNat - '0'.toNat

/-- The number with one more digit at its end, if it fits into 64 bits. -/
def pushDigit (n : UInt64) (c : Char) : Option UInt64 :=
  let next := 10 * n.toNat + digitValue c
  if next < UInt64.size then some (UInt64.ofNat next) else none

/-- The value of a number literal, if it fits into 64 bits. -/
def decode (literal : List Char) : Option UInt64 :=
  (literal.filter fun c => !isNumberSeparator c).foldlM pushDigit 0

end ChainLexer.Scan.Number
