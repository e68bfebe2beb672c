import ChainLexer.Text.Ranges

/-!
# The White_Space property

The characters with the Unicode property White_Space (Unicode 17.0.0), line feed among them.
-/

namespace ChainLexer.Text

/-- The ranges of White_Space. -/
def whiteSpaceTable : RangeTable where
  rows :=
    [(0x9, 0xd), (0x20, 0x20), (0x85, 0x85), (0xa0, 0xa0), (0x1680, 0x1680), (0x2000, 0x200a),
     (0x2028, 0x2029), (0x202f, 0x202f), (0x205f, 0x205f), (0x3000, 0x3000)]

/-- The character has the property White_Space. -/
def isWhiteSpace (c : Char) : Bool :=
  whiteSpaceTable.contains c

theorem whiteSpaceTable_ascending : RangeTable.Ascending whiteSpaceTable.rows := by
  decide +kernel

end ChainLexer.Text
