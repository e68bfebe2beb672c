import ChainLexer.Text.ByteLength

/-!
# Lines and columns

The byte offsets of a source as positions for people: lines and columns count from one, and columns
count characters. A `LineTable` holds the offset at which each line starts, so that the line of an
offset is found by bisection.

## Main definitions

* `Position`: a line and a column
* `LocationError`: why an offset has no position
* `LineTable`: the line starts of a source
* `LineTable.position`: the position of an offset
-/

namespace ChainLexer.Source

open ChainLexer.Text

/-- A line and a column, both counted from one, the column in characters. -/
structure Position where
  line : UInt32
  column : UInt32
deriving DecidableEq, Repr

/-- Why an offset has no position. -/
inductive LocationError where
  /-- The offset lies beyond the end of a source of this many bytes. -/
  | outOfBounds (offset size : Nat)
  /-- The offset falls inside a character. -/
  | insideCharacter (offset : Nat)
deriving DecidableEq, Repr

/-- The wording of a location error. -/
def LocationError.message : LocationError → String
  | .outOfBounds offset size =>
    s!"Offset out of bounds: offset {offset}, source has {size} bytes"
  | .insideCharacter offset => s!"Offset {offset} is not on a character boundary"

/-- The offset after each line feed of a text that starts at the given offset. -/
def startsAfterNewlines : Nat → List Char → List Nat
  | _, [] => []
  | offset, c :: cs =>
    let next := offset + c.utf8Size
    if c = '\n' then next :: startsAfterNewlines next cs else startsAfterNewlines next cs

/-- The offset at which each line of a source starts, beside the text of the source. -/
structure LineTable where
  text : List Char
  starts : Array Nat

namespace LineTable

/-- The line table of a source: its first line starts at the beginning, and every further one after a
line feed. -/
def ofString (source : String) : LineTable :=
  let text := source.toList
  ⟨text, (0 :: startsAfterNewlines 0 text).toArray⟩

/-- The number of lines. -/
def lineCount (table : LineTable) : Nat := table.starts.size

/-- Searches the lines from `lo` up to, and without, `hi` for one that starts at the offset: its place,
or else, as an error, the place of the first line that starts later. -/
def search (starts : Array Nat) (offset lo hi : Nat) : Except Nat Nat :=
  if lo < hi then
    let mid := lo + (hi - lo) / 2
    if starts.getD mid 0 = offset then .ok mid
    else if starts.getD mid 0 < offset then search starts offset (mid + 1) hi
    else search starts offset lo mid
  else .error lo
termination_by hi - lo

/-- The number, counted from zero, of the line that holds an offset: the line that starts there, or
else the last one that starts before. -/
def lineOf (table : LineTable) (offset : Nat) : Nat :=
  match search table.starts offset 0 table.starts.size with
  | .ok line => line
  | .error next => next - 1

/-- The position of an offset, which may be the end of the source but no later one and not inside a
character. Line and column are words of 32 bits that wrap at `2 ^ 32`, which is the arithmetic of a
release build; a build that checks for overflow stops there instead. -/
def position (table : LineTable) (offset : Nat) : Except LocationError Position :=
  let size := byteLength table.text
  if size < offset then .error (.outOfBounds offset size)
  else if ¬IsBoundary table.text offset then .error (.insideCharacter offset)
  else
    let line := table.lineOf offset
    let column := ((sliceBytes? table.text (table.starts.getD line 0) offset).getD []).length
    .ok ⟨line.toUInt32 + 1, column.toUInt32 + 1⟩

end LineTable

end ChainLexer.Source
