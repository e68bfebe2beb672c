import ChainLexer.Text.ByteLength

/-!
# Spans of a source

A span is a pair of byte offsets, start included and end excluded. Nothing orders the two, so a span
may be reversed; such a span is empty, contains no offset and names no text.

## Main definitions

* `Span.contains`: the span contains an offset
* `Span.containsSpan`: the span contains another span
* `Span.merge`: the smallest span that contains two spans
* `Span.join`: the union of two spans that touch
* `Span.slice?`: the text that a span names in a source
-/

namespace ChainLexer.Source

open ChainLexer.Text

/-- A range of byte offsets, start included and end excluded. -/
structure Span where
  start : Nat
  stop : Nat
deriving DecidableEq, Repr

namespace Span

/-- The empty span at the beginning of a source. -/
def origin : Span := ⟨0, 0⟩

instance : Inhabited Span := ⟨origin⟩

/-- The empty span at an offset. -/
def point (offset : Nat) : Span := ⟨offset, offset⟩

/-- The number of bytes in the span; a reversed span has none. -/
def length (s : Span) : Nat := s.stop - s.start

/-- The span has no bytes. -/
def isEmpty (s : Span) : Bool := s.stop ≤ s.start

/-- The offset lies in the span. -/
def contains (s : Span) (offset : Nat) : Bool :=
  s.start ≤ offset && offset < s.stop

/-- The other span starts no earlier and ends no later. -/
def containsSpan (s other : Span) : Bool :=
  s.start ≤ other.start && other.stop ≤ s.stop

/-- The smallest span that contains both. -/
def merge (s other : Span) : Span :=
  ⟨min s.start other.start, max s.stop other.stop⟩

instance : Add Span := ⟨merge⟩

/-- The union of two spans of which the second starts where the first ends. -/
def join (s other : Span) : Option Span :=
  if s.stop = other.start then some ⟨s.start, other.stop⟩ else none

/-- The text that the span names, when it is not reversed, ends inside the source and cuts no
character. -/
def slice? (s : Span) (source : String) : Option String :=
  (sliceBytes? source.toList s.start s.stop).map String.ofList

/-- Spans are ordered by their start, and by their end when they start together. -/
def order (s other : Span) : Ordering :=
  (compare s.start other.start).then (compare s.stop other.stop)

instance : Ord Span := ⟨order⟩

/-- The merge of all spans of a list, when there is one. -/
def cover : List Span → Option Span
  | [] => none
  | s :: rest => some (rest.foldl (· + ·) s)

end Span

end ChainLexer.Source
