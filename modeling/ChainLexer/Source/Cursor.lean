import ChainLexer.Source.Span

/-!
# A cursor over a source

A cursor stands between two characters of its source. The characters before it are the ones already
dropped and then the pending lexeme; those after it are the rest. Only `move` goes
forward, and every other way of advancing says how many characters it moves over.

## Main definitions

* `Cursor`: the source, the offset where the pending lexeme starts, the pending lexeme and the rest
* `Cursor.move`: moves over a number of characters
* `Cursor.advanceWhile`, `Cursor.advanceWith`: move over the characters that a predicate accepts
* `Cursor.consume`, `Cursor.skip`: take or forget the pending lexeme

## Implementation notes

The field `split` says that the source is what was dropped, the pending lexeme and the rest, in this
order. Offsets count bytes, so that both offsets of a cursor are boundaries of its source by
construction.
-/

namespace ChainLexer.Source

open ChainLexer.Text

/-- A place in a source, with the lexeme that is pending there. -/
structure Cursor where
  source : String
  start : Nat
  pending : List Char
  rest : List Char
  split : ∃ dropped, source.toList = dropped ++ pending ++ rest ∧ start = byteLength dropped

namespace Cursor

/-- The cursor at the beginning of a source. -/
def ofString (source : String) : Cursor where
  source := source
  start := 0
  pending := []
  rest := source.toList
  split := ⟨[], by simp, rfl⟩

instance : Inhabited Cursor := ⟨ofString ""⟩

/-- The byte offset of the cursor. -/
def position (c : Cursor) : Nat := c.start + byteLength c.pending

/-- The character after the cursor. -/
def current (c : Cursor) : Option Char := c.rest.head?

/-- The character after the current one. -/
def peek (c : Cursor) : Option Char := c.rest.tail.head?

/-- The rest begins with the given text. -/
def startsWith (c : Cursor) (text : String) : Bool := text.toList.isPrefixOf c.rest

/-- Nothing is left after the cursor. -/
def isExhausted (c : Cursor) : Bool := c.rest.isEmpty

/-- The pending lexeme. -/
def lexeme (c : Cursor) : String := String.ofList c.pending

/-- The span of the pending lexeme. -/
def span (c : Cursor) : Span := ⟨c.start, c.position⟩

/-- Moves over `n` characters, or over all that are left when there are fewer. -/
def move (c : Cursor) (n : Nat) : Cursor where
  source := c.source
  start := c.start
  pending := c.pending ++ c.rest.take n
  rest := c.rest.drop n
  split := by
    obtain ⟨dropped, hsource, hstart⟩ := c.split
    exact ⟨dropped, by simp [hsource], hstart⟩

/-- Moves over one character. -/
def advance (c : Cursor) : Cursor := c.move 1

/-- Moves over the longest run of characters that satisfy a predicate. -/
def advanceWhile (c : Cursor) (accept : Char → Bool) : Cursor :=
  c.move (c.rest.takeWhile accept).length

/-- The number of leading characters that a predicate with a memory of its own accepts, and the
memory afterwards. The predicate sees every accepted character, and the first one it refuses. -/
def countWith {σ : Type} (accept : σ → Char → Bool × σ) : σ → List Char → Nat × σ
  | s, [] => (0, s)
  | s, c :: cs =>
    match accept s c with
    | (true, s) =>
      let (n, s) := countWith accept s cs
      (n + 1, s)
    | (false, s) => (0, s)

/-- Moves over the longest run of characters that a predicate with a memory of its own accepts. -/
def advanceWith {σ : Type} (c : Cursor) (accept : σ → Char → Bool × σ) (s : σ) : Cursor × σ :=
  let (n, s) := countWith accept s c.rest
  (c.move n, s)

/-- Forgets the pending lexeme: the next one starts here. -/
def skip (c : Cursor) : Cursor where
  source := c.source
  start := c.position
  pending := []
  rest := c.rest
  split := by
    obtain ⟨dropped, hsource, hstart⟩ := c.split
    exact ⟨dropped ++ c.pending, by simp [hsource], by simp [position, hstart]⟩

/-- Takes the pending lexeme and its span; the next lexeme starts here. -/
def consume (c : Cursor) : (String × Span) × Cursor :=
  ((c.lexeme, c.span), c.skip)

/-- The cursor at the beginning of the same source. -/
def rewind (c : Cursor) : Cursor := ofString c.source

/-! ### What each operation does to the parts of a cursor -/

@[simp] theorem rest_ofString (source : String) : (ofString source).rest = source.toList := rfl

@[simp] theorem position_ofString (source : String) : (ofString source).position = 0 := rfl

@[simp] theorem source_move (c : Cursor) (n : Nat) : (c.move n).source = c.source := rfl

@[simp] theorem start_move (c : Cursor) (n : Nat) : (c.move n).start = c.start := rfl

@[simp] theorem pending_move (c : Cursor) (n : Nat) :
    (c.move n).pending = c.pending ++ c.rest.take n := rfl

@[simp] theorem rest_move (c : Cursor) (n : Nat) : (c.move n).rest = c.rest.drop n := rfl

@[simp] theorem position_move (c : Cursor) (n : Nat) :
    (c.move n).position = c.position + byteLength (c.rest.take n) := by
  simp [position, Nat.add_assoc]

@[simp] theorem source_skip (c : Cursor) : c.skip.source = c.source := rfl

@[simp] theorem start_skip (c : Cursor) : c.skip.start = c.position := rfl

@[simp] theorem pending_skip (c : Cursor) : c.skip.pending = [] := rfl

@[simp] theorem rest_skip (c : Cursor) : c.skip.rest = c.rest := rfl

@[simp] theorem position_skip (c : Cursor) : c.skip.position = c.position := by
  simp [position, skip]

@[simp] theorem rewind_eq (c : Cursor) : c.rewind = ofString c.source := rfl

end Cursor

end ChainLexer.Source
