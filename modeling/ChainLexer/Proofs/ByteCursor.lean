import ChainLexer.Proofs.Positions
import ChainLexer.Proofs.Termination

/-!
# Cursors by byte offsets

A cursor holds its pending lexeme and its rest as lists of characters. It may as well be kept as a
source with two byte offsets. Every look at the text is then a slice of the source, and a slice
exists only between boundaries in the right order. This module proves that no slice ever fails, and
that the two cursors answer alike, whatever is done with them.

## Where a slice could fail

An operation that moves the cursor reads the text once before and once after the move, and the
second slice begins where the first character ends. It exists because the offset goes forward by the
length of that character and not by one. The proof does not follow the offsets through the
operations: a cursor has boundaries for offsets by construction, `Cursor.rest?_bytes` and
`Cursor.lexeme?_bytes` say so, and it remains to show for each operation that the offsets it leaves
are those of a cursor again.

## Main definitions

* `Cursor.Operation`, `Cursor.Operation.Answer`: what can be done with a cursor, and what comes back
* `Cursor.perform`, `Cursor.trace`: a cursor after one operation or several, with the answers
* `ByteCursor`, `ByteCursor.perform?`, `ByteCursor.trace?`: the same by byte offsets and slices
* `ByteCursor.Valid`: both offsets are boundaries of the source, in order
* `Cursor.bytes`: the byte offsets of a cursor

## Main results

* `Cursor.advanceWith?_bytes`: the loop by byte offsets moves over the characters that are counted
* `Cursor.perform?_bytes`: an operation by byte offsets does not fail, and comes to the same
* `Cursor.trace?_bytes`: so does a sequence of operations
* `Cursor.valid_bytes`: the offsets of a cursor are boundaries of its source, in order
-/

namespace ChainLexer.Source

open ChainLexer.Text

/-! ### Operations and their answers -/

namespace Cursor

/-- What can be done with a cursor. -/
inductive Operation : Type 1 where
  | current
  | peek
  | startsWith (text : String)
  | isExhausted
  | lexeme
  | span
  | advance
  | advanceWhile (accept : Char → Bool)
  | advanceWith {σ : Type} (accept : σ → Char → Bool × σ) (s : σ)
  | consume
  | skip
  | rewind
  | reset (source : String)

/-- What an operation answers; after `advanceWith` this is the memory of the predicate. -/
def Operation.Answer : Operation → Type
  | current | peek | advance => Option Char
  | startsWith _ | isExhausted => Bool
  | lexeme => String
  | span => Span
  | @advanceWith σ _ _ => σ
  | consume => String × Span
  | advanceWhile _ | skip | rewind | reset _ => Unit

/-- The cursor after an operation, and the answer. -/
def perform (c : Cursor) : (op : Operation) → Cursor × op.Answer
  | .current => (c, c.current)
  | .peek => (c, c.peek)
  | .startsWith text => (c, c.startsWith text)
  | .isExhausted => (c, c.isExhausted)
  | .lexeme => (c, c.lexeme)
  | .span => (c, c.span)
  | .advance => (c.advance, c.advance.current)
  | .advanceWhile accept => (c.advanceWhile accept, ())
  | .advanceWith accept s => c.advanceWith accept s
  | .consume => (c.consume.2, c.consume.1)
  | .skip => (c.skip, ())
  | .rewind => (c.rewind, ())
  | .reset source => (ofString source, ())

/-- The cursor after operations, one after the other, and each of them with its answer. -/
def trace (c : Cursor) : List Operation → Cursor × List (Σ op : Operation, op.Answer)
  | [] => (c, [])
  | op :: ops =>
    let next := c.perform op
    let later := next.1.trace ops
    (later.1, ⟨op, next.2⟩ :: later.2)

end Cursor

/-! ### The cursor by byte offsets -/

/-- A source with two byte offsets: where the pending lexeme starts, and the place of the cursor. -/
structure ByteCursor where
  source : String
  start : Nat
  position : Nat

namespace ByteCursor

/-- The cursor at the beginning of a source. -/
def ofString (source : String) : ByteCursor := ⟨source, 0, 0⟩

/-- The source from the cursor on; this and the following fail where there is no such slice. -/
def rest? (b : ByteCursor) : Option (List Char) :=
  (splitBytes? b.source.toList b.position).map Prod.snd

/-- The source between the two offsets. -/
def lexeme? (b : ByteCursor) : Option String := Span.slice? ⟨b.start, b.position⟩ b.source

/-- The span between the two offsets, as the merge of the empty spans there. -/
def span (b : ByteCursor) : Span := (Span.point b.start).merge (Span.point b.position)

/-- The cursor is not before the end of the source. -/
def isExhausted (b : ByteCursor) : Bool := b.source.utf8ByteSize ≤ b.position

/-- The character after the cursor, if there is one. -/
def current? (b : ByteCursor) : Option (Option Char) := b.rest?.map List.head?

/-- Moves over the current character, if there is one; the answer is the character after it. -/
def advance? (b : ByteCursor) : Option (ByteCursor × Option Char) :=
  match b.current? with
  | none => none
  | some none => some (b, none)
  | some (some c) =>
    let b := { b with position := b.position + c.utf8Size }
    b.current?.map fun next => (b, next)

/-- Where a character stands, fewer bytes are left after moving over it. -/
theorem left_lt_of_advance? {b b' : ByteCursor} {c : Char} {answer : Option Char}
    (hcurrent : b.current? = some (some c)) (h : b.advance? = some (b', answer)) :
    b'.source.utf8ByteSize - b'.position < b.source.utf8ByteSize - b.position := by
  have hpos := c.utf8Size_pos
  obtain ⟨rest, hrest, hhead⟩ := Option.map_eq_some_iff.1 hcurrent
  obtain ⟨⟨before, _⟩, hsplit, rfl⟩ := Option.map_eq_some_iff.1 hrest
  obtain ⟨after, rfl⟩ := List.head?_eq_some_iff.1 hhead
  obtain ⟨hsource, hbefore⟩ := append_of_splitBytes? hsplit
  have hsize : b.position < b.source.utf8ByteSize := by
    rw [← byteLength_toList, ← hsource, byteLength_append, byteLength_cons]
    omega
  rw [advance?, hcurrent] at h
  obtain ⟨next, -, heq⟩ := Option.map_eq_some_iff.1 h
  cases heq
  show b.source.utf8ByteSize - (b.position + c.utf8Size) < b.source.utf8ByteSize - b.position
  omega

/-- Moves on as long as there is a current character and the predicate accepts it. -/
def advanceWith? {σ : Type} (accept : σ → Char → Bool × σ) (b : ByteCursor) (s : σ) :
    Option (ByteCursor × σ) :=
  match hcurrent : b.current? with
  | none => none
  | some none => some (b, s)
  | some (some c) =>
    match accept s c with
    | (false, s) => some (b, s)
    | (true, s) =>
      match hadvance : b.advance? with
      | none => none
      | some (b', _) =>
        have := left_lt_of_advance? hcurrent hadvance
        advanceWith? accept b' s
termination_by b.source.utf8ByteSize - b.position

section Loop

variable {σ : Type} {accept : σ → Char → Bool × σ} {b b' : ByteCursor} {s s' : σ} {c : Char}

/-- At the end of the source the predicate is not asked. -/
theorem advanceWith?_of_atEnd (h : b.current? = some none) :
    b.advanceWith? accept s = some (b, s) := by
  rw [advanceWith?]
  split
  · next heq => cases heq.symm.trans h
  · rfl
  · next heq => cases heq.symm.trans h

theorem advanceWith?_of_refused (h : b.current? = some (some c))
    (hrefuse : accept s c = (false, s')) :
    b.advanceWith? accept s = some (b, s') := by
  rw [advanceWith?]
  split
  · next heq => cases heq.symm.trans h
  · next heq => cases heq.symm.trans h
  · next heq =>
    cases heq.symm.trans h
    simp only [hrefuse]

theorem advanceWith?_of_accepted {answer : Option Char} (h : b.current? = some (some c))
    (haccept : accept s c = (true, s')) (hadvance : b.advance? = some (b', answer)) :
    b.advanceWith? accept s = b'.advanceWith? accept s' := by
  rw [advanceWith?]
  split
  · next heq => cases heq.symm.trans h
  · next heq => cases heq.symm.trans h
  · next heq =>
    cases heq.symm.trans h
    simp only [haccept]
    split
    · next hnone => cases hnone.symm.trans hadvance
    · next hsome =>
      cases hsome.symm.trans hadvance
      rfl

end Loop

/-- The pending lexeme begins here. -/
def skip (b : ByteCursor) : ByteCursor := { b with start := b.position }

/-- The cursor after an operation, and the answer, unless a slice fails. -/
def perform? (b : ByteCursor) : (op : Cursor.Operation) → Option (ByteCursor × op.Answer)
  | .current => b.current?.map fun c => (b, c)
  | .peek => b.rest?.map fun rest => (b, rest.tail.head?)
  | .startsWith text => b.rest?.map fun rest => (b, text.toList.isPrefixOf rest)
  | .isExhausted => some (b, b.isExhausted)
  | .lexeme => b.lexeme?.map fun lexeme => (b, lexeme)
  | .span => some (b, b.span)
  | .advance => b.advance?
  | .advanceWhile accept =>
    (b.advanceWith? (fun s c => (accept c, s)) ()).map fun next => (next.1, ())
  | .advanceWith accept s => b.advanceWith? accept s
  | .consume => b.lexeme?.map fun lexeme => (b.skip, (lexeme, b.span))
  | .skip => some (b.skip, ())
  | .rewind => some ({ b with start := 0, position := 0 }, ())
  | .reset source => some (ofString source, ())

/-- The cursor after operations, one after the other, and each of them with its answer. -/
def trace? (b : ByteCursor) :
    List Cursor.Operation → Option (ByteCursor × List (Σ op : Cursor.Operation, op.Answer))
  | [] => some (b, [])
  | op :: ops =>
    (b.perform? op).bind fun next =>
      (next.1.trace? ops).map fun later => (later.1, ⟨op, next.2⟩ :: later.2)

/-- Both offsets are boundaries of the source, and the lexeme does not end before it starts. -/
structure Valid (b : ByteCursor) : Prop where
  start_le : b.start ≤ b.position
  position_le : b.position ≤ b.source.utf8ByteSize
  start_boundary : IsBoundary b.source.toList b.start
  position_boundary : IsBoundary b.source.toList b.position

end ByteCursor

/-! ### Every slice exists -/

namespace Cursor

/-- The cursor without its lists. -/
def bytes (c : Cursor) : ByteCursor := ⟨c.source, c.start, c.position⟩

theorem rest?_bytes (c : Cursor) : c.bytes.rest? = some c.rest := by
  obtain ⟨before, hsource, hposition⟩ := c.exists_before
  show (splitBytes? c.source.toList c.position).map Prod.snd = some c.rest
  rw [hsource, hposition, splitBytes?_append]
  rfl

theorem lexeme?_bytes (c : Cursor) : c.bytes.lexeme? = some c.lexeme := c.slice?_span

theorem span_bytes (c : Cursor) : c.bytes.span = c.span := by
  have hle : c.start ≤ c.position := Nat.le_add_right _ _
  show Span.mk (min c.start c.position) (max c.start c.position) = ⟨c.start, c.position⟩
  rw [Nat.min_eq_left hle, Nat.max_eq_right hle]

theorem current?_bytes (c : Cursor) : c.bytes.current? = some c.current := by
  rw [ByteCursor.current?, rest?_bytes]
  rfl

/-- The offset is that of the end exactly if nothing is left. -/
theorem isExhausted_bytes (c : Cursor) : c.bytes.isExhausted = c.isExhausted := by
  obtain ⟨before, hsource, hposition⟩ := c.exists_before
  have hsize : c.source.utf8ByteSize = c.position + byteLength c.rest := by
    rw [← byteLength_toList, hsource, byteLength_append, hposition]
  show decide (c.source.utf8ByteSize ≤ c.position) = c.rest.isEmpty
  cases hrest : c.rest with
  | nil =>
    rw [hrest, byteLength_nil] at hsize
    exact decide_eq_true (by omega)
  | cons first others =>
    have hpos := first.utf8Size_pos
    rw [hrest, byteLength_cons] at hsize
    exact decide_eq_false (by omega)

theorem bytes_advance {c : Cursor} {first : Char} {others : List Char}
    (hrest : c.rest = first :: others) :
    c.advance.bytes = { c.bytes with position := c.position + first.utf8Size } := by
  have hposition : c.advance.position = c.position + first.utf8Size := by
    rw [advance, position_move, hrest]
    rfl
  rw [bytes, hposition]
  rfl

theorem advance_of_nil {c : Cursor} (hrest : c.rest = []) : c.advance = c := by
  cases c
  obtain rfl := hrest
  simp [advance, move]

theorem advance?_bytes (c : Cursor) :
    c.bytes.advance? = some (c.advance.bytes, c.advance.current) := by
  rw [ByteCursor.advance?, current?_bytes, current]
  cases hrest : c.rest with
  | nil => rw [advance_of_nil hrest, current, hrest]; rfl
  | cons first others =>
    have hbytes : { c.bytes with position := c.bytes.position + first.utf8Size } =
        c.advance.bytes := (bytes_advance hrest).symm
    simp only [List.head?_cons, hbytes, current?_bytes, Option.map_some]

/-- The loop by byte offsets moves over the characters that are counted. The induction is on what is
left of the text. -/
theorem advanceWith?_bytes {σ : Type} (accept : σ → Char → Bool × σ) (c : Cursor) (s : σ) :
    c.bytes.advanceWith? accept s =
      some ((c.advanceWith accept s).1.bytes, (c.advanceWith accept s).2) := by
  induction hrest : c.rest generalizing c s with
  | nil =>
    have hcurrent : c.bytes.current? = some none := by rw [current?_bytes, current, hrest]; rfl
    rw [ByteCursor.advanceWith?_of_atEnd hcurrent, advanceWith, hrest]
    show some (c.bytes, s) = some ((c.move 0).bytes, s)
    rw [move_zero]
  | cons first others ih =>
    have hcurrent : c.bytes.current? = some (some first) := by
      rw [current?_bytes, current, hrest]
      rfl
    have hothers : c.advance.rest = others := by rw [advance, rest_move, hrest]; rfl
    rcases haccept : accept s first with ⟨_ | _, s'⟩
    · rw [ByteCursor.advanceWith?_of_refused hcurrent haccept, advanceWith, hrest, countWith]
      simp only [haccept, move_zero]
    · rw [ByteCursor.advanceWith?_of_accepted hcurrent haccept c.advance?_bytes,
        ih c.advance s' hothers, advanceWith, hothers, advanceWith, hrest, countWith]
      simp only [haccept, advance, move_move, Nat.add_comm 1]

theorem bytes_skip (c : Cursor) : c.skip.bytes = c.bytes.skip := by
  rw [bytes, position_skip]
  rfl

theorem countWith_const {σ : Type} (accept : Char → Bool) (s : σ) (cs : List Char) :
    countWith (fun s c => (accept c, s)) s cs = ((cs.takeWhile accept).length, s) := by
  induction cs with
  | nil => rfl
  | cons c cs ih =>
    rw [countWith, List.takeWhile_cons]
    cases accept c with
    | true => simp [ih]
    | false => rfl

/-- **An operation by byte offsets does not fail, and comes to the same.** -/
theorem perform?_bytes (c : Cursor) (op : Operation) :
    c.bytes.perform? op = some ((c.perform op).1.bytes, (c.perform op).2) := by
  cases op with
  | current =>
    show c.bytes.current?.map (fun answer => (c.bytes, answer)) = some (c.bytes, c.current)
    rw [current?_bytes, Option.map_some]
  | peek =>
    show c.bytes.rest?.map (fun rest => (c.bytes, rest.tail.head?)) = some (c.bytes, c.peek)
    rw [rest?_bytes, Option.map_some, peek]
  | startsWith text =>
    show c.bytes.rest?.map (fun rest => (c.bytes, text.toList.isPrefixOf rest)) =
      some (c.bytes, c.startsWith text)
    rw [rest?_bytes, Option.map_some, startsWith]
  | isExhausted =>
    show some (c.bytes, c.bytes.isExhausted) = some (c.bytes, c.isExhausted)
    rw [isExhausted_bytes]
  | lexeme =>
    show c.bytes.lexeme?.map (fun answer => (c.bytes, answer)) = some (c.bytes, c.lexeme)
    rw [lexeme?_bytes, Option.map_some]
  | span =>
    show some (c.bytes, c.bytes.span) = some (c.bytes, c.span)
    rw [span_bytes]
  | advance => exact c.advance?_bytes
  | advanceWhile accept =>
    have hloop := advanceWith?_bytes (fun s x => (accept x, s)) c ()
    rw [advanceWith, countWith_const] at hloop
    show (c.bytes.advanceWith? _ ()).map (fun next => (next.1, ())) =
      some ((c.advanceWhile accept).bytes, ())
    rw [hloop, Option.map_some, advanceWhile]
  | advanceWith accept s => exact advanceWith?_bytes accept c s
  | consume =>
    show c.bytes.lexeme?.map (fun lexeme => (c.bytes.skip, lexeme, c.bytes.span)) =
      some (c.skip.bytes, c.lexeme, c.span)
    rw [lexeme?_bytes, Option.map_some, span_bytes, bytes_skip]
  | skip =>
    show some (c.bytes.skip, ()) = some (c.skip.bytes, ())
    rw [bytes_skip]
  | rewind => rfl
  | reset source => rfl

theorem trace?_bytes (c : Cursor) (ops : List Operation) :
    c.bytes.trace? ops = some ((c.trace ops).1.bytes, (c.trace ops).2) := by
  induction ops generalizing c with
  | nil => rfl
  | cons op ops ih =>
    rw [ByteCursor.trace?, perform?_bytes, Option.bind_some, ih]
    rfl

/-- **The offsets of a cursor are boundaries of its source, in order.** -/
theorem valid_bytes (c : Cursor) : c.bytes.Valid := by
  obtain ⟨dropped, hsource, hstart⟩ := c.split
  have hposition : c.position = byteLength (dropped ++ c.pending) := by
    rw [position, hstart, byteLength_append]
  refine ⟨Nat.le_add_right _ _, ?_, ?_, ?_⟩
  · show c.position ≤ c.source.utf8ByteSize
    rw [← byteLength_toList, hsource, hposition, byteLength_append _ c.rest]
    exact Nat.le_add_right _ _
  · refine isBoundary_iff.2 ⟨dropped, c.pending ++ c.rest, ?_, hstart⟩
    rw [← List.append_assoc]
    exact hsource
  · exact isBoundary_iff.2 ⟨dropped ++ c.pending, c.rest, hsource, hposition⟩

-- offsets that no cursor has: between the two bytes of a character there is no slice
example : (⟨"λ", 0, 1⟩ : ByteCursor).perform? .advance = none := by decide

end Cursor

end ChainLexer.Source
