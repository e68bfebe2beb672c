import ChainLexer.Proofs.ByteCursor

/-!
# A cursor is a zipper

A zipper over a source is three lists of characters: the dropped ones, the pending lexeme and the
rest. An operation takes characters from the front of one list to the end of the one before it, and
answers with characters that are at hand. `Zipper.Step` says this with lists alone; no offset
appears but those of the span. This module proves that a cursor kept by byte offsets goes through
every sequence of operations as the zipper does.

## How often a predicate is asked

A predicate given to `advanceWith` may have a memory of its own, so that it matters how often it is
asked and in which order. `Examines` spells this out: once for each character that it accepts, in
order, once more for the first one that it refuses, and not at all at the end of the text.

## Main definitions

* `Examines`: which characters a predicate with a memory takes
* `Zipper`, `Zipper.Step`, `Zipper.Trace`: the zipper, one operation on it, and several
* `Zipper.IsAt`: two byte offsets divide a source into the parts of a zipper
* `ByteCursor.RefinesZipper`: a cursor by byte offsets behaves as a zipper

## Main results

* `Zipper.Shows.step`: an operation moves characters of the zipper
* `Zipper.Step.unique`, `Zipper.Trace.unique`: a zipper leaves no choice
* `ByteCursor.refinesZipper_ofString`: a cursor by byte offsets refines a zipper, for every source
  and every sequence of operations
-/

namespace ChainLexer.Source

open ChainLexer.Text

/-! ### Predicates with a memory -/

/-- From the memory `s` on, the predicate accepts the characters `taken` at the front of a text and
no more, and is left with the memory at the end. It is asked about every accepted character in
order, and about the one after them if there is one. -/
inductive Examines {σ : Type} (accept : σ → Char → Bool × σ) :
    σ → List Char → List Char → σ → Prop
  /-- The text ends, and the predicate is not asked. -/
  | atEnd (s : σ) : Examines accept s [] [] s
  /-- The predicate refuses the first character. -/
  | refuses {s s' : σ} {c : Char} (cs : List Char) (h : accept s c = (false, s')) :
      Examines accept s (c :: cs) [] s'
  /-- The predicate accepts the first character, and is asked again. -/
  | accepts {s s' s'' : σ} {c : Char} {cs taken : List Char} (h : accept s c = (true, s'))
      (hrest : Examines accept s' cs taken s'') : Examines accept s (c :: cs) (c :: taken) s''

/-- The characters that are counted are those that the predicate accepts. -/
theorem examines_countWith {σ : Type} (accept : σ → Char → Bool × σ) (s : σ) (cs : List Char) :
    Examines accept s cs (cs.take (Cursor.countWith accept s cs).1)
      (Cursor.countWith accept s cs).2 := by
  induction cs generalizing s with
  | nil => exact .atEnd s
  | cons c cs ih =>
    rw [Cursor.countWith]
    split
    · next s' haccept => exact .accepts haccept (ih s')
    · next s' haccept => exact .refuses cs haccept

/-- What a predicate takes from a text is determined. -/
theorem Examines.unique {σ : Type} {accept : σ → Char → Bool × σ} {s s₁ s₂ : σ}
    {cs taken₁ taken₂ : List Char} (h₁ : Examines accept s cs taken₁ s₁)
    (h₂ : Examines accept s cs taken₂ s₂) : taken₁ = taken₂ ∧ s₁ = s₂ := by
  induction h₁ generalizing taken₂ s₂ with
  | atEnd s =>
    cases h₂
    exact ⟨rfl, rfl⟩
  | refuses cs hrefuse =>
    cases h₂ with
    | refuses _ hrefuse' =>
      cases hrefuse.symm.trans hrefuse'
      exact ⟨rfl, rfl⟩
    | accepts haccept => cases hrefuse.symm.trans haccept
  | accepts haccept _ ih =>
    cases h₂ with
    | refuses _ hrefuse => cases haccept.symm.trans hrefuse
    | accepts haccept' hrest' =>
      cases haccept.symm.trans haccept'
      obtain ⟨rfl, rfl⟩ := ih hrest'
      exact ⟨rfl, rfl⟩

/-! ### The zipper -/

/-- The characters of a source in three parts: those that are dropped, the pending lexeme and the
rest. -/
structure Zipper where
  dropped : List Char
  pending : List Char
  rest : List Char

namespace Zipper

/-- The characters of the source. -/
def source (z : Zipper) : List Char := z.dropped ++ z.pending ++ z.rest

/-- The zipper at the beginning of a text. -/
def ofList (cs : List Char) : Zipper := ⟨[], [], cs⟩

/-- The byte range of the pending lexeme. -/
def span (z : Zipper) : Span := ⟨byteLength z.dropped, byteLength (z.dropped ++ z.pending)⟩

/-- What an operation does to the zipper, and what it answers. -/
inductive Step : Zipper → (op : Cursor.Operation) → Zipper → op.Answer → Prop
  | current (z : Zipper) : Step z .current z z.rest[0]?
  | peek (z : Zipper) : Step z .peek z z.rest[1]?
  | startsWith {z : Zipper} {text : String} {answer : Bool}
      (h : answer = true ↔ text.toList <+: z.rest) : Step z (.startsWith text) z answer
  | isExhausted {z : Zipper} {answer : Bool} (h : answer = true ↔ z.rest = []) :
      Step z .isExhausted z answer
  | lexeme (z : Zipper) : Step z .lexeme z (String.ofList z.pending)
  | span (z : Zipper) : Step z .span z z.span
  | advance {z : Zipper} {c : Char} {rest : List Char} (h : z.rest = c :: rest) :
      Step z .advance ⟨z.dropped, z.pending ++ [c], rest⟩ rest[0]?
  | advanceAtEnd {z : Zipper} (h : z.rest = []) : Step z .advance z none
  /-- The longest run of characters that the predicate accepts goes to the lexeme. -/
  | advanceWhile {accept : Char → Bool} {z : Zipper} {taken rest : List Char}
      (h : z.rest = taken ++ rest) (htaken : ∀ c ∈ taken, accept c) (hrest : Stops accept rest) :
      Step z (.advanceWhile accept) ⟨z.dropped, z.pending ++ taken, rest⟩ ()
  | advanceWith {σ : Type} {accept : σ → Char → Bool × σ} {s s' : σ} {z : Zipper}
      {taken rest : List Char} (h : z.rest = taken ++ rest)
      (hexamines : Examines accept s z.rest taken s') :
      Step z (.advanceWith accept s) ⟨z.dropped, z.pending ++ taken, rest⟩ s'
  | consume (z : Zipper) :
      Step z .consume ⟨z.dropped ++ z.pending, [], z.rest⟩ (String.ofList z.pending, z.span)
  | skip (z : Zipper) : Step z .skip ⟨z.dropped ++ z.pending, [], z.rest⟩ ()
  | rewind (z : Zipper) : Step z .rewind (ofList z.source) ()
  | reset (z : Zipper) (source : String) : Step z (.reset source) (ofList source.toList) ()

/-- The operations with these answers lead from one zipper to another. -/
inductive Trace : Zipper → List (Σ op : Cursor.Operation, op.Answer) → Zipper → Prop
  | nil (z : Zipper) : Trace z [] z
  | cons {z z' z'' : Zipper} {op : Cursor.Operation} {answer : op.Answer}
      {later : List (Σ op : Cursor.Operation, op.Answer)} (h : Step z op z' answer)
      (hlater : Trace z' later z'') : Trace z (⟨op, answer⟩ :: later) z''

/-- The two offsets divide the source into the parts of the zipper. -/
structure IsAt (z : Zipper) (b : ByteCursor) : Prop where
  source_eq : b.source.toList = z.source
  start_eq : b.start = byteLength z.dropped
  position_eq : b.position = byteLength (z.dropped ++ z.pending)

/-- The cursor has the parts of the zipper; of the dropped characters it knows the length only. -/
structure Shows (z : Zipper) (c : Cursor) : Prop where
  source_eq : c.source.toList = z.source
  start_eq : c.start = byteLength z.dropped
  pending_eq : c.pending = z.pending
  rest_eq : c.rest = z.rest

theorem shows_ofString (source : String) : (ofList source.toList).Shows (.ofString source) :=
  ⟨rfl, rfl, rfl, rfl⟩

variable {z : Zipper} {c : Cursor}

theorem Shows.position_eq (h : z.Shows c) : c.position = byteLength (z.dropped ++ z.pending) := by
  rw [Cursor.position, h.start_eq, h.pending_eq, byteLength_append]

theorem Shows.isAt (h : z.Shows c) : z.IsAt c.bytes := ⟨h.source_eq, h.start_eq, h.position_eq⟩

theorem Shows.span_eq (h : z.Shows c) : c.span = z.span := by
  rw [Cursor.span, h.start_eq, h.position_eq, Zipper.span]

/-- Moving over characters takes them from the rest to the lexeme. -/
theorem Shows.move (h : z.Shows c) (n : Nat) :
    Shows ⟨z.dropped, z.pending ++ z.rest.take n, z.rest.drop n⟩ (c.move n) where
  source_eq := by
    rw [Cursor.source_move, h.source_eq]
    simp [source]
  start_eq := h.start_eq
  pending_eq := by rw [Cursor.pending_move, h.pending_eq, h.rest_eq]
  rest_eq := by rw [Cursor.rest_move, h.rest_eq]

theorem Shows.skip (h : z.Shows c) : Shows ⟨z.dropped ++ z.pending, [], z.rest⟩ c.skip where
  source_eq := by
    rw [Cursor.source_skip, h.source_eq]
    simp [source]
  start_eq := h.position_eq
  pending_eq := rfl
  rest_eq := h.rest_eq

/-- **An operation moves characters of the zipper**, and its answer can be read off from them. -/
theorem Shows.step (h : z.Shows c) (op : Cursor.Operation) :
    ∃ z', z.Step op z' (c.perform op).2 ∧ z'.Shows (c.perform op).1 := by
  have hlexeme : c.lexeme = String.ofList z.pending := congrArg String.ofList h.pending_eq
  cases op with
  | current =>
    refine ⟨z, ?_, h⟩
    show Step z .current z c.current
    rw [Cursor.current, h.rest_eq, List.head?_eq_getElem?]
    exact .current z
  | peek =>
    refine ⟨z, ?_, h⟩
    show Step z .peek z c.peek
    rw [Cursor.peek, h.rest_eq, List.head?_eq_getElem?, List.getElem?_tail]
    exact .peek z
  | startsWith text =>
    refine ⟨z, .startsWith ?_, h⟩
    show text.toList.isPrefixOf c.rest = true ↔ text.toList <+: z.rest
    rw [h.rest_eq, List.isPrefixOf_iff_prefix]
  | isExhausted =>
    refine ⟨z, .isExhausted ?_, h⟩
    show c.rest.isEmpty = true ↔ z.rest = []
    rw [h.rest_eq, List.isEmpty_iff]
  | lexeme =>
    refine ⟨z, ?_, h⟩
    show Step z .lexeme z c.lexeme
    rw [hlexeme]
    exact .lexeme z
  | span =>
    refine ⟨z, ?_, h⟩
    show Step z .span z c.span
    rw [h.span_eq]
    exact .span z
  | advance =>
    cases hrest : z.rest with
    | nil =>
      have hstays : c.advance = c := Cursor.advance_of_nil (h.rest_eq.trans hrest)
      refine ⟨z, ?_, ?_⟩
      · show Step z .advance z c.advance.current
        rw [hstays, Cursor.current, h.rest_eq, hrest]
        exact .advanceAtEnd hrest
      · show z.Shows c.advance
        rw [hstays]
        exact h
    | cons first others =>
      have hmove := h.move 1
      rw [hrest] at hmove
      refine ⟨_, ?_, hmove⟩
      show Step z .advance _ (c.move 1).current
      rw [Cursor.current, hmove.rest_eq, List.head?_eq_getElem?]
      exact .advance hrest
  | advanceWhile accept =>
    have htake := List.prefix_iff_eq_take.1 (List.takeWhile_prefix accept (l := z.rest))
    have hmove := h.move (z.rest.takeWhile accept).length
    rw [← htake, drop_length_takeWhile] at hmove
    refine ⟨_, .advanceWhile (List.takeWhile_append_dropWhile).symm
      (fun x hx => accept_of_mem_takeWhile hx) (stops_dropWhile z.rest), ?_⟩
    show Shows _ (c.advanceWhile accept)
    rw [Cursor.advanceWhile, h.rest_eq]
    exact hmove
  | advanceWith accept s =>
    refine ⟨_, ?_, h.move (Cursor.countWith accept s c.rest).1⟩
    show Step z (.advanceWith accept s) _ (Cursor.countWith accept s c.rest).2
    rw [h.rest_eq]
    exact .advanceWith (List.take_append_drop _ _).symm (examines_countWith accept s z.rest)
  | consume =>
    refine ⟨_, ?_, h.skip⟩
    show Step z .consume _ (c.lexeme, c.span)
    rw [hlexeme, h.span_eq]
    exact .consume z
  | skip => exact ⟨_, .skip z, h.skip⟩
  | rewind =>
    refine ⟨_, .rewind z, ?_⟩
    rw [← h.source_eq]
    exact shows_ofString c.source
  | reset source => exact ⟨_, .reset z source, shows_ofString source⟩

theorem Shows.trace (h : z.Shows c) (ops : List Cursor.Operation) :
    ∃ z', z.Trace (c.trace ops).2 z' ∧ z'.Shows (c.trace ops).1 := by
  induction ops generalizing z c with
  | nil => exact ⟨z, .nil z, h⟩
  | cons op ops ih =>
    obtain ⟨z', hstep, hshows⟩ := h.step op
    obtain ⟨z'', htrace, hlast⟩ := ih hshows
    exact ⟨z'', .cons hstep htrace, hlast⟩

/-- What an operation does to a zipper, and what it answers, is determined. -/
theorem Step.unique {z z₁ z₂ : Zipper} {op : Cursor.Operation} {answer₁ answer₂ : op.Answer}
    (h₁ : Step z op z₁ answer₁) (h₂ : Step z op z₂ answer₂) : z₁ = z₂ ∧ answer₁ = answer₂ := by
  cases h₁ with
  | current | peek | lexeme | span | consume | skip | rewind | reset =>
    cases h₂
    exact ⟨rfl, rfl⟩
  | startsWith h | isExhausted h =>
    cases h₂ with | _ h' => exact ⟨rfl, Bool.eq_iff_iff.2 (h.trans h'.symm)⟩
  | advance h =>
    cases h₂ with
    | advance h' =>
      obtain ⟨rfl, rfl⟩ := List.cons.inj (h.symm.trans h')
      exact ⟨rfl, rfl⟩
    | advanceAtEnd h' => cases h.symm.trans h'
  | advanceAtEnd h =>
    cases h₂ with
    | advance h' => cases h.symm.trans h'
    | advanceAtEnd => exact ⟨rfl, rfl⟩
  | advanceWhile h htaken hrest =>
    cases h₂ with
    | advanceWhile h' htaken' hrest' =>
      obtain rfl := (takeWhile_append_of_stops htaken hrest).symm.trans
        ((congrArg _ (h.symm.trans h')).trans (takeWhile_append_of_stops htaken' hrest'))
      obtain rfl := List.append_cancel_left (h.symm.trans h')
      exact ⟨rfl, rfl⟩
  | advanceWith h hexamines =>
    cases h₂ with
    | advanceWith h' hexamines' =>
      obtain ⟨rfl, rfl⟩ := hexamines.unique hexamines'
      obtain rfl := List.append_cancel_left (h.symm.trans h')
      exact ⟨rfl, rfl⟩

theorem Trace.unique {z z₁ z₂ : Zipper}
    {answers₁ answers₂ : List (Σ op : Cursor.Operation, op.Answer)}
    (h₁ : Trace z answers₁ z₁) (h₂ : Trace z answers₂ z₂)
    (hops : answers₁.map Sigma.fst = answers₂.map Sigma.fst) : answers₁ = answers₂ ∧ z₁ = z₂ := by
  induction h₁ generalizing answers₂ with
  | nil =>
    cases h₂ with
    | nil => exact ⟨rfl, rfl⟩
    | cons => cases hops
  | cons hstep _ ih =>
    cases h₂ with
    | nil => cases hops
    | cons hstep' hlater' =>
      obtain ⟨rfl, hlater⟩ := List.cons.inj hops
      obtain ⟨rfl, rfl⟩ := hstep.unique hstep'
      obtain ⟨rfl, rfl⟩ := ih hlater' hlater
      exact ⟨rfl, rfl⟩

end Zipper

/-! ### Refinement -/

theorem Cursor.map_fst_trace (c : Cursor) (ops : List Cursor.Operation) :
    (c.trace ops).2.map Sigma.fst = ops := by
  induction ops generalizing c with
  | nil => rfl
  | cons op ops ih => exact congrArg (op :: ·) (ih (c.perform op).1)

namespace ByteCursor

/-- The cursor at the beginning of the source, kept by byte offsets, goes through the operations as
a zipper does. -/
structure RefinesZipper (source : String) (ops : List Cursor.Operation) : Prop where
  /-- No slice fails, and with lists of characters the offsets and the answers are the same. -/
  trace?_eq : (ofString source).trace? ops =
    some (((Cursor.ofString source).trace ops).1.bytes, ((Cursor.ofString source).trace ops).2)
  /-- The offsets afterwards are boundaries of the source, in order. -/
  valid : ((Cursor.ofString source).trace ops).1.bytes.Valid
  /-- The operations lead, with these answers, to a zipper whose parts the offsets divide. -/
  exists_trace : ∃ z,
    Zipper.Trace (.ofList source.toList) ((Cursor.ofString source).trace ops).2 z ∧
    z.IsAt ((Cursor.ofString source).trace ops).1.bytes
  /-- A zipper has no other answers. -/
  answers_eq : ∀ answers z, Zipper.Trace (.ofList source.toList) answers z →
    answers.map Sigma.fst = ops → answers = ((Cursor.ofString source).trace ops).2

/-- **A cursor by byte offsets refines a zipper**, for every source and every sequence of
operations. -/
theorem refinesZipper_ofString (source : String) (ops : List Cursor.Operation) :
    RefinesZipper source ops := by
  obtain ⟨z, htrace, hshows⟩ := (Zipper.shows_ofString source).trace ops
  refine ⟨?_, Cursor.valid_bytes _, ⟨z, htrace, hshows.isAt⟩, fun answers z' htrace' hops => ?_⟩
  · exact (Cursor.ofString source).trace?_bytes ops
  · rw [← Cursor.map_fst_trace (.ofString source) ops] at hops
    exact (htrace'.unique htrace hops).1

end ByteCursor

end ChainLexer.Source
