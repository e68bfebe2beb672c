import ChainLexer.Proofs.Tiling

/-!
# Places in a source

Spans and faults name places of a source by byte offsets. This module reads a source at an offset:
which character stands there, whether a run of characters of some class ends there, and whether a
comment begins there. Each reading is a function of the source and the offset alone, so that a
statement made with it can be checked against the source without the cursor that produced the offset.

The cursor is related to these readings by one fact, `Cursor.exists_before`: its offset is the length
of what stands before its rest. All other facts about runs are derived from `Runs.standsAt`, which
gives the text before and after each lexeme.

## Main definitions

* `charAt?`: the character at a byte offset
* `EndsAt`: no character of a class stands at a byte offset
* `Marker.occursAt`: a marker stands at a byte offset
* `Lexeme.StandsAt`: a lexeme stands in a source, as long as it can be

## Main results

* `exists_suffix_of_splitBytes?`: a cut inside a part of a text cuts that part
* `Runs.standsAt`: the lexemes of a run stand at their spans
-/

namespace ChainLexer.Text

/-! ### The text at an offset -/

theorem eq_nil_of_byteLength_eq_zero {cs : List Char} (h : byteLength cs = 0) : cs = [] := by
  have hle := length_le_byteLength cs
  exact List.length_eq_zero_iff.1 (by omega)

/-- The bytes of a text are those of the string with its characters. -/
theorem utf8ByteSize_ofList (cs : List Char) : (String.ofList cs).utf8ByteSize = byteLength cs := by
  induction cs with
  | nil => rfl
  | cons c cs ih => simp [String.ofList_cons, ih]

theorem byteLength_toList (source : String) : byteLength source.toList = source.utf8ByteSize := by
  rw [← utf8ByteSize_ofList, String.ofList_toList]

/-- Of two ways to cut a text in two, the one with the later cut has more in front. -/
theorem exists_append_of_byteLength_le {xs ys xs' ys' : List Char} (h : xs ++ ys = xs' ++ ys')
    (hle : byteLength xs ≤ byteLength xs') : ∃ more, xs' = xs ++ more ∧ ys = more ++ ys' := by
  rcases List.append_eq_append_iff.1 h with hlonger | ⟨more, rfl, rfl⟩
  · exact hlonger
  · rw [byteLength_append] at hle
    obtain rfl : more = [] := eq_nil_of_byteLength_eq_zero (by omega)
    exact ⟨[], by simp, rfl⟩

/-- **A cut inside a part of a text cuts that part**, so what is behind the cut begins with some last
characters of the part. -/
theorem exists_suffix_of_splitBytes? {before text after xs ys : List Char} {n : Nat}
    (h : splitBytes? (before ++ text ++ after) n = some (xs, ys)) (hlo : byteLength before ≤ n)
    (hhi : n < byteLength before + byteLength text) :
    ∃ part, part <:+ text ∧ part ≠ [] ∧ ys = part ++ after := by
  obtain ⟨heq, rfl⟩ := append_of_splitBytes? h
  rw [List.append_assoc] at heq
  obtain ⟨inner, rfl, hinner⟩ := exists_append_of_byteLength_le heq.symm hlo
  rw [byteLength_append] at hhi
  rcases List.append_eq_append_iff.1 hinner with ⟨more, rfl, -⟩ | ⟨part, rfl, hys⟩
  · rw [byteLength_append] at hhi
    omega
  · refine ⟨part, List.suffix_append inner part, ?_, hys⟩
    rintro rfl
    simp at hhi

/-- The character that stands at a byte offset, if that is a boundary before the end. -/
def charAt? (cs : List Char) (n : Nat) : Option Char :=
  (splitBytes? cs n).bind fun halves => halves.2.head?

theorem charAt?_append (before after : List Char) :
    charAt? (before ++ after) (byteLength before) = after.head? := by
  rw [charAt?, splitBytes?_append]
  rfl

/-- Where a character stands, the text has a boundary that is not its end. -/
theorem isBoundary_of_charAt? {cs : List Char} {n : Nat} {c : Char} (h : charAt? cs n = some c) :
    IsBoundary cs n ∧ n < byteLength cs := by
  obtain ⟨⟨xs, ys⟩, hsplit, hhead⟩ := Option.bind_eq_some_iff.1 h
  obtain ⟨rfl, rfl⟩ := append_of_splitBytes? hsplit
  obtain ⟨ys, rfl⟩ := List.head?_eq_some_iff.1 hhead
  refine ⟨by rw [IsBoundary, hsplit]; rfl, ?_⟩
  have hpos := c.utf8Size_pos
  rw [byteLength_append, byteLength_cons]
  omega

/-- No character of the class stands at the byte offset: it is the end of the text, or another
character stands there. -/
def EndsAt (accept : Char → Bool) (cs : List Char) (n : Nat) : Prop :=
  n = byteLength cs ∨ ∃ c, charAt? cs n = some c ∧ accept c = false

theorem endsAt_append {accept : Char → Bool} (before : List Char) {after : List Char}
    (h : Stops accept after) : EndsAt accept (before ++ after) (byteLength before) := by
  cases after with
  | nil => exact .inl (by simp)
  | cons c after => exact .inr ⟨c, charAt?_append before (c :: after), stops_cons.1 h⟩

/-- The text from a boundary on, up to a later one, begins with the character at the first. -/
theorem charAt?_of_sliceBytes? {cs text : List Char} {a b : Nat} (h : sliceBytes? cs a b = some text)
    (hne : text ≠ []) : ∃ c, charAt? cs a = some c := by
  rw [sliceBytes?] at h
  split at h
  · obtain ⟨⟨xs, ys⟩, hsplit, hmap⟩ := Option.bind_eq_some_iff.1 h
    obtain ⟨⟨text', after⟩, hcut, rfl⟩ := Option.map_eq_some_iff.1 hmap
    obtain ⟨rfl, -⟩ := append_of_splitBytes? hcut
    obtain ⟨c, cs', rfl⟩ := List.exists_cons_of_ne_nil hne
    exact ⟨c, by rw [charAt?, hsplit]; rfl⟩
  · cases h

end ChainLexer.Text

namespace ChainLexer.Settings

open ChainLexer.Text

/-- The marker stands at the byte offset. -/
def Marker.occursAt (m : Marker) (cs : List Char) (n : Nat) : Bool :=
  (splitBytes? cs n).any fun halves => m.startsAt halves.2

theorem Marker.occursAt_append (m : Marker) (before after : List Char) :
    m.occursAt (before ++ after) (byteLength before) = m.startsAt after := by
  rw [occursAt, splitBytes?_append]
  rfl

end ChainLexer.Settings

namespace ChainLexer.Source

open ChainLexer.Text

/-- The offset of a cursor is the length of what stands before its rest. -/
theorem Cursor.exists_before (c : Cursor) :
    ∃ before, c.source.toList = before ++ c.rest ∧ c.position = byteLength before := by
  obtain ⟨dropped, hsource, hstart⟩ := c.split
  exact ⟨dropped ++ c.pending, hsource, by simp [position, hstart]⟩

/-- At the offset of a cursor stands the first character of its rest. -/
theorem Cursor.charAt?_position (c : Cursor) :
    charAt? c.source.toList c.position = c.rest.head? := by
  obtain ⟨before, hsource, hposition⟩ := c.exists_before
  rw [hsource, hposition, charAt?_append]

end ChainLexer.Source

namespace ChainLexer.Scan

open ChainLexer.Grammar ChainLexer.Settings ChainLexer.Source ChainLexer.Text

variable {T : Type}

/-- The lexeme stands in the text at the span, and cannot be longer there. -/
def Lexeme.StandsAt (marker : Marker) (cs : List Char) (span : Span) (w : Lexeme) : Prop :=
  ∃ before after, cs = before ++ w.text ++ after ∧
    span = ⟨byteLength before, byteLength before + byteLength w.text⟩ ∧
    w.StandsBefore marker after

section Runs

variable {marker : Marker} {registry : Registry T} {m : Memory} {c c' : Cursor} {r : Run T}
  {w : Lexeme} {span : Span}

theorem Reaches.standsAt (h : Reaches marker c w span c') :
    w.StandsAt marker c.source.toList span := by
  obtain ⟨before, hsource, hposition⟩ := (skipTrivia marker c).exists_before
  refine ⟨before, c'.rest, ?_, ?_, h.stands⟩
  · rw [List.append_assoc, ← h.rest_eq]
    exact hsource
  · rw [h.span_eq, hposition]

/-- **The lexemes of a run stand at their spans.** -/
theorem Runs.standsAt (h : Runs marker registry m c r) :
    ∀ x ∈ r.resolutions, x.lexeme.StandsAt marker c.source.toList x.span := by
  refine h.forall_resolutions (fun c x => x.lexeme.StandsAt marker c.source.toList x.span)
    (fun hreach => hreach.standsAt) fun hreach hx => ?_
  rw [← hreach.source_eq]
  exact hx

end Runs

end ChainLexer.Scan
