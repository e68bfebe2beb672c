import ChainLexer.Proofs.Derivation

/-!
# How far a lexeme sees

A run goes forward and never looks back, and it looks ahead no further than it must: a lexeme is
decided by its own characters and by one or two behind it. So what stands further on can be changed
without an effect on the lexemes before it. This module says so for two changes, which are inverse to
each other.

* A text can be *cut off* behind a lexeme. Whatever ended the lexeme before, the end of the text does
  now. There is one exception, which is a cut through the marker of a comment: half a marker would
  become part of an operator.
* A text can *go on* with another line. No lexeme but a string literal contains a line feed, and a
  comment ends before it, so a line feed ends whatever the end of the text has ended before. Behind a
  lexeme any other white space does as well.

The offset of the text in its source plays no part either, but for the byte order mark at the very
beginning.

## Main definitions

* `Span.shift`: the span so many bytes later
* `EndsLexeme`: the text is over, or goes on with white space
* `Extends`: a cursor over a text that goes on where the text of another cursor ends

## Main results

* `trivia_of_append`, `trivia_append_line`: the same trivia is skipped before a text that is cut off,
  and before one that goes on with another line
* `Lexeme.StandsBefore.of_append`, `Lexeme.StandsBefore.append`: the same for lexemes
* `Reaches.transfer`: the same lexeme in another place
* `Extends.reaches`, `Extends.reaches_of_long`: one step over a text and over a longer one
-/

namespace ChainLexer.Source

/-- The span so many bytes later. -/
def Span.shift (n : Nat) (s : Span) : Span := ⟨s.start + n, s.stop + n⟩

end ChainLexer.Source

namespace ChainLexer.Scan

open ChainLexer.Grammar ChainLexer.Settings ChainLexer.Source ChainLexer.Text

variable {m : Marker} {cs after : List Char}

/-! ### Classes and markers -/

section Stops

variable {accept : Char → Bool}

theorem stops_of_append (h : Stops accept (cs ++ after)) : Stops accept cs := by
  cases cs with
  | nil => exact stops_nil
  | cons c cs => exact stops_cons.2 (stops_cons.1 h)

theorem stops_append (h : Stops accept cs) (hafter : Stops accept after) :
    Stops accept (cs ++ after) := by
  cases cs with
  | nil => exact hafter
  | cons c cs => exact stops_cons.2 (stops_cons.1 h)

theorem EndsLine.stops (h : EndsLine after) (hnewline : accept '\n' = false) :
    Stops accept after := by
  intro c hc
  rw [h c hc]
  exact hnewline

end Stops

theorem EndsLine.of_append (h : EndsLine (cs ++ after)) : EndsLine cs := by
  cases cs with
  | nil => exact endsLine_nil
  | cons c cs => exact endsLine_cons.2 (endsLine_cons.1 h)

theorem EndsLine.append (h : EndsLine cs) (hafter : EndsLine after) : EndsLine (cs ++ after) := by
  cases cs with
  | nil => exact hafter
  | cons c cs => exact endsLine_cons.2 (endsLine_cons.1 h)

theorem startsAt_append_of_startsAt (h : m.startsAt cs = true) (after : List Char) :
    m.startsAt (cs ++ after) = true := by
  obtain ⟨text, rfl⟩ := exists_of_startsAt h
  rw [List.append_assoc]
  exact startsAt_append m (text ++ after)

theorem startsAt_of_append (h : m.startsAt (cs ++ after) = false) : m.startsAt cs = false := by
  rw [Bool.eq_false_iff]
  intro hstarts
  rw [startsAt_append_of_startsAt hstarts after] at h
  cases h

/-- No lexeme but a string literal goes on here: the text is over, or white space follows. -/
def EndsLexeme (cs : List Char) : Prop := ∀ c ∈ cs.head?, isWhiteSpace c = true

theorem EndsLexeme.stops (h : EndsLexeme after) {accept : Char → Bool}
    (haccept : ∀ {c}, isWhiteSpace c = true → accept c = false) : Stops accept after :=
  fun c hc => haccept (h c hc)

theorem EndsLine.endsLexeme (h : EndsLine after) : EndsLexeme after := by
  intro c hc
  rw [h c hc]
  decide

/-- No marker goes across white space: neither of its characters is any. -/
theorem startsAt_append_of_endsLexeme (m : Marker) (cs : List Char) (hafter : EndsLexeme after) :
    m.startsAt (cs ++ after) = m.startsAt cs := by
  cases after with
  | nil => rw [List.append_nil]
  | cons c rest =>
    have hne {a : Char} (ha : isOperatorChar a = true) : a ≠ c := by
      rintro rfl
      have hspace := isWhiteSpace_of_isOperatorChar ha
      rw [hafter a rfl] at hspace
      cases hspace
    have hfirst := hne m.first_isOperatorChar
    have hsecond := hne m.second_isOperatorChar
    match cs with
    | [] => simp [Marker.startsAt, Marker.toList, List.isPrefixOf, hfirst]
    | [a] => simp [Marker.startsAt, Marker.toList, List.isPrefixOf, hsecond]
    | a :: b :: cs => simp [Marker.startsAt, Marker.toList, List.isPrefixOf]

/-! ### Trivia -/

theorem Clear.of_append (h : Clear m (cs ++ after)) : Clear m cs :=
  ⟨stops_of_append h.blank, startsAt_of_append h.marker⟩

theorem Clear.append_line (h : Clear m cs) (hline : EndsLine after) : Clear m (cs ++ after) :=
  ⟨stops_append h.blank (hline.stops (by decide)),
    by rw [startsAt_append_of_endsLexeme m cs hline.endsLexeme, h.marker]⟩

theorem Gap.of_append {gap : List Char} (h : Gap m (cs ++ after) gap) : Gap m cs gap := by
  induction h with
  | nil => exact .nil
  | blank hc _ ih => exact .blank hc ih
  | comment htext hend _ ih =>
    rw [← List.append_assoc] at hend
    exact .comment htext hend.of_append ih

theorem Gap.append_line {gap : List Char} (h : Gap m cs gap) (hline : EndsLine after) :
    Gap m (cs ++ after) gap := by
  induction h with
  | nil => exact .nil
  | blank hc _ ih => exact .blank hc ih
  | comment htext hend _ ih =>
    refine .comment htext ?_ ih
    rw [← List.append_assoc]
    exact hend.append hline

theorem gapText_of_append (h : gapText m (cs ++ after) <+: cs) :
    gapText m cs = gapText m (cs ++ after) := by
  obtain ⟨rest, hcs⟩ := h
  obtain ⟨rest', hsplit, hgap, hclear⟩ := exists_gap m (cs ++ after)
  have hsame : gapText m (cs ++ after) ++ (rest ++ after) = gapText m (cs ++ after) ++ rest' := by
    rw [← List.append_assoc, hcs, ← hsplit]
  obtain rfl : rest ++ after = rest' := List.append_cancel_left hsame
  exact gapText_eq_iff.2 ⟨rest, hcs.symm, hgap.of_append, hclear.of_append⟩

theorem gapText_append_line (m : Marker) (cs : List Char) (hline : EndsLine after) :
    gapText m (cs ++ after) = gapText m cs := by
  obtain ⟨rest, hcs, hgap, hclear⟩ := exists_gap m cs
  refine gapText_eq_iff.2 ⟨rest ++ after, ?_, hgap.append_line hline, hclear.append_line hline⟩
  rw [← List.append_assoc, ← hcs]

theorem leadingMark_isPrefix (atStart : Bool) (cs : List Char) : leadingMark atStart cs <+: cs := by
  rcases leadingMark_cases atStart cs with h | ⟨h, -, hcs⟩
  · rw [h]
    exact List.nil_prefix
  · rw [h]
    exact ⟨cs.tail, hcs.symm⟩

theorem leadingMark_of_append {atStart : Bool} (h : leadingMark atStart (cs ++ after) <+: cs) :
    leadingMark atStart cs = leadingMark atStart (cs ++ after) := by
  cases cs with
  | nil => rw [List.prefix_nil.1 h]; simp [leadingMark]
  | cons c cs => rfl

theorem leadingMark_append_line (atStart : Bool) (cs : List Char) (hline : EndsLine after) :
    leadingMark atStart (cs ++ after) = leadingMark atStart cs := by
  cases cs with
  | nil =>
    cases after with
    | nil => rfl
    | cons c rest =>
      obtain rfl := endsLine_cons.1 hline
      have hmark : '\n' ≠ byteOrderMark := by decide
      simp [leadingMark, hmark]
  | cons c cs => rfl

theorem trivia_isPrefix (m : Marker) (atStart : Bool) (cs : List Char) :
    trivia m atStart cs <+: cs := by
  have hmark := List.prefix_iff_eq_append.1 (leadingMark_isPrefix atStart cs)
  obtain ⟨rest, hrest, -⟩ := exists_gap m (cs.drop (leadingMark atStart cs).length)
  refine ⟨rest, ?_⟩
  rw [trivia_eq, List.append_assoc, ← hrest, hmark]

/-- **The same trivia is skipped when the text is cut off behind it.** -/
theorem trivia_of_append {atStart : Bool} (h : trivia m atStart (cs ++ after) <+: cs) :
    trivia m atStart cs = trivia m atStart (cs ++ after) := by
  rw [trivia_eq] at h
  have hmark := leadingMark_of_append ((List.prefix_append _ _).trans h)
  rw [trivia_eq, trivia_eq, ← hmark]
  rw [← hmark] at h
  obtain ⟨rest, hcs⟩ := leadingMark_isPrefix atStart cs
  generalize leadingMark atStart cs = mark at h hcs ⊢
  subst hcs
  rw [List.append_assoc, List.drop_left] at h
  rw [List.append_assoc, List.drop_left, List.drop_left]
  exact congrArg (mark ++ ·) (gapText_of_append ((List.prefix_append_right_inj mark).1 h))

/-- **The same trivia is skipped when the text goes on with another line.** -/
theorem trivia_append_line (m : Marker) (atStart : Bool) (cs : List Char) (hline : EndsLine after) :
    trivia m atStart (cs ++ after) = trivia m atStart cs := by
  rw [trivia_eq, trivia_eq, leadingMark_append_line atStart cs hline,
    List.drop_append_of_le_length (leadingMark_isPrefix atStart cs).length_le,
    gapText_append_line m _ hline]

/-! ### Lexemes -/

namespace Lexeme

theorem MarkerFree.of_append {run : List Char} (h : MarkerFree m run (cs ++ after)) :
    MarkerFree m run cs := by
  intro part hpart hne
  have hfree := h part hpart hne
  rw [← List.append_assoc] at hfree
  exact startsAt_of_append hfree

theorem MarkerFree.append {run : List Char} (h : MarkerFree m run cs)
    (hafter : EndsLexeme after) : MarkerFree m run (cs ++ after) := by
  intro part hpart hne
  rw [← List.append_assoc, startsAt_append_of_endsLexeme m _ hafter]
  exact h part hpart hne

/-- **A lexeme still stands where the text behind it is cut off,** unless the cut goes through a
marker. It may be made right before one. -/
theorem StandsBefore.of_append {w : Lexeme} (h : w.StandsBefore m (cs ++ after))
    (hmarker : m.startsAt (cs ++ after) = true → cs = [] ∨ m.startsAt cs = true) :
    w.StandsBefore m cs := by
  refine ⟨h.shaped, ?_⟩
  cases w with
  | identifier text => exact stops_of_append h.ends
  | number text => exact stops_of_append h.ends
  | string text value => trivial
  | operator text =>
    refine h.ends.imp_right fun hrun => ⟨hrun.chars, hrun.free.of_append, ?_⟩
    rcases hrun.stops with hstops | hstarts
    · exact .inl (stops_of_append hstops)
    · rcases hmarker hstarts with rfl | hstarts
      · exact .inl stops_nil
      · exact .inr hstarts

/-- **A lexeme still stands where the text behind it goes on with white space.** -/
theorem StandsBefore.append {w : Lexeme} (h : w.StandsBefore m cs) (hafter : EndsLexeme after) :
    w.StandsBefore m (cs ++ after) := by
  refine ⟨h.shaped, ?_⟩
  cases w with
  | identifier text => exact stops_append h.ends (hafter.stops isIdentContinue_of_isWhiteSpace)
  | number text => exact stops_append h.ends (hafter.stops isNumberContinue_of_isWhiteSpace)
  | string text value => trivial
  | operator text =>
    refine h.ends.imp_right fun hrun => ⟨hrun.chars, hrun.free.append hafter, ?_⟩
    refine hrun.stops.imp (fun hstops => stops_append hstops ?_) fun hstarts => ?_
    · exact hafter.stops isOperatorChar_of_isWhiteSpace
    · exact startsAt_append_of_startsAt hstarts after

end Lexeme

/-! ### Steps in another place -/

theorem rest_eq_trivia_append (m : Marker) (c : Cursor) :
    c.rest = trivia m (c.position == 0) c.rest ++ (skipTrivia m c).rest :=
  (List.prefix_iff_eq_append.1 (trivia_isPrefix m (c.position == 0) c.rest)).symm

theorem position_skipTrivia (m : Marker) (c : Cursor) :
    (skipTrivia m c).position =
      c.position + byteLength (trivia m (c.position == 0) c.rest) := by
  have htake := List.prefix_iff_eq_take.1 (trivia_isPrefix m (c.position == 0) c.rest)
  rw [skipTrivia, Cursor.position_skip, Cursor.position_move, ← htake]

/-- A step moves the cursor over the text that it takes: the end of the text stays where it is. -/
theorem Reaches.end_eq {c c' : Cursor} {w : Lexeme} {span : Span} (h : Reaches m c w span c') :
    c'.position + byteLength c'.rest = c.position + byteLength c.rest := by
  have hlength := congrArg byteLength (rest_eq_trivia_append m c)
  rw [h.rest_eq, byteLength_append, byteLength_append] at hlength
  have hposition : c'.position = (skipTrivia m c).position + byteLength w.text := by
    rw [h.position_eq, h.span_eq]
  rw [position_skipTrivia] at hposition
  omega

/-- **The same lexeme in another place.** It is enough that the text behind the trivia begins with the
lexeme, and that the lexeme stands there. -/
theorem Reaches.transfer {c c' d : Cursor} {w : Lexeme} {span : Span} {rest : List Char} {n : Nat}
    (h : Reaches m c w span c')
    (hposition : (skipTrivia m d).position = (skipTrivia m c).position + n)
    (hrest : (skipTrivia m d).rest = w.text ++ rest) (hstands : w.StandsBefore m rest) :
    ∃ d', Reaches m d w (span.shift n) d' ∧ d'.rest = rest ∧ d'.position = c'.position + n := by
  have hreach := Reaches.of_rest hrest hstands
  have hspan : (⟨(skipTrivia m d).position, (skipTrivia m d).position + byteLength w.text⟩ : Span) =
      span.shift n := by
    rw [h.span_eq, hposition, Span.shift, Nat.add_right_comm]
  rw [hspan] at hreach
  refine ⟨_, hreach, ?_, ?_⟩
  · rw [Cursor.rest_skip, Cursor.rest_move, hrest, List.drop_left]
  · rw [hreach.position_eq, h.position_eq]
    rfl

/-- The cursors stand at the same offset, and the text of `d` goes on with `after` where that of `c`
ends. -/
structure Extends (after : List Char) (c d : Cursor) : Prop where
  rest_eq : d.rest = c.rest ++ after
  position_eq : d.position = c.position

section Extends

variable {c c' d d' : Cursor} {w : Lexeme} {span : Span}

theorem Extends.skipTrivia (h : Extends after c d)
    (htrivia : trivia m (c.position == 0) d.rest = trivia m (c.position == 0) c.rest) :
    Extends after (skipTrivia m c) (skipTrivia m d) where
  rest_eq := by
    rw [rest_skipTrivia, rest_skipTrivia, h.position_eq, htrivia, h.rest_eq,
      List.drop_append_of_le_length (trivia_isPrefix m _ c.rest).length_le]
  position_eq := by
    rw [position_skipTrivia, position_skipTrivia, h.position_eq, htrivia]

/-- Where a text goes on with another line, the same trivia is skipped. -/
theorem Extends.skipTrivia_line (h : Extends after c d) (hline : EndsLine after) (m : Marker) :
    Extends after (Scan.skipTrivia m c) (Scan.skipTrivia m d) := by
  refine h.skipTrivia ?_
  rw [h.rest_eq, trivia_append_line m _ c.rest hline]

/-- Where a text is cut off behind the trivia, the same trivia is skipped. -/
theorem Extends.skipTrivia_of_long (h : Extends after c d)
    (htrivia : trivia m (d.position == 0) d.rest <+: c.rest) :
    Extends after (Scan.skipTrivia m c) (Scan.skipTrivia m d) := by
  refine h.skipTrivia ?_
  rw [h.position_eq, h.rest_eq] at htrivia
  rw [h.rest_eq, trivia_of_append htrivia]

/-- **A step over a text is one over the text that goes on with another line.** -/
theorem Extends.reaches (h : Extends after c d) (hline : EndsLine after)
    (hreach : Reaches m c w span c') : ∃ d', Reaches m d w span d' ∧ Extends after c' d' := by
  have hskip := h.skipTrivia_line hline m
  have hrest : (Scan.skipTrivia m d).rest = w.text ++ (c'.rest ++ after) := by
    rw [hskip.rest_eq, hreach.rest_eq, List.append_assoc]
  obtain ⟨d', hreach', hrest', hposition⟩ := hreach.transfer (n := 0) hskip.position_eq hrest
    (hreach.stands.append hline.endsLexeme)
  exact ⟨d', hreach', hrest', hposition⟩

/-- **A step over a text is one over the text that is cut off behind it,** unless the cut goes through
a marker. -/
theorem Extends.reaches_of_long (h : Extends after c d) (hreach : Reaches m d w span d')
    (htrivia : trivia m (d.position == 0) d.rest <+: c.rest) {rest : List Char}
    (hrest : d'.rest = rest ++ after)
    (hmarker : m.startsAt (rest ++ after) = true → m.startsAt rest = true) :
    ∃ c', Reaches m c w span c' ∧ c'.rest = rest ∧ c'.position = d'.position := by
  have hskip := h.skipTrivia_of_long htrivia
  have hlong : (Scan.skipTrivia m c).rest ++ after = w.text ++ rest ++ after := by
    rw [← hskip.rest_eq, hreach.rest_eq, hrest, List.append_assoc]
  have hcut : (Scan.skipTrivia m c).rest = w.text ++ rest := List.append_cancel_right hlong
  have hstands := hreach.stands
  rw [hrest] at hstands
  exact hreach.transfer (n := 0) hskip.position_eq.symm hcut
    (hstands.of_append fun hstarts => .inr (hmarker hstarts))

end Extends

end ChainLexer.Scan
