import ChainLexer.Proofs.CharClass
import ChainLexer.Scan.Run

/-!
# Gaps between lexemes

What is skipped before a lexeme is computed in one straight line: perhaps a byte order mark, then
blanks, then perhaps one comment. The grammar of a gap is more liberal, since it allows blanks and
comments in any number and order. The two agree all the same, because a comment runs to the end of
its line and neither a blank nor a marker begins there; `gapText_eq_iff` says so.

A gap is not described by its own characters alone. A comment ends where the line ends, and in the
last comment of a gap the end of the line is what follows the gap. So `Gap` takes the text after the
gap as a parameter.

## Main definitions

* `EndsLine`: a line ends here, or the text does
* `Gap`: blanks and comments before the given text
* `Clear`: nothing to skip stands here
* `gapText`: the blanks and the comment at the front of a text

## Main results

* `gapText_eq_iff`: what is skipped is the only gap before a text with nothing to skip
* `skipTrivia_spec`: where a cursor stands after the trivia
-/

namespace ChainLexer.Scan

open ChainLexer.Settings ChainLexer.Source ChainLexer.Text

/-! ### The grammar of gaps -/

/-- A line ends here, or the text does. -/
def EndsLine (cs : List Char) : Prop := ∀ c ∈ cs.head?, c = '\n'

@[simp] theorem endsLine_nil : EndsLine [] := by simp [EndsLine]

@[simp] theorem endsLine_cons {c : Char} {cs : List Char} : EndsLine (c :: cs) ↔ c = '\n' := by
  simp [EndsLine]

/-- A gap before the text `after`: blanks, and comments that run from a marker to the end of their
line. -/
inductive Gap (m : Marker) (after : List Char) : List Char → Prop
  /-- The empty gap. -/
  | nil : Gap m after []
  /-- White space other than a line feed. -/
  | blank {c : Char} {cs : List Char} (hc : isBlank c = true) (h : Gap m after cs) :
      Gap m after (c :: cs)
  /-- A marker and the rest of its line. -/
  | comment {text cs : List Char} (htext : '\n' ∉ text) (hline : EndsLine (cs ++ after))
      (h : Gap m after cs) : Gap m after (m.toList ++ text ++ cs)

/-- One comment is a gap. -/
theorem Gap.of_comment {m : Marker} {after text : List Char} (htext : '\n' ∉ text)
    (hline : EndsLine after) : Gap m after (m.toList ++ text) := by
  rw [← List.append_nil (m.toList ++ text)]
  exact .comment htext hline .nil

/-- Nothing to skip stands here: no blank, and no comment. -/
structure Clear (m : Marker) (cs : List Char) : Prop where
  /-- The text does not go on with a blank. -/
  blank : Stops isBlank cs
  /-- No comment begins. -/
  marker : m.startsAt cs = false

theorem clear_nil (m : Marker) : Clear m [] := ⟨stops_nil, rfl⟩

/-- Where a line ends there is nothing to skip. -/
theorem EndsLine.clear {cs : List Char} (h : EndsLine cs) (m : Marker) : Clear m cs := by
  cases cs with
  | nil => exact clear_nil m
  | cons c cs =>
    obtain rfl := endsLine_cons.1 h
    exact ⟨stops_cons.2 (by decide), m.startsAt_newline cs⟩

theorem isOperatorChar_of_mem_toList {m : Marker} {c : Char} (h : c ∈ m.toList) :
    isOperatorChar c = true := by
  rw [Marker.toList, List.mem_cons, List.mem_singleton] at h
  rcases h with rfl | rfl
  · exact m.first_isOperatorChar
  · exact m.second_isOperatorChar

theorem startsAt_append (m : Marker) (cs : List Char) : m.startsAt (m.toList ++ cs) = true := by
  simp [Marker.startsAt]

theorem exists_of_startsAt {m : Marker} {cs : List Char} (h : m.startsAt cs = true) :
    ∃ text, cs = m.toList ++ text := by
  obtain ⟨text, rfl⟩ := List.isPrefixOf_iff_prefix.1 h
  exact ⟨text, rfl⟩

/-- A gap that ends its line at once is empty: neither a blank nor a marker is a line feed. -/
theorem Gap.eq_nil_of_endsLine {m : Marker} {after gap : List Char} (h : Gap m after gap)
    (hline : EndsLine (gap ++ after)) : gap = [] := by
  cases h with
  | nil => rfl
  | @blank c cs hc _ =>
    obtain rfl := endsLine_cons.1 hline
    exact absurd hc (by decide)
  | @comment text cs _ _ _ =>
    have hfirst : m.first = '\n' := endsLine_cons.1 hline
    exact absurd hfirst (ne_newline_of_isOperatorChar m.first_isOperatorChar)

/-! ### The gap that is skipped -/

/-- The blanks and the comment at the front of a text. -/
def gapText (m : Marker) (cs : List Char) : List Char :=
  cs.takeWhile isBlank ++ leadingComment m (cs.dropWhile isBlank)

theorem gapText_blank {m : Marker} {c : Char} {cs : List Char} (hc : isBlank c = true) :
    gapText m (c :: cs) = c :: gapText m cs := by
  simp [gapText, hc]

theorem gapText_of_stops {m : Marker} {cs : List Char} (h : Stops isBlank cs) :
    gapText m cs = leadingComment m cs := by
  rw [gapText, takeWhile_of_stops h, dropWhile_of_stops h, List.nil_append]

/-- A comment begins with its marker. -/
theorem leadingComment_toList_append (m : Marker) (text : List Char) :
    leadingComment m (m.toList ++ text) = m.toList ++ text.takeWhile (· != '\n') := by
  have hmarker : ∀ c ∈ m.toList, (c != '\n') = true := by
    intro c hc
    simpa using ne_newline_of_isOperatorChar (isOperatorChar_of_mem_toList hc)
  rw [leadingComment, if_pos (startsAt_append m text), List.takeWhile_append_of_pos hmarker]

/-- A comment is skipped up to the end of its line. -/
theorem leadingComment_append {m : Marker} {text after : List Char} (htext : '\n' ∉ text)
    (hline : EndsLine after) : leadingComment m (m.toList ++ text ++ after) = m.toList ++ text := by
  have hrun : ∀ c ∈ text, (c != '\n') = true := by
    intro c hc
    simpa using fun heq : c = '\n' => htext (heq ▸ hc)
  have hstop : Stops (· != '\n') after := by
    intro c hc
    simpa using hline c hc
  rw [List.append_assoc, leadingComment_toList_append, takeWhile_append_of_stops hrun hstop]

/-- A gap before a text with nothing to skip is what is skipped. -/
theorem gapText_append {m : Marker} {gap rest : List Char} (h : Gap m rest gap)
    (hrest : Clear m rest) : gapText m (gap ++ rest) = gap := by
  induction h with
  | nil =>
    rw [List.nil_append, gapText_of_stops hrest.blank, leadingComment, hrest.marker]
    rfl
  | blank hc _ ih => rw [List.cons_append, gapText_blank hc, ih]
  | @comment text cs htext hline hcs _ =>
    obtain rfl := hcs.eq_nil_of_endsLine hline
    have hstops : Stops isBlank (m.toList ++ text ++ rest) := by
      have hfirst := isWhiteSpace_of_isOperatorChar m.first_isOperatorChar
      exact stops_cons.2 (by simp [isBlank, hfirst])
    rw [List.append_nil, gapText_of_stops hstops]
    exact leadingComment_append htext hline

/-- What is skipped is a gap before a text with nothing to skip. -/
theorem exists_gap (m : Marker) (cs : List Char) :
    ∃ rest, cs = gapText m cs ++ rest ∧ Gap m rest (gapText m cs) ∧ Clear m rest := by
  induction cs with
  | nil => exact ⟨[], rfl, .nil, clear_nil m⟩
  | cons c cs ih =>
    by_cases hc : isBlank c = true
    · obtain ⟨rest, hcs, hgap, hclear⟩ := ih
      rw [gapText_blank hc]
      exact ⟨rest, by rw [List.cons_append, ← hcs], .blank hc hgap, hclear⟩
    · have hstops : Stops isBlank (c :: cs) := stops_cons.2 (by simpa using hc)
      rw [gapText_of_stops hstops, leadingComment]
      split
      · next hmarker =>
        -- the comment is the longest part of the text without a line feed
        obtain ⟨text, heq⟩ := exists_of_startsAt hmarker
        have hsplit := List.takeWhile_append_dropWhile (p := (· != '\n')) (l := text)
        have htext : '\n' ∉ text.takeWhile (· != '\n') := by
          intro hmem
          simpa using accept_of_mem_takeWhile hmem
        have hstops : Stops (· != '\n') (text.dropWhile (· != '\n')) := stops_dropWhile text
        have hline : EndsLine (text.dropWhile (· != '\n')) := by
          intro d hd
          simpa using hstops d hd
        have hcomment := leadingComment_append (m := m) htext hline
        rw [List.append_assoc, hsplit, ← heq, leadingComment, if_pos hmarker] at hcomment
        refine ⟨text.dropWhile (· != '\n'), ?_, ?_, hline.clear m⟩
        · rw [hcomment, List.append_assoc, hsplit, heq]
        · rw [hcomment]
          exact .of_comment htext hline
      · next hmarker => exact ⟨c :: cs, rfl, .nil, hstops, by simpa using hmarker⟩

/-- **What is skipped is the only gap before a text with nothing to skip.** -/
theorem gapText_eq_iff {m : Marker} {cs gap : List Char} :
    gapText m cs = gap ↔ ∃ rest, cs = gap ++ rest ∧ Gap m rest gap ∧ Clear m rest := by
  constructor
  · rintro rfl
    exact exists_gap m cs
  · rintro ⟨rest, rfl, hgap, hclear⟩
    exact gapText_append hgap hclear

/-! ### The byte order mark, and the cursor after the trivia -/

/-- A byte order mark is taken at the very beginning of a source, and nowhere else. -/
theorem leadingMark_cases (atStart : Bool) (cs : List Char) :
    leadingMark atStart cs = [] ∨
      (leadingMark atStart cs = [byteOrderMark] ∧ atStart = true ∧
        cs = byteOrderMark :: cs.tail) := by
  rw [leadingMark]
  split
  · next h =>
    obtain ⟨hstart, hhead⟩ := Bool.and_eq_true_iff.1 h
    obtain ⟨cs', rfl⟩ := List.head?_eq_some_iff.1 (beq_iff_eq.1 hhead)
    exact .inr ⟨rfl, hstart, rfl⟩
  · exact .inl rfl

/-- The trivia before a lexeme, part by part. -/
theorem trivia_eq (m : Marker) (atStart : Bool) (cs : List Char) :
    trivia m atStart cs =
      leadingMark atStart cs ++ gapText m (cs.drop (leadingMark atStart cs).length) := by
  rw [trivia, gapText, ← drop_length_takeWhile, List.drop_drop, List.append_assoc]

/-- The trivia of a text that is given in its parts. -/
theorem trivia_of_gap {m : Marker} {atStart : Bool} {mark gap rest : List Char}
    (hmark : leadingMark atStart (mark ++ (gap ++ rest)) = mark) (hgap : Gap m rest gap)
    (hclear : Clear m rest) : trivia m atStart (mark ++ (gap ++ rest)) = mark ++ gap := by
  rw [trivia_eq, hmark, List.drop_left, gapText_append hgap hclear]

/-- The cursor after the trivia, when it is known what stands before it. -/
theorem skipTrivia_of_gap {m : Marker} {c : Cursor} {mark gap rest : List Char}
    (hrest : c.rest = mark ++ (gap ++ rest)) (hmark : leadingMark (c.position == 0) c.rest = mark)
    (hgap : Gap m rest gap) (hclear : Clear m rest) :
    (skipTrivia m c).rest = rest ∧
      (skipTrivia m c).position = c.position + byteLength (mark ++ gap) := by
  have htrivia : trivia m (c.position == 0) c.rest = mark ++ gap := by
    rw [hrest] at hmark ⊢
    exact trivia_of_gap hmark hgap hclear
  rw [← List.append_assoc] at hrest
  constructor
  · rw [rest_skipTrivia, htrivia, hrest, List.drop_left]
  · rw [skipTrivia, Cursor.position_skip, Cursor.position_move, htrivia, hrest, List.take_left]

/-- **Where a cursor stands after the trivia**: behind a gap, perhaps with a byte order mark before
it, and with nothing left to skip. -/
theorem skipTrivia_spec (m : Marker) (c : Cursor) :
    ∃ mark gap, c.rest = mark ++ gap ++ (skipTrivia m c).rest ∧
      (mark = [] ∨ (mark = [byteOrderMark] ∧ c.position = 0)) ∧
      Gap m (skipTrivia m c).rest gap ∧ Clear m (skipTrivia m c).rest ∧
      (skipTrivia m c).position = c.position + byteLength (mark ++ gap) := by
  obtain ⟨mark, hmark⟩ : ∃ mark, leadingMark (c.position == 0) c.rest = mark := ⟨_, rfl⟩
  obtain ⟨rest', hrest'⟩ : ∃ rest', c.rest = mark ++ rest' := by
    rcases leadingMark_cases (c.position == 0) c.rest with h | ⟨h, -, hcs⟩
    · exact ⟨c.rest, by rw [← hmark, h, List.nil_append]⟩
    · exact ⟨c.rest.tail, by rw [← hmark, h]; exact hcs⟩
  obtain ⟨rest, hcs, hgap, hclear⟩ := exists_gap m rest'
  have hsplit : c.rest = mark ++ (gapText m rest' ++ rest) := by rw [hrest', ← hcs]
  obtain ⟨hskipped, hposition⟩ := skipTrivia_of_gap hsplit hmark hgap hclear
  rw [← hskipped] at hsplit hgap hclear
  refine ⟨mark, gapText m rest', by rw [List.append_assoc]; exact hsplit, ?_, hgap, hclear,
    hposition⟩
  rcases leadingMark_cases (c.position == 0) c.rest with h | ⟨h, hstart, -⟩
  · exact .inl (hmark.symm.trans h)
  · exact .inr ⟨hmark.symm.trans h, beq_iff_eq.1 hstart⟩

end ChainLexer.Scan
