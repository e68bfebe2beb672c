import ChainLexer.Proofs.Places

/-!
# Maximal munch

A lexeme is as long as it can be, and this is said here about the bytes of the source, without the
grammar and without the scanner: at the end of the span of a lexeme, the source ends or goes on with
a character of another class. An operator has a second way to end. A comment may begin there, and its
marker is made of operator characters itself.

## Two lookaheads that must not meet

Whether a comment begins is decided by two characters, and the second one may lie behind the operator.
So it is not enough that the characters of an operator contain no marker: in `+---` the operator is
`+` alone, and in `+->` a hyphen is part of it. `MaximalMunch.markerFree` therefore speaks of the
marker in the source, at any byte of the span. At the first byte the fact comes from the trivia before
the operator, at the others from the operator run.

## Main definitions

* `MaximalMunch`: a lexeme with a span of a source is as long as it can be

## Main results

* `Lexeme.StandsAt.maximalMunch`: lexemes that stand in a source are as long as they can be
* `lexemes_run_of_newline`: a line feed before which nothing is to be skipped is the next lexeme
* `Lexer.maximalMunch_of_withConfig`: all lexemes of a scan are as long as they can be
-/

namespace ChainLexer.Scan

open ChainLexer.Grammar ChainLexer.Settings ChainLexer.Source ChainLexer.Text

variable {T : Type}

/-- The lexeme with the span is as long as it can be in the source. -/
structure MaximalMunch (m : Marker) (source : String) (w : Lexeme) (span : Span) : Prop where
  /-- The span names the lexeme. -/
  slice?_span : span.slice? source = some w.toString
  /-- An identifier goes on as long as there are characters for it. -/
  identifier : ∀ text, w = .identifier text → EndsAt isIdentContinue source.toList span.stop
  /-- So does a number. -/
  number : ∀ text, w = .number text → EndsAt isNumberContinue source.toList span.stop
  /-- And so does an operator, unless a comment begins. A line feed is an operator of its own. -/
  operator : ∀ text, w = .operator text → text ≠ ['\n'] →
    EndsAt isOperatorChar source.toList span.stop ∨ m.occursAt source.toList span.stop = true
  /-- No comment begins inside an operator, not even at its last character. -/
  markerFree : ∀ text, w = .operator text →
    ∀ n, span.contains n = true → m.occursAt source.toList n = false
  /-- An operator with a line feed has no other character. -/
  newline : ∀ text, w = .operator text → '\n' ∈ text → text = ['\n']

/-! ### Operators -/

/-- No marker starts in an operator, whatever the category of what follows. -/
theorem Lexeme.StandsBefore.markerFree {m : Marker} {rest text : List Char}
    (h : (Lexeme.operator text).StandsBefore m rest) : MarkerFree m text rest := by
  rcases h.ends with rfl | hrun
  · exact markerFree_cons.2 ⟨m.startsAt_newline rest, markerFree_nil m rest⟩
  · exact hrun.free

/-- In a text without a marker at its suffixes there is none at its bytes. -/
theorem Lexeme.MarkerFree.occursAt_eq_false {m : Marker} {before text after : List Char}
    (h : MarkerFree m text after) {n : Nat} (hlo : byteLength before ≤ n)
    (hhi : n < byteLength before + byteLength text) :
    m.occursAt (before ++ text ++ after) n = false := by
  rw [Marker.occursAt]
  cases hsplit : splitBytes? (before ++ text ++ after) n with
  | none => rfl
  | some halves =>
    obtain ⟨xs, ys⟩ := halves
    obtain ⟨part, hpart, hne, rfl⟩ := exists_suffix_of_splitBytes? hsplit hlo hhi
    exact h part hpart hne

theorem Lexeme.WellShaped.eq_newline {text : List Char} (h : (Lexeme.operator text).WellShaped)
    (hmem : '\n' ∈ text) : text = ['\n'] := by
  rcases h with hnewline | ⟨-, hchars⟩
  · exact hnewline
  · exact absurd rfl (ne_newline_of_isOperatorChar (hchars '\n' hmem))

/-! ### Lexemes in a source -/

/-- **Lexemes that stand in a source are as long as they can be.** -/
theorem Lexeme.StandsAt.maximalMunch {m : Marker} {source : String} {w : Lexeme} {span : Span}
    (h : w.StandsAt m source.toList span) : MaximalMunch m source w span := by
  obtain ⟨before, after, hsource, rfl, hstands⟩ := h
  -- the end of the span is where the text after the lexeme begins
  have hstop : byteLength before + byteLength w.text = byteLength (before ++ w.text) := by
    rw [byteLength_append]
  have hends : ∀ {accept}, Stops accept after →
      EndsAt accept source.toList (byteLength before + byteLength w.text) := by
    intro accept hstops
    rw [hsource, hstop]
    exact endsAt_append _ hstops
  constructor
  · rw [Span.slice?, hsource, sliceBytes?_append]
    rfl
  · rintro text rfl
    exact hends hstands.ends
  · rintro text rfl
    exact hends hstands.ends
  · rintro text rfl hne
    rcases (hstands.ends.resolve_left hne).stops with hstops | hmarker
    · exact .inl (hends hstops)
    · right
      show m.occursAt source.toList (byteLength before + byteLength (operator text).text) = true
      rw [hsource, hstop, Marker.occursAt_append]
      exact hmarker
  · rintro text rfl n hn
    obtain ⟨hlo, hhi⟩ := Bool.and_eq_true_iff.1 hn
    rw [hsource]
    exact hstands.markerFree.occursAt_eq_false (of_decide_eq_true hlo) (of_decide_eq_true hhi)
  · rintro text rfl hmem
    exact hstands.shaped.eq_newline hmem

/-! ### Line feeds -/

/-- **A line feed before which nothing is to be skipped is the next lexeme**, of one character, and is
shown to a chain whatever the memory. -/
theorem lexemes_run_of_newline {m : Marker} (registry : Registry T) (memory : Memory) {c : Cursor}
    {others : List Char} (h : (skipTrivia m c).rest = '\n' :: others) :
    (run m registry memory c).lexemes.head? =
      some (.operator ['\n'], ⟨(skipTrivia m c).position, (skipTrivia m c).position + 1⟩) := by
  have hrest : (skipTrivia m c).rest = (Lexeme.operator ['\n']).text ++ others := h
  have hspan := span_move_skipTrivia hrest
  have hnext := next_of_cons (m := memory) h
  rw [Lexeme.recognise_newline] at hnext
  rw [run_of_found registry hnext, hspan]
  split <;> rfl

end ChainLexer.Scan

namespace ChainLexer.Lexer

open ChainLexer.Grammar ChainLexer.Scan ChainLexer.Settings ChainLexer.Source

variable {T : Type}

/-- **All lexemes of a scan are as long as they can be**, whatever the settings, the classifiers and
the source; and a line feed that is reached is always shown to a chain as a lexeme of its own. -/
theorem maximalMunch_of_withConfig {source : String} {config : Config} {lexer : Lexer T}
    (hlexer : withConfig source config = .ok lexer) (registry : Registry T) :
    ∃ m : Marker, m.text = config.lineComment ∧
      (∀ w span, (w, span) ∈ (lexer.withRegistry registry).run.lexemes →
        MaximalMunch m source w span) ∧
      ∀ (memory : Memory) (c : Cursor) (others : List Char),
        (skipTrivia m c).rest = '\n' :: others →
        (Scan.run m registry memory c).lexemes.head? =
          some (.operator ['\n'], ⟨(skipTrivia m c).position, (skipTrivia m c).position + 1⟩) := by
  obtain ⟨m, htext, rfl⟩ := withConfig_eq_ok_iff.1 hlexer
  refine ⟨m, htext, fun w span hmem => ?_, fun memory c others h => ?_⟩
  · obtain ⟨x, hx, heq⟩ := List.mem_map.1 hmem
    obtain ⟨rfl, rfl⟩ := Prod.mk.inj heq
    exact ((runs_withMarker source m registry).standsAt x hx).maximalMunch
  · exact lexemes_run_of_newline registry memory h

/-- A marker with two different characters. -/
def slashStar : Marker := ⟨'/', '*', by decide, by decide⟩

/-- A lexer with this marker, over a source in which its characters stand alone, the other way round,
and next to a character of two bytes. -/
def halves : Lexer Category :=
  (withMarker "é//*\n*/é" slashStar).withRegistry categoryRegistry

/-- The first operator ends before a marker, the second one is a line feed, and the third one has the
characters of the marker in the wrong order. -/
theorem maximalMunch_of_withConfig_halves :
    halves.run.lexemes =
      [(.identifier ['é'], ⟨0, 2⟩), (.operator ['/'], ⟨2, 3⟩), (.operator ['\n'], ⟨5, 6⟩),
        (.operator ['*', '/'], ⟨6, 8⟩), (.identifier ['é'], ⟨8, 10⟩)] ∧
    ∃ m : Marker, m.text = "/*" ∧ MaximalMunch m "é//*\n*/é" (.operator ['/']) ⟨2, 3⟩ := by
  have hlexemes : halves.run.lexemes =
      [(.identifier ['é'], ⟨0, 2⟩), (.operator ['/'], ⟨2, 3⟩), (.operator ['\n'], ⟨5, 6⟩),
        (.operator ['*', '/'], ⟨6, 8⟩), (.identifier ['é'], ⟨8, 10⟩)] := by
    decide +kernel
  have hlexer : withConfig "é//*\n*/é" ⟨"/*"⟩ =
      .ok (withMarker (T := Category) "é//*\n*/é" slashStar) :=
    withConfig_eq_ok_iff.2 ⟨slashStar, rfl, rfl⟩
  obtain ⟨m, htext, hmunch, -⟩ := maximalMunch_of_withConfig hlexer categoryRegistry
  have hmem : (Lexeme.operator ['/'], ⟨2, 3⟩) ∈ halves.run.lexemes := by
    rw [hlexemes]
    decide
  exact ⟨hlexemes, m, htext, hmunch _ _ hmem⟩

end ChainLexer.Lexer
