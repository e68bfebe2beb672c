import ChainLexer.Proofs.Lines
import ChainLexer.Proofs.Rendering

/-!
# Sources without lexemes

A lexer without classifiers refuses every lexeme, so its scan succeeds just when there is no lexeme to
refuse. Such a source can be written down in full: perhaps a byte order mark, then blanks, then perhaps
one comment. With these sources the classifiers of a lexer make no difference, since none of them is
ever asked.

## Where the byte order mark matters

A byte order mark is an operator character, and so it may belong to the marker of a comment. A source
that begins with such a marker can be read in two ways. The scan takes the mark away before it looks
for a comment, and what is left of the marker is then an operator, not a comment. So it is not enough
that some reading of a source consists of trivia: `TriviaAlone` allows a source that begins with a byte
order mark no other reading than that with the mark. `not_scan_eq_ok_iff_isTrivia` has a source on which
the two conditions differ.

## Main definitions

* `IsTrivia`: a byte order mark or nothing, blanks, and perhaps a comment
* `TriviaAlone`: a source of trivia, when its byte order mark is taken first

## Main results

* `gap_nil_iff`: the gaps at the end of a source
* `rest_skipTrivia_eq_nil_iff`: from the beginning of a source, trivia alone is skipped up to the end
* `Lexer.scan_eq_ok_iff_triviaAlone`: the scans of sources without lexemes
-/

namespace ChainLexer.Scan

open ChainLexer.Grammar ChainLexer.Settings ChainLexer.Source ChainLexer.Text

/-! ### Texts of trivia -/

/-- A text that consists of `mark`, blanks, and perhaps a comment with the given marker. -/
def IsTrivia (mark marker cs : List Char) : Prop :=
  ∃ blanks comment, cs = mark ++ blanks ++ comment ∧ (∀ c ∈ blanks, isBlank c = true) ∧
    (comment = [] ∨ ∃ text, comment = marker ++ text ∧ '\n' ∉ text)

/-- A source of trivia. A byte order mark at its beginning is no part of the comment. -/
def TriviaAlone (marker cs : List Char) : Prop :=
  IsTrivia [byteOrderMark] marker cs ∨
    (cs.head? ≠ some byteOrderMark ∧ IsTrivia [] marker cs)

theorem isTrivia_append {mark marker cs : List Char} :
    IsTrivia mark marker (mark ++ cs) ↔ IsTrivia [] marker cs := by
  simp only [IsTrivia, List.append_assoc, List.append_cancel_left_eq, List.nil_append]

theorem isTrivia_nil_cons_of_isBlank {marker cs : List Char} {c : Char} (hc : isBlank c = true)
    (h : IsTrivia [] marker cs) : IsTrivia [] marker (c :: cs) := by
  obtain ⟨blanks, comment, rfl, hblanks, hcomment⟩ := h
  exact ⟨c :: blanks, comment, rfl, List.forall_mem_cons.2 ⟨hc, hblanks⟩, hcomment⟩

/-- **The gaps at the end of a source.** The grammar allows any number of comments, but each of them
has to end its line before the next one, and there is no line feed in a gap. -/
theorem gap_nil_iff {m : Marker} {cs : List Char} : Gap m [] cs ↔ IsTrivia [] m.toList cs := by
  constructor
  · intro h
    induction h with
    | nil => exact ⟨[], [], rfl, by simp, .inl rfl⟩
    | blank hc _ ih => exact isTrivia_nil_cons_of_isBlank hc ih
    | @comment text cs htext hline hgap _ =>
      obtain rfl := hgap.eq_nil_of_endsLine hline
      exact ⟨[], m.toList ++ text, by simp, by simp, .inr ⟨text, rfl, htext⟩⟩
  · rintro ⟨blanks, comment, rfl, hblanks, hcomment⟩
    refine Separator.gap_append_blanks hblanks ?_
    rcases hcomment with rfl | ⟨text, rfl, htext⟩
    · exact .nil
    · exact .of_comment htext endsLine_nil

/-! ### From the beginning of a source to its end -/

/-- The gap at the front of a text is all of it when nothing but a gap is there. -/
theorem drop_gapText_eq_nil_iff {m : Marker} {cs : List Char} :
    cs.drop (gapText m cs).length = [] ↔ Gap m [] cs := by
  constructor
  · intro h
    obtain ⟨rest, hcs, hgap, -⟩ := exists_gap m cs
    have hlength := congrArg List.length hcs
    have hshort := List.drop_eq_nil_iff.1 h
    rw [List.length_append] at hlength
    obtain rfl : rest = [] := List.length_eq_zero_iff.1 (by omega)
    rw [List.append_nil] at hcs
    rwa [← hcs] at hgap
  · intro h
    have hall := gapText_append h (clear_nil m)
    rw [List.append_nil] at hall
    rw [hall, List.drop_length]

/-- **From the beginning of a source, trivia alone is skipped up to the end.** -/
theorem rest_skipTrivia_eq_nil_iff {m : Marker} {c : Cursor} (hposition : c.position = 0) :
    (skipTrivia m c).rest = [] ↔ TriviaAlone m.toList c.rest := by
  have hstart : (c.position == 0) = true := beq_iff_eq.2 hposition
  rw [rest_skipTrivia, hstart, trivia_eq, List.length_append, ← List.drop_drop,
    drop_gapText_eq_nil_iff, gap_nil_iff]
  by_cases hhead : c.rest.head? = some byteOrderMark
  · -- the mark is taken, and the reading without it does not count
    obtain ⟨cs, hcs⟩ := List.head?_eq_some_iff.1 hhead
    have hmark : leadingMark true c.rest = [byteOrderMark] := by simp [leadingMark, hhead]
    have hdrop : c.rest.drop (leadingMark true c.rest).length = cs := by rw [hmark, hcs]; rfl
    rw [hdrop, TriviaAlone, hcs]
    constructor
    · intro h
      exact .inl (isTrivia_append.2 h)
    · rintro (h | ⟨hne, -⟩)
      · exact isTrivia_append.1 h
      · exact absurd rfl hne
  · have hmark : leadingMark true c.rest = [] := by simp [leadingMark, hhead]
    rw [hmark, List.length_nil, List.drop_zero, TriviaAlone]
    constructor
    · intro h
      exact .inr ⟨hhead, h⟩
    · rintro (⟨blanks, comment, hcs, -, -⟩ | ⟨-, h⟩)
      · exact absurd (by rw [hcs]; rfl) hhead
      · exact h

/-- Without classifiers there is no verdict, so every lexeme is a fault. -/
theorem outcome_resolve_empty {T : Type} (m : Memory) (w : Lexeme) (span : Span) :
    (resolve (Registry.empty : Registry T) m w span).1.outcome =
      .error (.unrecognized w.category w.toString span) :=
  Resolution.outcome_of_decline rfl

/-- Without classifiers a run finishes only where no lexeme is left. -/
theorem Runs.rest_eq_nil_of_finished {T : Type} {marker : Marker} {m m' : Memory} {c c' : Cursor}
    {r : Run T} (h : Runs marker .empty m c r) (hend : r.ending = .finished c' m') :
    (skipTrivia marker c).rest = [] := by
  cases h with
  | finished hrest => exact hrest
  | blocked | refused => cases hend
  | resolved _ hout _ => cases (outcome_resolve_empty _ _ _).symm.trans hout

end ChainLexer.Scan

namespace ChainLexer.Lexer

open ChainLexer.Grammar ChainLexer.Scan ChainLexer.Settings ChainLexer.Text

variable {T : Type}

/-- **The scans of sources without lexemes.** Without classifiers a scan succeeds just when the source
consists of trivia. In that case a scan with any classifiers returns no token, asks none of them, and
leaves the plain context behind. -/
theorem scan_eq_ok_iff_triviaAlone {source : String} {config : Config} {lexer : Lexer T}
    (hlexer : withConfig source config = .ok lexer) :
    ((∃ tokens, lexer.scan.1 = .ok tokens) ↔
      TriviaAlone config.lineComment.toList source.toList) ∧
    (TriviaAlone config.lineComment.toList source.toList → ∀ registry : Registry T,
      (lexer.withRegistry registry).scan.1 = .ok [] ∧
      (lexer.withRegistry registry).run.resolutions = [] ∧
      (lexer.withRegistry registry).scan.2.context = .plain) := by
  obtain ⟨m, htext, rfl⟩ := withConfig_eq_ok_iff.1 hlexer
  have hmarker : config.lineComment.toList = m.toList := by
    rw [← htext, Marker.text, String.toList_ofList]
  have hskipped := rest_skipTrivia_eq_nil_iff (m := m) (c := .ofString source) rfl
  have hempty (registry : Registry T) (h : TriviaAlone m.toList source.toList) :
      ((withMarker source m).withRegistry registry).run = ⟨[], .finished _ .fresh⟩ :=
    run_of_finished registry (next_of_nil (hskipped.2 h))
  rw [hmarker]
  refine ⟨⟨?_, fun h => ⟨[], ?_⟩⟩, fun h registry => ⟨?_, ?_, ?_⟩⟩
  · rintro ⟨tokens, hscan⟩
    obtain ⟨⟨c, memory, hend⟩, -⟩ := Run.result_eq_ok_iff.1 hscan
    exact hskipped.1 ((runs_withMarker source m .empty).rest_eq_nil_of_finished hend)
  · exact congrArg Run.result (hempty .empty h)
  · exact congrArg Run.result (hempty registry h)
  · exact congrArg Run.resolutions (hempty registry h)
  · exact context_scan_of_finished (congrArg Run.ending (hempty registry h))

/-- A byte order mark, then blanks, then a comment whose marker begins with a byte order mark itself and
whose text has a quote: nothing is left to scan, whoever would be asked. -/
theorem scan_eq_ok_iff_triviaAlone_markInMarker :
    ∃ lexer : Lexer Unit,
      withConfig "\ufeff \t\ufeff-\"é" { lineComment := "\ufeff-" } = .ok lexer ∧
      (∃ tokens, lexer.scan.1 = .ok tokens) ∧
      ∀ registry : Registry Unit, (lexer.withRegistry registry).scan.1 = .ok [] ∧
        (lexer.withRegistry registry).run.resolutions = [] ∧
        (lexer.withRegistry registry).scan.2.context = .plain := by
  have htrivia : TriviaAlone "\ufeff-".toList "\ufeff \t\ufeff-\"é".toList :=
    .inl ⟨[' ', '\t'], "\ufeff-\"é".toList, by decide,
      List.forall_mem_cons.2 ⟨rfl, List.forall_mem_singleton.2 rfl⟩,
      .inr ⟨['"', 'é'], by decide, by decide⟩⟩
  let m : Marker := ⟨byteOrderMark, '-', by decide +kernel, by decide⟩
  have hlexer : withConfig "\ufeff \t\ufeff-\"é" { lineComment := "\ufeff-" } =
      .ok (withMarker (T := Unit) "\ufeff \t\ufeff-\"é" m) :=
    withConfig_eq_ok_iff.2 ⟨m, by decide, rfl⟩
  obtain ⟨hiff, hall⟩ := scan_eq_ok_iff_triviaAlone hlexer
  exact ⟨_, hlexer, hiff.2 htrivia, hall htrivia⟩

/-- A source may consist of trivia in one reading and yet have a lexeme. Here both characters of the
marker are byte order marks, and the source is the marker. The first character is skipped before a
comment is looked for, and the second one is an operator. -/
theorem not_scan_eq_ok_iff_isTrivia :
    ∃ lexer : Lexer Unit,
      withConfig "\ufeff\ufeff" { lineComment := "\ufeff\ufeff" } = .ok lexer ∧
      lexer.scan.1 = .error (.unrecognized .operator "\ufeff" ⟨3, 6⟩) ∧
      ¬((∃ tokens, lexer.scan.1 = .ok tokens) ↔
        IsTrivia [byteOrderMark] "\ufeff\ufeff".toList "\ufeff\ufeff".toList ∨
          IsTrivia [] "\ufeff\ufeff".toList "\ufeff\ufeff".toList) := by
  let m : Marker := ⟨byteOrderMark, byteOrderMark, by decide +kernel, by decide +kernel⟩
  have hscan : (withMarker (T := Unit) "\ufeff\ufeff" m).scan.1 =
      .error (.unrecognized .operator "\ufeff" ⟨3, 6⟩) := by
    decide +kernel
  have htrivia : IsTrivia [] "\ufeff\ufeff".toList "\ufeff\ufeff".toList :=
    ⟨[], "\ufeff\ufeff".toList, rfl, by simp, .inr ⟨[], by simp, by simp⟩⟩
  refine ⟨withMarker "\ufeff\ufeff" m, withConfig_eq_ok_iff.2 ⟨m, by decide, rfl⟩, hscan, ?_⟩
  intro h
  obtain ⟨tokens, htokens⟩ := h.2 (.inr htrivia)
  cases hscan.symm.trans htokens

end ChainLexer.Lexer
