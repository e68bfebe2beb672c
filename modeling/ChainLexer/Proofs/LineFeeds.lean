import ChainLexer.Proofs.Arrivals
import ChainLexer.Proofs.MaximalMunch
import ChainLexer.Proofs.Positions

/-!
# No line feed is lost

A line feed is white space, and still it is not skipped with the other white space. It ends a comment
without belonging to it, it ends an operator, and it may stand in a string literal as it is. So a scan
that succeeds has shown every line feed of its source to a chain, either alone or inside a literal.

## Two notions of a line

The line table finds line feeds in the source, and knows nothing of lexemes. A grammar sees lexemes, and
nothing of the source between them. That the two notions agree is what lets a grammar count lines: the
line of a token is one more than the number of line feeds among the lexemes before it, those inside
literals included. The proof goes along the tiling of the source: no gap and no byte order mark has a
line feed, so the line feeds before a lexeme are those of the lexemes before it.

## Main definitions

* `Lexeme.feedsInside`: the line feeds inside a string literal
* `feedsAlone`, `feedsInLiterals`: the line feeds among lexemes, alone and inside literals
* `Lexer.KeepsLineFeeds`: what becomes of the line feeds of a source

## Main results

* `newline_notMem_trivia`: what is skipped has no line feed
* `Lexeme.WellShaped.newline_cases`: a lexeme with a line feed is a literal, or a line feed alone
* `Tiled.exists_contains`: the line feeds of a tiled text lie in its lexemes
* `Tiled.exists_before`: the line feeds before a lexeme of a tiled text are those of earlier lexemes
* `Lexer.keepsLineFeeds_of_scan_eq_ok`: a scan that succeeds keeps every line feed
-/

namespace ChainLexer.Text

/-- A character of a text in two parts stands in one of them. -/
theorem append_eq_append_cons {xs ys before after : List Char} {c : Char}
    (h : xs ++ ys = before ++ c :: after) :
    (∃ more, xs = before ++ c :: more) ∨ ∃ more, before = xs ++ more ∧ ys = more ++ c :: after := by
  rcases List.append_eq_append_iff.1 h with ⟨more, hbefore, hys⟩ | ⟨more, hxs, hcons⟩
  · exact .inr ⟨more, hbefore, hys⟩
  · cases more with
    | nil => exact .inr ⟨[], by simpa using hxs.symm, hcons.symm⟩
    | cons d more =>
      obtain ⟨rfl, -⟩ := List.cons.inj hcons
      exact .inl ⟨more, hxs⟩

end ChainLexer.Text

namespace ChainLexer.Scan

open ChainLexer.Grammar ChainLexer.Settings ChainLexer.Source ChainLexer.Text

variable {T : Type}

/-! ### Trivia without line feeds -/

theorem newline_notMem_toList (m : Marker) : '\n' ∉ m.toList := fun hmem =>
  ne_newline_of_isOperatorChar (isOperatorChar_of_mem_toList hmem) rfl

/-- A gap has no line feed. -/
theorem Gap.newline_notMem {m : Marker} {after gap : List Char} (h : Gap m after gap) :
    '\n' ∉ gap := by
  induction h with
  | nil => exact List.not_mem_nil
  | @blank c cs hc _ ih =>
    intro hmem
    rcases List.mem_cons.1 hmem with rfl | hmem
    · exact absurd hc (by decide)
    · exact ih hmem
  | comment htext _ _ ih =>
    intro hmem
    rcases List.mem_append.1 hmem with hmem | hmem
    · rcases List.mem_append.1 hmem with hmem | hmem
      · exact newline_notMem_toList m hmem
      · exact htext hmem
    · exact ih hmem

theorem newline_notMem_mark {mark : List Char} (h : mark = [] ∨ mark = [byteOrderMark]) :
    '\n' ∉ mark := by
  rcases h with rfl | rfl
  · exact List.not_mem_nil
  · decide

/-- **What is skipped has no line feed**, whatever the marker. -/
theorem newline_notMem_trivia (m : Marker) (atStart : Bool) (cs : List Char) :
    '\n' ∉ trivia m atStart cs := by
  rw [trivia_eq]
  intro hmem
  rcases List.mem_append.1 hmem with hmem | hmem
  · exact newline_notMem_mark ((leadingMark_cases atStart cs).imp_right And.left) hmem
  · obtain ⟨rest, -, hgap, -⟩ := exists_gap m (cs.drop (leadingMark atStart cs).length)
    exact hgap.newline_notMem hmem

/-! ### Line feeds in lexemes -/

/-- The number of line feeds inside a string literal; no other lexeme has one beside other
characters. -/
def Lexeme.feedsInside : Lexeme → Nat
  | string text _ => text.count '\n'
  | _ => 0

/-- The number of lexemes that are a line feed. -/
def feedsAlone (ws : List (Lexeme × Span)) : Nat := ws.countP fun x => x.1 = .operator ['\n']

/-- The number of line feeds inside string literals. -/
def feedsInLiterals : List (Lexeme × Span) → Nat
  | [] => 0
  | x :: ws => x.1.feedsInside + feedsInLiterals ws

/-- **A lexeme with a line feed is a literal, or a line feed alone.** -/
theorem Lexeme.WellShaped.newline_cases {w : Lexeme} (h : w.WellShaped) (hmem : '\n' ∈ w.text) :
    w.category = .string ∨ w = .operator ['\n'] := by
  cases w with
  | identifier text =>
    obtain ⟨c, cs, rfl, hc, hcs⟩ := h
    rcases List.mem_cons.1 hmem with rfl | hmem
    · exact absurd hc (by decide)
    · exact absurd (hcs _ hmem) (by decide)
  | number text =>
    obtain ⟨c, cs, rfl, hc, hcs⟩ := h
    rcases List.mem_cons.1 hmem with rfl | hmem
    · exact absurd hc (by decide)
    · exact absurd (hcs _ hmem) (by decide)
  | string text value => exact .inl rfl
  | operator text => exact .inr (congrArg Lexeme.operator (h.eq_newline hmem))

/-- The line feeds of a lexeme are those inside it if it is a literal, and otherwise itself. -/
theorem Lexeme.WellShaped.count_newline {w : Lexeme} (h : w.WellShaped) :
    w.text.count '\n' = (if w = .operator ['\n'] then 1 else 0) + w.feedsInside := by
  by_cases hmem : '\n' ∈ w.text
  · rcases h.newline_cases hmem with hstring | rfl
    · cases w with
      | string text value => simp [feedsInside, Lexeme.text]
      | identifier | number | operator => cases hstring
    · rfl
  · have hne : w ≠ .operator ['\n'] := by
      rintro rfl
      exact hmem List.mem_cons_self
    rw [List.count_eq_zero.2 hmem, if_neg hne, Nat.zero_add]
    cases w with
    | string text value => exact (List.count_eq_zero.2 hmem).symm
    | identifier | number | operator => rfl

/-! ### Line feeds of a tiled text -/

/-- **The line feeds of a tiled text lie in its lexemes.** -/
theorem Tiled.exists_contains {m : Marker} {n : Nat} {text before after : List Char}
    {ws : List (Lexeme × Span)} (h : Tiled m n text ws) (htext : text = before ++ '\n' :: after) :
    ∃ w span, (w, span) ∈ ws ∧ span.contains (n + byteLength before) = true := by
  induction h generalizing before with
  | finish hgap =>
    exact absurd (by rw [htext]; simp) hgap.newline_notMem
  | @lexeme n gap rest w span ws hgap _ hspan _ ih =>
    rw [List.append_assoc] at htext
    -- the line feed is not in the gap, so it is in the lexeme or behind it
    rcases append_eq_append_cons htext with ⟨more, rfl⟩ | ⟨inner, rfl, hinner⟩
    · exact absurd (by simp) hgap.newline_notMem
    · rcases append_eq_append_cons hinner with ⟨more, hw⟩ | ⟨behind, rfl, hbehind⟩
      · refine ⟨w, span, List.mem_cons_self, ?_⟩
        rw [hspan, hw, Span.contains, Bool.and_eq_true, decide_eq_true_eq, decide_eq_true_eq]
        have hpos := ('\n').utf8Size_pos
        simp only [byteLength_append, byteLength_cons]
        omega
      · obtain ⟨w', span', hmem, hcontains⟩ := ih hbehind
        refine ⟨w', span', List.mem_cons_of_mem _ hmem, ?_⟩
        rw [hspan] at hcontains
        simpa only [byteLength_append, Nat.add_assoc] using hcontains

/-- **The line feeds before a lexeme of a tiled text are those of the lexemes before it.** -/
theorem Tiled.exists_before {m : Marker} {n : Nat} {text : List Char}
    {earlier later : List (Lexeme × Span)} {w : Lexeme} {span : Span}
    (h : Tiled m n text (earlier ++ (w, span) :: later)) :
    ∃ before after, text = before ++ after ∧ span.start = n + byteLength before ∧
      before.count '\n' = feedsAlone earlier + feedsInLiterals earlier := by
  induction earlier generalizing n text with
  | nil =>
    cases h with
    | @lexeme _ gap rest _ _ _ hgap _ hspan _ =>
      refine ⟨gap, w.text ++ rest, List.append_assoc _ _ _, by rw [hspan], ?_⟩
      exact List.count_eq_zero.2 hgap.newline_notMem
  | cons x earlier ih =>
    cases h with
    | @lexeme _ gap rest w' span' _ hgap hshape hspan hrest =>
      obtain ⟨before, after, rfl, hstart, hcount⟩ := ih hrest
      have hstop : span'.stop = n + byteLength gap + byteLength w'.text := by rw [hspan]
      refine ⟨gap ++ w'.text ++ before, after, by simp, ?_, ?_⟩
      · rw [hstart, hstop, byteLength_append, byteLength_append]
        omega
      · rw [List.count_append, List.count_append, List.count_eq_zero.2 hgap.newline_notMem,
          hshape.count_newline, hcount, feedsAlone, feedsAlone, feedsInLiterals, List.countP_cons]
        simp only [decide_eq_true_eq]
        omega

/-- Where a lexeme of a tiled source starts, the line is known from the lexemes before it. -/
theorem Tiled.exists_position {m : Marker} {source : String} {mark text : List Char}
    {earlier later : List (Lexeme × Span)} {w : Lexeme} {span : Span}
    (h : Tiled m (byteLength mark) text (earlier ++ (w, span) :: later))
    (hsource : source.toList = mark ++ text) (hmark : mark = [] ∨ mark = [byteOrderMark])
    (hsize : source.utf8ByteSize < UInt32.size - 1) :
    ∃ p, (LineTable.ofString source).position span.start = .ok p ∧
      p.line.toNat = 1 + feedsAlone earlier + feedsInLiterals earlier := by
  obtain ⟨before, after, rfl, hstart, hcount⟩ := h.exists_before
  rw [← List.append_assoc] at hsource
  obtain ⟨p, hp, hline, -⟩ := LineTable.position_append hsize hsource
  rw [byteLength_append, ← hstart] at hp
  refine ⟨p, hp, ?_⟩
  rw [hline, List.count_append, List.count_eq_zero.2 (newline_notMem_mark hmark), hcount]
  omega

/-! ### Line feeds of a run -/

/-- A run ends in the source in which it has begun. -/
theorem Runs.source_of_finished {marker : Marker} {registry : Registry T} {m m' : Memory}
    {c c' : Cursor} {r : Run T} (h : Runs marker registry m c r)
    (hend : r.ending = .finished c' m') : c'.source = c.source := by
  induction h with
  | finished =>
    cases hend
    rfl
  | blocked | refused => cases hend
  | resolved hreach _ _ ih => exact (ih hend).trans hreach.source_eq

/-- In a lexeme that stands in a source, a line feed of the source is one of the lexeme. -/
theorem Lexeme.StandsAt.newline_mem {m : Marker} {cs : List Char} {w : Lexeme} {span : Span}
    (h : w.StandsAt m cs span) {n : Nat} (hn : span.contains n = true)
    (hchar : charAt? cs n = some '\n') : '\n' ∈ w.text := by
  obtain ⟨before, after, rfl, rfl, -⟩ := h
  obtain ⟨⟨xs, ys⟩, hsplit, hhead⟩ := Option.bind_eq_some_iff.1 hchar
  obtain ⟨hlo, hhi⟩ := Bool.and_eq_true_iff.1 hn
  obtain ⟨part, hpart, hne, rfl⟩ :=
    exists_suffix_of_splitBytes? hsplit (of_decide_eq_true hlo) (of_decide_eq_true hhi)
  obtain ⟨c, part, rfl⟩ := List.exists_cons_of_ne_nil hne
  obtain rfl : c = '\n' := Option.some.inj hhead
  exact hpart.subset List.mem_cons_self

/-- A line feed of a source that lies in a lexeme lies in a literal, or is the lexeme. -/
theorem Lexeme.StandsAt.newline_cases {m : Marker} {cs : List Char} {w : Lexeme} {span : Span}
    (h : w.StandsAt m cs span) {n : Nat} (hn : span.contains n = true)
    (hchar : charAt? cs n = some '\n') :
    w.category = .string ∨ (w = .operator ['\n'] ∧ span = ⟨n, n + 1⟩) := by
  have hmem := h.newline_mem hn hchar
  obtain ⟨before, after, -, rfl, hstands⟩ := h
  rcases hstands.shaped.newline_cases hmem with hstring | rfl
  · exact .inl hstring
  · obtain ⟨hlo, hhi⟩ := Bool.and_eq_true_iff.1 hn
    have hle : byteLength before ≤ n := of_decide_eq_true hlo
    have hlt : n < byteLength before + 1 := of_decide_eq_true hhi
    obtain rfl : n = byteLength before := by omega
    exact .inr ⟨rfl, rfl⟩

end ChainLexer.Scan

namespace ChainLexer.Lexer

open ChainLexer.Grammar ChainLexer.Scan ChainLexer.Settings ChainLexer.Source ChainLexer.Text

variable {T : Type}

/-- What becomes of the line feeds of the source when the scan of the lexer has these tokens. -/
structure KeepsLineFeeds (source : String) (lexer : Lexer T) (tokens : List (Token T)) : Prop where
  /-- Every line feed of the source lies in a lexeme that was shown to a chain. -/
  exists_contains : ∀ n, charAt? source.toList n = some '\n' →
    ∃ w span, (w, span) ∈ lexer.run.lexemes ∧ span.contains n = true
  /-- That lexeme is a string literal, or the line feed alone at its own offset. -/
  newline_cases : ∀ n, charAt? source.toList n = some '\n' →
    ∀ w span, (w, span) ∈ lexer.run.lexemes → span.contains n = true →
      w.category = .string ∨ (w = .operator ['\n'] ∧ span = ⟨n, n + 1⟩)
  /-- Nothing that the scan skips on its way has a line feed. -/
  notMem_trivia : ∀ s, lexer.Visits s →
    '\n' ∉ trivia lexer.marker (s.cursor.position == 0) s.cursor.rest
  /-- The line of a token is one more than the number of line feeds among the lexemes that were shown
  before it, alone and inside literals. -/
  line_eq : source.utf8ByteSize < UInt32.size - 1 → ∀ t ∈ tokens,
    ∃ before r after p, lexer.run.resolutions = before ++ r :: after ∧ r.token? = some t ∧
      lexer.location t.span.start = .ok p ∧ lexer.scan.2.location t.span.start = .ok p ∧
      p.line.toNat =
        1 + feedsAlone (before.map fun x => (x.lexeme, x.span)) +
          feedsInLiterals (before.map fun x => (x.lexeme, x.span))

/-- **A scan that succeeds keeps every line feed**, whatever the settings, the classifiers and the
source. -/
theorem keepsLineFeeds_of_scan_eq_ok {source : String} {config : Config} {lexer : Lexer T}
    (hlexer : withConfig source config = .ok lexer) (registry : Registry T)
    {tokens : List (Token T)} (hscan : (lexer.withRegistry registry).scan.1 = .ok tokens) :
    KeepsLineFeeds source (lexer.withRegistry registry) tokens := by
  obtain ⟨m, -, rfl⟩ := withConfig_eq_ok_iff.1 hlexer
  obtain ⟨⟨c, m', hend⟩, rfl⟩ := Run.result_eq_ok_iff.1 hscan
  have hruns := runs_withMarker source m registry
  obtain ⟨mark, text, hsource, hmark, htiled⟩ := (hruns.lossless hend).tiled
  refine ⟨fun n hchar => ?_, fun n hchar w span hmem hn => ?_, fun s _ => ?_, fun hsize t ht => ?_⟩
  · obtain ⟨⟨xs, ys⟩, hsplit, hhead⟩ := Option.bind_eq_some_iff.1 hchar
    obtain ⟨hxs, rfl⟩ := append_of_splitBytes? hsplit
    obtain ⟨ys, rfl⟩ := List.head?_eq_some_iff.1 hhead
    rw [hsource] at hxs
    rcases append_eq_append_cons hxs.symm with ⟨more, rfl⟩ | ⟨before, rfl, htext⟩
    · exact absurd (by simp) (newline_notMem_mark hmark)
    · rw [byteLength_append]
      exact htiled.exists_contains htext
  · obtain ⟨x, hx, heq⟩ := List.mem_map.1 hmem
    obtain ⟨rfl, rfl⟩ := Prod.mk.inj heq
    exact (hruns.standsAt x hx).newline_cases hn hchar
  · exact newline_notMem_trivia _ _ _
  · obtain ⟨r, hr, htoken⟩ := List.mem_filterMap.1 ht
    obtain ⟨before, after, hsplit⟩ := List.append_of_mem hr
    rw [Run.lexemes, hsplit, List.map_append, List.map_cons] at htiled
    obtain ⟨p, hp, hline⟩ := htiled.exists_position hsource hmark hsize
    have hspan : t.span = r.span := by
      obtain ⟨token, hout⟩ := hruns.outcome_eq_ok hend r hr
      rw [(Resolution.of_outcome_eq_ok hout).2] at htoken
      exact (Resolution.of_emitted?_eq_some htoken).2
    rw [← hspan] at hp
    have hp' : (LineTable.ofString c.source).position t.span.start = .ok p := by
      rw [hruns.source_of_finished hend]
      exact hp
    refine ⟨before, r, after, p, hsplit, htoken, hp, ?_, hline⟩
    rw [scan, hend]
    exact hp'

/-- A lexer over a source with a line feed behind a comment, which is skipped as a lexeme, and another
one inside a literal. -/
def multiline : Lexer Category := (ofSource "é -- c\n\"a\nb\" 7").withRegistry categoryRegistry

/-- The tokens of the source. -/
def multilineTokens : List (Token Category) :=
  [⟨.identifier, "é", ⟨0, 2⟩, none⟩, ⟨.string, "\"a\nb\"", ⟨8, 13⟩, some (.text "a\nb")⟩,
    ⟨.number, "7", ⟨14, 15⟩, some (.int 7)⟩]

/-- Both line feeds are before the number, which is on the third line. -/
theorem keepsLineFeeds_of_scan_eq_ok_multiline :
    multiline.scan.1 = .ok multilineTokens ∧
    KeepsLineFeeds "é -- c\n\"a\nb\" 7" multiline multilineTokens ∧
    multiline.location 14 = .ok ⟨3, 4⟩ := by
  have hscan : multiline.scan.1 = .ok multilineTokens := by decide +kernel
  exact ⟨hscan, keepsLineFeeds_of_scan_eq_ok (withConfig_customary _) categoryRegistry hscan,
    by decide +kernel⟩

end ChainLexer.Lexer
