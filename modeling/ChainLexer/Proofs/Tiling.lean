import ChainLexer.Proofs.Derivation
import Mathlib.Data.List.Basic

/-!
# Lexemes and gaps tile the source

A scan that succeeds loses nothing: the source is a byte order mark, perhaps, and then gaps and
lexemes in turn, without a character left over. The lexemes are all those that were shown to a
chain, whether a token came of them or not, so the tiling is read off from the resolutions of the
run and not from the tokens.

`Tiled` carries the byte offset at which the text begins, and with it the span of every lexeme. The
lexemes of a run are therefore pinned to their places. Two lexemes with the same characters cannot be
exchanged, and a gap cannot be moved past a lexeme.

## Main definitions

* `Tiled`: a text as gaps and lexemes in turn
* `Resolution.emitted?`: the token of a lexeme with the verdict to emit it
* `Lossless`: a run over a source that loses nothing, with the tokens that come of it

## Main results

* `Runs.slice?_span`: the span of a lexeme names the lexeme
* `Runs.pairwise_span`: spans come in order and do not overlap
* `Runs.tiled`: the text of a finished run is tiled by its lexemes
* `Lexer.lossless_of_scan_eq_ok`: a successful scan loses nothing of its source, and its tokens are
  the lexemes with the verdict to emit them
-/

namespace ChainLexer.Text

/-- The text between two boundaries is what stands there. -/
theorem sliceBytes?_append (before text after : List Char) :
    sliceBytes? (before ++ text ++ after) (byteLength before)
      (byteLength before + byteLength text) = some text := by
  rw [sliceBytes?, if_pos (Nat.le_add_right _ _), List.append_assoc, splitBytes?_append,
    Option.bind_some, Nat.add_sub_cancel_left, splitBytes?_append]
  rfl

end ChainLexer.Text

namespace ChainLexer.Source

open ChainLexer.Text

/-- The span of a cursor names its pending lexeme. -/
theorem Cursor.slice?_span (c : Cursor) : c.span.slice? c.source = some c.lexeme := by
  obtain ⟨dropped, hsource, hstart⟩ := c.split
  have hspan : c.span = ⟨byteLength dropped, byteLength dropped + byteLength c.pending⟩ := by
    rw [Cursor.span, Cursor.position, hstart]
  rw [Span.slice?, hspan, hsource, sliceBytes?_append]
  rfl

end ChainLexer.Source

namespace ChainLexer.Scan

open ChainLexer.Grammar ChainLexer.Settings ChainLexer.Source ChainLexer.Text

variable {T : Type}

/-! ### Places of lexemes

These facts hold of every run, whether it fails or not. -/

section Places

variable {marker : Marker} {registry : Registry T} {m : Memory} {c c' : Cursor} {r : Run T}
  {w : Lexeme} {span : Span}

/-- The span of the next lexeme names it. -/
theorem Reaches.slice?_span (h : Reaches marker c w span c') :
    span.slice? c.source = some w.toString := by
  have hslice := ((skipTrivia marker c).move w.text.length).slice?_span
  have hlexeme : ((skipTrivia marker c).move w.text.length).lexeme = w.toString := by
    rw [Cursor.lexeme, Cursor.pending_move, pending_skipTrivia, h.rest_eq, List.take_left,
      List.nil_append, Lexeme.toString]
  rw [span_move_skipTrivia h.rest_eq, ← h.span_eq, hlexeme] at hslice
  exact hslice

/-- **The span of a lexeme names the lexeme.** -/
theorem Runs.slice?_span (h : Runs marker registry m c r) :
    ∀ x ∈ r.resolutions, x.span.slice? c.source = some x.lexeme.toString := by
  refine h.forall_resolutions (fun c x => x.span.slice? c.source = some x.lexeme.toString)
    (fun hreach => hreach.slice?_span) fun hreach hx => ?_
  rw [← hreach.source_eq]
  exact hx

/-- No lexeme that is reached starts before the cursor. -/
theorem Reaches.position_le_start (h : Reaches marker c w span c') : c.position ≤ span.start := by
  obtain ⟨mark, gap, -, -, -, -, hposition⟩ := skipTrivia_spec marker c
  rw [h.span_eq]
  exact show c.position ≤ (skipTrivia marker c).position by omega

theorem Runs.position_le_start (h : Runs marker registry m c r) :
    ∀ x ∈ r.resolutions, c.position ≤ x.span.start := by
  refine h.forall_resolutions (fun c x => c.position ≤ x.span.start)
    (fun hreach => hreach.position_le_start) fun hreach hx => ?_
  have hle := hreach.position_le_start
  have hlt := hreach.start_lt_stop
  have hposition := hreach.position_eq
  omega

/-- **Spans come in order and do not overlap.** -/
theorem Runs.pairwise_span (h : Runs marker registry m c r) :
    r.resolutions.Pairwise fun x y => x.span.stop ≤ y.span.start := by
  induction h with
  | finished | blocked => exact .nil
  | refused => exact List.pairwise_singleton _ _
  | resolved hreach _ hrest ih =>
    refine List.pairwise_cons.2 ⟨fun y hy => ?_, ih⟩
    have := hrest.position_le_start y hy
    rwa [hreach.position_eq] at this

end Places

/-! ### Tilings -/

/-- A text from the byte offset `n` on as gaps and lexemes in turn, the lexemes with their spans. -/
inductive Tiled (m : Marker) : Nat → List Char → List (Lexeme × Span) → Prop
  /-- The last gap. -/
  | finish {n : Nat} {gap : List Char} (hgap : Gap m [] gap) : Tiled m n gap []
  /-- A gap and a lexeme, and then the rest. -/
  | lexeme {n : Nat} {gap rest : List Char} {w : Lexeme} {span : Span}
      {ws : List (Lexeme × Span)} (hgap : Gap m (w.text ++ rest) gap) (hshape : w.WellShaped)
      (hspan : span = ⟨n + byteLength gap, n + byteLength gap + byteLength w.text⟩)
      (hrest : Tiled m span.stop rest ws) : Tiled m n (gap ++ w.text ++ rest) ((w, span) :: ws)

/-- **The text of a finished run is tiled by its lexemes.** Only at the beginning of a source can a
byte order mark stand before the tiling: after a lexeme the cursor is no longer there. -/
theorem Runs.tiled {marker : Marker} {registry : Registry T} {m m' : Memory} {c c' : Cursor}
    {r : Run T} (h : Runs marker registry m c r) (hend : r.ending = .finished c' m') :
    ∃ mark text, c.rest = mark ++ text ∧
      (mark = [] ∨ (mark = [byteOrderMark] ∧ c.position = 0)) ∧
      Tiled marker (c.position + byteLength mark) text r.lexemes := by
  induction h with
  | @finished m c hrest =>
    obtain ⟨mark, gap, hsplit, hmark, hgap, -, -⟩ := skipTrivia_spec marker c
    rw [hrest, List.append_nil] at hsplit
    exact ⟨mark, gap, hsplit, hmark, .finish (hrest ▸ hgap)⟩
  | blocked | refused => cases hend
  | @resolved m c c₁ w span token rest hreach hout _ ih =>
    obtain ⟨mark, gap, hsplit, hmark, hgap, -, hposition⟩ := skipTrivia_spec marker c
    obtain ⟨mark₁, text, hsplit₁, hmark₁, htiled⟩ := ih hend
    have hpos : c₁.position ≠ 0 := by
      have := hreach.position_eq
      have := hreach.start_lt_stop
      omega
    obtain rfl : mark₁ = [] := hmark₁.resolve_right fun h => hpos h.2
    have hspan := hreach.span_eq
    rw [hposition, byteLength_append, ← Nat.add_assoc] at hspan
    rw [hreach.rest_eq, hsplit₁, List.nil_append] at hsplit hgap
    rw [byteLength_nil, Nat.add_zero, hreach.position_eq] at htiled
    refine ⟨mark, gap ++ w.text ++ text, by simpa using hsplit, hmark, ?_⟩
    exact .lexeme hgap hreach.stands.shaped hspan htiled

/-! ### Tokens of a successful run -/

/-- The token of a lexeme with the verdict to emit it. -/
def Resolution.emitted? (r : Resolution T) : Option (Token T) :=
  match r.verdict with
  | some (.emit kind) => some ⟨kind, r.lexeme.toString, r.span, r.lexeme.value?.join⟩
  | _ => none

/-- A resolution without a fault has a verdict, and its token is the one that was emitted. -/
theorem Resolution.of_outcome_eq_ok {r : Resolution T} {token : Option (Token T)}
    (h : r.outcome = .ok token) : r.verdict.isSome ∧ r.token? = r.emitted? := by
  rw [token?, h, emitted?]
  rw [outcome] at h
  split at h
  · cases h
  · next verdict hverdict =>
    rw [hverdict]
    split at h
    · cases h
    · next value hvalue =>
      cases h
      refine ⟨rfl, ?_⟩
      cases verdict with
      | emit kind => simp [tokenFor, hvalue]
      | skip => rfl

/-- A run that finishes has no fault on its way. -/
theorem Runs.outcome_eq_ok {marker : Marker} {registry : Registry T} {m m' : Memory} {c c' : Cursor}
    {r : Run T} (h : Runs marker registry m c r) (hend : r.ending = .finished c' m') :
    ∀ x ∈ r.resolutions, ∃ token, x.outcome = .ok token := by
  induction h with
  | finished => simp
  | blocked | refused => cases hend
  | resolved _ hout _ ih =>
    intro x hx
    rcases List.mem_cons.1 hx with rfl | hx
    · exact ⟨_, hout⟩
    · exact ih hend x hx

/-! ### Successful scans -/

/-- A run over a source that loses nothing, with the tokens that come of it. -/
structure Lossless (m : Marker) (source : String) (run : Run T) (tokens : List (Token T)) :
    Prop where
  /-- The source is tiled by the lexemes that were shown to the chains, behind a byte order mark if
  there is one. -/
  tiled : ∃ mark text, source.toList = mark ++ text ∧ (mark = [] ∨ mark = [byteOrderMark]) ∧
    Tiled m (byteLength mark) text run.lexemes
  /-- Every one of these lexemes was emitted or skipped. -/
  verdict_isSome : ∀ r ∈ run.resolutions, r.verdict.isSome
  /-- The tokens are those that were emitted, in order. -/
  tokens_eq : tokens = run.resolutions.filterMap Resolution.emitted?
  /-- The span of a token names its lexeme, which is not empty. -/
  slice?_span : ∀ t ∈ tokens, t.span.slice? source = some t.lexeme ∧ t.lexeme ≠ ""
  /-- Tokens do not overlap, and come in the order of the source. -/
  pairwise_span : tokens.Pairwise fun t u => t.span.stop ≤ u.span.start

/-- An emitted token has the characters and the place of its lexeme. -/
theorem Resolution.of_emitted?_eq_some {r : Resolution T} {t : Token T}
    (h : r.emitted? = some t) : t.lexeme = r.lexeme.toString ∧ t.span = r.span := by
  rw [emitted?] at h
  split at h
  · cases h
    exact ⟨rfl, rfl⟩
  · cases h

/-- The lexemes of a run are lexemes of the grammar. -/
theorem Runs.wellShaped {marker : Marker} {registry : Registry T} {m : Memory} {c : Cursor}
    {r : Run T} (h : Runs marker registry m c r) :
    ∀ x ∈ r.resolutions, x.lexeme.WellShaped :=
  h.forall_resolutions (fun _ x => x.lexeme.WellShaped) (fun hreach => hreach.stands.shaped)
    fun _ hx => hx

/-- A derivation from the beginning of a source loses nothing, if it finishes. -/
theorem Runs.lossless {marker : Marker} {registry : Registry T} {m m' : Memory} {source : String}
    {c' : Cursor} {r : Run T} (h : Runs marker registry m (.ofString source) r)
    (hend : r.ending = .finished c' m') : Lossless marker source r r.tokens := by
  have hout := h.outcome_eq_ok hend
  have htokens : r.tokens = r.resolutions.filterMap Resolution.emitted? := by
    refine List.filterMap_congr fun x hx => ?_
    obtain ⟨token, hx⟩ := hout x hx
    exact (Resolution.of_outcome_eq_ok hx).2
  refine ⟨?_, fun x hx => ?_, htokens, fun t ht => ?_, ?_⟩
  · obtain ⟨mark, text, hsplit, hmark, htiled⟩ := h.tiled hend
    rw [Cursor.position_ofString, Nat.zero_add] at htiled
    exact ⟨mark, text, hsplit, hmark.imp_right And.left, htiled⟩
  · obtain ⟨token, hx⟩ := hout x hx
    exact (Resolution.of_outcome_eq_ok hx).1
  · rw [htokens] at ht
    obtain ⟨x, hx, hxt⟩ := List.mem_filterMap.1 ht
    obtain ⟨hlexeme, hspan⟩ := Resolution.of_emitted?_eq_some hxt
    rw [hspan, hlexeme]
    refine ⟨h.slice?_span x hx, fun hempty => ?_⟩
    have hne := (h.wellShaped x hx).text_ne_nil
    exact hne (String.ofList_eq_empty_iff.1 hempty)
  · rw [htokens, List.pairwise_filterMap]
    refine h.pairwise_span.imp fun {x y} hxy t ht u hu => ?_
    rw [(Resolution.of_emitted?_eq_some ht).2, (Resolution.of_emitted?_eq_some hu).2]
    exact hxy

end ChainLexer.Scan

namespace ChainLexer.Lexer

open ChainLexer.Grammar ChainLexer.Scan ChainLexer.Settings

variable {T : Type}

/-- **A successful scan loses nothing.** Whatever the settings and the classifiers, the source is an
optional byte order mark and then gaps and lexemes in turn, the lexemes being those that were shown
to the chains, and the tokens are the lexemes with the verdict to emit them. -/
theorem lossless_of_scan_eq_ok {source : String} {config : Config} {lexer : Lexer T}
    (hlexer : withConfig source config = .ok lexer) (registry : Registry T)
    {tokens : List (Token T)} (hscan : (lexer.withRegistry registry).scan.1 = .ok tokens) :
    ∃ m : Marker, m.text = config.lineComment ∧
      Lossless m source (lexer.withRegistry registry).run tokens := by
  obtain ⟨m, htext, rfl⟩ := withConfig_eq_ok_iff.1 hlexer
  obtain ⟨⟨c, m', hend⟩, rfl⟩ := Run.result_eq_ok_iff.1 hscan
  exact ⟨m, htext, (runs_withMarker source m registry).lossless hend⟩

/-- The kind of every lexeme is its category, and line feeds are skipped. -/
def categoryRegistry : Registry Category :=
  Registry.empty.registerEach fun category lexeme _ =>
    if lexeme = "\n" then .skip else .emit category

/-- A source with a byte order mark, a comment, a line feed that is skipped and an escaped quote. -/
theorem lossless_of_scan_eq_ok_marked :
    ∃ tokens,
      ((ofSource "\ufeffé -- c\n\"\\\"\" 7").withRegistry categoryRegistry).scan.1 = .ok tokens ∧
      ∃ m : Marker, m.text = "--" ∧
        Lossless m "\ufeffé -- c\n\"\\\"\" 7"
          ((ofSource "\ufeffé -- c\n\"\\\"\" 7").withRegistry categoryRegistry).run tokens := by
  have hok : ((ofSource "\ufeffé -- c\n\"\\\"\" 7").withRegistry
      categoryRegistry).scan.1.isOk = true := by
    decide +kernel
  cases hscan : ((ofSource "\ufeffé -- c\n\"\\\"\" 7").withRegistry categoryRegistry).scan.1 with
  | error fault => rw [hscan] at hok; cases hok
  | ok tokens =>
    exact ⟨tokens, rfl, lossless_of_scan_eq_ok (withConfig_customary _) categoryRegistry hscan⟩

end ChainLexer.Lexer
