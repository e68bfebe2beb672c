import ChainLexer.Lexer
import ChainLexer.Proofs.Lexemes
import ChainLexer.Proofs.Trivia

/-!
# Runs as derivations

`run` is a function by well-founded recursion, and every fact about whole runs would repeat the same
unfolding of `next` and `resolve`. `Runs` is the relation beside it: one rule for each way in which a
run can begin, stated with the grammar of lexemes and gaps instead of with the functions that cut
them. `runs_run` connects the two, and `Runs.eq_run` says that the rules leave no choice.

The rules do not ask for a steady memory. That the memory stays steady is settled once, in
`runs_run`, and an induction over `Runs` needs no invariant for it.

## Main definitions

* `Reaches`: the next lexeme from a cursor, with its span and the cursor after it
* `Run.lexemes`: the lexemes that a run has shown to the chains, with their spans
* `Runs`: the derivations of runs
* `Lexer.withRegistry`: a lexer with other classifiers

## Main results

* `next_eq_found_iff`: the next lexeme is the one that the grammar reaches
* `runs_run`: every run from a steady memory has a derivation
* `Runs.forall_resolutions`: what holds of all resolutions of a run
-/

namespace ChainLexer.Scan

open ChainLexer.Grammar ChainLexer.Settings ChainLexer.Source ChainLexer.Text

variable {T : Type}

/-! ### The next lexeme -/

/-- From the cursor `c`, the lexeme `w` with the given span comes next, and `c'` is the cursor after
it. -/
structure Reaches (marker : Marker) (c : Cursor) (w : Lexeme) (span : Span) (c' : Cursor) :
    Prop where
  /-- The lexeme is what follows the trivia. -/
  rest_eq : (skipTrivia marker c).rest = w.text ++ c'.rest
  /-- It is a lexeme of the grammar. -/
  stands : w.StandsBefore marker c'.rest
  /-- The span starts after the trivia and is as long as the lexeme. -/
  span_eq : span = ⟨(skipTrivia marker c).position,
    (skipTrivia marker c).position + byteLength w.text⟩
  /-- The cursor has moved over the lexeme. -/
  cursor_eq : c' = ((skipTrivia marker c).move w.text.length).skip

theorem pending_skipTrivia (marker : Marker) (c : Cursor) : (skipTrivia marker c).pending = [] := rfl

theorem start_skipTrivia (marker : Marker) (c : Cursor) :
    (skipTrivia marker c).start = (skipTrivia marker c).position := by
  simp [skipTrivia]

section Reaches

variable {marker : Marker} {c c' : Cursor} {w : Lexeme} {span : Span}

theorem Reaches.source_eq (h : Reaches marker c w span c') : c'.source = c.source := by
  rw [h.cursor_eq]
  rfl

theorem Reaches.position_eq (h : Reaches marker c w span c') : c'.position = span.stop := by
  rw [h.span_eq, h.cursor_eq, Cursor.position_skip, Cursor.position_move, h.rest_eq,
    List.take_left]

/-- A lexeme is never empty, so its span is not either. -/
theorem Reaches.start_lt_stop (h : Reaches marker c w span c') : span.start < span.stop := by
  have hpos := List.length_pos_iff.2 h.stands.shaped.text_ne_nil
  have hle := length_le_byteLength w.text
  rw [h.span_eq]
  exact show (skipTrivia marker c).position
    < (skipTrivia marker c).position + byteLength w.text by omega

/-- After a lexeme the beginning of the source is behind, where alone a byte order mark is skipped. -/
theorem Reaches.position_ne_zero (h : Reaches marker c w span c') : c'.position ≠ 0 := by
  have hposition := h.position_eq
  have hlt := h.start_lt_stop
  omega

theorem Reaches.length_rest_lt (h : Reaches marker c w span c') :
    c'.rest.length < c.rest.length := by
  have hpos := List.length_pos_iff.2 h.stands.shaped.text_ne_nil
  have hle : (skipTrivia marker c).rest.length ≤ c.rest.length := by
    simp [rest_skipTrivia]
  rw [h.rest_eq, List.length_append] at hle
  omega

/-- The pieces of the grammar at the front of the remaining text determine the step. -/
theorem Reaches.of_rest {rest : List Char} (hrest : (skipTrivia marker c).rest = w.text ++ rest)
    (hw : w.StandsBefore marker rest) :
    Reaches marker c w
      ⟨(skipTrivia marker c).position, (skipTrivia marker c).position + byteLength w.text⟩
      ((skipTrivia marker c).move w.text.length).skip where
  rest_eq := by simp [hrest]
  stands := by simpa [hrest] using hw
  span_eq := rfl
  cursor_eq := rfl

end Reaches

/-! ### What `next` finds -/

section Next

variable {marker : Marker} {m : Memory} {c c' : Cursor} {w : Lexeme} {span : Span}

theorem next_of_nil (h : (skipTrivia marker c).rest = []) :
    next marker m c = .finished (skipTrivia marker c) := by
  simp [next, h]

theorem next_of_cons {first : Char} {others : List Char}
    (h : (skipTrivia marker c).rest = first :: others) :
    next marker m c =
      match Lexeme.recognise marker m first others with
      | .error obstacle => .blocked (obstacle.faultAt (skipTrivia marker c).position)
      | .ok (w, m) =>
        .found w ((skipTrivia marker c).move w.text.length).span m
          ((skipTrivia marker c).move w.text.length).skip := by
  cases hrecognise : Lexeme.recognise marker m first others with
  | error obstacle => simp only [next, h, hrecognise]
  | ok found => simp only [next, h, hrecognise]

theorem next_of_obstacle (hm : m.Steady) {first : Char} {others : List Char} {obstacle : Obstacle}
    (h : (skipTrivia marker c).rest = first :: others)
    (hblocked : Lexeme.recognise marker .fresh first others = .error obstacle) :
    next marker m c = .blocked (obstacle.faultAt (skipTrivia marker c).position) := by
  rw [next_of_cons h, Lexeme.recognise_eq_map_recognise hm, hblocked]
  rfl

/-- The span that is taken from the cursor is that of the lexeme. -/
theorem span_move_skipTrivia {rest : List Char}
    (h : (skipTrivia marker c).rest = w.text ++ rest) :
    ((skipTrivia marker c).move w.text.length).span =
      ⟨(skipTrivia marker c).position, (skipTrivia marker c).position + byteLength w.text⟩ := by
  rw [Cursor.span, Cursor.position_move, Cursor.start_move, start_skipTrivia, h, List.take_left]

theorem next_of_reaches (hm : m.Steady) (h : Reaches marker c w span c') :
    next marker m c = .found w span (w.memoryAfter m) c' := by
  obtain ⟨first, others, hcons⟩ : ∃ first others, w.text ++ c'.rest = first :: others :=
    List.exists_cons_of_ne_nil (by simp [h.stands.shaped.text_ne_nil])
  rw [next_of_cons (h.rest_eq.trans hcons), Lexeme.recognise_of_standsBefore h.stands hm hcons]
  simp only [span_move_skipTrivia h.rest_eq]
  rw [← h.span_eq, ← h.cursor_eq]

theorem reaches_of_next (hm : m.Steady) {m' : Memory} (h : next marker m c = .found w span m' c') :
    Reaches marker c w span c' ∧ m' = w.memoryAfter m := by
  cases hrest : (skipTrivia marker c).rest with
  | nil => rw [next_of_nil hrest] at h; cases h
  | cons first others =>
    rw [next_of_cons hrest] at h
    split at h
    · cases h
    · next w' m'' hw =>
      obtain ⟨⟨rest, heq, hstands⟩, rfl⟩ := (Lexeme.recognise_eq_ok_iff hm).1 hw
      have hsplit := hrest.trans heq.symm
      cases h
      rw [span_move_skipTrivia hsplit]
      exact ⟨Reaches.of_rest hsplit hstands, rfl⟩

/-- **The next lexeme is the one that the grammar reaches.** -/
theorem next_eq_found_iff (hm : m.Steady) {m' : Memory} :
    next marker m c = .found w span m' c' ↔
      Reaches marker c w span c' ∧ m' = w.memoryAfter m := by
  constructor
  · exact reaches_of_next hm
  · rintro ⟨h, rfl⟩
    exact next_of_reaches hm h

end Next

/-! ### What a run shows and returns -/

/-- The lexemes that a run has shown to the chains, with their spans. -/
def Run.lexemes (run : Run T) : List (Lexeme × Span) :=
  run.resolutions.map fun r => (r.lexeme, r.span)

theorem Run.tokens_cons (x : Resolution T) (run : Run T) :
    (run.cons x).tokens = x.token?.toList ++ run.tokens := by
  show (x :: run.resolutions).filterMap Resolution.token? = _
  rw [List.filterMap_cons]
  cases x.token? <;> rfl

/-- A result of tokens means that the run has finished, and these are its tokens. -/
theorem Run.result_eq_ok_iff {run : Run T} {tokens : List (Token T)} :
    run.result = .ok tokens ↔ (∃ c m, run.ending = .finished c m) ∧ run.tokens = tokens := by
  rw [Run.result]
  cases run.ending with
  | finished c m => simp
  | failed fault => simp

theorem Run.result_eq_error_iff {run : Run T} {fault : Fault} :
    run.result = .error fault ↔ run.ending = .failed fault := by
  rw [Run.result]
  cases run.ending with
  | finished c m => simp
  | failed fault' => simp

/-- A lexeme without a verdict is reported, whatever its value. -/
theorem Resolution.outcome_of_decline {r : Resolution T} (h : r.verdict = none) :
    r.outcome = .error (.unrecognized r.lexeme.category r.lexeme.toString r.span) := by
  rw [outcome, h]

/-- A lexeme with a verdict but without a value is too large, whatever the verdict. -/
theorem Resolution.outcome_of_tooLarge {r : Resolution T} (h : r.verdict.isSome)
    (hvalue : r.lexeme.value? = none) :
    r.outcome = .error (.overflow r.lexeme.toString r.span) := by
  obtain ⟨verdict, hverdict⟩ := Option.isSome_iff_exists.1 h
  rw [outcome, hverdict]
  simp only [hvalue]

/-- A lexeme with a verdict and a value comes to what the verdict makes of it. -/
theorem Resolution.outcome_of_verdict {r : Resolution T} {verdict : Verdict T}
    {value : Option Value} (h : r.verdict = some verdict) (hvalue : r.lexeme.value? = some value) :
    r.outcome = .ok (r.tokenFor value verdict) := by
  rw [outcome, h]
  simp only [hvalue]

section Emitted

variable {r : Resolution T} {kind : T} (hkind : r.verdict = some (.emit kind))

include hkind

/-- What comes of an emitted lexeme depends on its value alone: without one it is too large. -/
theorem Resolution.outcome_of_overflow (hvalue : r.lexeme.value? = none) :
    r.outcome = .error (.overflow r.lexeme.toString r.span) :=
  outcome_of_tooLarge (by rw [hkind]; rfl) hvalue

theorem Resolution.outcome_of_value {value : Option Value} (hvalue : r.lexeme.value? = some value) :
    r.outcome = .ok (some ⟨kind, r.lexeme.toString, r.span, value⟩) :=
  outcome_of_verdict hkind hvalue

end Emitted

/-! ### Derivations -/

/-- The derivations of runs from a memory and a cursor, by what stands at the cursor: nothing,
something that is no lexeme, a lexeme that is a fault, or a lexeme after which the run goes on. -/
inductive Runs (marker : Marker) (registry : Registry T) : Memory → Cursor → Run T → Prop
  /-- Only trivia is left. -/
  | finished {m : Memory} {c : Cursor} (hrest : (skipTrivia marker c).rest = []) :
      Runs marker registry m c ⟨[], .finished (skipTrivia marker c) m⟩
  /-- No lexeme can be read. -/
  | blocked {m : Memory} {c : Cursor} {first : Char} {others : List Char} {obstacle : Obstacle}
      (hrest : (skipTrivia marker c).rest = first :: others)
      (hblocked : Lexeme.recognise marker .fresh first others = .error obstacle) :
      Runs marker registry m c ⟨[], .failed (obstacle.faultAt (skipTrivia marker c).position)⟩
  /-- The resolution of the next lexeme is a fault. -/
  | refused {m : Memory} {c c' : Cursor} {w : Lexeme} {span : Span} {fault : Fault}
      (hreach : Reaches marker c w span c')
      (hout : (resolve registry (w.memoryAfter m) w span).1.outcome = .error fault) :
      Runs marker registry m c ⟨[(resolve registry (w.memoryAfter m) w span).1], .failed fault⟩
  /-- The next lexeme is resolved, and the run goes on after it. -/
  | resolved {m : Memory} {c c' : Cursor} {w : Lexeme} {span : Span} {token : Option (Token T)}
      {rest : Run T} (hreach : Reaches marker c w span c')
      (hout : (resolve registry (w.memoryAfter m) w span).1.outcome = .ok token)
      (hrest : Runs marker registry (resolve registry (w.memoryAfter m) w span).2 c' rest) :
      Runs marker registry m c (rest.cons (resolve registry (w.memoryAfter m) w span).1)

/-- **Every run from a steady memory has a derivation.** The induction is on the length of what is
left, which every lexeme shortens. -/
theorem runs_run (marker : Marker) (registry : Registry T) {m : Memory} (hm : m.Steady)
    (c : Cursor) : Runs marker registry m c (run marker registry m c) := by
  induction hn : c.rest.length using Nat.strongRecOn generalizing m c with
  | ind n ih =>
    cases hrest : (skipTrivia marker c).rest with
    | nil =>
      rw [run_of_finished registry (next_of_nil hrest)]
      exact .finished hrest
    | cons first others =>
      have hnext := next_of_cons (m := m) hrest
      cases hrec : Lexeme.recognise marker m first others with
      | error obstacle =>
        rw [hrec] at hnext
        rw [run_of_blocked registry hnext]
        rw [Lexeme.recognise_eq_map_recognise hm] at hrec
        refine .blocked hrest ?_
        cases hfresh : Lexeme.recognise marker .fresh first others with
        | error obstacle' => rw [hfresh] at hrec; cases hrec; rfl
        | ok found => rw [hfresh] at hrec; cases hrec
      | ok found =>
        obtain ⟨w, m'⟩ := found
        rw [hrec] at hnext
        obtain ⟨hreach, rfl⟩ := reaches_of_next hm hnext
        rw [run_of_found registry hnext]
        split
        · next fault hout => exact .refused hreach hout
        · next token hout =>
          have hlt := hreach.length_rest_lt
          have hsteady := (Lexeme.steady_memoryAfter hm w).resolve registry w
            ((skipTrivia marker c).move w.text.length).span
          exact .resolved hreach hout (ih _ (by omega) hsteady _ rfl)

/-- **What holds of all resolutions of a run.** It is enough that it holds of a lexeme where it is
reached, and that it does not get lost when the run is taken to begin one lexeme earlier. -/
theorem Runs.forall_resolutions {marker : Marker} {registry : Registry T} {m : Memory} {c : Cursor}
    {r : Run T} (h : Runs marker registry m c r) (P : Cursor → Resolution T → Prop)
    (hreached : ∀ {m c w span c'}, Reaches marker c w span c' →
      P c (resolve registry (w.memoryAfter m) w span).1)
    (hearlier : ∀ {c w span c' x}, Reaches marker c w span c' → P c' x → P c x) :
    ∀ x ∈ r.resolutions, P c x := by
  induction h with
  | finished | blocked => simp
  | refused hreach _ =>
    intro x hx
    obtain rfl := List.mem_singleton.1 hx
    exact hreached hreach
  | resolved hreach _ _ ih =>
    intro x hx
    rcases List.mem_cons.1 hx with rfl | hx
    · exact hreached hreach
    · exact hearlier hreach (ih x hx)

/-- The rules leave no choice: a derivation is that of the run. -/
theorem Runs.eq_run {marker : Marker} {registry : Registry T} {m : Memory} {c : Cursor} {r : Run T}
    (h : Runs marker registry m c r) (hm : m.Steady) : r = run marker registry m c := by
  induction h with
  | finished hrest => rw [run_of_finished registry (next_of_nil hrest)]
  | blocked hrest hblocked => rw [run_of_blocked registry (next_of_obstacle hm hrest hblocked)]
  | @refused m c c' w span fault hreach hout =>
    rw [run_of_found registry (next_of_reaches hm hreach), hout]
  | @resolved m c c' w span token rest hreach hout _ ih =>
    have hsteady := (Lexeme.steady_memoryAfter hm w).resolve registry w span
    rw [run_of_found registry (next_of_reaches hm hreach), hout, ← ih hsteady]

end ChainLexer.Scan

namespace ChainLexer.Settings

/-- Settings are valid when their text is that of a marker. -/
theorem Config.marker_eq_ok_iff {config : Config} {m : Marker} :
    config.marker = .ok m ↔ m.text = config.lineComment := by
  rw [Config.marker, Marker.ofString?]
  constructor
  · intro h
    split at h
    · next m' hm' =>
      cases h
      rw [Marker.text, Marker.toList_of_ofList? hm', String.ofList_toList]
    · cases h
  · intro h
    have hlist : config.lineComment.toList = m.toList := by
      rw [← h, Marker.text, String.toList_ofList]
    rw [hlist, Marker.ofList?_toList]

end ChainLexer.Settings

namespace ChainLexer.Lexer

open ChainLexer.Grammar ChainLexer.Scan ChainLexer.Settings

variable {T : Type}

/-! ### Lexers with given settings and classifiers -/

/-- The lexer with the given classifiers in place of its own. -/
def withRegistry (lexer : Lexer T) (registry : Registry T) : Lexer T :=
  { lexer with registry := registry }

/-- A lexer with valid settings is the one of their marker. -/
theorem withConfig_eq_ok_iff {source : String} {config : Config} {lexer : Lexer T} :
    withConfig source config = .ok lexer ↔
      ∃ m : Marker, m.text = config.lineComment ∧ lexer = withMarker source m := by
  rw [withConfig]
  constructor
  · intro h
    cases hmarker : config.marker with
    | error e => rw [hmarker] at h; cases h
    | ok m =>
      rw [hmarker] at h
      cases h
      exact ⟨m, Config.marker_eq_ok_iff.1 hmarker, rfl⟩
  · rintro ⟨m, htext, rfl⟩
    rw [Config.marker_eq_ok_iff.2 htext]
    rfl

/-- Lexers with the same settings differ in their sources alone. -/
theorem eq_withMarker_of_withConfig {source source' : String} {config : Config}
    {lexer lexer' : Lexer T} (h : withConfig source config = .ok lexer)
    (h' : withConfig source' config = .ok lexer') : lexer' = withMarker source' lexer.marker := by
  obtain ⟨m, htext, rfl⟩ := withConfig_eq_ok_iff.1 h
  obtain ⟨m', htext', rfl⟩ := withConfig_eq_ok_iff.1 h'
  obtain rfl : m = m' :=
    Except.ok.inj ((Config.marker_eq_ok_iff.2 htext).symm.trans (Config.marker_eq_ok_iff.2 htext'))
  rfl

/-- The customary settings are valid. -/
theorem withConfig_customary (source : String) :
    (withConfig source {} : Except ConfigError (Lexer T)) = .ok (ofSource source) :=
  withConfig_eq_ok_iff.2 ⟨.hyphens, rfl, rfl⟩

/-- The derivation of a run of a lexer at the beginning of its source. -/
theorem runs_withMarker (source : String) (m : Marker) (registry : Registry T) :
    Runs m registry .fresh (.ofString source) ((withMarker source m).withRegistry registry).run :=
  runs_run m registry Memory.steady_fresh _

end ChainLexer.Lexer
