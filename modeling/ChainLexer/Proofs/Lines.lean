import ChainLexer.Proofs.Locality
import ChainLexer.Proofs.Qualifier
import Mathlib.Data.List.Basic

/-!
# Scanning line by line

A source can be scanned in two parts when the second part begins with a line feed. If the first part
is scanned with success and leaves the plain context behind, then the whole source has the tokens of
the first part, and then those of the second part, which stand so many bytes later.

## Two facts about runs

Neither part of the run is the run of that part literally, and each differs in one respect.

* Over the first part, the text goes on where it used to end. `Runs.append_line` says that the run
  takes the same steps, up to the line feed.
* Over the second part, the run starts at another offset and with another memory. `Runs.displaced`
  says that the offset only moves the places of lexemes and faults, and that of the memory only the
  context counts: the note of the last escape is overwritten before it is read, and the mark of a
  write is taken off before every resolution.

A byte order mark is skipped at the beginning of a source and nowhere else. It cannot tell the two
parts apart, because the second part begins with a line feed.

## Main definitions

* `Token.shift`, `Fault.shift`, `Resolution.shift`: the same so many bytes later
* `Displaced`: a cursor before the same text in another place
* `Run.Displaced`: a run that takes the same steps in another place

## Main results

* `Runs.displaced`: a run takes the same steps in another place
* `Runs.append_line`: a run goes on where another line follows
* `Lexer.scan_append_line`: the scan of a source in two parts
-/

namespace ChainLexer.Scan

open ChainLexer.Grammar ChainLexer.Settings ChainLexer.Source ChainLexer.Text

variable {T : Type}

/-! ### The same so many bytes later -/

/-- The token so many bytes later. -/
def Token.shift (n : Nat) (t : Token T) : Token T := { t with span := t.span.shift n }

/-- The fault so many bytes later. -/
def Fault.shift (n : Nat) : Fault → Fault
  | unrecognized category lexeme span => unrecognized category lexeme (span.shift n)
  | unexpected char position => unexpected char (position + n)
  | unterminated start => unterminated (start + n)
  | overflow lexeme span => overflow lexeme (span.shift n)

theorem Obstacle.faultAt_add (obstacle : Obstacle) (position n : Nat) :
    obstacle.faultAt (position + n) = (obstacle.faultAt position).shift n := by
  cases obstacle <;> rfl

namespace Resolution

/-- The resolution so many bytes later. -/
def shift (n : Nat) (r : Resolution T) : Resolution T := { r with span := r.span.shift n }

/-- What comes of a lexeme comes of it so many bytes later, too. -/
theorem outcome_shift (n : Nat) (r : Resolution T) :
    (r.shift n).outcome =
      (r.outcome.map (Option.map (Token.shift n))).mapError (Fault.shift n) := by
  have hverdict : (r.shift n).verdict = r.verdict := rfl
  have hlexeme : (r.shift n).lexeme = r.lexeme := rfl
  rw [outcome, outcome, hverdict, hlexeme]
  cases r.verdict with
  | none => rfl
  | some verdict =>
    cases r.lexeme.value? with
    | none => rfl
    | some value => cases verdict <;> rfl

theorem token?_shift (n : Nat) (r : Resolution T) :
    (r.shift n).token? = r.token?.map (Token.shift n) := by
  rw [token?, token?, outcome_shift]
  cases r.outcome <;> rfl

end Resolution

/-- A resolution depends on the memory through the context alone, and not on the place. -/
theorem resolve_shift (registry : Registry T) {m m' : Memory} (hm : m'.context = m.context)
    (w : Lexeme) (span : Span) (n : Nat) :
    (resolve registry m' w (span.shift n)).1 = (resolve registry m w span).1.shift n ∧
      (resolve registry m' w (span.shift n)).2.context = (resolve registry m w span).2.context := by
  have hresolution :
      (resolve registry m' w (span.shift n)).1 = (resolve registry m w span).1.shift n := by
    have hunmarked : m'.unmarked.context = m.unmarked.context := hm
    rw [resolve, resolve, hunmarked]
    rfl
  refine ⟨hresolution, ?_⟩
  rw [context_resolve, context_resolve, hresolution]
  rfl

/-! ### Runs in another place -/

/-- The cursors stand before the same text once the trivia is skipped, `d` so many bytes later than
`c`. -/
structure Displaced (marker : Marker) (n : Nat) (c d : Cursor) : Prop where
  rest_eq : (skipTrivia marker d).rest = (skipTrivia marker c).rest
  position_eq : (skipTrivia marker d).position = (skipTrivia marker c).position + n

/-- Away from the beginning of a source it is enough that the text is the same. -/
theorem displaced_of_position_ne_zero (marker : Marker) {n : Nat} {c d : Cursor}
    (hc : c.position ≠ 0) (hrest : d.rest = c.rest) (hposition : d.position = c.position + n) :
    Displaced marker n c d := by
  have hcstart : (c.position == 0) = false := beq_false_of_ne hc
  have hdstart : (d.position == 0) = false := beq_false_of_ne (by omega)
  constructor
  · rw [rest_skipTrivia, rest_skipTrivia, hcstart, hdstart, hrest]
  · rw [position_skipTrivia, position_skipTrivia, hcstart, hdstart, hrest, hposition]
    omega

/-- **A step in another place.** -/
theorem Displaced.reaches {marker : Marker} {n : Nat} {c c' d : Cursor} {w : Lexeme} {span : Span}
    (h : Displaced marker n c d) (hreach : Reaches marker c w span c') :
    ∃ d', Reaches marker d w (span.shift n) d' ∧ Displaced marker n c' d' := by
  obtain ⟨d', hreach', hrest, hposition⟩ :=
    hreach.transfer h.position_eq (h.rest_eq.trans hreach.rest_eq) hreach.stands
  exact ⟨d', hreach',
    displaced_of_position_ne_zero marker hreach.position_ne_zero hrest hposition⟩

/-- The run `r'` takes the steps of the run `r` so many bytes later, and ends in the same context or
with the same fault. -/
structure Run.Displaced (n : Nat) (r r' : Run T) : Prop where
  resolutions_eq : r'.resolutions = r.resolutions.map (Resolution.shift n)
  failed : ∀ fault, r.ending = .failed fault → r'.ending = .failed (fault.shift n)
  finished : ∀ c m, r.ending = .finished c m →
    ∃ c' m', r'.ending = .finished c' m' ∧ m'.context = m.context

/-- **A run takes the same steps in another place,** whatever the memory holds beside the context. -/
theorem Runs.displaced {marker : Marker} {registry : Registry T} {m m' : Memory} {c d : Cursor}
    {r : Run T} {n : Nat} (h : Runs marker registry m c r) (hm : m'.context = m.context)
    (hd : Displaced marker n c d) : ∃ r', Runs marker registry m' d r' ∧ r.Displaced n r' := by
  induction h generalizing m' d with
  | @finished m c hrest =>
    refine ⟨_, .finished (hd.rest_eq.trans hrest), rfl, fun fault hend => ?_, fun c m hend => ?_⟩
    · cases hend
    · cases hend
      exact ⟨_, _, rfl, hm⟩
  | @blocked m c first others obstacle hrest hblocked =>
    refine ⟨_, .blocked (hd.rest_eq.trans hrest) hblocked, rfl, fun fault hend => ?_,
      fun c m hend => ?_⟩
    · cases hend
      rw [hd.position_eq, Obstacle.faultAt_add]
    · cases hend
  | @refused m c c' w span fault hreach hout =>
    obtain ⟨d', hreach', -⟩ := hd.reaches hreach
    have hmemory : (w.memoryAfter m').context = (w.memoryAfter m).context := by
      rw [Lexeme.context_memoryAfter, Lexeme.context_memoryAfter, hm]
    obtain ⟨hresolution, -⟩ := resolve_shift registry hmemory w span n
    have hout' : (resolve registry (w.memoryAfter m') w (span.shift n)).1.outcome =
        .error (fault.shift n) := by
      rw [hresolution, Resolution.outcome_shift, hout]
      rfl
    refine ⟨_, .refused hreach' hout', ?_, fun fault hend => ?_, fun c m hend => ?_⟩
    · rw [hresolution]
      rfl
    · cases hend
      rfl
    · cases hend
  | @resolved m c c' w span token rest hreach hout _ ih =>
    obtain ⟨d', hreach', hd'⟩ := hd.reaches hreach
    have hmemory : (w.memoryAfter m').context = (w.memoryAfter m).context := by
      rw [Lexeme.context_memoryAfter, Lexeme.context_memoryAfter, hm]
    obtain ⟨hresolution, hcontext⟩ := resolve_shift registry hmemory w span n
    have hout' : (resolve registry (w.memoryAfter m') w (span.shift n)).1.outcome =
        .ok (token.map (Token.shift n)) := by
      rw [hresolution, Resolution.outcome_shift, hout]
      rfl
    obtain ⟨r', hruns, hdisplaced⟩ := ih hcontext hd'
    refine ⟨_, .resolved hreach' hout' hruns, ?_, hdisplaced.failed, hdisplaced.finished⟩
    rw [hresolution]
    exact congrArg (_ :: ·) hdisplaced.resolutions_eq

theorem Run.Displaced.tokens_eq {n : Nat} {r r' : Run T} (h : r.Displaced n r') :
    r'.tokens = r.tokens.map (Token.shift n) := by
  rw [Run.tokens, Run.tokens, h.resolutions_eq, List.filterMap_map, List.map_filterMap]
  exact congrArg (List.filterMap · r.resolutions) (funext fun x => x.token?_shift n)

/-! ### Runs that go on -/

/-- The run with more resolutions before it. -/
def Run.prepend (rs : List (Resolution T)) (run : Run T) : Run T :=
  { run with resolutions := rs ++ run.resolutions }

theorem Run.tokens_prepend (r run : Run T) :
    (run.prepend r.resolutions).tokens = r.tokens ++ run.tokens :=
  List.filterMap_append

/-- If a run finishes, then so does the displaced one, and after other resolutions it has their tokens
and then its own. -/
theorem Run.Displaced.result_prepend_of_ok {n : Nat} {r r' : Run T} (h : r.Displaced n r')
    (before : Run T) {tokens : List (Token T)} (hresult : r.result = .ok tokens) :
    (r'.prepend before.resolutions).result =
      .ok (before.tokens ++ tokens.map (Token.shift n)) := by
  obtain ⟨⟨c, m, hend⟩, rfl⟩ := Run.result_eq_ok_iff.1 hresult
  obtain ⟨c', m', hend', -⟩ := h.finished c m hend
  refine Run.result_eq_ok_iff.2 ⟨⟨c', m', hend'⟩, ?_⟩
  rw [Run.tokens_prepend, h.tokens_eq]

theorem Run.Displaced.result_prepend_of_error {n : Nat} {r r' : Run T} (h : r.Displaced n r')
    (before : Run T) {fault : Fault} (hresult : r.result = .error fault) :
    (r'.prepend before.resolutions).result = .error (fault.shift n) :=
  Run.result_eq_error_iff.2 (h.failed fault (Run.result_eq_error_iff.1 hresult))

/-- **A run goes on where another line follows.** It takes the steps of the run that finishes, and then
those of any run from the line feed on. -/
theorem Runs.append_line {marker : Marker} {registry : Registry T} {m m' : Memory} {c c' d : Cursor}
    {r : Run T} {after : List Char} (h : Runs marker registry m c r)
    (hend : r.ending = .finished c' m') (hextends : Extends after c d) (hline : EndsLine after) :
    ∃ d', (skipTrivia marker d').rest = after ∧
      (skipTrivia marker d').position = c.position + byteLength c.rest ∧
      ∀ r', Runs marker registry m' d' r' →
        Runs marker registry m d (r'.prepend r.resolutions) := by
  induction h generalizing d with
  | @finished m c hrest =>
    cases hend
    have hskip := hextends.skipTrivia_line hline marker
    refine ⟨d, ?_, ?_, fun r' hruns => hruns⟩
    · rw [hskip.rest_eq, hrest, List.nil_append]
    · have hrest' := rest_eq_trivia_append marker c
      rw [hrest, List.append_nil] at hrest'
      rw [hskip.position_eq, position_skipTrivia, ← hrest']
  | blocked | refused => cases hend
  | @resolved m c c₁ w span token rest hreach hout _ ih =>
    obtain ⟨d₁, hreach', hextends'⟩ := hextends.reaches hline hreach
    obtain ⟨d', hrest', hposition', hruns'⟩ := ih hend hextends'
    exact ⟨d', hrest', hposition'.trans hreach.end_eq,
      fun r' hruns => .resolved hreach' hout (hruns' r' hruns)⟩

/-- Where a line ends there is no trivia. -/
theorem trivia_of_endsLine (m : Marker) (atStart : Bool) {cs : List Char} (h : EndsLine cs) :
    trivia m atStart cs = [] := by
  have hnil := trivia_append_line m atStart [] h
  rw [List.nil_append] at hnil
  rw [hnil]
  exact List.prefix_nil.1 (trivia_isPrefix m atStart [])

/-- A line feed is not skipped even at the beginning of a source, so that a cursor before the same
text stands so many bytes later. -/
theorem displaced_of_endsLine (marker : Marker) {n : Nat} {c d : Cursor} (hline : EndsLine c.rest)
    (hrest : (skipTrivia marker d).rest = c.rest)
    (hposition : (skipTrivia marker d).position = c.position + n) : Displaced marker n c d := by
  have htrivia := trivia_of_endsLine marker (c.position == 0) hline
  constructor
  · rw [hrest, rest_skipTrivia, htrivia]
    rfl
  · rw [hposition, position_skipTrivia, htrivia]
    rfl

end ChainLexer.Scan

namespace ChainLexer.Lexer

open ChainLexer.Grammar ChainLexer.Scan ChainLexer.Settings ChainLexer.Source ChainLexer.Text

variable {T : Type}

/-- A scan leaves the context behind in which its run ends, or, after a fault, the plain one. -/
theorem context_scan_of_finished {lexer : Lexer T} {c : Cursor} {m : Memory}
    (h : lexer.run.ending = .finished c m) : lexer.scan.2.context = m.context := by
  rw [scan, h]
  rfl

theorem context_scan_of_failed {lexer : Lexer T} {fault : Fault}
    (h : lexer.run.ending = .failed fault) : lexer.scan.2.context = .plain := by
  rw [scan, h]
  rfl

/-- **The scan of a source in two parts.** If the first part is scanned with success and leaves the
plain context behind, and the second part begins with a line feed, then the scan of the whole source
has the tokens of the first part and then those of the second part, so many bytes later. If the second
part has a fault, the whole source has the same fault, so many bytes later. In both cases the context
afterwards is that after the second part. -/
theorem scan_append_line {first second : String} {config : Config} {lexer₁ lexer₂ lexer : Lexer T}
    (hlexer₁ : withConfig first config = .ok lexer₁)
    (hlexer₂ : withConfig ("\n" ++ second) config = .ok lexer₂)
    (hlexer : withConfig (first ++ "\n" ++ second) config = .ok lexer) (registry : Registry T)
    {tokens : List (Token T)} (hscan : (lexer₁.withRegistry registry).scan.1 = .ok tokens)
    (hcontext : (lexer₁.withRegistry registry).scan.2.context = .plain) :
    (∀ more, (lexer₂.withRegistry registry).scan.1 = .ok more →
      (lexer.withRegistry registry).scan.1 =
        .ok (tokens ++ more.map (Token.shift (byteLength first.toList)))) ∧
    (∀ fault, (lexer₂.withRegistry registry).scan.1 = .error fault →
      (lexer.withRegistry registry).scan.1 =
        .error (fault.shift (byteLength first.toList))) ∧
    (lexer.withRegistry registry).scan.2.context =
      (lexer₂.withRegistry registry).scan.2.context := by
  obtain rfl := eq_withMarker_of_withConfig hlexer₁ hlexer₂
  obtain rfl := eq_withMarker_of_withConfig hlexer₁ hlexer
  obtain ⟨m, -, rfl⟩ := withConfig_eq_ok_iff.1 hlexer₁
  obtain ⟨⟨c, memory, hend⟩, rfl⟩ := Run.result_eq_ok_iff.1 hscan
  have hmemory : memory.context = Memory.fresh.context :=
    (context_scan_of_finished hend).symm.trans hcontext
  have hline : EndsLine ("\n" ++ second).toList := by
    rw [String.toList_append]
    exact endsLine_cons.2 rfl
  have hextends : Extends ("\n" ++ second).toList (.ofString first)
      (.ofString (first ++ "\n" ++ second)) :=
    ⟨by simp, rfl⟩
  -- the run over the first part goes on, from the line feed, as the run over the second part does
  obtain ⟨d, hrest, hposition, hgoesOn⟩ :=
    (runs_withMarker first m registry).append_line hend hextends hline
  have hdisplaced : Displaced m (byteLength first.toList) (.ofString ("\n" ++ second)) d :=
    displaced_of_endsLine m hline hrest hposition
  obtain ⟨r, hruns, hr⟩ :=
    (runs_withMarker ("\n" ++ second) m registry).displaced hmemory hdisplaced
  have hrun : ((withMarker (first ++ "\n" ++ second) m).withRegistry registry).run =
      r.prepend ((withMarker first m).withRegistry registry).run.resolutions :=
    ((hgoesOn r hruns).eq_run Memory.steady_fresh).symm
  refine ⟨fun more hmore => ?_, fun fault hfault => ?_, ?_⟩
  · exact (congrArg Run.result hrun).trans (hr.result_prepend_of_ok _ hmore)
  · exact (congrArg Run.result hrun).trans (hr.result_prepend_of_error _ hfault)
  · cases hend₂ : ((withMarker ("\n" ++ second) m).withRegistry registry).run.ending with
    | finished c₂ memory₂ =>
      obtain ⟨c', memory', hend', hcontext'⟩ := hr.finished c₂ memory₂ hend₂
      have hfinished : _ = Ending.finished c' memory' := (congrArg Run.ending hrun).trans hend'
      exact ((context_scan_of_finished hfinished).trans hcontext').trans
        (context_scan_of_finished hend₂).symm
    | failed fault =>
      have hfailed : _ = Ending.failed (fault.shift _) :=
        (congrArg Run.ending hrun).trans (hr.failed fault hend₂)
      exact (context_scan_of_failed hfailed).trans (context_scan_of_failed hend₂).symm

/-- A lexer with the standard lexicon. -/
def standard (source : String) : Lexer Kind :=
  (ofSource source).withRegistry (Registry.empty.install standardLexicon)

/-- The first part ends with one half of a marker, and both second parts begin with the other half
behind their line feed. One of them has no fault, and the other one a literal that is not closed. -/
theorem scan_append_line_halfMarker :
    (standard ("for all é -" ++ "\n" ++ "- all")).scan.1 =
      .ok ([⟨.kwFor, "for", ⟨0, 3⟩, none⟩, ⟨.kwAll, "all", ⟨4, 7⟩, none⟩, ⟨.name, "é", ⟨8, 10⟩, none⟩,
          ⟨.minus, "-", ⟨11, 12⟩, none⟩] ++
        [⟨.newline, "\n", ⟨12, 13⟩, none⟩, ⟨.minus, "-", ⟨13, 14⟩, none⟩,
          ⟨.name, "all", ⟨15, 18⟩, none⟩]) ∧
    (standard ("for all é -" ++ "\n" ++ "-\"")).scan.1 = .error (.unterminated 14) := by
  have hfirst : (standard "for all é -").scan.1 =
      .ok [⟨.kwFor, "for", ⟨0, 3⟩, none⟩, ⟨.kwAll, "all", ⟨4, 7⟩, none⟩, ⟨.name, "é", ⟨8, 10⟩, none⟩,
        ⟨.minus, "-", ⟨11, 12⟩, none⟩] := by
    decide +kernel
  have hcontext : (standard "for all é -").scan.2.context = .plain := by decide +kernel
  have hsecond : (standard ("\n" ++ "- all")).scan.1 =
      .ok [⟨.newline, "\n", ⟨0, 1⟩, none⟩, ⟨.minus, "-", ⟨1, 2⟩, none⟩,
        ⟨.name, "all", ⟨3, 6⟩, none⟩] := by
    decide +kernel
  have hfault : (standard ("\n" ++ "-\"")).scan.1 = .error (.unterminated 2) := by decide +kernel
  have hlength : byteLength "for all é -".toList = 12 := by decide +kernel
  obtain ⟨hok, -, -⟩ := scan_append_line (withConfig_customary _) (withConfig_customary _)
    (withConfig_customary _) (Registry.empty.install standardLexicon) hfirst hcontext
  obtain ⟨-, herror, -⟩ := scan_append_line (withConfig_customary _) (withConfig_customary _)
    (withConfig_customary _) (Registry.empty.install standardLexicon) hfirst hcontext
  rw [hlength] at hok herror
  exact ⟨hok _ hsecond, herror _ hfault⟩

end ChainLexer.Lexer
