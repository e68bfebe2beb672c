import ChainLexer.Grammar.Registry
import ChainLexer.Scan.Lexeme
import ChainLexer.Source.Cursor

/-!
# Runs

A run takes a source apart, lexeme after lexeme, and asks the chain of each lexeme's category what
becomes of it. The record of a run holds every resolution, those of skipped lexemes included, and
how the run ended; the tokens are read off from the resolutions.

## Main definitions

* `next`: the next lexeme from a place in the source
* `Resolution`: a lexeme with the responses of the classifiers that were asked
* `resolve`: asks the chain of a lexeme's category
* `run`: the whole record from a place in the source
* `Run.result`: the tokens of a run, or its fault

## Implementation notes

A qualifier that may follow is given up after the next identifier, unless a classifier wrote the
context while that identifier was resolved. The value of a number is computed only once a chain has
given a verdict on it, so of two faults of one lexeme the missing verdict is reported.
-/

namespace ChainLexer.Scan

open ChainLexer.Grammar ChainLexer.Settings ChainLexer.Source

variable {T : Type}

/-! ### The next lexeme -/

/-- The cursor after the trivia, where the next lexeme starts. -/
def skipTrivia (marker : Marker) (c : Cursor) : Cursor :=
  (c.move (trivia marker (c.position == 0) c.rest).length).skip

/-- What stands at a place of a source. -/
inductive Next where
  /-- Only trivia, up to the end of the source. -/
  | finished (cursor : Cursor)
  /-- Something that is no lexeme. -/
  | blocked (fault : Fault)
  /-- A lexeme; the memory and the cursor are those after it. -/
  | found (lexeme : Lexeme) (span : Span) (memory : Memory) (cursor : Cursor)

/-- What stands at the cursor after the trivia. -/
def next (marker : Marker) (m : Memory) (c : Cursor) : Next :=
  let c := skipTrivia marker c
  match c.rest with
  | [] => .finished c
  | first :: others =>
    match Lexeme.recognise marker m first others with
    | .error obstacle => .blocked (obstacle.faultAt c.position)
    | .ok (w, m) =>
      let taken := c.move w.text.length
      .found w taken.span m taken.skip

theorem rest_skipTrivia (marker : Marker) (c : Cursor) :
    (skipTrivia marker c).rest = c.rest.drop (trivia marker (c.position == 0) c.rest).length := rfl

/-- After a lexeme there is less than before it. -/
theorem length_rest_of_next {marker : Marker} {m m' : Memory} {c c' : Cursor} {w : Lexeme}
    {span : Span} (h : next marker m c = .found w span m' c') :
    c'.rest.length < c.rest.length := by
  have hle : (skipTrivia marker c).rest.length ≤ c.rest.length := by
    simp [rest_skipTrivia]
  unfold next at h
  simp only at h
  split at h
  · cases h
  · next first others hrest =>
    split at h
    · cases h
    · next w' m'' hw =>
      have hpos := List.length_pos_iff.2 (Lexeme.text_ne_nil_of_recognise hw)
      cases h
      simp only [Cursor.rest_skip, Cursor.rest_move, List.length_drop]
      rw [hrest] at hle ⊢
      simp only [List.length_cons] at hle ⊢
      omega

/-! ### Resolving a lexeme -/

/-- A lexeme and its place, the context in which it was resolved, and the responses of all
classifiers that were asked. -/
structure Resolution (T : Type) where
  lexeme : Lexeme
  span : Span
  entered : Context
  responses : List (Response T)

namespace Resolution

/-- The verdict on the lexeme. -/
def verdict (r : Resolution T) : Option (Verdict T) := verdictOf r.responses

/-- All writes of the classifiers that were asked. -/
def writes (r : Resolution T) : List Context := writesOf r.responses

/-- The token that a verdict makes of the lexeme with its value. -/
def tokenFor (r : Resolution T) (value : Option Value) : Verdict T → Option (Token T)
  | .emit kind => some ⟨kind, r.lexeme.toString, r.span, value⟩
  | .skip => none

/-- What comes of the lexeme: a fault, a token, or nothing when it is skipped. -/
def outcome (r : Resolution T) : Except Fault (Option (Token T)) :=
  match r.verdict with
  | none => .error (.unrecognized r.lexeme.category r.lexeme.toString r.span)
  | some verdict =>
    match r.lexeme.value? with
    | none => .error (.overflow r.lexeme.toString r.span)
    | some value => .ok (r.tokenFor value verdict)

/-- The token of the lexeme, if there is one. -/
def token? (r : Resolution T) : Option (Token T) :=
  match r.outcome with
  | .ok token => token
  | .error _ => none

end Resolution

/-- The memory after a lexeme of a category: a qualifier is given up after an identifier whose
resolution, begun in memory `before`, wrote nothing. -/
def settle (category : Category) (before after : Memory) : Memory :=
  if category = .identifier ∧ before.context = .qualifying ∧ after.written = false then
    after.withContext .plain
  else after

/-- Asks the chain of a lexeme's category. -/
def resolve (registry : Registry T) (m : Memory) (w : Lexeme) (span : Span) :
    Resolution T × Memory :=
  let before := m.unmarked
  let responses := (registry.chain w.category).consult w.toString before.context
  (⟨w, span, before.context, responses⟩,
    settle w.category before (before.writeAll (writesOf responses)))

/-! ### Runs -/

/-- How a run ends. -/
inductive Ending where
  /-- At the end of the source, with this memory. -/
  | finished (cursor : Cursor) (memory : Memory)
  /-- At a fault. -/
  | failed (fault : Fault)

/-- The record of a run: every resolution in order, and the end. -/
structure Run (T : Type) where
  resolutions : List (Resolution T)
  ending : Ending

namespace Run

/-- The record with one more resolution before it. -/
def cons (r : Resolution T) (run : Run T) : Run T :=
  { run with resolutions := r :: run.resolutions }

/-- The tokens of a run in order, up to its fault if it has one. -/
def tokens (run : Run T) : List (Token T) := run.resolutions.filterMap Resolution.token?

/-- All tokens of a run, or its fault. -/
def result (run : Run T) : Except Fault (List (Token T)) :=
  match run.ending with
  | .finished _ _ => .ok run.tokens
  | .failed fault => .error fault

end Run

/-- The record of a run from a place in a source. -/
def run (marker : Marker) (registry : Registry T) (m : Memory) (c : Cursor) : Run T :=
  match h : next marker m c with
  | .finished c => ⟨[], .finished c m⟩
  | .blocked fault => ⟨[], .failed fault⟩
  | .found w span m c' =>
    have := length_rest_of_next h
    let (resolution, m) := resolve registry m w span
    match resolution.outcome with
    | .error fault => ⟨[resolution], .failed fault⟩
    | .ok _ => (run marker registry m c').cons resolution
termination_by c.rest.length

/-! ### The record of a run, by what stands at its beginning -/

section Equations

variable {marker : Marker} {m m' : Memory} {c c' : Cursor} {w : Lexeme} {span : Span}
  {fault : Fault}

/-- A run over trivia alone resolves nothing. -/
theorem run_of_finished (registry : Registry T) (h : next marker m c = .finished c') :
    run marker registry m c = ⟨[], .finished c' m⟩ := by
  rw [run]
  split
  · next heq => cases heq.symm.trans h; rfl
  · next heq => cases heq.symm.trans h
  · next heq => cases heq.symm.trans h

/-- A run that is blocked at once resolves nothing. -/
theorem run_of_blocked (registry : Registry T) (h : next marker m c = .blocked fault) :
    run marker registry m c = ⟨[], .failed fault⟩ := by
  rw [run]
  split
  · next heq => cases heq.symm.trans h
  · next heq => cases heq.symm.trans h; rfl
  · next heq => cases heq.symm.trans h

/-- A run resolves the first lexeme, and goes on after it unless that is a fault. -/
theorem run_of_found (registry : Registry T) (h : next marker m c = .found w span m' c') :
    run marker registry m c =
      match (resolve registry m' w span).1.outcome with
      | .error fault => ⟨[(resolve registry m' w span).1], .failed fault⟩
      | .ok _ =>
        (run marker registry (resolve registry m' w span).2 c').cons
          (resolve registry m' w span).1 := by
  rw [run]
  split
  · next heq => cases heq.symm.trans h
  · next heq => cases heq.symm.trans h
  · next heq => cases heq.symm.trans h; rfl

end Equations

end ChainLexer.Scan
