import ChainLexer.Proofs.Faults
import ChainLexer.Proofs.FirstFault
import ChainLexer.Proofs.Termination
import Mathlib.Logic.Relation

/-!
# Where a scan arrives

A run is recorded as a whole, and facts about it are read off from the record. Some statements are
about a scan on its way, though: what happens whenever it arrives at a quote, or at a digit,
whatever has gone before. `ComesTo` says which states the loop over lexemes goes through, and
`Progress.Faces` what stands before a scan in such a state, once the trivia are skipped.

## From one pass to the whole scan

What happens at a place is a fact about one pass, and `Lexer.Visits.run_eq` carries it to the scan:
the run of a lexer is what has been resolved on the way to the place, and then the run from there.
In the other direction a fault has to be told from later ones. Offsets do not decrease from pass to
pass and no lexeme is empty, so a fault at the place where a lexeme was found comes from that
lexeme; this is `Lexer.Visits.scan_ne_faultAt`.

## Main definitions

* `ComesTo`: some passes lead from one state of the loop over lexemes to another
* `Progress.Faces`: what stands before a scan, and where
* `Progress.resolutionOf`: what a state makes of a lexeme
* `Lexer.Visits`: the states that the scan of a lexer goes through

## Main results

* `ComesTo.steady`: no escape is open between two passes
* `Progress.Faces.reaches`: the lexeme that stands before a scan is the next one
* `Lexer.Visits.run_eq`: the run of a lexer, from a place on its way
* `Lexer.exists_visits`: the state in which a scan ends
-/

namespace ChainLexer.Scan

open ChainLexer.Grammar ChainLexer.Settings ChainLexer.Source ChainLexer.Text

variable {T : Type} {marker : Marker} {registry : Registry T} {s s' : Progress T}

/-! ### States on the way -/

/-- From the state `s`, some passes of the loop over lexemes lead to the state `s'`. -/
def ComesTo (marker : Marker) (registry : Registry T) : Progress T → Progress T → Prop :=
  Relation.ReflTransGen fun s s' => scanPass marker registry s = .inl s'

/-- The tokens of what has been resolved. -/
def Progress.tokens (s : Progress T) : List (Token T) := s.resolutions.filterMap Resolution.token?

/-- The lexemes that have been resolved, with their spans. -/
def Progress.lexemes (s : Progress T) : List (Lexeme × Span) :=
  s.resolutions.map fun r => (r.lexeme, r.span)

theorem steady_of_scanPass (hs : s.memory.Steady) (h : scanPass marker registry s = .inl s') :
    s'.memory.Steady := by
  obtain ⟨w, span, m, c, token, hnext, -, rfl⟩ := scanPass_eq_inl h
  obtain ⟨-, rfl⟩ := reaches_of_next hs hnext
  exact (Lexeme.steady_memoryAfter hs w).resolve registry w span

/-- **No escape is open between two passes.** -/
theorem ComesTo.steady (h : ComesTo marker registry s s') (hs : s.memory.Steady) :
    s'.memory.Steady := by
  induction h with
  | refl => exact hs
  | tail _ hpass ih => exact steady_of_scanPass ih hpass

theorem ComesTo.source_eq (h : ComesTo marker registry s s') :
    s'.cursor.source = s.cursor.source := by
  induction h with
  | refl => rfl
  | tail _ hpass ih =>
    obtain ⟨text, -, hmoves⟩ := exists_movesOver_of_scanPass hpass
    exact hmoves.source_eq.trans ih

/-- On the way the record and the run that is left stay the same, taken together. -/
theorem ComesTo.prepend_run_eq (h : ComesTo marker registry s s') :
    (run marker registry s'.memory s'.cursor).prepend s'.resolutions =
      (run marker registry s.memory s.cursor).prepend s.resolutions := by
  induction h with
  | refl => rfl
  | tail _ hpass ih => exact (prepend_run_of_scanPass hpass).trans ih

/-- A loop that ends does so in a state that it comes to. -/
theorem LoopEnds.exists_comesTo {n : Nat} {r : Run T}
    (h : LoopEnds (scanPass marker registry) s n r) :
    ∃ s', ComesTo marker registry s s' ∧ scanPass marker registry s' = .inr r := by
  induction h with
  | @stop s r h => exact ⟨s, .refl, h⟩
  | goOn h _ ih =>
    obtain ⟨s', hcomes, hend⟩ := ih
    exact ⟨s', .head h hcomes, hend⟩

/-! ### What stands before a scan -/

/-- Once the trivia are skipped, a scan in the state `s` stands at the byte offset `a`, before the
text. -/
structure Progress.Faces (marker : Marker) (s : Progress T) (a : Nat) (text : List Char) :
    Prop where
  position_eq : (skipTrivia marker s.cursor).position = a
  rest_eq : (skipTrivia marker s.cursor).rest = text

/-- The resolution of a lexeme at the byte offset `a` in the state `s`. -/
def Progress.resolutionOf (registry : Registry T) (s : Progress T) (w : Lexeme) (a : Nat) :
    Resolution T where
  lexeme := w
  span := ⟨a, a + byteLength w.text⟩
  entered := s.memory.context
  responses := (registry.chain w.category).consult w.toString s.memory.context

theorem Resolution.token?_of_outcome {r : Resolution T} {token : Option (Token T)}
    (h : r.outcome = .ok token) : r.token? = token := by
  rw [token?, h]

/-- What a string literal leaves behind in the memory does not matter to its classifiers. -/
theorem resolve_memoryAfter (registry : Registry T) (s : Progress T) (w : Lexeme) (a : Nat) :
    (resolve registry (w.memoryAfter s.memory) w ⟨a, a + byteLength w.text⟩).1 =
      s.resolutionOf registry w a := by
  have hcontext : (w.memoryAfter s.memory).unmarked.context = s.memory.context :=
    w.context_memoryAfter s.memory
  simp only [resolve, Progress.resolutionOf, hcontext]

namespace Progress.Faces

variable {a : Nat} {text : List Char} {w : Lexeme} {rest : List Char}

/-- Nothing is left to skip. -/
theorem clear (h : s.Faces marker a text) : Clear marker text := by
  obtain ⟨-, -, -, -, -, hclear, -⟩ := skipTrivia_spec marker s.cursor
  exact h.rest_eq ▸ hclear

/-- The offset is that of the text in the source. -/
theorem exists_before (h : s.Faces marker a text) :
    ∃ before, s.cursor.source.toList = before ++ text ∧ a = byteLength before := by
  obtain ⟨before, hsource, hposition⟩ := (skipTrivia marker s.cursor).exists_before
  rw [h.rest_eq] at hsource
  exact ⟨before, hsource, h.position_eq.symm.trans hposition⟩

/-- **The lexeme that stands before a scan is the next one**, and what follows it is left. -/
theorem reaches (h : s.Faces marker a (w.text ++ rest)) (hw : w.StandsBefore marker rest) :
    ∃ c, Reaches marker s.cursor w ⟨a, a + byteLength w.text⟩ c ∧ c.rest = rest := by
  have hreach := Reaches.of_rest h.rest_eq hw
  rw [h.position_eq] at hreach
  exact ⟨_, hreach, List.append_cancel_left (hreach.rest_eq.symm.trans h.rest_eq)⟩

/-- Where no lexeme can be read, the run ends. -/
theorem run_of_obstacle (h : s.Faces marker a text) (hs : s.memory.Steady) {first : Char}
    {others : List Char} {obstacle : Obstacle} (htext : text = first :: others)
    (hblocked : Lexeme.recognise marker .fresh first others = .error obstacle) :
    run marker registry s.memory s.cursor = ⟨[], .failed (obstacle.faultAt a)⟩ := by
  have hnext := next_of_obstacle hs (h.rest_eq.trans htext) hblocked
  rw [run_of_blocked registry hnext, h.position_eq]

/-- A lexeme that is a fault is the last one. -/
theorem run_of_error (h : s.Faces marker a (w.text ++ rest)) (hs : s.memory.Steady)
    (hw : w.StandsBefore marker rest) {fault : Fault}
    (hout : (s.resolutionOf registry w a).outcome = .error fault) :
    run marker registry s.memory s.cursor = ⟨[s.resolutionOf registry w a], .failed fault⟩ := by
  obtain ⟨c, hreach, -⟩ := h.reaches hw
  rw [run_of_found registry (next_of_reaches hs hreach), resolve_memoryAfter, hout]

/-- After any other lexeme the scan goes on. -/
theorem scanPass_of_ok (h : s.Faces marker a (w.text ++ rest)) (hs : s.memory.Steady)
    (hw : w.StandsBefore marker rest) {token : Option (Token T)}
    (hout : (s.resolutionOf registry w a).outcome = .ok token) :
    ∃ s', scanPass marker registry s = .inl s' ∧ s'.cursor.rest = rest ∧
      s'.cursor.position = a + byteLength w.text ∧
      s'.resolutions = s.resolutions ++ [s.resolutionOf registry w a] := by
  obtain ⟨c, hreach, hrest⟩ := h.reaches hw
  have hnext := next_of_reaches hs hreach
  have hpass : scanPass marker registry s = .inl
      ⟨(resolve registry (w.memoryAfter s.memory) w ⟨a, a + byteLength w.text⟩).2, c,
        s.resolutions ++ [s.resolutionOf registry w a]⟩ := by
    rw [scanPass, hnext]
    simp only [resolve_memoryAfter, hout]
  exact ⟨_, hpass, hrest, hreach.position_eq, rfl⟩

/-- The lexeme is the first one of the run in any case. -/
theorem exists_resolutions_eq_cons (registry : Registry T)
    (h : s.Faces marker a (w.text ++ rest)) (hs : s.memory.Steady)
    (hw : w.StandsBefore marker rest) :
    ∃ more, (run marker registry s.memory s.cursor).resolutions =
      s.resolutionOf registry w a :: more := by
  obtain ⟨c, hreach, -⟩ := h.reaches hw
  rw [run_of_found registry (next_of_reaches hs hreach), resolve_memoryAfter]
  split
  · exact ⟨[], rfl⟩
  · exact ⟨_, rfl⟩

end Progress.Faces

/-- A run fails nowhere before it begins. -/
theorem Runs.position_le_offset {m : Memory} {c : Cursor} {r : Run T} {fault : Fault}
    (h : Runs marker registry m c r) (hend : r.ending = .failed fault) :
    c.position ≤ fault.offset := by
  obtain ⟨before, -, -, hoffset, -⟩ := h.exists_before_fault hend
  omega

end ChainLexer.Scan

namespace ChainLexer.Lexer

open ChainLexer.Grammar ChainLexer.Scan ChainLexer.Settings ChainLexer.Source ChainLexer.Text

variable {T : Type} {lexer : Lexer T} {s s' : Progress T}

/-! ### The scan of a lexer -/

/-- The scan of the lexer goes through the state. -/
def Visits (lexer : Lexer T) (s : Progress T) : Prop :=
  ComesTo lexer.marker lexer.registry ⟨lexer.memory, lexer.cursor, []⟩ s

/-- A scan ends in a state that it goes through. -/
theorem exists_visits (lexer : Lexer T) :
    ∃ s, lexer.Visits s ∧ scanPass lexer.marker lexer.registry s = .inr lexer.run := by
  obtain ⟨n, r, hloop, -⟩ :=
    exists_loopEnds_scanPass lexer.marker lexer.registry ⟨lexer.memory, lexer.cursor, []⟩
  obtain rfl : r = lexer.run := hloop.eq_prepend_run
  exact hloop.exists_comesTo

theorem visits_withMarker {source : String} {m : Marker} {registry : Registry T}
    (h : ((withMarker source m).withRegistry registry).Visits s) :
    s.memory.Steady ∧ s.cursor.source = source :=
  ⟨ComesTo.steady h Memory.steady_fresh, ComesTo.source_eq h⟩

namespace Visits

theorem next (h : lexer.Visits s) (hpass : scanPass lexer.marker lexer.registry s = .inl s') :
    lexer.Visits s' :=
  Relation.ReflTransGen.tail h hpass

/-- **The run of a lexer is what has been resolved on the way to a place, and the run from there.**
-/
theorem run_eq (h : lexer.Visits s) :
    lexer.run = (Scan.run lexer.marker lexer.registry s.memory s.cursor).prepend s.resolutions :=
  (ComesTo.prepend_run_eq h).symm

/-- The tokens that have been made on the way are the first ones of the scan. -/
theorem tokens_isPrefix (h : lexer.Visits s) : s.tokens <+: lexer.run.tokens := by
  rw [h.run_eq]
  exact ⟨_, List.filterMap_append.symm⟩

theorem ending_eq (h : lexer.Visits s) :
    lexer.run.ending = (Scan.run lexer.marker lexer.registry s.memory s.cursor).ending := by
  rw [h.run_eq]
  rfl

/-- A scan fails with the fault of the run from a place on its way. -/
theorem scan_eq_error_iff (h : lexer.Visits s) {fault : Fault} :
    lexer.scan.1 = .error fault ↔
      (Scan.run lexer.marker lexer.registry s.memory s.cursor).ending = .failed fault := by
  rw [← h.ending_eq]
  exact Run.result_eq_error_iff

variable {a : Nat} {w : Lexeme} {rest : List Char}

theorem scan_of_obstacle (h : lexer.Visits s) (hs : s.memory.Steady) {first : Char}
    {others : List Char} (hfaces : s.Faces lexer.marker a (first :: others)) {obstacle : Obstacle}
    (hblocked : Lexeme.recognise lexer.marker .fresh first others = .error obstacle) :
    lexer.scan.1 = .error (obstacle.faultAt a) := by
  rw [h.scan_eq_error_iff, hfaces.run_of_obstacle hs rfl hblocked]

theorem scan_of_error (h : lexer.Visits s) (hs : s.memory.Steady)
    (hfaces : s.Faces lexer.marker a (w.text ++ rest)) (hw : w.StandsBefore lexer.marker rest)
    {fault : Fault} (hout : (s.resolutionOf lexer.registry w a).outcome = .error fault) :
    lexer.scan.1 = .error fault := by
  rw [h.scan_eq_error_iff, hfaces.run_of_error hs hw hout]

/-- The lexeme that stands before a scan is shown to its chain, behind all earlier ones. -/
theorem lexemes_isPrefix (h : lexer.Visits s) (hs : s.memory.Steady)
    (hfaces : s.Faces lexer.marker a (w.text ++ rest)) (hw : w.StandsBefore lexer.marker rest) :
    s.lexemes ++ [(w, ⟨a, a + byteLength w.text⟩)] <+: lexer.run.lexemes := by
  obtain ⟨more, hmore⟩ := hfaces.exists_resolutions_eq_cons lexer.registry hs hw
  refine ⟨more.map fun r => (r.lexeme, r.span), ?_⟩
  rw [Run.lexemes, h.run_eq, Run.prepend, hmore, List.map_append, List.map_cons,
    List.append_assoc]
  rfl

/-- **Where a lexeme is found, the scan does not fail for want of one.** A fault of the lexeme
itself is of another sort, and all others lie behind it. -/
theorem scan_ne_faultAt (h : lexer.Visits s) (hs : s.memory.Steady)
    (hfaces : s.Faces lexer.marker a (w.text ++ rest)) (hw : w.StandsBefore lexer.marker rest)
    (obstacle : Obstacle) : lexer.scan.1 ≠ .error (obstacle.faultAt a) := by
  cases hout : (s.resolutionOf lexer.registry w a).outcome with
  | error fault =>
    rw [h.scan_of_error hs hfaces hw hout]
    intro heq
    cases heq
    rcases Resolution.fault_cases hout with ⟨-, heq⟩ | ⟨-, -, heq⟩
    · cases obstacle <;> cases heq
    · cases obstacle <;> cases heq
  | ok token =>
    obtain ⟨s', hpass, -, hposition, -⟩ := hfaces.scanPass_of_ok hs hw hout
    intro hscan
    have hruns := runs_run lexer.marker lexer.registry (steady_of_scanPass hs hpass) s'.cursor
    have hle := hruns.position_le_offset ((h.next hpass).scan_eq_error_iff.1 hscan)
    have hpos := List.length_pos_iff.2 hw.shaped.text_ne_nil
    have hbytes := length_le_byteLength w.text
    rw [Obstacle.offset_faultAt] at hle
    omega

end Visits

end ChainLexer.Lexer
