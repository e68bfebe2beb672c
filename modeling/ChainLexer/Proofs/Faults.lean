import ChainLexer.Journal
import ChainLexer.Proofs.FirstFault
import ChainLexer.Proofs.Places
import Mathlib.Data.List.Forall2

/-!
# Faults are faithful

A fault is all that is left of a scan that fails, so what it says should be so. `Fault.Describes` says
what that is for each fault, about the source and about the run that the fault has ended: the lexeme is
what the source has at the span, a character is the one at the offset, and a lexeme that nobody
recognised was shown to every classifier of its chain.

## Why a fault always has a position

The offset of a fault is where a character stands, and never the end of the source: a fault is about a
lexeme that is not empty, or about a character that begins none. So the offset is a boundary inside the
source, and the line table has a position for it. No scan reports a fault without one.

## Main definitions

* `Classifier.Declines`: a response with which a classifier declines a lexeme
* `Fault.Describes`: what a fault says about a source and a run
* `Lexer.Faithful`: what holds of the fault of a scan

## Main results

* `Chain.forall₂_declines`: a chain without a verdict has asked all its classifiers
* `Runs.describes`: what the fault of a run says is so
* `Lexer.aborted_mem_records_iff`: how a scan reports its fault
* `Lexer.faithful_of_withConfig`: faults are faithful, and every one is reported with a position
-/

namespace ChainLexer.Grammar

variable {T : Type}

/-- The response is one that the classifier gives to the lexeme in some context, and it declines. -/
def Classifier.Declines (lexeme : String) (f : Classifier T) (response : Response T) : Prop :=
  ∃ context, response = f lexeme context ∧ response.verdict = none

/-- **A chain without a verdict has asked all its classifiers**, and each of them has declined. -/
theorem Chain.forall₂_declines {lexeme : String} {fs : List (Classifier T)} {context : Context}
    (h : verdictOf (consultList lexeme fs context) = none) :
    List.Forall₂ (Classifier.Declines lexeme) fs (consultList lexeme fs context) := by
  induction fs generalizing context with
  | nil => exact .nil
  | cons f fs ih =>
    rw [consultList] at h ⊢
    cases hverdict : (f lexeme context).verdict with
    | some verdict => simp [hverdict, verdictOf] at h
    | none =>
      simp only [hverdict] at h ⊢
      rw [verdictOf, List.findSome?_cons, hverdict] at h
      exact .cons ⟨context, rfl, hverdict⟩ (ih h)

end ChainLexer.Grammar

namespace ChainLexer.Scan

open ChainLexer.Grammar ChainLexer.Settings ChainLexer.Source ChainLexer.Text

variable {T : Type}

/-! ### What a fault says -/

/-- The last resolution of the run is that of the lexeme with this category and this span. -/
structure Run.EndsWith (run : Run T) (category : Category) (lexeme : String) (span : Span)
    (r : Resolution T) : Prop where
  getLast?_eq : run.resolutions.getLast? = some r
  category_eq : r.lexeme.category = category
  toString_eq : r.lexeme.toString = lexeme
  span_eq : r.span = span

/-- What a fault says about a source, and about the run over it that has ended with the fault. -/
def Fault.Describes (source : String) (registry : Registry T) (run : Run T) : Fault → Prop
  | unrecognized category lexeme span =>
    span.slice? source = some lexeme ∧ lexeme ≠ "" ∧
    ∃ r, run.EndsWith category lexeme span r ∧
      List.Forall₂ (Classifier.Declines lexeme) (registry.chain category).newestFirst r.responses
  | unexpected char position => charAt? source.toList position = some char
  | unterminated start => charAt? source.toList start = some '"'
  | overflow lexeme span =>
    span.slice? source = some lexeme ∧ lexeme ≠ "" ∧ UInt64.size ≤ Number.value lexeme.toList ∧
    ∃ r context, run.EndsWith .number lexeme span r ∧
      r.responses = (registry.chain .number).consult lexeme context ∧
      (verdictOf r.responses).isSome

/-- What a fault says stays so when the run is taken to begin one lexeme earlier. -/
theorem Fault.Describes.cons {source : String} {registry : Registry T} {run : Run T} {fault : Fault}
    (h : fault.Describes source registry run) (x : Resolution T) :
    fault.Describes source registry (run.cons x) := by
  have hlast : ∀ {category lexeme span r}, run.EndsWith category lexeme span r →
      (run.cons x).EndsWith category lexeme span r := by
    rintro category lexeme span r ⟨hlast, hcategory, htext, hspan⟩
    refine ⟨?_, hcategory, htext, hspan⟩
    show (x :: run.resolutions).getLast? = some r
    rw [List.getLast?_cons, hlast]
    rfl
  cases fault with
  | unrecognized category lexeme span =>
    obtain ⟨hslice, hne, r, hr, hdeclines⟩ := h
    exact ⟨hslice, hne, r, hlast hr, hdeclines⟩
  | unexpected char position => exact h
  | unterminated start => exact h
  | overflow lexeme span =>
    obtain ⟨hslice, hne, hvalue, r, context, hr, hresponses, hverdict⟩ := h
    exact ⟨hslice, hne, hvalue, r, context, hlast hr, hresponses, hverdict⟩

/-- At the offset of a fault stands a character. -/
theorem Fault.Describes.exists_charAt? {source : String} {registry : Registry T} {run : Run T}
    {fault : Fault} (h : fault.Describes source registry run) :
    ∃ c, charAt? source.toList fault.offset = some c := by
  have hslice : ∀ {span : Span} {lexeme : String}, span.slice? source = some lexeme → lexeme ≠ "" →
      ∃ c, charAt? source.toList span.start = some c := by
    intro span lexeme hslice hne
    obtain ⟨text, htext, rfl⟩ := Option.map_eq_some_iff.1 hslice
    exact charAt?_of_sliceBytes? htext fun hnil => hne (by rw [hnil])
  cases fault with
  | unrecognized category lexeme span => exact hslice h.1 h.2.1
  | unexpected char position => exact ⟨char, h⟩
  | unterminated start => exact ⟨'"', h⟩
  | overflow lexeme span => exact hslice h.1 h.2.1

/-! ### Where faults come from -/

/-- What begins no lexeme is an unexpected character or an open quote. -/
theorem Lexeme.obstacle_cases {marker : Marker} {m : Memory} {c : Char} {cs : List Char}
    {obstacle : Obstacle} (h : recognise marker m c cs = .error obstacle) :
    obstacle = .unexpected c ∨ (obstacle = .unterminated ∧ c = '"') := by
  rcases firstChar_cases c with hc | hc | rfl | rfl | ⟨hident, hnumber, hquote, hnewline⟩
  · rw [recognise_identStart hc] at h
    cases h
  · rw [recognise_numberStart hc] at h
    cases h
  · rw [recognise_quote] at h
    split at h
    · cases h
    · cases h
      exact .inr ⟨rfl, rfl⟩
  · rw [recognise_newline] at h
    cases h
  · rw [recognise_other hident hnumber hquote hnewline] at h
    split at h
    · cases h
      exact .inl rfl
    · cases h

/-- Only numbers can be without a value, and these are too large. -/
theorem Lexeme.size_le_of_value?_eq_none {w : Lexeme} (h : w.value? = none) :
    w.category = .number ∧ UInt64.size ≤ Number.value w.text := by
  cases w with
  | identifier | string | operator => cases h
  | number text =>
    refine ⟨rfl, ?_⟩
    show UInt64.size ≤ Number.value text
    rw [value?, Option.map_eq_none_iff, Number.decode_eq] at h
    by_contra hlt
    rw [if_pos (by omega)] at h
    cases h

/-- A lexeme is a fault because there is no verdict on it, or because it has no value. -/
theorem Resolution.fault_cases {r : Resolution T} {fault : Fault} (h : r.outcome = .error fault) :
    (r.verdict = none ∧ fault = .unrecognized r.lexeme.category r.lexeme.toString r.span) ∨
      (r.verdict.isSome ∧ r.lexeme.value? = none ∧
        fault = .overflow r.lexeme.toString r.span) := by
  rw [outcome] at h
  split at h
  · next hverdict =>
    cases h
    exact .inl ⟨hverdict, rfl⟩
  · next verdict hverdict =>
    split at h
    · next hvalue =>
      cases h
      exact .inr ⟨by rw [hverdict]; rfl, hvalue, rfl⟩
    · cases h

/-- What the fault of a lexeme that is refused says is so. -/
theorem Reaches.describes {marker : Marker} {registry : Registry T} {m : Memory} {c c' : Cursor}
    {w : Lexeme} {span : Span} {fault : Fault} (h : Reaches marker c w span c')
    (hout : (resolve registry m w span).1.outcome = .error fault) :
    fault.Describes c.source registry ⟨[(resolve registry m w span).1], .failed fault⟩ := by
  have hne : w.toString ≠ "" := fun hempty =>
    h.stands.shaped.text_ne_nil (String.ofList_eq_empty_iff.1 hempty)
  rcases Resolution.fault_cases hout with ⟨hverdict, rfl⟩ | ⟨hverdict, hvalue, rfl⟩
  · exact ⟨h.slice?_span, hne, _, ⟨rfl, rfl, rfl, rfl⟩, Chain.forall₂_declines hverdict⟩
  · obtain ⟨hnumber, hsize⟩ := Lexeme.size_le_of_value?_eq_none hvalue
    refine ⟨h.slice?_span, hne, ?_, _, m.unmarked.context, ⟨rfl, hnumber, rfl, rfl⟩, ?_, hverdict⟩
    · show UInt64.size ≤ Number.value (String.ofList w.text).toList
      rwa [String.toList_ofList]
    · rw [← hnumber]
      rfl

/-- **What the fault of a run says is so.** The induction is on the derivation; only the last lexeme
can be a fault. -/
theorem Runs.describes {marker : Marker} {registry : Registry T} {m : Memory} {c : Cursor}
    {r : Run T} {fault : Fault} (h : Runs marker registry m c r) (hend : r.ending = .failed fault) :
    fault.Describes c.source registry r := by
  induction h with
  | finished => cases hend
  | @blocked m c first others obstacle hrest hblocked =>
    cases hend
    have hchar : charAt? c.source.toList (skipTrivia marker c).position = some first := by
      have hposition := (skipTrivia marker c).charAt?_position
      rwa [hrest] at hposition
    rcases Lexeme.obstacle_cases hblocked with rfl | ⟨rfl, rfl⟩
    · exact hchar
    · exact hchar
  | refused hreach hout =>
    cases hend
    exact hreach.describes hout
  | resolved hreach _ _ ih =>
    rw [← hreach.source_eq]
    exact (ih hend).cons _

end ChainLexer.Scan

namespace ChainLexer.Source

open ChainLexer.Text

/-- The boundaries of a source have positions. -/
theorem LineTable.exists_position {source : String} {offset : Nat}
    (hle : offset ≤ byteLength source.toList) (h : IsBoundary source.toList offset) :
    ∃ position, (LineTable.ofString source).position offset = .ok position := by
  have hlt : ¬byteLength (LineTable.ofString source).text < offset := Nat.not_lt.2 hle
  have hboundary : IsBoundary (LineTable.ofString source).text offset := h
  rw [LineTable.position]
  simp only [if_neg hlt]
  rw [if_neg (not_not_intro hboundary)]
  exact ⟨_, rfl⟩

end ChainLexer.Source

namespace ChainLexer

open ChainLexer.Grammar ChainLexer.Scan ChainLexer.Settings ChainLexer.Source ChainLexer.Text

variable {T : Type}

/-! ### How faults are reported -/

/-- The records of a lexeme report no fault. -/
theorem Record.aborted_notMem_ofResolution (r : Resolution T) (position : Option Position)
    (fault : Fault) : aborted position fault ∉ Record.ofResolution r := by
  intro hmem
  rcases List.mem_append.1 hmem with hwrite | htoken
  · obtain ⟨context, -, heq⟩ := List.mem_map.1 hwrite
    cases heq
  · rw [Option.mem_toList, Option.map_eq_some_iff] at htoken
    obtain ⟨token, -, heq⟩ := htoken
    cases heq

namespace Lexer

/-- **How a scan reports its fault**: by the position of its offset, if there is one. -/
theorem aborted_mem_records_iff (lexer : Lexer T) (position : Option Position) (fault : Fault) :
    .aborted position fault ∈ lexer.scanLogged.records ↔
      lexer.run.ending = .failed fault ∧ position = (lexer.location fault.offset).toOption := by
  show .aborted position fault ∈
    lexer.run.resolutions.flatMap Record.ofResolution ++ [lexer.endRecord lexer.run] ↔ _
  rw [List.mem_append, List.mem_singleton, endRecord]
  constructor
  · rintro (hmem | hend)
    · obtain ⟨r, -, hr⟩ := List.mem_flatMap.1 hmem
      exact absurd hr (Record.aborted_notMem_ofResolution r position fault)
    · split at hend
      · cases hend
      · next hfailed =>
        cases hend
        exact ⟨hfailed, rfl⟩
  · rintro ⟨hfailed, rfl⟩
    rw [hfailed]
    exact .inr rfl

/-- After a fault the source is still there, and so are its positions. -/
theorem location_scan_of_failed {lexer : Lexer T} {fault : Fault}
    (h : lexer.run.ending = .failed fault) : lexer.scan.2.location = lexer.location := by
  show (lexer.after lexer.run.ending).location = lexer.location
  rw [h]
  rfl

/-- What holds of the fault of a scan of the lexer, whose source is given. -/
structure Faithful (source : String) (lexer : Lexer T) (fault : Fault) : Prop where
  /-- What the fault says is so. -/
  describes : fault.Describes source lexer.registry lexer.run
  /-- Its offset lies inside the source, -/
  offset_lt : fault.offset < source.utf8ByteSize
  /-- and inside no character. -/
  isBoundary : IsBoundary source.toList fault.offset
  /-- So the offset has a position, before and after the scan, and the fault is reported with it. -/
  located : ∃ position, lexer.location fault.offset = .ok position ∧
    lexer.scan.2.location fault.offset = .ok position ∧
    .aborted (some position) fault ∈ lexer.scanLogged.records

/-- **Faults are faithful, and every one is reported with a position**, whatever the settings, the
classifiers and the source. -/
theorem faithful_of_withConfig {source : String} {config : Config} {lexer : Lexer T}
    (hlexer : withConfig source config = .ok lexer) (registry : Registry T) :
    (∀ fault, (lexer.withRegistry registry).scan.1 = .error fault →
      Faithful source (lexer.withRegistry registry) fault) ∧
    ∀ fault, .aborted none fault ∉ (lexer.withRegistry registry).scanLogged.records := by
  obtain ⟨m, -, rfl⟩ := withConfig_eq_ok_iff.1 hlexer
  have hfaithful : ∀ fault, ((withMarker source m).withRegistry registry).run.ending = .failed fault →
      Faithful source ((withMarker source m).withRegistry registry) fault := by
    intro fault hend
    have hdescribes := (runs_withMarker source m registry).describes hend
    obtain ⟨c, hc⟩ := hdescribes.exists_charAt?
    obtain ⟨hboundary, hlt⟩ := isBoundary_of_charAt? hc
    obtain ⟨position, hposition⟩ := LineTable.exists_position (Nat.le_of_lt hlt) hboundary
    have hlocation :
        ((withMarker source m).withRegistry registry).location fault.offset = .ok position := hposition
    refine ⟨hdescribes, byteLength_toList source ▸ hlt, hboundary, position, hlocation, ?_, ?_⟩
    · rw [location_scan_of_failed hend, hlocation]
    · refine (aborted_mem_records_iff _ _ _).2 ⟨hend, ?_⟩
      rw [hlocation]
      rfl
  refine ⟨fun fault hfault => hfaithful fault (Run.result_eq_error_iff.1 hfault), ?_⟩
  intro fault hmem
  obtain ⟨hend, hnone⟩ := (aborted_mem_records_iff _ _ _).1 hmem
  obtain ⟨position, hposition, -⟩ := (hfaithful fault hend).located
  rw [hposition] at hnone
  cases hnone

/-- A lexer in which two classifiers are asked about a name, and the first of them writes and
declines. The second one declines the name at the end of the source, which begins with a capital
letter. -/
def reluctant : Lexer Category :=
  (ofSource "é --c\n7+-Z").withRegistry
    (lowercaseRegistry.register .identifier fun _ _ => ⟨[.qualifying], none⟩)

/-- The name is the fourth character of the second line, and the eleventh byte of the source. -/
theorem faithful_of_withConfig_reluctant :
    reluctant.scan.1 = .error (.unrecognized .identifier "Z" ⟨10, 11⟩) ∧
    Faithful "é --c\n7+-Z" reluctant (.unrecognized .identifier "Z" ⟨10, 11⟩) ∧
    .aborted (some ⟨2, 4⟩) (.unrecognized .identifier "Z" ⟨10, 11⟩) ∈
      reluctant.scanLogged.records := by
  have hfault : reluctant.scan.1 = .error (.unrecognized .identifier "Z" ⟨10, 11⟩) := by
    decide +kernel
  have hfaithful : Faithful "é --c\n7+-Z" reluctant (.unrecognized .identifier "Z" ⟨10, 11⟩) :=
    (faithful_of_withConfig (withConfig_customary _) _).1 _ hfault
  have hlocation : reluctant.location 10 = .ok ⟨2, 4⟩ := by decide +kernel
  obtain ⟨position, hposition, -, hrecord⟩ := hfaithful.located
  obtain rfl : position = ⟨2, 4⟩ := Except.ok.inj (hposition.symm.trans hlocation)
  exact ⟨hfault, hfaithful, hrecord⟩

end Lexer

end ChainLexer
