import ChainLexer.Proofs.Derivation
import Mathlib.Data.List.Induction

/-!
# The history of a lexer does not matter

A lexer is changed by registering classifiers, by another source and by scanning, in any order. Yet
between two operations it is always in one of two states: at the beginning of its source with a fresh
memory, or at the end of its source with nothing left to do. The second state is left by another
source only, so which of the two it is can be read off from the operations and their results.

## Why a failed scan leaves no trace

A scan that starts at the beginning of a source and fails puts the cursor and the memory back, and
changes nothing else. The lexer is then literally the one from before, so nothing has to be said about
the memory in the middle of an escape, or about a qualifier that was still waiting for its identifier.
A scan can fail only when it starts at the beginning: at the end of a source there is nothing to
fail on.

## Main definitions

* `Operation`, `Lexer.perform`: what can be done with a lexer, and a sequence of it
* `Lexer.HasScanned`: a scan has succeeded since the last source was put in place
* `Lexer.AtStart`, `Lexer.Exhausted`: the two states between operations

## Main results

* `Lexer.withSource_perform`: another source forgets all but the registrations
* `Lexer.atStart_or_exhausted_perform`: the two states, and when a lexer is in which
* `Lexer.scan_perform`: the next scan after any history
-/

namespace ChainLexer

open ChainLexer.Grammar ChainLexer.Scan ChainLexer.Settings ChainLexer.Source

variable {T : Type}

/-! ### Operations -/

/-- What can be done with a lexer. -/
inductive Operation (T : Type) where
  /-- Adds a classifier to the chain of a category. -/
  | register (category : Category) (f : Classifier T)
  /-- Adds the classifiers of a lexicon. -/
  | install (lexicon : Lexicon T)
  /-- Begins with another source. -/
  | withSource (source : String)
  /-- Scans the rest of the source. -/
  | scan

namespace Operation

/-- The operation adds classifiers. -/
def registers : Operation T → Bool
  | register _ _ | install _ => true
  | withSource _ | scan => false

/-- The source that the operation puts in place. -/
def source? : Operation T → Option String
  | withSource source => some source
  | register _ _ | install _ | scan => none

/-- The operations that add classifiers, in order. -/
def registrations (ops : List (Operation T)) : List (Operation T) := ops.filter registers

/-- The source in place after the operations, which began with the given one. -/
def currentSource (source : String) (ops : List (Operation T)) : String :=
  ops.foldl (fun current op => op.source?.getD current) source

@[simp] theorem currentSource_append_singleton (source : String) (ops : List (Operation T))
    (op : Operation T) :
    currentSource source (ops ++ [op]) = op.source?.getD (currentSource source ops) := by
  simp [currentSource]

end Operation

namespace Lexer

/-- The lexer after an operation. -/
def apply (lexer : Lexer T) : Operation T → Lexer T
  | .register category f => lexer.register category f
  | .install lexicon => lexer.install lexicon
  | .withSource source => lexer.withSource source
  | .scan => lexer.scan.2

/-- The lexer after operations, one after the other. -/
def perform (lexer : Lexer T) (ops : List (Operation T)) : Lexer T := ops.foldl apply lexer

@[simp] theorem perform_nil (lexer : Lexer T) : lexer.perform [] = lexer := rfl

@[simp] theorem perform_cons (lexer : Lexer T) (op : Operation T) (ops : List (Operation T)) :
    lexer.perform (op :: ops) = (lexer.apply op).perform ops := rfl

@[simp] theorem perform_append_singleton (lexer : Lexer T) (ops : List (Operation T))
    (op : Operation T) : lexer.perform (ops ++ [op]) = (lexer.perform ops).apply op := by
  simp [perform]

/-- A scan among the operations has succeeded, and no other source was put in place after it. -/
def HasScanned (lexer : Lexer T) (ops : List (Operation T)) : Prop :=
  ∃ before after, ops = before ++ .scan :: after ∧ (∀ op ∈ after, op.source? = none) ∧
    (lexer.perform before).scan.1.isOk = true

theorem not_hasScanned_nil (lexer : Lexer T) : ¬lexer.HasScanned [] := by
  rintro ⟨before, after, heq, -, -⟩
  simp at heq

/-- Whether a scan has succeeded, from one operation to the next. -/
theorem hasScanned_append_singleton {lexer : Lexer T} {ops : List (Operation T)}
    {op : Operation T} :
    lexer.HasScanned (ops ++ [op]) ↔
      (lexer.HasScanned ops ∧ op.source? = none) ∨
        (op = .scan ∧ (lexer.perform ops).scan.1.isOk = true) := by
  constructor
  · rintro ⟨before, after, heq, hafter, hok⟩
    -- the scan that has succeeded is the last operation, or was there before it
    rcases List.eq_nil_or_concat after with rfl | ⟨after, last, rfl⟩
    · obtain ⟨rfl, hop⟩ := List.append_inj' heq rfl
      exact .inr ⟨by simpa using hop, hok⟩
    · rw [List.concat_eq_append, ← List.cons_append, ← List.append_assoc] at heq
      obtain ⟨rfl, hop⟩ := List.append_inj' heq rfl
      obtain rfl : op = last := by simpa using hop
      exact .inl ⟨⟨before, after, rfl, fun o ho => hafter o (by simp [ho]), hok⟩,
        hafter op (by simp)⟩
  · rintro (⟨⟨before, after, rfl, hafter, hok⟩, hop⟩ | ⟨rfl, hok⟩)
    · refine ⟨before, after ++ [op], by simp, fun o ho => ?_, hok⟩
      rcases List.mem_append.1 ho with ho | ho
      · exact hafter o ho
      · rwa [List.mem_singleton.1 ho]
    · exact ⟨ops, [], rfl, by simp, hok⟩

/-! ### Another source -/

/-- A scan leaves the classifiers in place. -/
theorem registry_scan (lexer : Lexer T) : lexer.scan.2.registry = lexer.registry := by
  show (lexer.after lexer.run.ending).registry = lexer.registry
  cases lexer.run.ending with
  | finished c m => rfl
  | failed fault => rfl

/-- A scan touches neither the classifiers nor the marker, which is all that another source keeps. -/
theorem withSource_scan (lexer : Lexer T) (source : String) :
    lexer.scan.2.withSource source = lexer.withSource source := by
  show (lexer.after lexer.run.ending).withSource source = lexer.withSource source
  cases lexer.run.ending with
  | finished c m => rfl
  | failed fault => rfl

/-- **Another source forgets all but the registrations.** -/
theorem withSource_perform (lexer : Lexer T) (ops : List (Operation T)) (source : String) :
    (lexer.perform ops).withSource source =
      (lexer.withSource source).perform (Operation.registrations ops) := by
  induction ops generalizing lexer with
  | nil => rfl
  | cons op ops ih =>
    rw [perform_cons, ih]
    cases op with
    | register category f => rfl
    | install lexicon => rfl
    | withSource other => rfl
    | scan => rw [apply, withSource_scan]; rfl

/-! ### The two states between operations -/

/-- The lexer is at the beginning of the given source and remembers nothing. -/
structure AtStart (source : String) (lexer : Lexer T) : Prop where
  cursor_eq : lexer.cursor = .ofString source
  memory_eq : lexer.memory = .fresh

/-- The lexer is at the end of its source. -/
structure Exhausted (lexer : Lexer T) : Prop where
  rest_eq : lexer.cursor.rest = []
  pending_eq : lexer.cursor.pending = []

theorem atStart_withSource (lexer : Lexer T) (source : String) :
    (lexer.withSource source).AtStart source :=
  ⟨rfl, rfl⟩

theorem AtStart.eq_withSource {source : String} {lexer : Lexer T} (h : lexer.AtStart source) :
    lexer = lexer.withSource source := by
  rw [withSource, ← h.cursor_eq, ← h.memory_eq]

end Lexer

/-- At the end of a source there is no trivia to skip. -/
theorem Scan.skipTrivia_of_exhausted (marker : Marker) {c : Cursor} (hrest : c.rest = [])
    (hpending : c.pending = []) : skipTrivia marker c = c := by
  obtain ⟨source, start, pending, rest, hsplit⟩ := c
  obtain rfl : rest = [] := hrest
  obtain rfl : pending = [] := hpending
  simp [skipTrivia, Cursor.move, Cursor.skip, Cursor.position]

/-- A run that finishes ends at the end of the source. -/
theorem Scan.Runs.exhausted {marker : Marker} {registry : Registry T} {m m' : Memory}
    {c c' : Cursor} {r : Run T} (h : Runs marker registry m c r)
    (hend : r.ending = .finished c' m') : c'.rest = [] ∧ c'.pending = [] := by
  induction h with
  | @finished m c hrest =>
    cases hend
    exact ⟨hrest, pending_skipTrivia marker c⟩
  | blocked | refused => cases hend
  | resolved _ _ _ ih => exact ih hend

namespace Lexer

/-- A scan at the end of the source finds nothing and changes nothing. -/
theorem Exhausted.scan_eq {lexer : Lexer T} (h : lexer.Exhausted) :
    lexer.scan = (.ok [], lexer) := by
  have hskip := skipTrivia_of_exhausted lexer.marker h.rest_eq h.pending_eq
  have hnext : next lexer.marker lexer.memory lexer.cursor = .finished lexer.cursor := by
    rw [next_of_nil (by rw [hskip, h.rest_eq]), hskip]
  have hrun : lexer.run = ⟨[], .finished lexer.cursor lexer.memory⟩ :=
    run_of_finished lexer.registry hnext
  rw [scan, hrun]
  rfl

/-- **A scan from the beginning goes to the end of the source, or it fails and leaves the lexer as it
was.** -/
theorem AtStart.scan_cases {source : String} {lexer : Lexer T} (h : lexer.AtStart source) :
    (lexer.scan.1.isOk = true ∧ lexer.scan.2.Exhausted) ∨
      ∃ fault, lexer.scan = (.error fault, lexer) := by
  have hruns := runs_run lexer.marker lexer.registry (h.memory_eq ▸ Memory.steady_fresh)
    lexer.cursor
  rw [← Lexer.run] at hruns
  cases hend : lexer.run.ending with
  | finished c m =>
    obtain ⟨hrest, hpending⟩ := hruns.exhausted hend
    refine .inl ⟨?_, ?_⟩
    · rw [scan, Run.result, hend]
      rfl
    · rw [scan, hend]
      exact ⟨hrest, hpending⟩
  | failed fault =>
    refine .inr ⟨fault, ?_⟩
    rw [scan, Run.result, hend, after, h.cursor_eq, Cursor.rewind_eq]
    refine Prod.ext rfl ?_
    exact h.eq_withSource.symm

/-- **Between two operations a lexer is in one of two states:** at the end of its source if a scan has
succeeded, and otherwise at the beginning. -/
theorem atStart_or_exhausted_perform {source : String} {lexer : Lexer T}
    (h : lexer.AtStart source) (ops : List (Operation T)) :
    (lexer.HasScanned ops → (lexer.perform ops).Exhausted) ∧
      (¬lexer.HasScanned ops →
        (lexer.perform ops).AtStart (Operation.currentSource source ops)) := by
  induction ops using List.reverseRecOn with
  | nil => exact ⟨fun hscanned => absurd hscanned lexer.not_hasScanned_nil, fun _ => h⟩
  | append_singleton ops op ih =>
    obtain ⟨hexhausted, hstart⟩ := ih
    rw [perform_append_singleton, Operation.currentSource_append_singleton,
      hasScanned_append_singleton]
    cases op with
    | register | install =>
      -- the cursor and the memory are untouched
      simp only [Operation.source?, reduceCtorEq, and_true, false_and, or_false, Option.getD_none]
      exact ⟨fun hs => ⟨(hexhausted hs).rest_eq, (hexhausted hs).pending_eq⟩,
        fun hs => ⟨(hstart hs).cursor_eq, (hstart hs).memory_eq⟩⟩
    | withSource other =>
      simp only [Operation.source?, reduceCtorEq, and_false, false_and, or_false,
        Option.getD_some, false_implies, not_false_eq_true, forall_const, true_and]
      exact (lexer.perform ops).atStart_withSource other
    | scan =>
      simp only [Operation.source?, and_true, true_and, Option.getD_none]
      rw [apply]
      by_cases hs : lexer.HasScanned ops
      · rw [(hexhausted hs).scan_eq]
        exact ⟨fun _ => hexhausted hs, fun hn => absurd (.inl hs) hn⟩
      · rcases (hstart hs).scan_cases with ⟨hok, hend⟩ | ⟨fault, heq⟩
        · exact ⟨fun _ => hend, fun hn => absurd (.inr hok) hn⟩
        · rw [heq]
          exact ⟨fun hn => hn.elim (absurd · hs) nofun, fun _ => hstart hs⟩

/-! ### The next scan -/

/-- **The next scan after any history.** If a scan has succeeded since the lexer was created or given
its source, the next one finds nothing and changes nothing. Otherwise it is the first scan of a lexer
that is created with the same settings and the current source, and has seen only the registrations. A
scan that fails leaves the lexer at the beginning of the source, and fails alike when it is repeated. -/
theorem scan_perform {source : String} {config : Config} {lexer : Lexer T}
    (hlexer : (config = {} ∧ lexer = ofSource source) ∨ withConfig source config = .ok lexer)
    (ops : List (Operation T)) :
    (lexer.HasScanned ops → (lexer.perform ops).scan = (.ok [], lexer.perform ops)) ∧
    (¬lexer.HasScanned ops →
      ∃ created : Lexer T,
        withConfig (Operation.currentSource source ops) config = .ok created ∧
        (lexer.perform ops).scan = (created.perform (Operation.registrations ops)).scan) ∧
    (∀ fault, (lexer.perform ops).scan.1 = .error fault →
      (lexer.perform ops).scan.2.AtStart (Operation.currentSource source ops) ∧
      (lexer.perform ops).scan.2.scan = (.error fault, (lexer.perform ops).scan.2)) := by
  have hvalid : withConfig source config = .ok lexer := by
    rcases hlexer with ⟨rfl, rfl⟩ | hlexer
    · exact withConfig_customary source
    · exact hlexer
  obtain ⟨m, htext, rfl⟩ := withConfig_eq_ok_iff.1 hvalid
  have hbegin : (withMarker source m : Lexer T).AtStart source := ⟨rfl, rfl⟩
  obtain ⟨hexhausted, hstart⟩ := atStart_or_exhausted_perform hbegin ops
  refine ⟨fun hscanned => (hexhausted hscanned).scan_eq, fun hnot => ?_, fun fault hfault => ?_⟩
  · refine ⟨withMarker (Operation.currentSource source ops) m,
      withConfig_eq_ok_iff.2 ⟨m, htext, rfl⟩, ?_⟩
    rw [(hstart hnot).eq_withSource, withSource_perform]
    rfl
  · by_cases hscanned : (withMarker source m).HasScanned ops
    · rw [(hexhausted hscanned).scan_eq] at hfault
      cases hfault
    · rcases (hstart hscanned).scan_cases with ⟨hok, -⟩ | ⟨fault', heq⟩
      · rw [hfault] at hok
        cases hok
      · rw [heq] at hfault ⊢
        cases hfault
        exact ⟨hstart hscanned, heq⟩

/-- A lexer of a source that ends inside an escape. -/
def unclosed : Lexer Unit := ofSource "a \"\\"

/-- A scan, and then a classifier that arms a qualifier. -/
def arming : List (Operation Unit) :=
  [.scan, .register .identifier fun _ _ => .emitThen () .qualifying]

/-- The source that ends inside an escape fails at the quote, with its identifier resolved and a
qualifier armed, and leaves the lexer as it was; another source gives its two tokens once. -/
theorem scan_perform_unclosed :
    (¬unclosed.HasScanned arming ∧
      ∃ created : Lexer Unit, withConfig "a \"\\" {} = .ok created ∧
        (unclosed.perform arming).scan =
          (created.perform (Operation.registrations arming)).scan) ∧
    ((unclosed.perform arming).scan.1 = .error (.unterminated 2) ∧
      (unclosed.perform arming).scan.2.AtStart "a \"\\" ∧
      (unclosed.perform arming).scan.2.scan =
        (.error (.unterminated 2), (unclosed.perform arming).scan.2)) ∧
    (unclosed.perform (arming ++ [.withSource "b c"])).scan.1 =
      .ok [⟨(), "b", ⟨0, 1⟩, none⟩, ⟨(), "c", ⟨2, 3⟩, none⟩] ∧
    unclosed.HasScanned (arming ++ [.withSource "b c", .scan]) ∧
    (unclosed.perform (arming ++ [.withSource "b c", .scan])).scan =
      (.ok [], unclosed.perform (arming ++ [.withSource "b c", .scan])) := by
  have hcreated : withConfig "a \"\\" {} = .ok unclosed := withConfig_customary _
  obtain ⟨-, hfirst, hfailed⟩ := scan_perform (.inr hcreated) arming
  obtain ⟨hagain, -, -⟩ :=
    scan_perform (.inr hcreated) (arming ++ [.withSource "b c", .scan])
  have hnot : ¬unclosed.HasScanned arming := by
    rintro ⟨before, after, heq, -, hok⟩
    match before with
    | [] => exact absurd hok (by decide +kernel)
    | [_] => simp [arming] at heq
    | [_, _] => simp [arming] at heq
    | _ :: _ :: _ :: _ => simp [arming] at heq
  have hscanned : unclosed.HasScanned (arming ++ [.withSource "b c", .scan]) :=
    ⟨arming ++ [.withSource "b c"], [], rfl, by simp, by decide +kernel⟩
  have hfails : (unclosed.perform arming).scan.1 = .error (.unterminated 2) := by decide +kernel
  exact ⟨⟨hnot, hfirst hnot⟩, ⟨hfails, hfailed _ hfails⟩, by decide +kernel, hscanned,
    hagain hscanned⟩

end Lexer

end ChainLexer
