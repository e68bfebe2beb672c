import ChainLexer.Proofs.Derivation
import Mathlib.Data.List.Infix

/-!
# Classifiers decide what a lexeme means, not where it ends

Two runs over one source with different classifiers resolve the same lexemes at the same places, for
as long as both go on. Classifiers have one way to interfere: they write the context, and the context
is where a string literal keeps its open escape. `Memory.Steady` has closed that way already, so the
rules of `Runs` speak of the memory only where a lexeme is resolved.

## From two runs to one

A statement about two runs would have to follow both at once, and they may stop at different lexemes.
So the lexemes of a source are first listed without any classifier: `segments` goes from lexeme to
lexeme with a fresh memory, and stops only at what is no lexeme at all. Every run is then compared with
this list, and two runs agree because each agrees with the list.

## Main definitions

* `Segmentation`, `segments`: the lexemes from a place in a source, and what ends them
* `Run.EmitsAll`: every lexeme that the run has resolved became a token
* `Token.content`: what a token has from its lexeme
* `Segmentation.contents`: the contents of the tokens when every lexeme becomes one
* `Lexer.AgreeOnLexemes`: scans that differ in what becomes of lexemes only

## Main results

* `Runs.lexemes_isPrefix_segments`: a run resolves the first lexemes of the source
* `Runs.segments_eq`: a run that finishes resolves all of them
* `Runs.map_content_result`: a run that emits every lexeme has the contents of the segmentation
* `Lexer.agreeOnLexemes_of_withConfig`: two scans of one source agree on the lexemes
-/

namespace ChainLexer.Scan

open ChainLexer.Grammar ChainLexer.Settings ChainLexer.Source ChainLexer.Text

variable {T : Type}

/-! ### Segmentations -/

/-- The lexemes from a place in a source with their spans, and the fault at which no further lexeme
can be read, if there is one. -/
structure Segmentation where
  lexemes : List (Lexeme × Span)
  fault? : Option Fault

/-- The segmentation with one more lexeme before it. -/
def Segmentation.cons (w : Lexeme) (span : Span) (s : Segmentation) : Segmentation :=
  { s with lexemes := (w, span) :: s.lexemes }

/-- The segmentation from a place in a source. No classifier is asked. -/
def segments (marker : Marker) (c : Cursor) : Segmentation :=
  match h : next marker .fresh c with
  | .finished _ => ⟨[], none⟩
  | .blocked fault => ⟨[], some fault⟩
  | .found w span _ c' =>
    have := length_rest_of_next h
    (segments marker c').cons w span
termination_by c.rest.length

section Segments

variable {marker : Marker} {c c' : Cursor} {w : Lexeme} {span : Span}

theorem segments_of_nil (h : (skipTrivia marker c).rest = []) : segments marker c = ⟨[], none⟩ := by
  have hnext := next_of_nil (m := .fresh) h
  rw [segments]
  split
  · rfl
  · next heq => cases heq.symm.trans hnext
  · next heq => cases heq.symm.trans hnext

theorem segments_of_obstacle {first : Char} {others : List Char} {obstacle : Obstacle}
    (h : (skipTrivia marker c).rest = first :: others)
    (hblocked : Lexeme.recognise marker .fresh first others = .error obstacle) :
    segments marker c = ⟨[], some (obstacle.faultAt (skipTrivia marker c).position)⟩ := by
  have hnext := next_of_obstacle Memory.steady_fresh h hblocked
  rw [segments]
  split
  · next heq => cases heq.symm.trans hnext
  · next heq => cases heq.symm.trans hnext; rfl
  · next heq => cases heq.symm.trans hnext

theorem segments_of_reaches (h : Reaches marker c w span c') :
    segments marker c = (segments marker c').cons w span := by
  have hnext := next_of_reaches Memory.steady_fresh h
  rw [segments]
  split
  · next heq => cases heq.symm.trans hnext
  · next heq => cases heq.symm.trans hnext
  · next heq => cases heq.symm.trans hnext; rfl

end Segments

/-! ### One run and the segmentation -/

section OneRun

variable {marker : Marker} {registry : Registry T} {m m' : Memory} {c c' : Cursor} {r : Run T}

/-- **A run resolves the first lexemes of the source,** whatever its classifiers say. -/
theorem Runs.lexemes_isPrefix_segments (h : Runs marker registry m c r) :
    r.lexemes <+: (segments marker c).lexemes := by
  induction h with
  | finished | blocked => exact List.nil_prefix
  | refused hreach hout =>
    rw [segments_of_reaches hreach]
    exact List.prefix_append [_] _
  | resolved hreach hout _ ih =>
    rw [segments_of_reaches hreach]
    exact List.cons_prefix_cons.2 ⟨rfl, ih⟩

/-- **A run that finishes resolves all of them.** -/
theorem Runs.segments_eq (h : Runs marker registry m c r) (hend : r.ending = .finished c' m') :
    segments marker c = ⟨r.lexemes, none⟩ := by
  induction h with
  | finished hrest => exact segments_of_nil hrest
  | blocked | refused => cases hend
  | resolved hreach hout _ ih =>
    rw [segments_of_reaches hreach, ih hend]
    rfl

end OneRun

/-! ### Runs in which every lexeme becomes a token -/

/-- No lexeme that the run has resolved was declined or skipped. -/
def Run.EmitsAll (run : Run T) : Prop :=
  ∀ r ∈ run.resolutions, ∃ kind, r.verdict = some (.emit kind)

/-- What a token has from its lexeme: all but the kind. -/
def Token.content (t : Token T) : String × Span × Option Value := (t.lexeme, t.span, t.value)

/-- The contents of the tokens when every lexeme becomes one: of a number that is too large comes a
fault, and otherwise the fault is that of the segmentation. -/
def contentsOf (fault? : Option Fault) :
    List (Lexeme × Span) → Except Fault (List (String × Span × Option Value))
  | [] =>
    match fault? with
    | none => .ok []
    | some fault => .error fault
  | (w, span) :: ws =>
    match w.value? with
    | none => .error (.overflow w.toString span)
    | some value => (contentsOf fault? ws).map ((w.toString, span, value) :: ·)

/-- The contents of the tokens when every lexeme of the segmentation becomes one. -/
def Segmentation.contents (s : Segmentation) :
    Except Fault (List (String × Span × Option Value)) :=
  contentsOf s.fault? s.lexemes

/-- The result of a run with one more resolution before it. -/
theorem Run.result_cons {x : Resolution T} {token : Token T} (hx : x.outcome = .ok (some token))
    (run : Run T) : (run.cons x).result = run.result.map (token :: ·) := by
  have htoken : x.token? = some token := by rw [Resolution.token?, hx]
  have htokens : (run.cons x).tokens = token :: run.tokens := List.filterMap_cons_some htoken
  rw [Run.result, Run.result, htokens]
  cases hend : run.ending with
  | finished c m => simp [Run.cons, hend, Except.map]
  | failed fault => simp [Run.cons, hend, Except.map]

/-- **A run that emits every lexeme has the contents of the segmentation,** its fault included. -/
theorem Runs.map_content_result {marker : Marker} {registry : Registry T} {m : Memory} {c : Cursor}
    {r : Run T} (h : Runs marker registry m c r) (hall : r.EmitsAll) :
    r.result.map (List.map Token.content) = (segments marker c).contents := by
  induction h with
  | finished hrest =>
    rw [segments_of_nil hrest]
    rfl
  | blocked hrest hblocked =>
    rw [segments_of_obstacle hrest hblocked]
    rfl
  | @refused m c c' w span fault hreach hout =>
    obtain ⟨kind, hkind⟩ := hall _ List.mem_cons_self
    rw [segments_of_reaches hreach, Segmentation.contents, Segmentation.cons, contentsOf]
    cases hvalue : w.value? with
    | none =>
      cases hout.symm.trans (Resolution.outcome_of_overflow hkind hvalue)
      rfl
    | some value => cases hout.symm.trans (Resolution.outcome_of_value hkind hvalue)
  | @resolved m c c' w span token rest hreach hout _ ih =>
    obtain ⟨kind, hkind⟩ := hall _ List.mem_cons_self
    have hrest : rest.EmitsAll := fun x hx => hall x (List.mem_cons_of_mem _ hx)
    rw [segments_of_reaches hreach, Segmentation.contents, Segmentation.cons, contentsOf]
    cases hvalue : w.value? with
    | none => cases hout.symm.trans (Resolution.outcome_of_overflow hkind hvalue)
    | some value =>
      have hcontents : contentsOf (segments marker c').fault? (segments marker c').lexemes =
          rest.result.map (List.map Token.content) := (ih hrest).symm
      rw [Run.result_cons (Resolution.outcome_of_value hkind hvalue)]
      simp only [hcontents]
      cases rest.result with
      | error fault => rfl
      | ok tokens => rfl

/-- The result of a run that emits every lexeme is determined up to the kinds of its tokens. -/
theorem Runs.result_cases {U : Type} {marker : Marker} {registry₁ : Registry T}
    {registry₂ : Registry U} {m₁ m₂ : Memory} {c : Cursor} {r₁ : Run T} {r₂ : Run U}
    (h₁ : Runs marker registry₁ m₁ c r₁) (h₂ : Runs marker registry₂ m₂ c r₂)
    (hall₁ : r₁.EmitsAll) (hall₂ : r₂.EmitsAll) :
    (∃ tokens₁ tokens₂, r₁.result = .ok tokens₁ ∧ r₂.result = .ok tokens₂ ∧
      tokens₁.map Token.content = tokens₂.map Token.content) ∨
    ∃ fault, r₁.result = .error fault ∧ r₂.result = .error fault := by
  have hcontents := (h₁.map_content_result hall₁).trans (h₂.map_content_result hall₂).symm
  cases hr₁ : r₁.result with
  | ok tokens₁ =>
    cases hr₂ : r₂.result with
    | ok tokens₂ =>
      rw [hr₁, hr₂] at hcontents
      exact .inl ⟨tokens₁, tokens₂, rfl, rfl, Except.ok.inj hcontents⟩
    | error fault => rw [hr₁, hr₂] at hcontents; cases hcontents
  | error fault =>
    cases hr₂ : r₂.result with
    | ok tokens₂ => rw [hr₁, hr₂] at hcontents; cases hcontents
    | error fault' =>
      rw [hr₁, hr₂] at hcontents
      cases hcontents
      exact .inr ⟨fault, rfl, rfl⟩

/-! ### Classifiers that emit everything -/

/-- The classifiers give every lexeme a kind: together they never decline, and they never skip. -/
def Emits (registry : Registry T) : Prop :=
  ∀ category lexeme context,
    ∃ kind, verdictOf ((registry.chain category).consult lexeme context) = some (.emit kind)

/-- The newest classifiers suffice. -/
theorem emits_registerEach {classifier : Category → Classifier T}
    (h : ∀ category lexeme context,
      ∃ kind, (classifier category lexeme context).verdict = some (.emit kind))
    (registry : Registry T) : Emits (registry.registerEach classifier) := by
  intro category lexeme context
  obtain ⟨kind, hkind⟩ := h category lexeme context
  refine ⟨kind, ?_⟩
  rw [Registry.chain_registerEach, Chain.consult, Chain.push, Chain.consultList]
  simp [hkind, verdictOf]

/-- Such classifiers emit every lexeme of every run. -/
theorem Runs.emitsAll {marker : Marker} {registry : Registry T} {m : Memory} {c : Cursor}
    {r : Run T} (h : Runs marker registry m c r) (hregistry : Emits registry) : r.EmitsAll :=
  h.forall_resolutions (fun _ x => ∃ kind, x.verdict = some (.emit kind))
    (fun _ => hregistry _ _ _) fun _ hx => hx

end ChainLexer.Scan

namespace ChainLexer.Lexer

open ChainLexer.Grammar ChainLexer.Scan ChainLexer.Settings

variable {T U : Type}

/-! ### Two scans of one source -/

/-- Two lexers whose scans differ in what becomes of lexemes only. -/
structure AgreeOnLexemes (lexer₁ : Lexer T) (lexer₂ : Lexer U) : Prop where
  /-- The lexemes that one has shown to its chains, up to the one at which it failed, are the first
  ones of the other, at the same places. -/
  comparable : lexer₁.run.lexemes <+: lexer₂.run.lexemes ∨ lexer₂.run.lexemes <+: lexer₁.run.lexemes
  /-- If both succeed, they have shown the same lexemes to their chains. -/
  lexemes_eq {tokens₁ : List (Token T)} {tokens₂ : List (Token U)} :
    lexer₁.scan.1 = .ok tokens₁ → lexer₂.scan.1 = .ok tokens₂ →
      lexer₁.run.lexemes = lexer₂.run.lexemes
  /-- If no lexeme is declined or skipped, both succeed and their tokens differ in the kinds only, or
  both fail with the same fault. -/
  result_cases : lexer₁.run.EmitsAll → lexer₂.run.EmitsAll →
    (∃ tokens₁ tokens₂, lexer₁.scan.1 = .ok tokens₁ ∧ lexer₂.scan.1 = .ok tokens₂ ∧
      tokens₁.map Token.content = tokens₂.map Token.content) ∨
    ∃ fault, lexer₁.scan.1 = .error fault ∧ lexer₂.scan.1 = .error fault

/-- **Classifiers decide what a lexeme means, not where it ends.** Two scans of one source with the
same settings agree on its lexemes, whatever their classifiers. -/
theorem agreeOnLexemes_of_withConfig {source : String} {config : Config} {lexer₁ : Lexer T}
    {lexer₂ : Lexer U} (hlexer₁ : withConfig source config = .ok lexer₁)
    (hlexer₂ : withConfig source config = .ok lexer₂) (registry₁ : Registry T)
    (registry₂ : Registry U) :
    AgreeOnLexemes (lexer₁.withRegistry registry₁) (lexer₂.withRegistry registry₂) := by
  obtain ⟨m, htext, rfl⟩ := withConfig_eq_ok_iff.1 hlexer₁
  obtain ⟨m', htext', rfl⟩ := withConfig_eq_ok_iff.1 hlexer₂
  obtain rfl : m = m' :=
    Except.ok.inj ((Config.marker_eq_ok_iff.2 htext).symm.trans (Config.marker_eq_ok_iff.2 htext'))
  have hruns₁ := runs_withMarker source m registry₁
  have hruns₂ := runs_withMarker source m registry₂
  refine ⟨?_, fun hok₁ hok₂ => ?_, hruns₁.result_cases hruns₂⟩
  · exact List.prefix_or_prefix_of_prefix hruns₁.lexemes_isPrefix_segments hruns₂.lexemes_isPrefix_segments
  · obtain ⟨⟨c₁, m₁, hend₁⟩, -⟩ := Run.result_eq_ok_iff.1 hok₁
    obtain ⟨⟨c₂, m₂, hend₂⟩, -⟩ := Run.result_eq_ok_iff.1 hok₂
    have heq := (hruns₁.segments_eq hend₁).symm.trans (hruns₂.segments_eq hend₂)
    exact congrArg Segmentation.lexemes heq

/-- Every lexeme is emitted under its category, and arms a qualifier. -/
def armingRegistry : Registry Category :=
  Registry.empty.registerEach fun category _ _ => .emitThen category .qualifying

/-- Every lexeme is emitted, with an attempt to open an escape. -/
def escapingRegistry : Registry Unit :=
  Registry.empty.registerEach fun _ _ _ => .emitThen () .escaping

/-- A name, a literal with a quote in it and a number, each with a kind. -/
def threeLexemes {U : Type} (name literal number : U) : List (Token U) :=
  [⟨name, "a", ⟨0, 1⟩, none⟩, ⟨literal, "\"\\\"b\"", ⟨2, 7⟩, some (.text "\"b")⟩,
    ⟨number, "7", ⟨8, 9⟩, some (.int 7)⟩]

/-- Neither an armed qualifier nor an attempt to open an escape moves the end of a literal. -/
theorem agreeOnLexemes_of_withConfig_escaped :
    AgreeOnLexemes ((ofSource "a \"\\\"b\" 7").withRegistry armingRegistry)
      ((ofSource "a \"\\\"b\" 7").withRegistry escapingRegistry) ∧
    ((ofSource "a \"\\\"b\" 7").withRegistry armingRegistry).scan.1 =
      .ok (threeLexemes .identifier .string .number) ∧
    ((ofSource "a \"\\\"b\" 7").withRegistry escapingRegistry).scan.1 =
      .ok (threeLexemes () () ()) ∧
    (threeLexemes Category.identifier .string .number).map Token.content =
      (threeLexemes () () ()).map Token.content := by
  have hagree := agreeOnLexemes_of_withConfig (withConfig_customary "a \"\\\"b\" 7")
    (withConfig_customary "a \"\\\"b\" 7") armingRegistry escapingRegistry
  have hall₁ := (runs_withMarker "a \"\\\"b\" 7" .hyphens armingRegistry).emitsAll
    (emits_registerEach (fun category _ _ => ⟨category, rfl⟩) _)
  have hall₂ := (runs_withMarker "a \"\\\"b\" 7" .hyphens escapingRegistry).emitsAll
    (emits_registerEach (fun _ _ _ => ⟨(), rfl⟩) _)
  have hscan₁ : ((ofSource "a \"\\\"b\" 7").withRegistry armingRegistry).scan.1 =
      .ok (threeLexemes .identifier .string .number) := by
    decide +kernel
  have hscan₂ : ((ofSource "a \"\\\"b\" 7").withRegistry escapingRegistry).scan.1 =
      .ok (threeLexemes () () ()) := by
    decide +kernel
  refine ⟨hagree, hscan₁, hscan₂, ?_⟩
  rcases hagree.result_cases hall₁ hall₂ with
    ⟨tokens₁, tokens₂, hok₁, hok₂, hcontents⟩ | ⟨fault, hfault, -⟩
  · rwa [← Except.ok.inj (hscan₁.symm.trans hok₁), ← Except.ok.inj (hscan₂.symm.trans hok₂)]
      at hcontents
  · cases hscan₁.symm.trans hfault

end ChainLexer.Lexer
