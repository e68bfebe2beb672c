import ChainLexer.Proofs.Alike

/-!
# Escapes are hidden in string literals

A string literal keeps its open escape in the field that classifiers read and write. This module says
that nobody else can tell. Every classifier reads one of the two other contexts, at every moment of
every call, and so does whoever asks the lexer between two operations. Entries of a table for the
context of an escape are never found, and attempts to write that context leave no trace.

## What a classifier reads

The record of a run holds the responses of classifiers, and not what they have read before they gave
them. `Chain.calls` gives the calls behind the responses of a chain, and `Call.contexts` all contexts
that a classifier can read during a call, from its beginning to its last write.

## Main definitions

* `Call`, `Chain.calls`: the calls of the classifiers that are asked about a lexeme
* `Call.contexts`: what a classifier can read during a call
* `EscapesHidden`: what hides the escapes from classifiers and callers

## Main results

* `Chain.ne_escaping_of_mem_calls`: a classifier never reads the context of an escape
* `Lexer.escapesHidden_perform`: escapes are hidden after every sequence of operations
-/

namespace ChainLexer.Grammar

variable {T : Type}

theorem Context.eq_plain_or_eq_qualifying {context : Context} (h : context ≠ .escaping) :
    context = .plain ∨ context = .qualifying := by
  cases context with
  | plain => exact .inl rfl
  | qualifying => exact .inr rfl
  | escaping => exact absurd rfl h

/-! ### What classifiers read -/

/-- A classifier is asked about a lexeme in a context. -/
structure Call (T : Type) where
  classifier : Classifier T
  lexeme : String
  context : Context

namespace Call

/-- The answer to a call. -/
def response (call : Call T) : Response T := call.classifier call.lexeme call.context

/-- What the classifier can read during the call: the context in which it is asked, and the one after
each of its writes. -/
def contexts (call : Call T) : List Context :=
  call.response.writes.scanl Context.afterWrite call.context

end Call

theorem Context.ne_escaping_of_mem_scanl {context shown : Context} (h : context ≠ .escaping)
    {ws : List Context} (hshown : shown ∈ ws.scanl afterWrite context) : shown ≠ .escaping := by
  induction ws generalizing context with
  | nil =>
    rw [List.scanl_nil, List.mem_singleton] at hshown
    rwa [hshown]
  | cons w ws ih =>
    rw [List.scanl_cons, List.mem_cons] at hshown
    rcases hshown with rfl | hshown
    · exact h
    · exact ih (afterWrite_ne_escaping h w) hshown

namespace Chain

/-- The calls of the classifiers in order, up to the first one with a verdict. -/
def callsList (lexeme : String) : List (Classifier T) → Context → List (Call T)
  | [], _ => []
  | f :: fs, context =>
    let response := f lexeme context
    match response.verdict with
    | some _ => [⟨f, lexeme, context⟩]
    | none => ⟨f, lexeme, context⟩ :: callsList lexeme fs (response.contextAfter context)

/-- The calls of the classifiers that are asked about a lexeme. -/
def calls (chain : Chain T) (lexeme : String) (context : Context) : List (Call T) :=
  callsList lexeme chain.newestFirst context

theorem map_response_callsList (lexeme : String) (fs : List (Classifier T)) (context : Context) :
    (callsList lexeme fs context).map Call.response = consultList lexeme fs context := by
  induction fs generalizing context with
  | nil => rfl
  | cons f fs ih =>
    simp only [callsList, consultList]
    cases (f lexeme context).verdict with
    | some verdict => rfl
    | none => exact congrArg (f lexeme context :: ·) (ih _)

/-- The responses are the answers to the calls. -/
theorem map_response_calls (chain : Chain T) (lexeme : String) (context : Context) :
    (chain.calls lexeme context).map Call.response = chain.consult lexeme context :=
  map_response_callsList lexeme chain.newestFirst context

theorem context_ne_escaping_of_mem_callsList {lexeme : String} {fs : List (Classifier T)}
    {context : Context} (h : context ≠ .escaping) {call : Call T}
    (hcall : call ∈ callsList lexeme fs context) : call.context ≠ .escaping := by
  induction fs generalizing context with
  | nil => cases hcall
  | cons f fs ih =>
    simp only [callsList] at hcall
    cases hverdict : (f lexeme context).verdict with
    | some verdict =>
      rw [hverdict, List.mem_singleton] at hcall
      rwa [hcall]
    | none =>
      rw [hverdict, List.mem_cons] at hcall
      rcases hcall with rfl | hcall
      · exact h
      · exact ih (Context.afterWrites_ne_escaping h _) hcall

/-- **A classifier never reads the context of an escape,** neither when it is asked nor after one of its
writes. -/
theorem ne_escaping_of_mem_calls {chain : Chain T} {lexeme : String} {context shown : Context}
    (h : context ≠ .escaping) {call : Call T} (hcall : call ∈ chain.calls lexeme context)
    (hshown : shown ∈ call.contexts) : shown ≠ .escaping :=
  Context.ne_escaping_of_mem_scanl (context_ne_escaping_of_mem_callsList h hcall) hshown

end Chain

end ChainLexer.Grammar

namespace ChainLexer.Scan

open ChainLexer.Grammar ChainLexer.Settings ChainLexer.Source

variable {T : Type}

/-! ### The calls of a run -/

/-- A resolution holds the answers of the classifiers to its calls. -/
theorem Runs.responses_eq {marker : Marker} {registry : Registry T} {m : Memory} {c : Cursor}
    {r : Run T} (h : Runs marker registry m c r) :
    ∀ x ∈ r.resolutions, x.responses =
      ((registry.chain x.lexeme.category).calls x.lexeme.toString x.entered).map Call.response :=
  h.forall_resolutions
    (fun _ x => x.responses =
      ((registry.chain x.lexeme.category).calls x.lexeme.toString x.entered).map Call.response)
    (fun _ => (Chain.map_response_calls ..).symm) (fun _ hx => hx)

/-- No resolution opens an escape. -/
theorem Resolution.contextAfter_ne_escaping {r : Resolution T} (h : r.entered ≠ .escaping) :
    r.contextAfter ≠ .escaping := by
  rw [contextAfter]
  split
  · simp
  · exact Context.afterWrites_ne_escaping h r.writes

/-- So no lexeme is resolved inside an escape, if the first one is not. -/
theorem Threaded.entered_ne_escaping {context : Context} {rs : List (Resolution T)}
    (h : Threaded context rs) (hcontext : context ≠ .escaping) :
    ∀ r ∈ rs, r.entered ≠ .escaping := by
  induction rs generalizing context with
  | nil => exact nofun
  | cons x rs ih =>
    have hx : x.entered ≠ .escaping := by rwa [h.1]
    intro r hr
    rcases List.mem_cons.1 hr with rfl | hr
    · exact hx
    · exact ih h.2 (Resolution.contextAfter_ne_escaping hx) r hr

end ChainLexer.Scan

namespace ChainLexer

open ChainLexer.Grammar ChainLexer.Scan ChainLexer.Settings

variable {T : Type}

namespace Lexer

/-! ### What is hidden -/

/-- The calls of classifiers behind a resolution in a scan of the lexer. -/
def calls (lexer : Lexer T) (r : Resolution T) : List (Call T) :=
  (lexer.registry.chain r.lexeme.category).calls r.lexeme.toString r.entered

/-- After the operations, and in a scan after them, nobody outside the string literals notices their
escapes. -/
structure EscapesHidden (lexer : Lexer T) (ops : List (Operation T)) : Prop where
  /-- The lexer shows one of the two other contexts. -/
  context_cases : (lexer.perform ops).context = .plain ∨ (lexer.perform ops).context = .qualifying
  /-- The responses of a resolution are the answers to its calls, -/
  responses_eq : ∀ r ∈ (lexer.perform ops).run.resolutions,
    r.responses = ((lexer.perform ops).calls r).map Call.response
  /-- and in all of them the classifier reads one of the two other contexts, when it is asked and after
  each of its writes. -/
  read_cases : ∀ r ∈ (lexer.perform ops).run.resolutions, ∀ call ∈ (lexer.perform ops).calls r,
    ∀ context ∈ call.contexts, context = .plain ∨ context = .qualifying
  /-- A string literal is resolved in the context in which its opening quote is reached, whatever
  escapes it contains, -/
  entered_of_recognise : ∀ m m' w cs span, m.context ≠ .escaping →
    Lexeme.recognise (lexer.perform ops).marker m '"' cs = .ok (w, m') →
      (resolve (lexer.perform ops).registry m' w span).1.entered = m.context
  /-- and that is, as for every lexeme, the context that the lexeme before it has left. -/
  threaded : Threaded (lexer.perform ops).context (lexer.perform ops).run.resolutions
  /-- A table that is asked answers as it does without its entries for the context of an escape. -/
  classify_table : ∀ r ∈ (lexer.perform ops).run.resolutions, ∀ call ∈ (lexer.perform ops).calls r,
    ∀ table : Table T, table.classify call.lexeme call.context =
      table.withoutEscapes.classify call.lexeme call.context
  /-- Nothing changes when a table among the registered classifiers loses these entries. -/
  scan_table : ∀ before category (table : Table T) after,
    ops = before ++ .register category table.classify :: after →
      (lexer.perform (before ++ .register category table.withoutEscapes.classify :: after)).scan.1 =
        (lexer.perform ops).scan.1
  /-- Nothing changes when all classifiers stop to write the context of an escape: neither the result
  of a scan, -/
  scan_withoutEscapes : (lexer.perform (ops.map Operation.withoutEscapes)).scan.1 =
    (lexer.perform ops).scan.1
  /-- nor what the lexer remembers. -/
  memory_withoutEscapes : (lexer.perform (ops.map Operation.withoutEscapes)).memory =
    (lexer.perform ops).memory

/-- **Escapes are hidden in string literals,** whatever is done with a lexer and whatever its
classifiers attempt to write. -/
theorem escapesHidden_perform {source : String} {config : Config} {lexer : Lexer T}
    (hlexer : lexer = ofSource source ∨ withConfig source config = .ok lexer)
    (ops : List (Operation T)) : EscapesHidden lexer ops := by
  obtain ⟨m, rfl⟩ : ∃ m, lexer = withMarker source m := by
    rcases hlexer with rfl | hlexer
    · exact ⟨.hyphens, rfl⟩
    · obtain ⟨m, -, rfl⟩ := withConfig_eq_ok_iff.1 hlexer
      exact ⟨m, rfl⟩
  have hfresh : (withMarker source m : Lexer T).memory.Steady := Memory.steady_fresh
  have hsteady : ((withMarker source m).perform ops).memory.Steady := steady_perform hfresh ops
  have hruns := runs_of_steady hsteady
  have hentered := hruns.threaded.entered_ne_escaping hsteady
  have halike {ops' : List (Operation T)} (hops : List.Forall₂ Operation.Alike ops ops') :=
    (alike_withMarker source m).perform hfresh hops
  have hdeleted : List.Forall₂ Operation.Alike ops (ops.map Operation.withoutEscapes) :=
    List.forall₂_map_right_iff.2 (List.forall₂_same.2 fun op _ => op.alike_withoutEscapes)
  exact {
    context_cases := Context.eq_plain_or_eq_qualifying hsteady
    responses_eq := hruns.responses_eq
    read_cases := fun r hr call hcall context hcontext =>
      Context.eq_plain_or_eq_qualifying
        (Chain.ne_escaping_of_mem_calls (hentered r hr) hcall hcontext)
    entered_of_recognise := fun m m' w cs span hm hw => by
      obtain ⟨-, rfl⟩ := (Lexeme.recognise_eq_ok_iff hm).1 hw
      exact w.context_memoryAfter m
    threaded := hruns.threaded
    classify_table := fun r hr call hcall table =>
      (table.classify_withoutEscapes call.lexeme
        (Chain.context_ne_escaping_of_mem_callsList (hentered r hr) hcall)).symm
    scan_table := fun before category table after hops => by
      have hsame (others : List (Operation T)) : List.Forall₂ Operation.Alike others others :=
        List.forall₂_same.2 fun op _ => op.alike_refl
      have hexchanged := List.rel_append (hsame before)
        (.cons (.register category table.alike_withoutEscapes) (hsame after))
      exact ((halike (hops ▸ hexchanged)).scan hsteady).1
    scan_withoutEscapes := ((halike hdeleted).scan hsteady).1
    memory_withoutEscapes := (halike hdeleted).memory_eq }

/-- Names arm a qualifier between two attempts to open an escape, and strings are skipped inside an
escape. -/
def meddling : List (Operation Unit) :=
  [.register .identifier fun _ _ => ⟨[.escaping, .qualifying, .escaping], some (.emit ())⟩,
   .register .string fun _ context => if context = .escaping then .skip else .emit ()]

/-- A source with an escape inside a string. -/
def escaped : Lexer Unit := ofSource "a \"\\\"\""

/-- The string is resolved in the context that the name before it has armed. The other source ends
inside an escape, so that its scan fails, with or without the attempts of the classifiers, and leaves
the plain context behind. -/
theorem escapesHidden_perform_meddling :
    (∃ r ∈ (escaped.perform meddling).run.resolutions,
      r.lexeme.category = .string ∧ r.entered = .qualifying ∧
      ∀ call ∈ (escaped.perform meddling).calls r, ∀ context ∈ call.contexts,
        context = .plain ∨ context = .qualifying) ∧
    (unclosed.perform meddling).scan.1 = .error (.unterminated 2) ∧
    (unclosed.perform (meddling.map Operation.withoutEscapes)).scan.1 = .error (.unterminated 2) ∧
    (unclosed.perform (meddling ++ [.scan])).context = .plain := by
  have hcreated : withConfig "a \"\\\"\"" {} = .ok escaped := withConfig_customary _
  have hescaped := escapesHidden_perform (.inr hcreated) meddling
  have hcreated' : withConfig "a \"\\" {} = .ok unclosed := withConfig_customary _
  have hunclosed := escapesHidden_perform (.inr hcreated') meddling
  have hafter := escapesHidden_perform (.inr hcreated') (meddling ++ [.scan])
  have hstring : (escaped.perform meddling).run.resolutions[1]?.map
      (fun r => (r.lexeme.category, r.entered)) = some (.string, .qualifying) := by
    decide +kernel
  have hfails : (unclosed.perform meddling).scan.1 = .error (.unterminated 2) := by decide +kernel
  have hcontext : (unclosed.perform (meddling ++ [.scan])).context ≠ .qualifying := by
    decide +kernel
  obtain ⟨r, hr, hvalue⟩ := Option.map_eq_some_iff.1 hstring
  obtain ⟨hcategory, hentered⟩ := Prod.mk.inj hvalue
  have hmem := List.mem_of_getElem? hr
  exact ⟨⟨r, hmem, hcategory, hentered, hescaped.read_cases r hmem⟩, hfails,
    hunclosed.scan_withoutEscapes.trans hfails, hafter.context_cases.resolve_right hcontext⟩

end Lexer

end ChainLexer
