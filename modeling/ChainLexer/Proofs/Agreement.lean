import ChainLexer.Proofs.Derivation
import ChainLexer.Proofs.Qualifier

/-!
# Only what a run is shown counts

A lexer holds classifiers for all lexemes in all contexts, and a scan asks them about few. This module
proves that nothing else about them matters: if two registries come to the same on the lexemes that
one run shows to its chains, then the other run shows the same lexemes, finds the same tokens and ends
in the same way.

## What it is to come to the same

A resolution uses two things of what a chain did: the verdict, and the writes that had an effect. The
writes decide more than the next context, since an identifier whose resolution wrote anything keeps a
waiting qualifier, so it is not enough that two chains leave the same context behind. How many
classifiers were asked does not matter. A chain is therefore taken for one classifier, with the writes
of all that were asked: this is `Chain.response`. Chains agree on a lexeme if these responses are
alike in every context but that of an escape, in which no run asks.

## Main definitions

* `Response.Alike`: the same verdict, and the same writes with an effect
* `Chain.response`: what a chain does with a lexeme as a whole
* `Chain.AgreeOn`: chains that come to the same on a lexeme
* `Lexer.ScansLike`: scans with the same outcome

## Main results

* `Chain.AgreeOn.push`: agreement survives alike classifiers in front
* `Runs.of_agreeOn`: agreement on the lexemes of one run makes the other run the same
* `Lexer.scansLike_withRegistry`: so it is for the scans of a lexer
-/

namespace ChainLexer.Grammar

variable {T : Type}

/-! ### Alike responses -/

/-- The responses have the same verdict and the same writes with an effect. -/
structure Response.Alike (r s : Response T) : Prop where
  verdict_eq : s.verdict = r.verdict
  effectiveWrites_eq : effectiveWrites s.writes = effectiveWrites r.writes

namespace Response.Alike

theorem refl (r : Response T) : r.Alike r := ⟨rfl, rfl⟩

theorem symm {r s : Response T} (h : r.Alike s) : s.Alike r :=
  ⟨h.verdict_eq.symm, h.effectiveWrites_eq.symm⟩

theorem contextAfter_eq {r s : Response T} (h : r.Alike s) (context : Context) :
    s.contextAfter context = r.contextAfter context := by
  rw [contextAfter, contextAfter, Context.afterWrites_eq_getD, Context.afterWrites_eq_getD,
    h.effectiveWrites_eq]

end Response.Alike

/-! ### Chains that come to the same -/

namespace Chain

variable {chain chain' : Chain T} {f g : Classifier T} {lexeme : String} {context : Context}

/-- What a chain does with a lexeme as a whole: the writes of all classifiers that were asked, and
their verdict. -/
def response (chain : Chain T) (lexeme : String) (context : Context) : Response T :=
  ⟨writesOf (chain.consult lexeme context), verdictOf (chain.consult lexeme context)⟩

/-- A classifier with a verdict is the last one that is asked. -/
theorem response_push_of_verdict (chain : Chain T) {verdict : Verdict T}
    (h : (f lexeme context).verdict = some verdict) :
    (chain.push f).response lexeme context = f lexeme context := by
  have hconsult : (chain.push f).consult lexeme context = [f lexeme context] := by
    simp [consult, push, consultList, h]
  simp [response, hconsult, writesOf, verdictOf]

/-- A classifier that declines adds its writes to what the older ones do after it. -/
theorem response_push_of_decline (chain : Chain T) (h : (f lexeme context).verdict = none) :
    (chain.push f).response lexeme context =
      ⟨(f lexeme context).writes ++
          (chain.response lexeme ((f lexeme context).contextAfter context)).writes,
        (chain.response lexeme ((f lexeme context).contextAfter context)).verdict⟩ := by
  simp [response, consult, push, consultList, h, writesOf, verdictOf]

/-- The chains come to the same on the lexeme, unless they are asked inside an escape. -/
def AgreeOn (lexeme : String) (chain chain' : Chain T) : Prop :=
  ∀ context, context ≠ .escaping →
    (chain.response lexeme context).Alike (chain'.response lexeme context)

namespace AgreeOn

theorem refl (lexeme : String) (chain : Chain T) : AgreeOn lexeme chain chain :=
  fun _ _ => .refl _

theorem symm (h : AgreeOn lexeme chain chain') : AgreeOn lexeme chain' chain :=
  fun context hcontext => (h context hcontext).symm

/-- **Agreement survives alike classifiers in front.** The older classifiers are asked in the context
that the new ones leave behind, which is the same for both and not that of an escape. -/
theorem push (h : AgreeOn lexeme chain chain')
    (hfg : ∀ context, context ≠ .escaping → (f lexeme context).Alike (g lexeme context)) :
    AgreeOn lexeme (chain.push f) (chain'.push g) := by
  intro context hcontext
  have hnew := hfg context hcontext
  cases hverdict : (f lexeme context).verdict with
  | some verdict =>
    rw [response_push_of_verdict chain hverdict,
      response_push_of_verdict chain' (hnew.verdict_eq.trans hverdict)]
    exact hnew
  | none =>
    have hold := h ((f lexeme context).contextAfter context)
      (Context.afterWrites_ne_escaping hcontext _)
    rw [response_push_of_decline chain hverdict,
      response_push_of_decline chain' (hnew.verdict_eq.trans hverdict), hnew.contextAfter_eq]
    refine ⟨hold.verdict_eq, ?_⟩
    rw [effectiveWrites_append, effectiveWrites_append, hnew.effectiveWrites_eq,
      hold.effectiveWrites_eq]

end AgreeOn

end Chain

end ChainLexer.Grammar

namespace ChainLexer.Scan

open ChainLexer.Grammar ChainLexer.Settings ChainLexer.Source

variable {T : Type} {marker : Marker} {registry registry' : Registry T} {m : Memory} {c : Cursor}

/-! ### Runs -/

theorem Run.tokens_cons_of_outcome_eq {x x' : Resolution T} (h : x'.outcome = x.outcome)
    {r r' : Run T} (htokens : r'.tokens = r.tokens) : (r'.cons x').tokens = (r.cons x).tokens := by
  rw [Run.tokens_cons, Run.tokens_cons, Resolution.token?, Resolution.token?, h, htokens]

/-- **A resolution by chains that agree** comes to the same, and leaves the same memory behind. -/
theorem resolve_of_agreeOn {w : Lexeme}
    (h : (registry.chain w.category).AgreeOn w.toString (registry'.chain w.category))
    (hm : m.Steady) (span : Span) :
    (resolve registry' m w span).1.outcome = (resolve registry m w span).1.outcome ∧
      (resolve registry' m w span).2 = (resolve registry m w span).2 := by
  have halike := h m.unmarked.context hm.unmarked
  constructor
  · have hverdict :
        (resolve registry' m w span).1.verdict = (resolve registry m w span).1.verdict :=
      halike.verdict_eq
    rw [Resolution.outcome, Resolution.outcome, hverdict]
    rfl
  · have hwrites := halike.effectiveWrites_eq
    rw [Chain.response, Chain.response] at hwrites
    show settle w.category m.unmarked (m.unmarked.writeAll _) = settle w.category m.unmarked _
    rw [← Memory.writeAll_effectiveWrites, hwrites, Memory.writeAll_effectiveWrites]

/-- **Agreement on the lexemes of one run makes the other run the same.** Both begin with the same
memory, and every resolution leaves them with the same memory, so they reach the same lexemes. -/
theorem Runs.of_agreeOn {r : Run T} (h : Runs marker registry m c r) (hm : m.Steady)
    (hagree : ∀ x ∈ r.lexemes,
      (registry.chain x.1.category).AgreeOn x.1.toString (registry'.chain x.1.category)) :
    ∃ r', Runs marker registry' m c r' ∧ r'.lexemes = r.lexemes ∧ r'.tokens = r.tokens ∧
      r'.ending = r.ending := by
  induction h with
  | finished hrest => exact ⟨_, .finished hrest, rfl, rfl, rfl⟩
  | blocked hrest hblocked => exact ⟨_, .blocked hrest hblocked, rfl, rfl, rfl⟩
  | @refused m c c' w span fault hreach hout =>
    obtain ⟨houtcome, -⟩ :=
      resolve_of_agreeOn (hagree (w, span) List.mem_cons_self) (w.steady_memoryAfter hm) span
    refine ⟨_, .refused hreach (houtcome.trans hout), rfl, ?_, rfl⟩
    exact Run.tokens_cons_of_outcome_eq houtcome (r := ⟨[], .failed fault⟩) rfl
  | @resolved m c c' w span token rest hreach hout _ ih =>
    have hsteady := w.steady_memoryAfter hm
    obtain ⟨houtcome, hmemory⟩ :=
      resolve_of_agreeOn (hagree (w, span) List.mem_cons_self) hsteady span
    obtain ⟨r', hruns, hlexemes, htokens, hending⟩ :=
      ih (hsteady.resolve registry w span) fun x hx => hagree x (List.mem_cons_of_mem _ hx)
    rw [← hmemory] at hruns
    exact ⟨_, .resolved hreach (houtcome.trans hout) hruns, congrArg ((w, span) :: ·) hlexemes,
      Run.tokens_cons_of_outcome_eq houtcome htokens, hending⟩

end ChainLexer.Scan

namespace ChainLexer.Lexer

open ChainLexer.Grammar ChainLexer.Scan

variable {T : Type}

/-! ### Scans -/

/-- The run of a lexer has a derivation, unless it begins inside an escape. -/
theorem runs_of_steady {lexer : Lexer T} (h : lexer.memory.Steady) :
    Runs lexer.marker lexer.registry lexer.memory lexer.cursor lexer.run :=
  runs_run lexer.marker lexer.registry h lexer.cursor

/-- The scans of the two lexers have the same outcome. -/
structure ScansLike (lexer lexer' : Lexer T) : Prop where
  /-- They show the same lexemes to their chains, at the same places, -/
  lexemes_eq : lexer'.run.lexemes = lexer.run.lexemes
  /-- come to the same tokens or to the same fault, -/
  result_eq : lexer'.scan.1 = lexer.scan.1
  /-- and leave the lexers alike but for their classifiers: at the same place, with the same memory. -/
  after_eq : lexer'.scan.2 = lexer.scan.2.withRegistry lexer'.registry

/-- **Only what a scan shows to its chains counts.** -/
theorem scansLike_withRegistry {lexer : Lexer T} (hm : lexer.memory.Steady) {registry' : Registry T}
    (h : ∀ x ∈ lexer.run.lexemes,
      (lexer.registry.chain x.1.category).AgreeOn x.1.toString (registry'.chain x.1.category)) :
    lexer.ScansLike (lexer.withRegistry registry') := by
  obtain ⟨r', hruns, hlexemes, htokens, hending⟩ := (runs_of_steady hm).of_agreeOn hm h
  have hrun : (lexer.withRegistry registry').run = r' := (hruns.eq_run hm).symm
  refine ⟨by rw [hrun, hlexemes], ?_, ?_⟩
  · show (lexer.withRegistry registry').run.result = lexer.run.result
    rw [hrun, Run.result, Run.result, htokens, hending]
  · show (lexer.withRegistry registry').after (lexer.withRegistry registry').run.ending =
      (lexer.after lexer.run.ending).withRegistry registry'
    rw [hrun, hending]
    cases lexer.run.ending with
    | finished c m => rfl
    | failed fault => rfl

end ChainLexer.Lexer
