import ChainLexer.Grammar.Standard
import ChainLexer.Proofs.Lines
import ChainLexer.Proofs.Qualifier
import ChainLexer.Proofs.Tiling
import Mathlib.Data.List.Forall2

/-!
# The standard lexicon in context

The standard lexicon has two words, `all` and `any`, that are keywords behind a `for` and names
elsewhere. Three parties have a hand in this: `for` lets a qualifier follow, a qualifier that is found
ends that context, and any other identifier gives the context up. This module says what comes of it in
terms of the source alone: the last identifier before the word decides, and nothing else does.

## Why the last identifier is enough

The context before a lexeme is one bit of the whole history, and the last identifier is another one.
They agree at the beginning of a source, where there is neither, and every lexeme changes both alike:
an identifier makes the context `qualifying` exactly if it is `for`, and any other lexeme leaves both
as they are. `Resolution.IsStandard.contextAfter_iff` is this step. The rest is an induction over the
lexemes of a run.

## Main definitions

* `lastIdentifier?`: the last identifier among some lexemes
* `Standard.kindOf?`: the kind of a lexeme on which the context has no influence
* `ContextSensitive`: the law of the standard lexicon

## Main results

* `Threaded.entered_iff_lastIdentifier?`: a lexeme finds a qualifier expected exactly if the last
  identifier before it is `for`
* `Lexer.contextSensitive_of_scan_eq_ok`: the law of the standard lexicon holds of every successful
  scan
-/

namespace ChainLexer.Grammar.Standard

/-! ### What the classifiers of the lexicon do -/

/-- The kind of a lexeme on which the context has no influence, if there is one. -/
def kindOf? : Category → String → Option Kind
  | .identifier, word =>
    some (if word = "for" then .kwFor else (Kind.reserved.lookup word).getD .name)
  | .number, _ => some .number
  | .string, _ => some .string
  | .operator, text => Kind.operators.lookup text

/-- Only identifiers are classified with a write. -/
theorem writes_classifier {category : Category} (h : category ≠ .identifier) (lexeme : String)
    (context : Context) : (classifier category lexeme context).writes = [] := by
  cases category with
  | identifier => exact absurd rfl h
  | number => rfl
  | string => rfl
  | operator =>
    show (operator lexeme context).writes = []
    rw [operator]
    split <;> rfl

/-- An identifier lets a qualifier follow exactly if it is `for`. -/
theorem getLast?_writes_identifier (word : String) (context : Context) :
    (effectiveWrites (identifier word context).writes).getLast? = some .qualifying ↔
      word = "for" := by
  unfold identifier
  split
  · next hfor => exact ⟨fun _ => hfor, fun _ => rfl⟩
  · next hfor =>
    refine ⟨fun h => ?_, fun h => absurd h hfor⟩
    split at h
    · cases h
    · split at h <;> cases h

/-- The words `all` and `any` are keywords exactly where a qualifier may follow. -/
theorem identifier_qualifier {word : String} {kind : Kind}
    (h : (word, kind) ∈ [("all", Kind.kwAll), ("any", Kind.kwAny)]) (context : Context) :
    (identifier word context).verdict =
      some (.emit (if context = .qualifying then kind else .name)) := by
  simp only [List.mem_cons, Prod.mk.injEq, List.not_mem_nil, or_false] at h
  rcases h with ⟨rfl, rfl⟩ | ⟨rfl, rfl⟩ <;> cases context <;> rfl

/-- All other words have one kind in all contexts. -/
theorem identifier_other {word : String} (hall : word ≠ "all") (hany : word ≠ "any")
    (context : Context) :
    (identifier word context).verdict = (kindOf? .identifier word).map Verdict.emit := by
  have hqualifiers : Kind.qualifiers.lookup word = none := by
    rw [Kind.qualifiers, List.lookup_cons, List.lookup_cons, beq_false_of_ne hall,
      beq_false_of_ne hany]
    rfl
  unfold identifier
  by_cases hfor : word = "for"
  · rw [if_pos hfor, kindOf?, if_pos hfor]
    rfl
  · rw [if_neg hfor, kindOf?, if_neg hfor, hqualifiers]
    cases Kind.reserved.lookup word with
    | some kind => rfl
    | none => cases context <;> rfl

/-- Apart from the two words, the kind is a function of the category and the lexeme. -/
theorem classifier_other (category : Category) {lexeme : String} (hall : lexeme ≠ "all")
    (hany : lexeme ≠ "any") (context : Context) :
    (classifier category lexeme context).verdict =
      (kindOf? category lexeme).map Verdict.emit := by
  cases category with
  | identifier => exact identifier_other hall hany context
  | number => rfl
  | string => rfl
  | operator =>
    show (operator lexeme context).verdict = (Kind.operators.lookup lexeme).map Verdict.emit
    rw [operator]
    cases Kind.operators.lookup lexeme <;> rfl

/-- The lexicon skips nothing. -/
theorem verdict_classifier_ne_skip (category : Category) (lexeme : String) (context : Context) :
    (classifier category lexeme context).verdict ≠ some .skip := by
  by_cases hall : lexeme = "all"
  · subst hall
    cases category <;> cases context <;> decide
  by_cases hany : lexeme = "any"
  · subst hany
    cases category <;> cases context <;> decide
  · rw [classifier_other category hall hany context]
    cases kindOf? category lexeme <;> simp

end ChainLexer.Grammar.Standard

namespace ChainLexer.Scan

open ChainLexer.Grammar ChainLexer.Settings ChainLexer.Source ChainLexer.Text

/-! ### The last identifier -/

/-- The last identifier among some lexemes. -/
def lastIdentifier? (ws : List Lexeme) : Option String :=
  (ws.filter (·.category = .identifier)).getLast?.map Lexeme.toString

@[simp] theorem lastIdentifier?_nil : lastIdentifier? [] = none := rfl

theorem lastIdentifier?_append_singleton (ws : List Lexeme) (w : Lexeme) :
    lastIdentifier? (ws ++ [w]) =
      if w.category = .identifier then some w.toString else lastIdentifier? ws := by
  by_cases h : w.category = .identifier
  · simp [lastIdentifier?, h]
  · simp [lastIdentifier?, h]

/-- A lexeme that begins like an identifier is one. -/
theorem Lexeme.WellShaped.category_eq_identifier {w : Lexeme} (h : w.WellShaped) {c : Char}
    {cs : List Char} (htext : w.text = c :: cs) (hc : isIdentStart c = true) :
    w.category = .identifier := by
  cases w with
  | identifier text => rfl
  | number text =>
    obtain ⟨d, ds, rfl, hd, -⟩ := h
    obtain ⟨rfl, -⟩ := List.cons.inj htext
    rw [isIdentStart_of_isNumberStart hd] at hc
    cases hc
  | string text value =>
    obtain ⟨body, rfl, -⟩ := h
    obtain ⟨rfl, -⟩ := List.cons.inj htext
    exact absurd hc (by decide)
  | operator text =>
    have htext' : text = c :: cs := htext
    rcases h with rfl | ⟨-, hrun⟩
    · obtain ⟨rfl, -⟩ := List.cons.inj htext'
      exact absurd hc (by decide)
    · have hoperator := hrun c (htext' ▸ List.mem_cons_self)
      rw [isIdentStart_of_isOperatorChar hoperator] at hc
      cases hc

/-! ### Resolutions by the standard lexicon -/

/-- The standard lexicon alone was asked. -/
def Resolution.IsStandard (r : Resolution Kind) : Prop :=
  r.responses = [Standard.classifier r.lexeme.category r.lexeme.toString r.entered]

/-- The token of a lexeme, of the kind that the standard lexicon gives it. -/
structure Token.IsStandardFor (t : Token Kind) (r : Resolution Kind) : Prop where
  lexeme_eq : t.lexeme = r.lexeme.toString
  verdict_eq : (Standard.classifier r.lexeme.category r.lexeme.toString r.entered).verdict =
    some (.emit t.kind)

section Kinds

variable {t : Token Kind} {r : Resolution Kind}

/-- The two words are identifiers, and the context decides about them. -/
theorem Token.IsStandardFor.kind_of_qualifier (h : t.IsStandardFor r) (hshape : r.lexeme.WellShaped)
    {word : String} {kind : Kind} (hword : (word, kind) ∈ [("all", Kind.kwAll), ("any", Kind.kwAny)])
    (hlexeme : t.lexeme = word) :
    t.kind = if r.entered = .qualifying then kind else .name := by
  have htext : r.lexeme.toString = word := h.lexeme_eq.symm.trans hlexeme
  have hidentifier : r.lexeme.category = .identifier := by
    have hlist : r.lexeme.text = word.toList := by
      rw [← htext, Lexeme.toString, String.toList_ofList]
    simp only [List.mem_cons, Prod.mk.injEq, List.not_mem_nil, or_false] at hword
    rcases hword with ⟨rfl, -⟩ | ⟨rfl, -⟩
    · exact hshape.category_eq_identifier hlist (by decide +kernel)
    · exact hshape.category_eq_identifier hlist (by decide +kernel)
  have hverdict := h.verdict_eq
  rw [hidentifier, htext] at hverdict
  have hkind := hverdict.symm.trans (Standard.identifier_qualifier hword r.entered)
  exact Verdict.emit.inj (Option.some.inj hkind)

theorem Token.IsStandardFor.kindOf?_eq (h : t.IsStandardFor r) (hall : t.lexeme ≠ "all")
    (hany : t.lexeme ≠ "any") : Standard.kindOf? r.lexeme.category t.lexeme = some t.kind := by
  have hverdict := h.verdict_eq
  rw [← h.lexeme_eq, Standard.classifier_other _ hall hany] at hverdict
  obtain ⟨kind, hkind, heq⟩ := Option.map_eq_some_iff.1 hverdict
  cases heq
  exact hkind

end Kinds

namespace Resolution.IsStandard

variable {r : Resolution Kind}

theorem verdict_eq (h : r.IsStandard) :
    r.verdict = (Standard.classifier r.lexeme.category r.lexeme.toString r.entered).verdict := by
  rw [verdict, h, verdictOf, List.findSome?_singleton]

theorem effectiveWrites_eq (h : r.IsStandard) :
    r.effectiveWrites = Grammar.effectiveWrites
      (Standard.classifier r.lexeme.category r.lexeme.toString r.entered).writes := by
  rw [effectiveWrites, writes, h, writesOf, List.flatMap_singleton]

/-- **One lexeme changes the context as it changes the last identifier.** If the two agree before the
lexeme, then they agree after it. -/
theorem contextAfter_iff (h : r.IsStandard) {ws : List Lexeme}
    (hbefore : r.entered = .qualifying ↔ lastIdentifier? ws = some "for") :
    r.contextAfter = .qualifying ↔ lastIdentifier? (ws ++ [r.lexeme]) = some "for" := by
  rw [contextAfter_eq_qualifying_iff, lastIdentifier?_append_singleton, h.effectiveWrites_eq]
  by_cases hidentifier : r.lexeme.category = .identifier
  · rw [if_pos hidentifier, hidentifier]
    show (Grammar.effectiveWrites (Standard.identifier _ _).writes).getLast? = _ ∨ _ ↔ _
    rw [Standard.getLast?_writes_identifier]
    simp
  · rw [if_neg hidentifier, Standard.writes_classifier hidentifier, ← hbefore]
    simp [hidentifier]

/-- A lexeme without a fault becomes a token of the kind that the lexicon gives it. -/
theorem exists_token (h : r.IsStandard) {token : Option (Token Kind)}
    (hout : r.outcome = .ok token) : ∃ t, r.token? = some t ∧ t.IsStandardFor r := by
  obtain ⟨hsome, htoken⟩ := of_outcome_eq_ok hout
  obtain ⟨verdict, hverdict⟩ := Option.isSome_iff_exists.1 hsome
  cases verdict with
  | skip =>
    rw [h.verdict_eq] at hverdict
    exact absurd hverdict (Standard.verdict_classifier_ne_skip _ _ _)
  | emit kind =>
    refine ⟨⟨kind, r.lexeme.toString, r.span, r.lexeme.value?.join⟩, ?_, rfl, ?_⟩
    · rw [htoken, emitted?, hverdict]
    · rw [← h.verdict_eq, hverdict]

end Resolution.IsStandard

/-! ### Runs with the standard lexicon -/

/-- In a run with the standard lexicon nobody else is asked. -/
theorem Runs.isStandard {marker : Marker} {m : Memory} {c : Cursor} {r : Run Kind}
    (h : Runs marker (Registry.empty.install standardLexicon) m c r) :
    ∀ x ∈ r.resolutions, x.IsStandard := by
  refine h.forall_resolutions (fun _ x => x.IsStandard) (fun {m c w span c'} _ => ?_)
    fun _ hx => hx
  show ((Registry.empty.install standardLexicon).chain w.category).consult w.toString _ = _
  rw [Registry.install, Registry.chain_registerEach]
  show Chain.consultList w.toString [Standard.classifier w.category] _ = _
  rw [Chain.consultList]
  split <;> rfl

section Threads

variable {rs : List (Resolution Kind)} (h : Threaded .plain rs)
  (hstandard : ∀ r ∈ rs, r.IsStandard)

include h hstandard

/-- **A lexeme finds a qualifier expected exactly if the last identifier before it is `for`.** The
induction is on the number of lexemes before it. -/
theorem Threaded.entered_iff_lastIdentifier? {k : Nat} {r : Resolution Kind}
    (hr : rs[k]? = some r) :
    r.entered = .qualifying ↔
      lastIdentifier? ((rs.map Resolution.lexeme).take k) = some "for" := by
  induction k generalizing r with
  | zero => simp [h.entered_of_zero hr]
  | succ k ih =>
    have hlt : k + 1 < rs.length := (List.getElem?_eq_some_iff.1 hr).1
    obtain ⟨x, hx⟩ : ∃ x, rs[k]? = some x :=
      ⟨rs[k], List.getElem?_eq_getElem (Nat.lt_of_succ_lt hlt)⟩
    have htake : (rs.map Resolution.lexeme).take (k + 1) =
        (rs.map Resolution.lexeme).take k ++ [x.lexeme] := by
      rw [List.take_add_one, List.getElem?_map, hx]
      rfl
    rw [h.entered_of_succ hx hr, htake]
    exact (hstandard x (List.mem_of_getElem? hx)).contextAfter_iff (ih hx)

/-- After the last lexeme a qualifier is expected exactly if the last identifier is `for`. -/
theorem Threaded.context_iff_lastIdentifier? :
    (rs.getLast?.map Resolution.contextAfter).getD .plain = .qualifying ↔
      lastIdentifier? (rs.map Resolution.lexeme) = some "for" := by
  rcases List.eq_nil_or_concat rs with rfl | ⟨before, x, rfl⟩
  · simp
  · rw [List.concat_eq_append] at h hstandard ⊢
    have hx : (before ++ [x])[before.length]? = some x := List.getElem?_concat_length
    have hentered := h.entered_iff_lastIdentifier? hstandard hx
    rw [List.map_append, List.take_left' (by simp)] at hentered
    rw [List.getLast?_concat, List.map_append]
    exact (hstandard x (by simp)).contextAfter_iff hentered

end Threads

/-- **In a run that finishes every lexeme becomes a token,** of the kind that the lexicon gives it. -/
theorem Runs.forall₂_tokens {marker : Marker} {c c' : Cursor} {m m' : Memory} {r : Run Kind}
    (h : Runs marker (Registry.empty.install standardLexicon) m c r)
    (hend : r.ending = .finished c' m') :
    List.Forall₂ (fun x t => t.IsStandardFor x) r.resolutions r.tokens := by
  have hout := h.outcome_eq_ok hend
  have hstandard := h.isStandard
  rw [Run.tokens]
  generalize r.resolutions = rs at hout hstandard ⊢
  induction rs with
  | nil => exact .nil
  | cons x rs ih =>
    obtain ⟨token, hx⟩ := hout x List.mem_cons_self
    obtain ⟨t, ht, hkind⟩ := (hstandard x List.mem_cons_self).exists_token hx
    rw [List.filterMap_cons_some ht]
    exact .cons hkind (ih (fun y hy => hout y (List.mem_cons_of_mem x hy))
      fun y hy => hstandard y (List.mem_cons_of_mem x hy))

/-! ### The law of the standard lexicon -/

/-- The tokens that the standard lexicon makes of some lexemes, and the context that it leaves
behind. -/
structure ContextSensitive (ws : List Lexeme) (tokens : List (Token Kind)) (context : Context) :
    Prop where
  /-- Every lexeme becomes a token. -/
  lexemes_eq : tokens.map Token.lexeme = ws.map Lexeme.toString
  /-- The words `all` and `any` are keywords exactly if there is an identifier before them and the last
  one is `for`; otherwise they are names. -/
  kind_of_qualifier : ∀ word kind, (word, kind) ∈ [("all", Kind.kwAll), ("any", Kind.kwAny)] →
    ∀ (k : Nat) (t : Token Kind), tokens[k]? = some t → t.lexeme = word →
      (t.kind = kind ↔ lastIdentifier? (ws.take k) = some "for") ∧
      (lastIdentifier? (ws.take k) ≠ some "for" → t.kind = .name)
  /-- The kind of every other token is a function of its category and its lexeme. -/
  kind_of_other : ∀ (k : Nat) (t : Token Kind) (w : Lexeme), tokens[k]? = some t →
    ws[k]? = some w → t.lexeme ≠ "all" → t.lexeme ≠ "any" →
      Standard.kindOf? w.category t.lexeme = some t.kind
  /-- A qualifier is expected in the end exactly if the last identifier of all is `for`. -/
  context_iff : context = .qualifying ↔ lastIdentifier? ws = some "for"

/-- **The law holds of every run that finishes.** -/
theorem Runs.contextSensitive {marker : Marker} {c c' : Cursor} {m m' : Memory} {r : Run Kind}
    (h : Runs marker (Registry.empty.install standardLexicon) m c r)
    (hend : r.ending = .finished c' m') (hm : m.context = .plain) :
    ContextSensitive (r.resolutions.map Resolution.lexeme) r.tokens m'.context := by
  have hstandard := h.isStandard
  have hthreaded : Threaded .plain r.resolutions := hm ▸ h.threaded
  have htokens := h.forall₂_tokens hend
  -- the token at a place comes from the lexeme at that place
  have hplace : ∀ (k : Nat) (t : Token Kind), r.tokens[k]? = some t →
      ∃ x, r.resolutions[k]? = some x ∧ t.IsStandardFor x := by
    intro k t ht
    obtain ⟨hlt, rfl⟩ := List.getElem?_eq_some_iff.1 ht
    have hlt' : k < r.resolutions.length := htokens.length_eq ▸ hlt
    exact ⟨r.resolutions[k], List.getElem?_eq_getElem hlt', htokens.get hlt' hlt⟩
  constructor
  · rw [List.map_map, ← List.forall₂_eq_eq_eq, List.forall₂_map_left_iff,
      List.forall₂_map_right_iff]
    exact htokens.flip.imp fun t x ht => ht.lexeme_eq
  · intro word kind hword k t ht hlexeme
    obtain ⟨x, hx, hxt⟩ := hplace k t ht
    have hshape := h.wellShaped x (List.mem_of_getElem? hx)
    rw [ne_eq, ← hthreaded.entered_iff_lastIdentifier? hstandard hx,
      hxt.kind_of_qualifier hshape hword hlexeme]
    have hne : kind ≠ .name := by
      rintro rfl
      simp at hword
    by_cases hentered : x.entered = .qualifying
    · simp [hentered]
    · simp [hentered, hne.symm]
  · intro k t w ht hw hall hany
    obtain ⟨x, hx, hxt⟩ := hplace k t ht
    obtain rfl : x.lexeme = w := by
      rw [List.getElem?_map, hx] at hw
      exact Option.some.inj hw
    exact hxt.kindOf?_eq hall hany
  · rw [h.context_of_finished hend, hm]
    exact hthreaded.context_iff_lastIdentifier? hstandard

end ChainLexer.Scan

namespace ChainLexer.Lexer

open ChainLexer.Grammar ChainLexer.Scan ChainLexer.Settings

/-- **The law of the standard lexicon holds of every successful scan,** whatever the source and the
settings. -/
theorem contextSensitive_of_scan_eq_ok {source : String} {config : Config} {lexer : Lexer Kind}
    (hlexer : withConfig source config = .ok lexer) {tokens : List (Token Kind)}
    (hscan : (lexer.install standardLexicon).scan.1 = .ok tokens) :
    ContextSensitive ((lexer.install standardLexicon).run.resolutions.map Resolution.lexeme) tokens
      (lexer.install standardLexicon).scan.2.context := by
  obtain ⟨m, -, rfl⟩ := withConfig_eq_ok_iff.1 hlexer
  obtain ⟨⟨c, memory, hend⟩, rfl⟩ := Run.result_eq_ok_iff.1 hscan
  rw [context_scan_of_finished hend]
  exact (runs_withMarker source m (Registry.empty.install standardLexicon)).contextSensitive hend rfl

/-- A lexer with the standard lexicon over a source in which an operator, a string with an escape, a
comment and a line feed stand between a `for` and the next identifier. -/
def distant : Lexer Kind := (ofSource "all for (\"\\n\" -- x\nany any for").install standardLexicon

/-- Its tokens. The word `all` has no identifier before it, the first `any` has a `for` far before it,
and the second one has the first. -/
def distantTokens : List (Token Kind) :=
  [⟨.name, "all", ⟨0, 3⟩, none⟩, ⟨.kwFor, "for", ⟨4, 7⟩, none⟩, ⟨.leftParen, "(", ⟨8, 9⟩, none⟩,
    ⟨.string, "\"\\n\"", ⟨9, 13⟩, some (.text "\n")⟩, ⟨.newline, "\n", ⟨18, 19⟩, none⟩,
    ⟨.kwAny, "any", ⟨19, 22⟩, none⟩, ⟨.name, "any", ⟨23, 26⟩, none⟩, ⟨.kwFor, "for", ⟨27, 30⟩, none⟩]

/-- The law at this source, whose last `for` leaves a qualifier expected. -/
theorem contextSensitive_of_scan_eq_ok_distant :
    distant.scan.1 = .ok distantTokens ∧
    ContextSensitive (distant.run.resolutions.map Resolution.lexeme) distantTokens
      distant.scan.2.context ∧
    distant.scan.2.context = .qualifying := by
  have hscan : distant.scan.1 = .ok distantTokens := by decide +kernel
  have hlast : lastIdentifier? (distant.run.resolutions.map Resolution.lexeme) = some "for" := by
    decide +kernel
  have hlaw := contextSensitive_of_scan_eq_ok (withConfig_customary _) hscan
  exact ⟨hscan, hlaw, hlaw.context_iff.2 hlast⟩

end ChainLexer.Lexer
