import ChainLexer.Grammar.Standard
import ChainLexer.Proofs.Derivation

/-!
# How long a qualifier waits

A classifier that writes `qualifying` lets a qualifier follow. The context then waits for the next
identifier, through any number of other lexemes, unless somebody writes the context before. This
module says so for whole runs: in which context a lexeme is resolved can be read off from the writes
and the categories of the lexemes before it.

## Where the context can change

Between two resolutions nothing writes the context. Trivia is skipped without a look at the memory,
and a string literal gives the context back that it has borrowed for its escapes. So a run is a thread
of resolutions, each of which is entered in the context that the one before it has left, and
`Threaded` is all that the law of the qualifier needs. It does not ask how the responses of a
resolution come about. The law would hold as well if classifiers remembered earlier calls and
answered the same lexeme differently.

## Main definitions

* `effectiveWrites`: the writes that have an effect
* `Resolution.contextAfter`: the context that a resolution leaves behind
* `Threaded`: resolutions that hand the context on
* `Armed`: a qualifier was armed and is still waiting
* `QualifierLifetime`: the law of the qualifier

## Main results

* `context_resolve`: what a resolution leaves behind can be read off from its record
* `Runs.threaded`: the resolutions of a run hand the context on
* `Threaded.entered_eq_qualifying_iff`: a lexeme finds a qualifier waiting exactly if one is armed
* `Lexer.qualifierLifetime_of_withConfig`: the law of the qualifier holds of every scan
-/

namespace ChainLexer.Grammar

/-! ### Writes with an effect -/

/-- The writes that have an effect, in order. -/
def effectiveWrites (writes : List Context) : List Context := writes.filter (· != .escaping)

@[simp] theorem effectiveWrites_nil : effectiveWrites [] = [] := rfl

@[simp] theorem effectiveWrites_escaping (ws : List Context) :
    effectiveWrites (.escaping :: ws) = effectiveWrites ws := rfl

theorem effectiveWrites_cons_of_ne {w : Context} (h : w ≠ .escaping) (ws : List Context) :
    effectiveWrites (w :: ws) = w :: effectiveWrites ws := by
  simp [effectiveWrites, h]

theorem effectiveWrites_append (ws ws' : List Context) :
    effectiveWrites (ws ++ ws') = effectiveWrites ws ++ effectiveWrites ws' :=
  List.filter_append ..

theorem effectiveWrites_effectiveWrites (ws : List Context) :
    effectiveWrites (effectiveWrites ws) = effectiveWrites ws := by
  simp [effectiveWrites]

/-- The last write that has an effect decides. -/
theorem Context.afterWrites_eq_getD (context : Context) (ws : List Context) :
    context.afterWrites ws = (effectiveWrites ws).getLast?.getD context := by
  induction ws generalizing context with
  | nil => rfl
  | cons w ws ih =>
    have hcons : context.afterWrites (w :: ws) = (context.afterWrite w).afterWrites ws := rfl
    rw [hcons, ih]
    by_cases hw : w = .escaping
    · subst hw
      rfl
    · rw [effectiveWrites_cons_of_ne hw, List.getLast?_cons, afterWrite, if_neg hw]
      rfl

/-- The memory notes whether a write had an effect. -/
theorem Memory.written_writeAll_eq_false_iff (m : Memory) (ws : List Context) :
    (m.writeAll ws).written = false ↔ m.written = false ∧ effectiveWrites ws = [] := by
  induction ws generalizing m with
  | nil => simp
  | cons w ws ih =>
    rw [writeAll_cons, ih]
    by_cases hw : w = .escaping
    · subst hw
      rfl
    · simp [write, hw, effectiveWrites_cons_of_ne hw]

/-- Writes without an effect leave no trace in the memory. -/
theorem Memory.writeAll_effectiveWrites (m : Memory) (ws : List Context) :
    m.writeAll (effectiveWrites ws) = m.writeAll ws := by
  induction ws generalizing m with
  | nil => rfl
  | cons w ws ih =>
    by_cases hw : w = .escaping
    · subst hw
      exact ih m
    · rw [effectiveWrites_cons_of_ne hw, writeAll_cons, writeAll_cons, ih]

end ChainLexer.Grammar

namespace ChainLexer.Scan

open ChainLexer.Grammar ChainLexer.Settings ChainLexer.Source

variable {T : Type}

/-! ### What a resolution leaves behind -/

namespace Resolution

/-- The writes of the asked classifiers that had an effect. -/
def effectiveWrites (r : Resolution T) : List Context := Grammar.effectiveWrites r.writes

/-- The context that the resolution leaves behind: an identifier gives up a waiting qualifier unless
somebody wrote the context. -/
def contextAfter (r : Resolution T) : Context :=
  if r.lexeme.category = .identifier ∧ r.entered = .qualifying ∧ r.effectiveWrites = [] then .plain
  else r.entered.afterWrites r.writes

/-- Where nobody writes, only an identifier changes the context. -/
theorem contextAfter_of_quiet {r : Resolution T} (hwrites : r.effectiveWrites = [])
    (hcategory : r.lexeme.category ≠ .identifier) : r.contextAfter = r.entered := by
  rw [contextAfter, if_neg (fun h => hcategory h.1), Context.afterWrites_eq_getD]
  exact congrArg (fun ws : List Context => ws.getLast?.getD r.entered) hwrites

/-- A resolution leaves a qualifier waiting if it has armed one, or if it found one waiting and was
neither an identifier nor wrote the context. -/
theorem contextAfter_eq_qualifying_iff (r : Resolution T) :
    r.contextAfter = .qualifying ↔
      r.effectiveWrites.getLast? = some .qualifying ∨
        (r.effectiveWrites = [] ∧ r.lexeme.category ≠ .identifier ∧ r.entered = .qualifying) := by
  have hafter : r.entered.afterWrites r.writes = r.effectiveWrites.getLast?.getD r.entered :=
    r.entered.afterWrites_eq_getD r.writes
  rw [contextAfter, hafter]
  rcases List.eq_nil_or_concat r.effectiveWrites with hnil | ⟨ws, last, hlast⟩
  · by_cases hidentifier : r.lexeme.category = .identifier
    · by_cases hentered : r.entered = .qualifying
      · simp [hnil, hidentifier, hentered]
      · simp [hnil, hidentifier, hentered]
    · simp [hnil, hidentifier]
  · simp [hlast]

end Resolution

/-- **What a resolution leaves behind can be read off from its record.** -/
theorem context_resolve (registry : Registry T) (m : Memory) (w : Lexeme) (span : Span) :
    (resolve registry m w span).2.context = (resolve registry m w span).1.contextAfter := by
  have hwritten := m.unmarked.written_writeAll_eq_false_iff (resolve registry m w span).1.writes
  have hunmarked : m.unmarked.written = false := rfl
  rw [Resolution.contextAfter, Resolution.effectiveWrites]
  show (settle w.category m.unmarked
    (m.unmarked.writeAll (resolve registry m w span).1.writes)).context = _
  rw [settle]
  simp only [hwritten, hunmarked, true_and]
  split
  · next h => exact (if_pos h).symm
  · next h => exact (Memory.context_writeAll _ _).trans (if_neg h).symm

/-! ### Threads of resolutions -/

/-- The first resolution is entered in the given context, and every other one in the context that the
one before it has left. -/
def Threaded : Context → List (Resolution T) → Prop
  | _, [] => True
  | context, r :: rs => r.entered = context ∧ Threaded r.contextAfter rs

/-- **The resolutions of a run hand the context on.** -/
theorem Runs.threaded {marker : Marker} {registry : Registry T} {m : Memory} {c : Cursor}
    {r : Run T} (h : Runs marker registry m c r) : Threaded m.context r.resolutions := by
  induction h with
  | finished | blocked => trivial
  | @refused m c c' w span fault hreach hout => exact ⟨w.context_memoryAfter m, trivial⟩
  | @resolved m c c' w span token rest hreach hout _ ih =>
    refine ⟨w.context_memoryAfter m, ?_⟩
    rw [context_resolve] at ih
    exact ih

/-- A run that finishes keeps the context that its last resolution has left. -/
theorem Runs.context_of_finished {marker : Marker} {registry : Registry T} {m m' : Memory}
    {c c' : Cursor} {r : Run T} (h : Runs marker registry m c r)
    (hend : r.ending = .finished c' m') :
    m'.context = (r.resolutions.getLast?.map Resolution.contextAfter).getD m.context := by
  induction h with
  | finished =>
    cases hend
    rfl
  | blocked | refused => cases hend
  | @resolved m c c₁ w span token rest hreach hout _ ih =>
    rw [ih hend, context_resolve]
    show _ = (((resolve registry (w.memoryAfter m) w span).1 :: rest.resolutions).getLast?.map
      Resolution.contextAfter).getD m.context
    rw [List.getLast?_cons]
    cases rest.resolutions.getLast? with
    | none => rfl
    | some last => rfl

section Threads

variable {context : Context} {rs : List (Resolution T)} {r s : Resolution T} {k : Nat}

theorem Threaded.entered_of_zero (h : Threaded context rs) (hr : rs[0]? = some r) :
    r.entered = context := by
  cases rs with
  | nil => cases hr
  | cons x rs =>
    cases hr
    exact h.1

theorem Threaded.entered_of_succ (h : Threaded context rs) (hr : rs[k]? = some r)
    (hs : rs[k + 1]? = some s) : s.entered = r.contextAfter := by
  induction rs generalizing context k with
  | nil => cases hr
  | cons x rs ih =>
    cases k with
    | zero =>
      cases hr
      exact h.2.entered_of_zero hs
    | succ k => exact ih h.2 hr hs

/-! ### The waiting qualifier -/

/-- Some resolution before the place `k` has armed a qualifier, by its last write that had an effect,
and none between the two wrote the context or was that of an identifier. -/
def Armed (rs : List (Resolution T)) (k : Nat) : Prop :=
  ∃ j r, j < k ∧ rs[j]? = some r ∧ r.effectiveWrites.getLast? = some .qualifying ∧
    ∀ i s, j < i → i < k → rs[i]? = some s →
      s.effectiveWrites = [] ∧ s.lexeme.category ≠ .identifier

theorem not_armed_zero (rs : List (Resolution T)) : ¬Armed rs 0 := by
  rintro ⟨j, r, hj, -⟩
  exact absurd hj (Nat.not_lt_zero j)

/-- A qualifier is armed after a resolution if that one has armed it, or has left it alone. -/
theorem armed_succ (hr : rs[k]? = some r) :
    Armed rs (k + 1) ↔
      r.effectiveWrites.getLast? = some .qualifying ∨
        (r.effectiveWrites = [] ∧ r.lexeme.category ≠ .identifier ∧ Armed rs k) := by
  constructor
  · rintro ⟨j, s, hj, hs, harm, hquiet⟩
    rcases Nat.lt_or_eq_of_le (Nat.le_of_lt_succ hj) with hlt | rfl
    · obtain ⟨hwrites, hcategory⟩ := hquiet k r hlt (Nat.lt_succ_self k) hr
      refine .inr ⟨hwrites, hcategory, j, s, hlt, hs, harm, fun i t hji hik ht => ?_⟩
      exact hquiet i t hji (Nat.lt_succ_of_lt hik) ht
    · obtain rfl : r = s := Option.some.inj (hr.symm.trans hs)
      exact .inl harm
  · rintro (harm | ⟨hwrites, hcategory, j, s, hj, hs, harm, hquiet⟩)
    · refine ⟨k, r, Nat.lt_succ_self k, hr, harm, fun i t hki hik => ?_⟩
      omega
    · refine ⟨j, s, Nat.lt_succ_of_lt hj, hs, harm, fun i t hji hik ht => ?_⟩
      rcases Nat.lt_or_eq_of_le (Nat.le_of_lt_succ hik) with hlt | rfl
      · exact hquiet i t hji hlt ht
      · obtain rfl : r = t := Option.some.inj (hr.symm.trans ht)
        exact ⟨hwrites, hcategory⟩

/-- **A lexeme finds a qualifier waiting exactly if one is armed.** The induction is on the number of
resolutions before the lexeme; both sides go from one resolution to the next alike. -/
theorem Threaded.entered_eq_qualifying_iff (h : Threaded context rs) (hcontext : context = .plain)
    (hr : rs[k]? = some r) : r.entered = .qualifying ↔ Armed rs k := by
  induction k generalizing r with
  | zero =>
    have hentered : r.entered = .plain := (h.entered_of_zero hr).trans hcontext
    simp [hentered, not_armed_zero]
  | succ k ih =>
    have hlt : k + 1 < rs.length := (List.getElem?_eq_some_iff.1 hr).1
    obtain ⟨x, hx⟩ : ∃ x, rs[k]? = some x :=
      ⟨rs[k], List.getElem?_eq_getElem (Nat.lt_of_succ_lt hlt)⟩
    rw [h.entered_of_succ hx hr, Resolution.contextAfter_eq_qualifying_iff, armed_succ hx, ih hx]

end Threads

/-! ### The law of the qualifier -/

/-- In which context the lexemes of a run are resolved. -/
structure QualifierLifetime (run : Run T) : Prop where
  /-- The first lexeme is resolved in the plain context. -/
  entered_of_zero : ∀ r, run.resolutions[0]? = some r → r.entered = .plain
  /-- A lexeme finds a qualifier waiting exactly if one is armed. -/
  entered_eq_qualifying_iff : ∀ k r, run.resolutions[k]? = some r →
    (r.entered = .qualifying ↔ Armed run.resolutions k)
  /-- What stands between two lexemes, and the escapes inside the second one, leave the context as the
  first one has left it. -/
  entered_of_succ : ∀ k r s, run.resolutions[k]? = some r → run.resolutions[k + 1]? = some s →
    s.entered = r.contextAfter
  /-- Numbers, strings and operators whose classifiers do not write pass on the context in which they
  were resolved. -/
  entered_of_quiet : ∀ k r s, run.resolutions[k]? = some r → run.resolutions[k + 1]? = some s →
    r.effectiveWrites = [] → r.lexeme.category ≠ .identifier → s.entered = r.entered
  /-- What stands behind the last lexeme leaves it alone, too. -/
  context_of_finished : ∀ c m, run.ending = .finished c m →
    m.context = (run.resolutions.getLast?.map Resolution.contextAfter).getD .plain

end ChainLexer.Scan

namespace ChainLexer.Lexer

open ChainLexer.Grammar ChainLexer.Scan ChainLexer.Settings

variable {T : Type}

/-- **The law of the qualifier holds of every scan.** -/
theorem qualifierLifetime_of_withConfig {source : String} {config : Config} {lexer : Lexer T}
    (hlexer : withConfig source config = .ok lexer) (registry : Registry T) :
    QualifierLifetime (lexer.withRegistry registry).run := by
  obtain ⟨m, -, rfl⟩ := withConfig_eq_ok_iff.1 hlexer
  have hruns := runs_withMarker source m registry
  have hthreaded : Threaded .plain ((withMarker source m).withRegistry registry).run.resolutions :=
    hruns.threaded
  exact {
    entered_of_zero := fun r hr => hthreaded.entered_of_zero hr
    entered_eq_qualifying_iff := fun k r hr => hthreaded.entered_eq_qualifying_iff rfl hr
    entered_of_succ := fun k r s hr hs => hthreaded.entered_of_succ hr hs
    entered_of_quiet := fun k r s hr hs hwrites hcategory =>
      (hthreaded.entered_of_succ hr hs).trans (Resolution.contextAfter_of_quiet hwrites hcategory)
    context_of_finished := fun c m' hend => hruns.context_of_finished hend }

/-- The lexer of the standard lexicon over a source in which an operator, a string with an escape, a
comment and a line feed stand between `for` and its qualifier, and a name behind it. -/
def qualified : Lexer Kind :=
  (ofSource "for (\"\\n\" -- c\nall all").withRegistry (Registry.empty.install standardLexicon)

/-- The qualifier waits through all of that for the first `all`, and not for the second one. -/
theorem qualifierLifetime_of_withConfig_for :
    (∃ r, qualified.run.resolutions[4]? = some r ∧ r.lexeme = .identifier "all".toList ∧
      r.entered = .qualifying ∧ Armed qualified.run.resolutions 4) ∧
    ∃ r, qualified.run.resolutions[5]? = some r ∧ r.lexeme = .identifier "all".toList ∧
      r.entered ≠ .qualifying ∧ ¬Armed qualified.run.resolutions 5 := by
  have hlaw : QualifierLifetime qualified.run :=
    qualifierLifetime_of_withConfig (withConfig_customary _) (Registry.empty.install standardLexicon)
  have hfirst : qualified.run.resolutions[4]?.map (fun r => (r.lexeme, r.entered)) =
      some (.identifier "all".toList, .qualifying) := by
    decide +kernel
  have hsecond : qualified.run.resolutions[5]?.map (fun r => (r.lexeme, r.entered)) =
      some (.identifier "all".toList, .plain) := by
    decide +kernel
  obtain ⟨r, hr, hvalue⟩ := Option.map_eq_some_iff.1 hfirst
  obtain ⟨s, hs, hvalue'⟩ := Option.map_eq_some_iff.1 hsecond
  obtain ⟨hlexeme, hentered⟩ := Prod.mk.inj hvalue
  obtain ⟨hlexeme', hentered'⟩ := Prod.mk.inj hvalue'
  have hplain : s.entered ≠ .qualifying := by
    rw [hentered']
    decide
  refine ⟨⟨r, hr, hlexeme, hentered, (hlaw.entered_eq_qualifying_iff 4 r hr).1 hentered⟩,
    s, hs, hlexeme', hplain, ?_⟩
  rwa [← hlaw.entered_eq_qualifying_iff 5 s hs]

end ChainLexer.Lexer
