import ChainLexer.Grammar.Registry

/-!
# Chains, one classifier after the other

A chain asks its classifiers, collects their responses, and writes the memory at the end with all
writes at once. One would rather say that each classifier runs on the memory that the one before it
left, and that the first one with a verdict ends the matter. This module proves that it comes to the
same.

## What a classifier leaves behind

A classifier that declines may have written all the same, and those writes stay. The memory that the
first verdict is given on is therefore not the one that the chain was called with, and `Decline`
keeps both. The classifiers behind the one with a verdict do not occur in `resolve_of_verdict` but
as a list about which nothing is said; this is the sense in which they have no influence.

## Main definitions

* `Classifier.run`: the verdict of a classifier on a memory, and the memory that it leaves behind
* `Decline`: classifiers all decline, one after the other, and lead from one memory to another

## Main results

* `Chain.resolve_cons`: a chain runs its newest classifier, and then the others if that one declines
* `Chain.resolve_of_verdict`, `Chain.resolve_of_decline`: the first verdict counts, if there is one
* `decline_or_exists_verdict`: there is a first verdict, or all decline
-/

namespace ChainLexer.Grammar

variable {T : Type} {lexeme : String} {f : Classifier T} {fs newer : List (Classifier T)}
  {m m' m'' : Memory} {verdict : Verdict T}

/-- The verdict of a classifier on a lexeme, and the memory that it leaves behind. -/
def Classifier.run (f : Classifier T) (lexeme : String) (m : Memory) :
    Option (Verdict T) × Memory :=
  ((f lexeme m.context).verdict, m.writeAll (f lexeme m.context).writes)

/-- The classifiers, run in this order, all decline, and lead from one memory to another. -/
inductive Decline (lexeme : String) : List (Classifier T) → Memory → Memory → Prop
  | nil (m : Memory) : Decline lexeme [] m m
  | cons {f : Classifier T} {fs : List (Classifier T)} {m m' m'' : Memory}
      (h : f.run lexeme m = (none, m')) (hrest : Decline lexeme fs m' m'') :
      Decline lexeme (f :: fs) m m''

/-- Either all classifiers decline, or there is a first one that does not. -/
theorem decline_or_exists_verdict (lexeme : String) (fs : List (Classifier T)) (m : Memory) :
    (∃ m', Decline lexeme fs m m') ∨
      ∃ newer f older m' verdict m'', fs = newer ++ f :: older ∧ Decline lexeme newer m m' ∧
        f.run lexeme m' = (some verdict, m'') := by
  induction fs generalizing m with
  | nil => exact .inl ⟨m, .nil m⟩
  | cons g fs ih =>
    match hrun : g.run lexeme m with
    | (some verdict, m') => exact .inr ⟨[], g, fs, m, verdict, m', rfl, .nil m, hrun⟩
    | (none, m') =>
      rcases ih m' with
        ⟨m'', hdecline⟩ | ⟨newer, f, older, m₁, verdict, m₂, rfl, hdecline, hverdict⟩
      · exact .inl ⟨m'', .cons hrun hdecline⟩
      · exact .inr ⟨g :: newer, f, older, m₁, verdict, m₂, rfl, .cons hrun hdecline, hverdict⟩

namespace Chain

theorem resolve_nil (lexeme : String) (m : Memory) :
    (Chain.mk [] : Chain T).resolve lexeme m = (none, m) := rfl

/-- **A chain runs its newest classifier, and then the others if that one declines**, on the memory
that it left. -/
theorem resolve_cons (f : Classifier T) (fs : List (Classifier T)) (lexeme : String) (m : Memory) :
    (Chain.mk (f :: fs)).resolve lexeme m =
      match f.run lexeme m with
      | (some verdict, m') => (some verdict, m')
      | (none, m') => (Chain.mk fs).resolve lexeme m' := by
  rw [resolve, consult, consultList, Classifier.run]
  cases hverdict : (f lexeme m.context).verdict with
  | some verdict => simp [verdictOf, writesOf, hverdict]
  | none =>
    -- the context that the older classifiers see is that of the memory after the writes
    simp [resolve, consult, verdictOf, writesOf, hverdict, Response.contextAfter]

/-- The classifiers that decline are passed over. -/
theorem resolve_append_of_decline (h : Decline lexeme newer m m') (older : List (Classifier T)) :
    (Chain.mk (newer ++ older)).resolve lexeme m = (Chain.mk older).resolve lexeme m' := by
  induction h with
  | nil => rfl
  | cons hrun _ ih =>
    rw [List.cons_append, resolve_cons, hrun]
    exact ih

/-- **The first verdict counts**, and the memory is the one that its classifier left. -/
theorem resolve_of_verdict (h : Decline lexeme newer m m')
    (hverdict : f.run lexeme m' = (some verdict, m'')) (older : List (Classifier T)) :
    (Chain.mk (newer ++ f :: older)).resolve lexeme m = (some verdict, m'') := by
  rw [resolve_append_of_decline h, resolve_cons, hverdict]

theorem resolve_of_decline (h : Decline lexeme fs m m') :
    (Chain.mk fs).resolve lexeme m = (none, m') := by
  rw [← List.append_nil fs, resolve_append_of_decline h, resolve_nil]

end Chain

end ChainLexer.Grammar
