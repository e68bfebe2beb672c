import ChainLexer.Grammar.Table
import ChainLexer.Proofs.Agreement
import ChainLexer.Proofs.History
import Mathlib.Data.List.Forall2

/-!
# Lexers that differ in escapes only

Two classifiers can differ in ways that no scan brings to light: in what they do when they are asked
inside an escape, and in attempts to write the context of an escape. This module compares lexers whose
classifiers differ so. They have the same cursor and the same memory after every operation, down to
the note of the last escape, and their scans have the same results.

## The order of the comparison

The relation is defined for classifiers, one by one, and carried from there to registries, lexers and
operations. Alike classifiers make chains that agree on every lexeme, so a scan of the one lexer is
like that of the other. Operations need one invariant besides, that no escape is open where they begin.

## Main definitions

* `Classifier.Alike`, `Registry.Alike`, `Operation.Alike`, `Lexer.Alike`: the same but for escapes
* `Operation.withoutEscapes`: no attempt to write the context of an escape
* `Table.withoutEscapes`: no entry for the context of an escape

## Main results

* `Registry.Alike.agreeOn`: alike classifiers come to the same on every lexeme
* `Lexer.steady_perform`: no escape is open between two operations
* `Lexer.Alike.perform`: alike lexers stay alike
-/

namespace ChainLexer.Grammar

variable {T : Type}

/-! ### The same but for escapes -/

/-- The classifiers respond alike, unless they are asked inside an escape. -/
def Classifier.Alike (f g : Classifier T) : Prop :=
  ∀ lexeme context, context ≠ .escaping → (f lexeme context).Alike (g lexeme context)

/-- The chains of each category have as many classifiers, which are alike one by one. -/
def Registry.Alike (registry registry' : Registry T) : Prop :=
  ∀ category, List.Forall₂ Classifier.Alike
    (registry.chain category).newestFirst (registry'.chain category).newestFirst

theorem Classifier.alike_refl (f : Classifier T) : f.Alike f := fun _ _ _ => .refl _

namespace Registry.Alike

variable {registry registry' : Registry T}

/-- **Alike classifiers come to the same on every lexeme.** -/
theorem agreeOn (h : registry.Alike registry') (category : Category) (lexeme : String) :
    (registry.chain category).AgreeOn lexeme (registry'.chain category) := by
  have hlists {fs gs : List (Classifier T)} (hfgs : List.Forall₂ Classifier.Alike fs gs) :
      Chain.AgreeOn lexeme ⟨fs⟩ ⟨gs⟩ := by
    induction hfgs with
    | nil => exact .refl lexeme _
    | cons hfg _ ih => exact ih.push (hfg lexeme)
  exact hlists (h category)

theorem register (h : registry.Alike registry') (category : Category) {f g : Classifier T}
    (hfg : f.Alike g) : (registry.register category f).Alike (registry'.register category g) := by
  intro other
  by_cases heq : other = category
  · subst heq
    rw [chain_register_self, chain_register_self]
    exact .cons hfg (h other)
  · rw [chain_register_of_ne _ _ heq, chain_register_of_ne _ _ heq]
    exact h other

theorem install (h : registry.Alike registry') {lexicon lexicon' : Lexicon T}
    (hlexicon : ∀ category, (lexicon.classifier category).Alike (lexicon'.classifier category)) :
    (registry.install lexicon).Alike (registry'.install lexicon') := by
  intro category
  rw [Registry.install, Registry.install, chain_registerEach, chain_registerEach]
  exact .cons (hlexicon category) (h category)

end Registry.Alike

/-! ### Classifiers without escapes -/

/-- The response without its attempts to write the context of an escape. -/
def Response.withoutEscapes (r : Response T) : Response T :=
  { r with writes := effectiveWrites r.writes }

/-- The classifier without its attempts to write the context of an escape. -/
def Classifier.withoutEscapes (f : Classifier T) : Classifier T :=
  fun lexeme context => (f lexeme context).withoutEscapes

theorem Classifier.alike_withoutEscapes (f : Classifier T) : f.Alike f.withoutEscapes := by
  intro lexeme context _
  exact ⟨rfl, effectiveWrites_effectiveWrites (f lexeme context).writes⟩

/-- The table without its entries for the context of an escape. -/
def Table.withoutEscapes (table : Table T) : Table T :=
  { table with gated := table.gated.filter fun key _ => key.1 != .escaping }

theorem Table.classify_withoutEscapes (table : Table T) (lexeme : String) {context : Context}
    (h : context ≠ .escaping) :
    table.withoutEscapes.classify lexeme context = table.classify lexeme context := by
  have hkept : (context != .escaping) = true := bne_iff_ne.2 h
  have hgated : table.withoutEscapes.gated[(context, lexeme)]? = table.gated[(context, lexeme)]? := by
    rw [withoutEscapes, Std.HashMap.getElem?_filter']
    cases table.gated[(context, lexeme)]? with
    | none => rfl
    | some entry => exact Option.filter_some_pos hkept
  have hfind : table.withoutEscapes.find? lexeme context = table.find? lexeme context := by
    rw [find?, find?, hgated]
    rfl
  rw [classify, classify, hfind]
  rfl

theorem Table.alike_withoutEscapes (table : Table T) :
    Classifier.Alike table.classify table.withoutEscapes.classify := by
  intro lexeme context h
  rw [table.classify_withoutEscapes lexeme h]
  exact table.classify.alike_refl lexeme context h

end ChainLexer.Grammar

namespace ChainLexer.Scan

open ChainLexer.Grammar ChainLexer.Settings ChainLexer.Source

variable {T : Type} {marker : Marker} {registry registry' : Registry T} {m m' : Memory}
  {c c' : Cursor}

/-! ### Runs -/

/-- A run that finishes leaves no escape open. -/
theorem Runs.steady_of_finished {r : Run T} (h : Runs marker registry m c r) (hm : m.Steady)
    (hend : r.ending = .finished c' m') : m'.Steady := by
  induction h with
  | finished =>
    cases hend
    exact hm
  | blocked | refused => cases hend
  | @resolved m c c₁ w span token rest hreach hout _ ih =>
    exact ih ((w.steady_memoryAfter hm).resolve registry w span) hend

end ChainLexer.Scan

namespace ChainLexer

open ChainLexer.Grammar ChainLexer.Scan ChainLexer.Settings ChainLexer.Source

variable {T : Type}

/-! ### Operations -/

namespace Operation

/-- The operations add alike classifiers, or are the same. -/
inductive Alike : Operation T → Operation T → Prop
  | register (category : Category) {f g : Classifier T} (h : f.Alike g) :
      Alike (register category f) (register category g)
  | install {lexicon lexicon' : Lexicon T}
      (h : ∀ category, (lexicon.classifier category).Alike (lexicon'.classifier category)) :
      Alike (install lexicon) (install lexicon')
  | withSource (source : String) : Alike (withSource source) (withSource source)
  | scan : Alike scan scan

theorem alike_refl : ∀ op : Operation T, op.Alike op
  | register category f => .register category f.alike_refl
  | install lexicon => .install fun category => (lexicon.classifier category).alike_refl
  | withSource source => .withSource source
  | scan => .scan

/-- The operation with classifiers that do not attempt to write the context of an escape. -/
def withoutEscapes : Operation T → Operation T
  | register category f => register category f.withoutEscapes
  | install lexicon =>
    install { lexicon with classifier := fun category => (lexicon.classifier category).withoutEscapes }
  | withSource source => withSource source
  | scan => scan

theorem alike_withoutEscapes : ∀ op : Operation T, op.Alike op.withoutEscapes
  | register category f => .register category f.alike_withoutEscapes
  | install lexicon => .install fun category => (lexicon.classifier category).alike_withoutEscapes
  | withSource source => .withSource source
  | scan => .scan

end Operation

namespace Lexer

/-- **No escape is open after an operation.** A scan that finishes has closed them all, and one that
fails begins afresh. -/
theorem steady_apply {lexer : Lexer T} (h : lexer.memory.Steady) (op : Operation T) :
    (lexer.apply op).memory.Steady := by
  cases op with
  | register | install => exact h
  | withSource => exact Memory.steady_fresh
  | scan =>
    show (lexer.after lexer.run.ending).memory.Steady
    cases hend : lexer.run.ending with
    | finished c m => exact (runs_of_steady h).steady_of_finished h hend
    | failed fault => exact Memory.steady_fresh

theorem steady_perform {lexer : Lexer T} (h : lexer.memory.Steady) (ops : List (Operation T)) :
    (lexer.perform ops).memory.Steady := by
  induction ops generalizing lexer with
  | nil => exact h
  | cons op ops ih => exact ih (steady_apply h op)

/-- A lexer begins with no escape open, so none is open after any operations. -/
theorem steady_perform_of_withConfig {source : String} {config : Config} {created : Lexer T}
    (h : withConfig source config = .ok created) (ops : List (Operation T)) :
    (created.perform ops).memory.Steady := by
  obtain ⟨marker, -, rfl⟩ := withConfig_eq_ok_iff.1 h
  exact steady_perform Memory.steady_fresh ops

/-- The lexers are the same but for their classifiers, which are alike. -/
structure Alike (lexer lexer' : Lexer T) : Prop where
  cursor_eq : lexer'.cursor = lexer.cursor
  memory_eq : lexer'.memory = lexer.memory
  marker_eq : lexer'.marker = lexer.marker
  registry_alike : lexer.registry.Alike lexer'.registry

theorem alike_withMarker (source : String) (marker : Marker) :
    (withMarker source marker : Lexer T).Alike (withMarker source marker) :=
  ⟨rfl, rfl, rfl, fun _ => .nil⟩

section Alike

variable {lexer lexer' : Lexer T}

/-- **Alike lexers scan alike.** -/
theorem Alike.scan (h : lexer.Alike lexer') (hm : lexer.memory.Steady) :
    lexer'.scan.1 = lexer.scan.1 ∧ lexer.scan.2.Alike lexer'.scan.2 := by
  have heq : lexer' = lexer.withRegistry lexer'.registry := by
    rw [withRegistry, ← h.cursor_eq, ← h.memory_eq, ← h.marker_eq]
  have hscans : lexer.ScansLike lexer' := by
    rw [heq]
    exact scansLike_withRegistry hm fun x _ => h.registry_alike.agreeOn x.1.category x.1.toString
  refine ⟨hscans.result_eq, ?_⟩
  rw [hscans.after_eq]
  refine ⟨rfl, rfl, rfl, ?_⟩
  show lexer.scan.2.registry.Alike lexer'.registry
  rw [registry_scan]
  exact h.registry_alike

/-- **Alike lexers stay alike** when the same is done with them. -/
theorem Alike.apply (h : lexer.Alike lexer') (hm : lexer.memory.Steady) {op op' : Operation T}
    (hop : op.Alike op') : (lexer.apply op).Alike (lexer'.apply op') := by
  cases hop with
  | register category hfg =>
    exact ⟨h.cursor_eq, h.memory_eq, h.marker_eq, h.registry_alike.register category hfg⟩
  | install hlexicon =>
    exact ⟨h.cursor_eq, h.memory_eq, h.marker_eq, h.registry_alike.install hlexicon⟩
  | withSource source => exact ⟨rfl, rfl, h.marker_eq, h.registry_alike⟩
  | scan => exact (h.scan hm).2

theorem Alike.perform (h : lexer.Alike lexer') (hm : lexer.memory.Steady)
    {ops ops' : List (Operation T)} (hops : List.Forall₂ Operation.Alike ops ops') :
    (lexer.perform ops).Alike (lexer'.perform ops') := by
  induction hops generalizing lexer lexer' with
  | nil => exact h
  | @cons op op' ops ops' hop _ ih => exact ih (h.apply hm hop) (steady_apply hm op)

end Alike

end Lexer

end ChainLexer
