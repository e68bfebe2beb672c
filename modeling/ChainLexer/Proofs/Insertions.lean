import ChainLexer.Proofs.Alike
import ChainLexer.Proofs.Tables

/-!
# Classifiers without an opinion

A grammar is extended by more classifiers. One hopes that an extension which has nothing to say about
a source leaves the scan of that source as it was, wherever in a chain it is put. This module proves
it, with the hypothesis that one would check: the classifier abstains on the lexemes of its category
that the scan shows, and may do anything with all others.

## Why abstaining is more than declining

A classifier that declines may have written the context all the same. The write is seen by the older
classifiers, and even if it leaves the context as it was, it counts: a waiting qualifier survives an
identifier during whose resolution somebody wrote. So abstaining asks for no write with an effect, in
whatever context. An attempt to write the context of an escape is allowed, since it has none.

## Main definitions

* `Classifier.Abstains`: no verdict on a lexeme and no write with an effect
* `Lexer.insertAt`: a lexer with one more classifier at some depth of a chain
* `Lexicon.silent`: a lexicon without an opinion in any category
* `Lexer.ExtendsConservatively`: what leaves the scans of a lexer as they were

## Main results

* `Chain.agreeOn_insertAt`: a classifier that abstains makes no difference to a chain
* `Lexer.exists_perform_withRegistry`: registries that agree on all lexemes are never told apart
* `Lexer.extendsConservatively_perform`: extensions without an opinion change no scan
-/

namespace ChainLexer.Grammar

variable {T : Type} {f : Classifier T} {lexeme : String}

/-- Whatever the context, the classifier declines the lexeme, and writes nothing that has an effect. -/
def Classifier.Abstains (f : Classifier T) (lexeme : String) : Prop :=
  ∀ context, (f lexeme context).verdict = none ∧ effectiveWrites (f lexeme context).writes = []

/-! ### One more classifier in a chain -/

namespace Chain

/-- The chain with a classifier behind its newest `depth` ones, or at its end if it has fewer. -/
def insertAt (chain : Chain T) (depth : Nat) (f : Classifier T) : Chain T :=
  ⟨chain.newestFirst.take depth ++ f :: chain.newestFirst.drop depth⟩

theorem agreeOn_push (chain : Chain T) (h : f.Abstains lexeme) :
    AgreeOn lexeme chain (chain.push f) := by
  intro context _
  obtain ⟨hverdict, hwrites⟩ := h context
  have hcontext : (f lexeme context).contextAfter context = context := by
    rw [Response.contextAfter, Context.afterWrites_eq_getD, hwrites]
    rfl
  rw [response_push_of_decline chain hverdict, hcontext]
  exact ⟨rfl, by rw [effectiveWrites_append, hwrites, List.nil_append]⟩

/-- **A classifier that abstains makes no difference to a chain**, at whatever depth. The induction is
on the number of classifiers in front of it. -/
theorem agreeOn_insertAt (chain : Chain T) (depth : Nat) (h : f.Abstains lexeme) :
    AgreeOn lexeme chain (chain.insertAt depth f) := by
  obtain ⟨gs⟩ := chain
  induction depth generalizing gs with
  | zero => exact agreeOn_push _ h
  | succ depth ih =>
    cases gs with
    | nil => exact agreeOn_push _ h
    | cons g gs => exact (ih gs).push fun context _ => .refl (g lexeme context)

end Chain

namespace Registry

/-- The registry with a classifier at some depth of the chain of a category. -/
def insertAt (registry : Registry T) (category : Category) (depth : Nat) (f : Classifier T) :
    Registry T :=
  ⟨fun c => if c = category then (registry.chain c).insertAt depth f else registry.chain c⟩

/-- A classifier has to abstain on lexemes of its own category only. -/
theorem agreeOn_chain_insertAt (registry : Registry T) {category other : Category} (depth : Nat)
    (h : other = category → f.Abstains lexeme) :
    (registry.chain other).AgreeOn lexeme ((registry.insertAt category depth f).chain other) := by
  by_cases heq : other = category
  · have hchain : (registry.insertAt category depth f).chain other =
        (registry.chain other).insertAt depth f := if_pos heq
    rw [hchain]
    exact Chain.agreeOn_insertAt _ depth (h heq)
  · have hchain : (registry.insertAt category depth f).chain other = registry.chain other :=
      if_neg heq
    rw [hchain]
    exact .refl lexeme _

/-- The registries come to the same on every lexeme of every category. -/
def Agree (registry registry' : Registry T) : Prop :=
  ∀ category lexeme, (registry.chain category).AgreeOn lexeme (registry'.chain category)

theorem Agree.register {registry registry' : Registry T} (h : registry.Agree registry')
    (category : Category) (f : Classifier T) :
    (registry.register category f).Agree (registry'.register category f) := by
  intro other lexeme
  by_cases heq : other = category
  · subst heq
    rw [chain_register_self, chain_register_self]
    exact (h other lexeme).push fun context _ => .refl (f lexeme context)
  · rw [chain_register_of_ne _ _ heq, chain_register_of_ne _ _ heq]
    exact h other lexeme

theorem Agree.install {registry registry' : Registry T} (h : registry.Agree registry')
    (lexicon : Lexicon T) : (registry.install lexicon).Agree (registry'.install lexicon) := by
  intro category lexeme
  rw [Registry.install, Registry.install, chain_registerEach, chain_registerEach]
  exact (h category lexeme).push fun context _ => .refl (lexicon.classifier category lexeme context)

end Registry

/-! ### Lexicons and tables without an opinion -/

/-- The lexicon without an opinion in any category. -/
def Lexicon.silent (name : String) : Lexicon T := { name := name }

theorem Lexicon.abstains_silent (name : String) (category : Category) (lexeme : String) :
    ((Lexicon.silent name : Lexicon T).classifier category).Abstains lexeme :=
  fun _ => ⟨rfl, rfl⟩

theorem Registry.agree_install_silent (registry : Registry T) (name : String) :
    registry.Agree (registry.install (.silent name)) := by
  intro category lexeme
  rw [Registry.install, chain_registerEach]
  exact Chain.agreeOn_push _ (Lexicon.abstains_silent name category lexeme)

/-- A table abstains on the lexemes that none of its calls is about. -/
theorem Table.abstains_classify {calls : List (Table.Call T)}
    (h : ∀ call ∈ calls, call.key.lexeme ≠ lexeme) :
    Classifier.Abstains (Table.build calls).classify lexeme := by
  intro context
  have hnone (key : Table.Key) (hkey : key.lexeme = lexeme) :
      (Table.build calls).lookup key = none := by
    refine Table.lookup_build_of_notMem fun hmem => ?_
    obtain ⟨call, hcall, heq⟩ := List.mem_map.1 hmem
    exact h call hcall (by rw [heq, hkey])
  rw [Table.classify_eq, hnone (.gated context lexeme) rfl, hnone (.general lexeme) rfl,
    hnone (.skipped lexeme) rfl]
  exact ⟨rfl, rfl⟩

end ChainLexer.Grammar

namespace ChainLexer.Lexer

open ChainLexer.Grammar ChainLexer.Scan ChainLexer.Settings

variable {T : Type}

/-! ### One more classifier in a lexer -/

/-- The lexer with a classifier at some depth of the chain of a category. -/
def insertAt (lexer : Lexer T) (category : Category) (depth : Nat) (f : Classifier T) : Lexer T :=
  lexer.withRegistry (lexer.registry.insertAt category depth f)

theorem ScansLike.symm {lexer lexer' : Lexer T} (h : lexer.ScansLike lexer') :
    lexer'.ScansLike lexer := by
  refine ⟨h.lexemes_eq.symm, h.result_eq.symm, ?_⟩
  rw [h.after_eq]
  show lexer.scan.2 = lexer.scan.2.withRegistry lexer.registry
  rw [← registry_scan lexer]
  rfl

/-- **A classifier that abstains on what a scan shows leaves the scan as it was.** -/
theorem scansLike_insertAt {lexer : Lexer T} (hm : lexer.memory.Steady) {category : Category}
    {f : Classifier T} (depth : Nat)
    (h : ∀ x ∈ lexer.run.lexemes, x.1.category = category → f.Abstains x.1.toString) :
    lexer.ScansLike (lexer.insertAt category depth f) :=
  scansLike_withRegistry hm fun x hx => lexer.registry.agreeOn_chain_insertAt depth (h x hx)

/-! ### Registries that agree on all lexemes -/

/-- An operation does not tell registries apart that agree on all lexemes, -/
theorem exists_apply_withRegistry {lexer : Lexer T} (hm : lexer.memory.Steady)
    {registry' : Registry T} (h : lexer.registry.Agree registry') (op : Operation T) :
    ∃ registry'', (lexer.withRegistry registry').apply op =
      (lexer.apply op).withRegistry registry'' ∧ (lexer.apply op).registry.Agree registry'' := by
  cases op with
  | register category f => exact ⟨registry'.register category f, rfl, h.register category f⟩
  | install lexicon => exact ⟨registry'.install lexicon, rfl, h.install lexicon⟩
  | withSource source => exact ⟨registry', rfl, h⟩
  | scan =>
    have hscans : lexer.ScansLike (lexer.withRegistry registry') :=
      scansLike_withRegistry hm fun x _ => h x.1.category x.1.toString
    refine ⟨registry', hscans.after_eq, ?_⟩
    show lexer.scan.2.registry.Agree registry'
    rw [registry_scan]
    exact h

/-- **and so they are never told apart.** -/
theorem exists_perform_withRegistry {lexer : Lexer T} (hm : lexer.memory.Steady)
    {registry' : Registry T} (h : lexer.registry.Agree registry') (ops : List (Operation T)) :
    ∃ registry'', (lexer.withRegistry registry').perform ops =
      (lexer.perform ops).withRegistry registry'' ∧ (lexer.perform ops).registry.Agree registry'' := by
  induction ops generalizing lexer registry' with
  | nil => exact ⟨registry', rfl, h⟩
  | cons op ops ih =>
    obtain ⟨registry₁, happly, hagree⟩ := exists_apply_withRegistry hm h op
    rw [perform_cons, perform_cons, happly]
    exact ih (steady_apply hm op) hagree

/-! ### Conservative extensions -/

/-- What can be added to the classifiers of a lexer so that its scans stay as they were. -/
structure ExtendsConservatively (lexer : Lexer T) : Prop where
  /-- A classifier may be inserted at any depth, if it abstains on the lexemes of its category that
  the scan shows. -/
  insertAt : ∀ category depth f,
    (∀ x ∈ lexer.run.lexemes, x.1.category = category → f.Abstains x.1.toString) →
    lexer.ScansLike (lexer.insertAt category depth f)
  /-- For this it is enough to know the lexemes that the scan with the classifier shows. -/
  insertAt_of_after : ∀ category depth f,
    (∀ x ∈ (lexer.insertAt category depth f).run.lexemes,
      x.1.category = category → f.Abstains x.1.toString) →
    lexer.ScansLike (lexer.insertAt category depth f)
  /-- A lexicon without an opinion may be installed, and changes neither the next scan nor any later
  one, whatever is done in between. -/
  install_silent : ∀ name later,
    (lexer.perform later).ScansLike ((lexer.install (.silent name)).perform later)
  /-- A table may be registered, if none of its lexemes is among those of its category that the scan
  shows. -/
  register_table : ∀ category (calls : List (Table.Call T)),
    (∀ x ∈ lexer.run.lexemes, x.1.category = category →
      ∀ call ∈ calls, call.key.lexeme ≠ x.1.toString) →
    lexer.ScansLike (lexer.register category (Table.build calls).classify)

/-- **Extensions without an opinion change no scan**, whatever the settings and whatever has been done
with the lexer before. -/
theorem extendsConservatively_perform {source : String} {config : Config} {created : Lexer T}
    (hcreated : withConfig source config = .ok created) (ops : List (Operation T)) :
    ExtendsConservatively (created.perform ops) := by
  have hm := steady_perform_of_withConfig hcreated ops
  generalize created.perform ops = lexer at hm ⊢
  constructor
  · intro category depth f h
    exact scansLike_insertAt hm depth h
  · intro category depth f h
    -- the lexer is the extended one with its old classifiers, and agreement goes both ways
    have hm' : (lexer.insertAt category depth f).memory.Steady := hm
    have hscans : (lexer.insertAt category depth f).ScansLike lexer :=
      scansLike_withRegistry hm' fun x hx =>
        (lexer.registry.agreeOn_chain_insertAt depth (h x hx)).symm
    exact hscans.symm
  · intro name later
    obtain ⟨registry', hperform, hagree⟩ :=
      exists_perform_withRegistry hm (lexer.registry.agree_install_silent name) later
    have hinstall : (lexer.install (.silent name)).perform later =
        (lexer.perform later).withRegistry registry' := hperform
    rw [hinstall]
    exact scansLike_withRegistry (steady_perform hm later) fun x _ =>
      hagree x.1.category x.1.toString
  · intro category calls h
    -- a new classifier is at depth zero
    exact scansLike_insertAt hm 0 fun x hx hcategory =>
      Table.abstains_classify (h x hx hcategory)

/-- Skips the name `z` and arms a qualifier after it, has no opinion on all others, and attempts to
open an escape in any case. -/
def skipsZ : Classifier Bool := fun lexeme _ =>
  if lexeme = "z" then ⟨[.escaping, .qualifying], some .skip⟩ else ⟨[.escaping], none⟩

/-- Two classifiers for names: the newer one arms a qualifier and declines, and the older one says
whether a qualifier was waiting. Line feeds are skipped. -/
def twoLayers : List (Operation Bool) :=
  [.register .identifier fun _ context => .emit (context == .qualifying),
    .register .operator fun _ _ => .skip, .register .identifier fun _ _ => ⟨[.qualifying], none⟩]

/-- The lexemes of a source in which there is no name `z`. -/
def withoutZ : List (Lexeme × Source.Span) :=
  [(.operator ['\n'], ⟨0, 1⟩), (.identifier ['x'], ⟨1, 2⟩)]

/-- The classifier goes between the two others, where it is asked and must not disturb the armed
qualifier. The table has an entry for the line feed, but stands in the chain for names. -/
theorem extendsConservatively_perform_twoLayers :
    ((ofSource "\nx").perform twoLayers).run.lexemes = withoutZ ∧
    ((ofSource "\nx").perform twoLayers).ScansLike
      (((ofSource "\nx").perform twoLayers).insertAt .identifier 1 skipsZ) ∧
    (((ofSource "\nx").perform twoLayers).insertAt .identifier 1 skipsZ).scan.1 =
      .ok [⟨true, "x", ⟨1, 2⟩, none⟩] ∧
    (((ofSource "\nx").perform twoLayers).insertAt .identifier 1 skipsZ).scan.2.context =
      .qualifying ∧
    ((ofSource "\nx").perform twoLayers).ScansLike
      (((ofSource "\nx").perform twoLayers).register .identifier
        (Table.build [.addSkip "\n", .addIn .qualifying "z" false]).classify) := by
  have hextends := extendsConservatively_perform (withConfig_customary "\nx") twoLayers
  have hlexemes : ((ofSource "\nx").perform twoLayers).run.lexemes = withoutZ := by decide +kernel
  have hnames : ∀ x ∈ ((ofSource "\nx").perform twoLayers).run.lexemes,
      x.1.category = .identifier → x.1.toString = "x" := by
    rw [hlexemes]
    decide
  have hscans := hextends.insertAt .identifier 1 skipsZ fun x hx hcategory => by
    rw [hnames x hx hcategory]
    exact fun _ => ⟨rfl, rfl⟩
  refine ⟨hlexemes, hscans, ?_, ?_, ?_⟩
  · rw [hscans.result_eq]
    decide +kernel
  · rw [hscans.after_eq]
    decide +kernel
  · refine hextends.register_table .identifier _ fun x hx hcategory => ?_
    rw [hnames x hx hcategory]
    decide

end ChainLexer.Lexer
