import ChainLexer.Proofs.Chains
import ChainLexer.Proofs.History

/-!
# Registrations

Classifiers join a lexer one at a time, for a category, or all at once with a lexicon, which has one
for each category. In what order they joined matters within a category, because the newest is asked
first. Across categories it does not matter at all: a registry is four lists, and a registration for
one category leaves the other three as they were.

## One list for each category

`Operation.registered` reads off from a sequence of operations the classifiers of one category, the
oldest first. A lexicon counts in every category, with the classifier that it has there. Everything
else follows from `Lexer.newestFirst_perform`, which says that the chain of a category is this list,
the other way round. What a chain does with its list is said in terms of runs on a memory, so the
classifiers that declined first are seen to leave their writes behind.

## Main definitions

* `Operation.classifiers`, `Operation.registered`: the classifiers that operations add to a category
* `Lexer.ResolvesNewestFirst`: what the registrations of a lexer decide, and what they do not

## Main results

* `Lexer.newestFirst_perform`: the chain of a category, by the operations
* `Lexer.perform_eq_of_registered_eq`: only the order within each category counts
* `Lexer.resolvesNewestFirst_of_withConfig`: the newest classifier that does not decline decides,
  and classifiers of other categories have no influence
-/

namespace ChainLexer

open ChainLexer.Grammar ChainLexer.Scan ChainLexer.Settings ChainLexer.Source

variable {T : Type}

namespace Operation

/-- The classifiers that the operation adds to the chain of a category. -/
def classifiers (category : Category) : Operation T → List (Classifier T)
  | register other f => if other = category then [f] else []
  | install lexicon => [lexicon.classifier category]
  | withSource _ | scan => []

/-- The classifiers that the operations add to the chain of a category, the oldest first. -/
def registered (ops : List (Operation T)) (category : Category) : List (Classifier T) :=
  ops.flatMap (classifiers category)

theorem registered_cons (op : Operation T) (ops : List (Operation T)) (category : Category) :
    registered (op :: ops) category = op.classifiers category ++ registered ops category := rfl

end Operation

namespace Lexer

/-- What one operation puts in front of a chain. -/
theorem newestFirst_apply (lexer : Lexer T) (op : Operation T) (category : Category) :
    ((lexer.apply op).registry.chain category).newestFirst =
      op.classifiers category ++ (lexer.registry.chain category).newestFirst := by
  cases op with
  | register other f =>
    show ((lexer.registry.register other f).chain category).newestFirst = _
    rw [Operation.classifiers]
    by_cases h : other = category
    · subst h
      rw [if_pos rfl, Registry.chain_register_self]
      rfl
    · rw [if_neg h, Registry.chain_register_of_ne _ _ (Ne.symm h)]
      rfl
  | install lexicon =>
    show ((lexer.registry.registerEach lexicon.classifier).chain category).newestFirst = _
    rw [Registry.chain_registerEach]
    rfl
  | withSource source => rfl
  | scan =>
    show (lexer.scan.2.registry.chain category).newestFirst = _
    rw [registry_scan]
    rfl

/-- **The chain of a category holds the classifiers that were added to it**, the newest first. -/
theorem newestFirst_perform (lexer : Lexer T) (ops : List (Operation T)) (category : Category) :
    ((lexer.perform ops).registry.chain category).newestFirst =
      (Operation.registered ops category).reverse ++
        (lexer.registry.chain category).newestFirst := by
  induction ops generalizing lexer with
  | nil => rfl
  | cons op ops ih =>
    have hsingle : (op.classifiers category).reverse = op.classifiers category := by
      cases op with
      | register other f => rw [Operation.classifiers]; split <;> rfl
      | install | withSource | scan => rfl
    rw [perform_cons, ih, newestFirst_apply, Operation.registered_cons, List.reverse_append,
      hsingle, List.append_assoc]

theorem chain_perform_withMarker (source : String) (marker : Marker) (ops : List (Operation T))
    (category : Category) :
    ((withMarker source marker).perform ops).registry.chain category =
      ⟨(Operation.registered ops category).reverse⟩ := by
  have h := newestFirst_perform (withMarker source marker) ops category
  rw [show ((withMarker source marker : Lexer T).registry.chain category).newestFirst = [] from rfl,
    List.append_nil] at h
  rw [← h]

/-- Operations that only add classifiers leave all else in place. -/
theorem perform_eq_withRegistry (lexer : Lexer T) {ops : List (Operation T)}
    (h : ∀ op ∈ ops, op.registers = true) :
    lexer.perform ops = lexer.withRegistry (lexer.perform ops).registry := by
  induction ops generalizing lexer with
  | nil => rfl
  | cons op ops ih =>
    rw [perform_cons, ih (lexer.apply op) fun o ho => h o (List.mem_cons_of_mem _ ho)]
    cases op with
    | register | install => rfl
    | withSource | scan => cases h _ List.mem_cons_self

/-- **Only the order within each category counts.** -/
theorem perform_eq_of_registered_eq (lexer : Lexer T) {ops ops' : List (Operation T)}
    (h : ∀ op ∈ ops, op.registers = true) (h' : ∀ op ∈ ops', op.registers = true)
    (heq : ∀ category, Operation.registered ops' category = Operation.registered ops category) :
    lexer.perform ops' = lexer.perform ops := by
  have hregistry : (lexer.perform ops').registry = (lexer.perform ops).registry := by
    have hchain : (lexer.perform ops').registry.chain = (lexer.perform ops).registry.chain := by
      funext category
      have hlist := newestFirst_perform lexer ops' category
      rw [heq, ← newestFirst_perform lexer ops category] at hlist
      exact congrArg Chain.mk hlist
    exact congrArg Registry.mk hchain
  rw [perform_eq_withRegistry lexer h', hregistry, ← perform_eq_withRegistry lexer h]

/-- The newest classifier that does not decline decides; a new lexer has no others. -/
theorem resolve_perform_of_verdict (source : String) (marker : Marker) {ops : List (Operation T)}
    {category : Category} {lexeme : String} {m m' m'' : Memory} {older newer : List (Classifier T)}
    {f : Classifier T} {verdict : Verdict T}
    (hops : Operation.registered ops category = older ++ f :: newer)
    (hdecline : Decline lexeme newer.reverse m m') (hrun : f.run lexeme m' = (some verdict, m'')) :
    ((withMarker source marker).perform ops).registry.resolve category lexeme m =
      (some verdict, m'') := by
  rw [Registry.resolve, chain_perform_withMarker, hops, List.reverse_append, List.reverse_cons,
    List.append_assoc, List.singleton_append]
  exact Chain.resolve_of_verdict hdecline hrun older.reverse

/-- What the registrations of a lexer decide: the newest classifier of a category that does not
decline gives the verdict, and nothing else has an influence on it. -/
structure ResolvesNewestFirst (lexer : Lexer T) (ops : List (Operation T)) : Prop where
  /-- When the newer classifiers of a category decline, one after the other, and then one does not,
  its verdict is that of the registry, and so is the memory that it leaves behind. -/
  verdict : ∀ category lexeme m older f newer m' verdict m'',
    Operation.registered ops category = older ++ f :: newer → Decline lexeme newer.reverse m m' →
    f.run lexeme m' = (some verdict, m'') →
    (lexer.perform ops).registry.resolve category lexeme m = (some verdict, m'')
  /-- When all classifiers of a category decline, one after the other, so does the registry, and it
  leaves the memory of the last one behind. -/
  decline : ∀ category lexeme m m',
    Decline lexeme (Operation.registered ops category).reverse m m' →
    (lexer.perform ops).registry.resolve category lexeme m = (none, m')
  /-- One of these is always the case. -/
  cases : ∀ category lexeme m,
    (∃ m', Decline lexeme (Operation.registered ops category).reverse m m') ∨
    ∃ older f newer m' verdict m'', Operation.registered ops category = older ++ f :: newer ∧
      Decline lexeme newer.reverse m m' ∧ f.run lexeme m' = (some verdict, m'')
  /-- Other registrations make no difference, if they agree on the category down to the classifier
  with the verdict, -/
  of_verdict : ∀ ops' category lexeme m older older' f newer m' verdict m'',
    Operation.registered ops category = older ++ f :: newer →
    Operation.registered ops' category = older' ++ f :: newer → Decline lexeme newer.reverse m m' →
    f.run lexeme m' = (some verdict, m'') →
    (lexer.perform ops').registry.resolve category lexeme m =
      (lexer.perform ops).registry.resolve category lexeme m
  /-- or if they agree on the whole category. -/
  of_registered_eq : ∀ ops' category,
    Operation.registered ops' category = Operation.registered ops category →
    (lexer.perform ops').registry.resolve category = (lexer.perform ops).registry.resolve category
  /-- A chain is as long as the list of its classifiers. -/
  size : ∀ category, ((lexer.perform ops).registry.chain category).size =
    (Operation.registered ops category).length
  /-- Registrations that agree on every category, however they are interleaved, give lexers with
  chains of the same lengths and the same scans, whatever is done with the two before. -/
  interleaved : ∀ ops', (∀ op ∈ ops, op.registers = true) → (∀ op ∈ ops', op.registers = true) →
    (∀ category, Operation.registered ops' category = Operation.registered ops category) →
    (lexer.perform ops').registry.depths = (lexer.perform ops).registry.depths ∧
    ∀ later, ((lexer.perform ops').perform later).scan = ((lexer.perform ops).perform later).scan

/-- **The newest classifier that does not decline decides**, whatever the settings, the source and
the registrations. -/
theorem resolvesNewestFirst_of_withConfig {source : String} {config : Config} {lexer : Lexer T}
    (hlexer : withConfig source config = .ok lexer) (ops : List (Operation T)) :
    ResolvesNewestFirst lexer ops := by
  obtain ⟨marker, -, rfl⟩ := withConfig_eq_ok_iff.1 hlexer
  constructor
  · intro category lexeme m older f newer m' verdict m'' hops hdecline hrun
    exact resolve_perform_of_verdict source marker hops hdecline hrun
  · intro category lexeme m m' hdecline
    rw [Registry.resolve, chain_perform_withMarker]
    exact Chain.resolve_of_decline hdecline
  · intro category lexeme m
    rcases decline_or_exists_verdict lexeme (Operation.registered ops category).reverse m with
      hall | ⟨newer, f, older, m', verdict, m'', hsplit, hdecline, hrun⟩
    · exact .inl hall
    · refine .inr ⟨older.reverse, f, newer.reverse, m', verdict, m'', ?_, ?_, hrun⟩
      · rw [← List.reverse_reverse (Operation.registered ops category), hsplit]
        simp
      · rwa [List.reverse_reverse]
  · intro ops' category lexeme m older older' f newer m' verdict m'' hops hops' hdecline hrun
    rw [resolve_perform_of_verdict source marker hops hdecline hrun,
      resolve_perform_of_verdict source marker hops' hdecline hrun]
  · intro ops' category heq
    funext lexeme m
    rw [Registry.resolve, Registry.resolve, chain_perform_withMarker, chain_perform_withMarker, heq]
  · intro category
    rw [chain_perform_withMarker, Chain.size, List.length_reverse]
  · intro ops' hops hops' heq
    rw [perform_eq_of_registered_eq _ hops hops' heq]
    exact ⟨rfl, fun later => rfl⟩

/-- The kind of a name says whether a qualifier was waiting for it. -/
def reportsContext : Classifier Bool := fun _ context => .emit (context == .qualifying)

/-- Arms a qualifier, and declines. -/
def armsAndDeclines : Classifier Bool := fun _ _ => ⟨[.qualifying], none⟩

/-- Has an opinion on line feeds only. -/
def lineFeeds : Lexicon Bool where
  name := "line feeds"
  classifier := fun category _ _ => if category = .operator then .skip else .decline

/-- Three classifiers for names, the second one from a lexicon, and one for numbers. -/
def layered : List (Operation Bool) :=
  [.register .identifier reportsContext, .install lineFeeds,
    .register .number fun _ _ => .emit false, .register .identifier armsAndDeclines]

/-- The same with the classifier for numbers at the end. -/
def layeredOtherwise : List (Operation Bool) :=
  [.register .identifier reportsContext, .install lineFeeds, .register .identifier armsAndDeclines,
    .register .number fun _ _ => .emit false]

/-- The oldest classifier for names is the only one with an opinion, and it sees the write of the
newest. -/
theorem resolvesNewestFirst_of_withConfig_layered :
    ((ofSource "x 1").perform layered).registry.resolve .identifier "x" .fresh =
      (some (.emit true), { context := .qualifying, written := true }) ∧
    ((ofSource "x 1").perform layered).scan.1 =
      .ok [⟨true, "x", ⟨0, 1⟩, none⟩, ⟨false, "1", ⟨2, 3⟩, some (.int 1)⟩] ∧
    ((ofSource "x 1").perform layeredOtherwise).scan = ((ofSource "x 1").perform layered).scan := by
  have hresolves :=
    resolvesNewestFirst_of_withConfig (withConfig_customary (T := Bool) "x 1") layered
  refine ⟨?_, by decide +kernel, ?_⟩
  · have hdecline : Decline "x" [armsAndDeclines, lineFeeds.classifier .identifier] .fresh
        { context := .qualifying, written := true } := .cons rfl (.cons rfl (.nil _))
    exact hresolves.verdict .identifier "x" .fresh [] reportsContext
      [lineFeeds.classifier .identifier, armsAndDeclines] _ _ _ rfl hdecline rfl
  · refine (hresolves.interleaved layeredOtherwise (by decide) (by decide) fun category => ?_).2 []
    cases category <;> rfl

end Lexer

end ChainLexer
