import ChainLexer.Proofs.PositionOrder
import Mathlib.Order.Bounds.Basic

/-!
# Spans in the order of containment

A span that contains another one starts no later and ends no earlier. This is a partial order on all
spans, the reversed ones included, and merging gives the least span above two. Whatever is built from
spans by merging is therefore the least span above all of them, and it does not matter in which order
they come, how the merges are nested, or how often one of them is used.

## Two orders

The order of this module is not `Span.order`, by which lists of spans are sorted. There a span that
starts earlier is smaller; here it may well be greater, and two spans of which none contains the other
are not compared at all. In both orders the two ends are independent of each other, and this is why
nothing has to be assumed about which of them comes first.

## Main definitions

* `Span.Grouping`, `Grouping.total`: nested merges, and the span that comes of them
* `Lexer.MergesInAnyOrder`: the laws of merging, and what comes of the tokens of a scan

## Main results

* `Span.Grouping.isLUB_total`: nested merges give the least span above all spans in them
* `Span.isLUB_of_pairwise`: the least span above spans in the order of a source
* `Lexer.mergesInAnyOrder_perform`: merging depends on neither order nor grouping, and merges the
  tokens of a scan to the span from the first to the last
-/

namespace ChainLexer.Source.Span

/-! ### Containment -/

/-- A span is at most another one that contains it. -/
instance : LE Span := ⟨fun s t => t.containsSpan s = true⟩

theorem le_def {s t : Span} : s ≤ t ↔ t.containsSpan s = true := Iff.rfl

theorem le_iff {s t : Span} : s ≤ t ↔ t.start ≤ s.start ∧ s.stop ≤ t.stop := by
  rw [le_def, containsSpan, Bool.and_eq_true, decide_eq_true_iff, decide_eq_true_iff]

instance : PartialOrder Span where
  le_refl s := le_iff.2 ⟨Nat.le_refl _, Nat.le_refl _⟩
  le_trans s t u hst htu := by
    rw [le_iff] at hst htu ⊢
    omega
  le_antisymm s t hst hts := by
    rw [le_iff] at hst hts
    cases s
    cases t
    rw [mk.injEq]
    exact ⟨Nat.le_antisymm hts.1 hst.1, Nat.le_antisymm hst.2 hts.2⟩

/-- Merging is the least upper bound: both ends move outwards, and no further than they must. -/
instance : SemilatticeSup Span where
  sup := merge
  le_sup_left s t := le_iff.2 ⟨Nat.min_le_left .., Nat.le_max_left ..⟩
  le_sup_right s t := le_iff.2 ⟨Nat.min_le_right .., Nat.le_max_right ..⟩
  sup_le s t u hs ht := by
    rw [le_iff] at hs ht ⊢
    exact ⟨Nat.le_min.2 ⟨hs.1, ht.1⟩, Nat.max_le.2 ⟨hs.2, ht.2⟩⟩

theorem add_eq_sup (s t : Span) : s + t = s ⊔ t := rfl

/-! ### Nested merges -/

/-- Spans that are merged two at a time, in any nesting. -/
inductive Grouping where
  /-- One span by itself. -/
  | single (span : Span)
  /-- What comes of two groupings is merged. -/
  | merged (first second : Grouping)

namespace Grouping

/-- The spans of a grouping in order. -/
def spans : Grouping → List Span
  | single span => [span]
  | merged first second => first.spans ++ second.spans

/-- The span that comes of a grouping. -/
def total : Grouping → Span
  | single span => span
  | merged first second => first.total + second.total

theorem spans_ne_nil (g : Grouping) : g.spans ≠ [] := by
  induction g with
  | single span => exact List.cons_ne_nil _ _
  | merged first second ihfirst _ => exact List.append_ne_nil_of_left_ne_nil ihfirst _

/-- **Nested merges give the least span above all spans in them.** -/
theorem isLUB_total (g : Grouping) : IsLUB {s | s ∈ g.spans} g.total := by
  induction g with
  | single span =>
    have hset : {s | s ∈ (single span).spans} = {span} := by
      ext s
      simp [spans]
    rw [hset]
    exact isLUB_singleton
  | merged first second ihfirst ihsecond =>
    have hset : {s | s ∈ (merged first second).spans} =
        {s | s ∈ first.spans} ∪ {s | s ∈ second.spans} := by
      ext s
      simp [spans]
    rw [hset]
    exact ihfirst.union ihsecond

/-- One span after the other is merged with what has come of those before it. -/
def oneByOne (g : Grouping) : List Span → Grouping
  | [] => g
  | s :: rest => (merged g (single s)).oneByOne rest

theorem spans_oneByOne (g : Grouping) (rest : List Span) :
    (g.oneByOne rest).spans = g.spans ++ rest := by
  induction rest generalizing g with
  | nil => simp [oneByOne]
  | cons s rest ih => simp [oneByOne, ih, spans]

theorem total_oneByOne (g : Grouping) (rest : List Span) :
    (g.oneByOne rest).total = rest.foldl (· + ·) g.total := by
  induction rest generalizing g with
  | nil => rfl
  | cons s rest ih => rw [oneByOne, ih, List.foldl_cons, total, total]

end Grouping

/-- The merge of a list is one of its groupings. -/
theorem exists_cover_eq {spans : List Span} (h : spans ≠ []) :
    ∃ g : Grouping, g.spans = spans ∧ cover spans = some g.total := by
  obtain ⟨s, rest, rfl⟩ := List.exists_cons_of_ne_nil h
  refine ⟨(Grouping.single s).oneByOne rest, Grouping.spans_oneByOne _ rest, ?_⟩
  rw [Grouping.total_oneByOne, cover, Grouping.total]

/-- Groupings of the same spans give the same span, whatever their order and nesting. -/
theorem Grouping.total_eq_of_perm {g g' : Grouping} (h : g.spans.Perm g'.spans) :
    g.total = g'.total := by
  have hset : {s | s ∈ g.spans} = {s | s ∈ g'.spans} := by
    ext s
    exact h.mem_iff
  exact g.isLUB_total.unique (hset ▸ g'.isLUB_total)

/-- And that is the merge of the list, in whatever order it is given. -/
theorem Grouping.cover_eq_of_perm {g : Grouping} {spans : List Span} (h : g.spans.Perm spans) :
    cover spans = some g.total := by
  have hne : spans ≠ [] := by
    rintro rfl
    exact g.spans_ne_nil h.eq_nil
  obtain ⟨g', rfl, hcover⟩ := exists_cover_eq hne
  rw [hcover, total_eq_of_perm h]

/-! ### Spans in the order of a source -/

/-- **The least span above spans that follow each other** goes from the start of the first to the end
of the last. -/
theorem isLUB_of_pairwise {spans : List Span} {first last : Span}
    (hforward : ∀ s ∈ spans, s.start ≤ s.stop)
    (hpairwise : spans.Pairwise fun s t => s.stop ≤ t.start)
    (hfirst : spans.head? = some first) (hlast : spans.getLast? = some last) :
    IsLUB {s | s ∈ spans} ⟨first.start, last.stop⟩ := by
  have hmemfirst := List.mem_of_head? hfirst
  have hmemlast := List.mem_of_getLast? hlast
  constructor
  · intro s hs
    rw [le_iff]
    constructor
    · obtain ⟨rest, rfl⟩ := List.head?_eq_some_iff.1 hfirst
      rcases List.mem_cons.1 hs with rfl | hs
      · exact Nat.le_refl _
      · exact (hforward first hmemfirst).trans ((List.pairwise_cons.1 hpairwise).1 s hs)
    · obtain ⟨rest, rfl⟩ := List.getLast?_eq_some_iff.1 hlast
      rcases List.mem_append.1 hs with hs | hs
      · have hle := (List.pairwise_append.1 hpairwise).2.2 s hs last (by simp)
        exact hle.trans (hforward last hmemlast)
      · rw [List.mem_singleton.1 hs]
  · intro t ht
    have hstart := le_iff.1 (ht hmemfirst)
    have hstop := le_iff.1 (ht hmemlast)
    exact le_iff.2 ⟨hstart.1, hstop.2⟩

end ChainLexer.Source.Span

namespace ChainLexer.Lexer

open ChainLexer.Grammar ChainLexer.Scan ChainLexer.Settings ChainLexer.Source

variable {T : Type}

/-- The tokens of a run follow each other and none of them is empty, unless the run begins inside an
escape. -/
theorem forward_and_pairwise_tokens {lexer : Lexer T} (h : lexer.memory.Steady) :
    (∀ t ∈ lexer.run.tokens, t.span.start < t.span.stop) ∧
      lexer.run.tokens.Pairwise fun t u => t.span.stop ≤ u.span.start := by
  have hruns := runs_of_steady h
  constructor
  · intro t ht
    obtain ⟨r, hr, htoken⟩ := List.mem_filterMap.1 ht
    rw [Resolution.span_of_token?_eq_some htoken]
    exact (hruns.standsAt r hr).isBoundary.2.2
  · rw [Run.tokens, List.pairwise_filterMap]
    refine hruns.pairwise_span.imp fun {x y} hxy t ht u hu => ?_
    rw [Resolution.span_of_token?_eq_some ht, Resolution.span_of_token?_eq_some hu]
    exact hxy

/-- The merge of the tokens of a run goes from the first to the last. -/
theorem isLUB_span_tokens {lexer : Lexer T} (h : lexer.memory.Steady) {first last : Token T}
    (hfirst : lexer.run.tokens.head? = some first)
    (hlast : lexer.run.tokens.getLast? = some last) :
    IsLUB {s | s ∈ lexer.run.tokens.map Token.span} ⟨first.span.start, last.span.stop⟩ := by
  obtain ⟨hforward, hpairwise⟩ := forward_and_pairwise_tokens h
  refine Span.isLUB_of_pairwise ?_ (List.pairwise_map.2 hpairwise) ?_ ?_
  · intro s hs
    obtain ⟨t, ht, rfl⟩ := List.mem_map.1 hs
    exact (hforward t ht).le
  · rw [List.head?_map, hfirst, Option.map_some]
  · rw [List.getLast?_map, hlast, Option.map_some]

/-- The laws of merging spans, and what comes of the spans of a scan. -/
structure MergesInAnyOrder (lexer : Lexer T) : Prop where
  /-- Every span contains itself, -/
  refl : ∀ s : Span, s.containsSpan s = true
  /-- and what is contained in a contained span; -/
  trans : ∀ s t u : Span, s.containsSpan t = true → t.containsSpan u = true →
    s.containsSpan u = true
  /-- two spans that contain each other are the same. -/
  antisymm : ∀ s t : Span, s.containsSpan t = true → t.containsSpan s = true → s = t
  /-- A span contains the merge of two others if and only if it contains them both. -/
  contains_merge_iff : ∀ s t u : Span, u.containsSpan (s.merge t) = true ↔
    u.containsSpan s = true ∧ u.containsSpan t = true
  /-- A sum is a merge. -/
  add_eq : ∀ s t : Span, s + t = s.merge t
  /-- The spans of every list but the empty one can be merged, -/
  exists_grouping : ∀ spans : List Span, spans ≠ [] → ∃ g : Span.Grouping, g.spans = spans
  /-- and the result depends neither on their order nor on the nesting of the merges, -/
  total_eq : ∀ g g' : Span.Grouping, g.spans.Perm g'.spans → g.total = g'.total
  /-- the merge of the whole list being one of them. -/
  cover_eq : ∀ (g : Span.Grouping) (spans : List Span), g.spans.Perm spans →
    Span.cover spans = some g.total
  /-- The spans of a scan with a token give the span from the start of the first token to the end of
  the last. -/
  cover_tokens : ∀ tokens first last, lexer.scan.1 = .ok tokens → tokens.head? = some first →
    tokens.getLast? = some last →
    Span.cover (tokens.map Token.span) = some ⟨first.span.start, last.span.stop⟩

/-- **Merging depends on neither order nor grouping**, and it merges the tokens of every scan to the
span from the first to the last, whatever the settings and the history of the lexer. -/
theorem mergesInAnyOrder_perform {source : String} {config : Config} {created : Lexer T}
    (hcreated : withConfig source config = .ok created) (ops : List (Operation T)) :
    MergesInAnyOrder (created.perform ops) := by
  have hsteady := steady_perform_of_withConfig hcreated ops
  generalize created.perform ops = lexer at hsteady ⊢
  constructor
  · intro s
    exact le_refl s
  · intro s t u hst htu
    exact Span.le_def.1 (le_trans (Span.le_def.2 htu) (Span.le_def.2 hst))
  · intro s t hst hts
    exact le_antisymm (Span.le_def.2 hts) (Span.le_def.2 hst)
  · intro s t u
    show s ⊔ t ≤ u ↔ s ≤ u ∧ t ≤ u
    exact sup_le_iff
  · intro s t
    exact Span.add_eq_sup s t
  · intro spans hne
    obtain ⟨g, hspans, -⟩ := Span.exists_cover_eq hne
    exact ⟨g, hspans⟩
  · intro g g' hperm
    exact Span.Grouping.total_eq_of_perm hperm
  · intro g spans hperm
    exact Span.Grouping.cover_eq_of_perm hperm
  · intro tokens first last hscan hfirst hlast
    obtain ⟨-, rfl⟩ := Run.result_eq_ok_iff.1 hscan
    have hne : lexer.run.tokens.map Token.span ≠ [] := by
      rw [ne_eq, List.map_eq_nil_iff]
      intro hnil
      rw [hnil] at hfirst
      cases hfirst
    have hlub := isLUB_span_tokens hsteady hfirst hlast
    obtain ⟨g, hspans, hcover⟩ := Span.exists_cover_eq hne
    rw [← hspans] at hlub
    rw [hcover, g.isLUB_total.unique hlub]

/-- The kind of every lexeme is its category. -/
def categories : Lexicon Category where
  name := "categories"
  classifier := fun category _ _ => .emit category

/-- Three tokens, the first of which has two bytes. -/
def threeTokens : List (Token Category) :=
  [⟨.identifier, "é", ⟨0, 2⟩, none⟩, ⟨.operator, "+", ⟨3, 4⟩, none⟩,
    ⟨.number, "7", ⟨5, 6⟩, some (.int 7)⟩]

/-- The spans of the tokens are merged from the last to the first, and two reversed spans, of which
none contains the other, have a merge that is reversed as well. -/
theorem mergesInAnyOrder_perform_threeTokens :
    ((ofSource "é + 7").perform [.install categories]).scan.1 = .ok threeTokens ∧
    Span.cover (threeTokens.map Token.span) = some ⟨0, 6⟩ ∧
    Span.Grouping.total (.merged (.merged (.single ⟨5, 6⟩) (.single ⟨3, 4⟩)) (.single ⟨0, 2⟩)) =
      ⟨0, 6⟩ ∧
    Span.containsSpan ⟨8, 4⟩ (Span.merge ⟨9, 3⟩ ⟨8, 1⟩) = true := by
  have hmerges := mergesInAnyOrder_perform (withConfig_customary "é + 7") [.install categories]
  have hscan : ((ofSource "é + 7").perform [.install categories]).scan.1 = .ok threeTokens := by
    decide +kernel
  have hcover := hmerges.cover_tokens threeTokens _ _ hscan rfl rfl
  refine ⟨hscan, hcover, ?_, (hmerges.contains_merge_iff _ _ _).2 ⟨by decide, by decide⟩⟩
  have hgrouping := hmerges.cover_eq
    (.merged (.merged (.single ⟨5, 6⟩) (.single ⟨3, 4⟩)) (.single ⟨0, 2⟩))
    (threeTokens.map Token.span) (by decide)
  exact Option.some.inj (hgrouping.symm.trans hcover)

end ChainLexer.Lexer
