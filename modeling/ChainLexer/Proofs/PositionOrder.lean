import ChainLexer.Proofs.Encodings
import ChainLexer.Proofs.LineFeeds
import Mathlib.Data.Prod.Lex

/-!
# Positions are in the order of offsets

Lines and columns are written for people, and people compare them: the later line is later, and on
one line the later column. This module proves that the comparison is right. Two offsets that have
positions are in the same order as their positions, so that no two offsets share one, and a list of
tokens in the order of the source is sorted by position.

## Where the order could break

A column goes back to one at every line feed, so neither number alone is monotone. What is monotone
is the pair: of two leading parts of a source, the longer one has more line feeds, or it has the
same number of them and a longer last line. This is `count_newline_lt_or`, the only place where the
text is looked at. Both numbers are stored in 32 bits, and a source that is too long would begin
again at line zero; hence the bound on the length.

## Main definitions

* `Position.key`: a position as a pair in the lexicographic order
* `Lexer.LocatesTokens`: the tokens of a scan have positions, and these ascend
* `Lexer.OrdersPositions`: the positions of a source are in the order of its offsets

## Main results

* `count_newline_lt_or`: the longer part has more lines, or a longer last line
* `LineTable.lt_iff_key_lt`: offsets are in the order of their positions
* `Lexer.locatesTokens_of_steady`: the tokens of a scan have positions, and these ascend
* `Lexer.ordersPositions_of_size_lt`: all of this for every source that is not too long
-/

namespace ChainLexer.Text

/-- More text without a line feed goes to the end of the last line. -/
theorem lastLine_append_of_notMem (before : List Char) {more : List Char} (h : '\n' ∉ more) :
    lastLine (before ++ more) = lastLine before ++ more := by
  have haccept : ∀ c ∈ more.reverse, (c != '\n') = true := by
    intro c hc
    rw [List.mem_reverse] at hc
    simpa using fun heq : c = '\n' => h (heq ▸ hc)
  rw [lastLine, List.rtakeWhile, List.reverse_append, List.takeWhile_append_of_pos haccept,
    List.reverse_append, List.reverse_reverse, lastLine, List.rtakeWhile]

/-- **Of two leading parts of a text, the longer one has more line feeds, or it has as many and a
longer last line.** -/
theorem count_newline_lt_or (before : List Char) {more : List Char} (hne : more ≠ []) :
    before.count '\n' < (before ++ more).count '\n' ∨
      before.count '\n' = (before ++ more).count '\n' ∧
        (lastLine before).length < (lastLine (before ++ more)).length := by
  rw [List.count_append]
  by_cases hmem : '\n' ∈ more
  · have hpos := List.count_pos_iff.2 hmem
    exact .inl (by omega)
  · have hlength := List.length_pos_iff.2 hne
    refine .inr ⟨by rw [List.count_eq_zero_of_not_mem hmem, Nat.add_zero], ?_⟩
    rw [lastLine_append_of_notMem before hmem, List.length_append]
    omega

end ChainLexer.Text

namespace ChainLexer.Source

open ChainLexer.Text

/-- A position as a pair of numbers, compared by lines and on one line by columns. -/
def Position.key (p : Position) : ℕ ×ₗ ℕ := toLex (p.line.toNat, p.column.toNat)

theorem Position.key_lt_iff {p q : Position} :
    p.key < q.key ↔
      p.line.toNat < q.line.toNat ∨
        p.line.toNat = q.line.toNat ∧ p.column.toNat < q.column.toNat :=
  Prod.Lex.toLex_lt_toLex

namespace LineTable

variable {source : String} {o₁ o₂ : Nat} {p₁ p₂ : Position}

/-- A later offset has a later position. -/
theorem key_lt_of_lt (hsize : source.utf8ByteSize < UInt32.size - 1)
    (h₁ : (ofString source).position o₁ = .ok p₁) (h₂ : (ofString source).position o₂ = .ok p₂)
    (hlt : o₁ < o₂) : p₁.key < p₂.key := by
  obtain ⟨before, after, hsource, rfl, hline₁, hcolumn₁⟩ :=
    ((agreesWithCounting_ofString hsize o₁).ok_iff p₁).1 h₁
  obtain ⟨longer, after', hsource', rfl, hline₂, hcolumn₂⟩ :=
    ((agreesWithCounting_ofString hsize o₂).ok_iff p₂).1 h₂
  obtain ⟨more, rfl, -⟩ := exists_append_of_byteLength_le (hsource.symm.trans hsource') hlt.le
  have hne : more ≠ [] := by
    rintro rfl
    rw [List.append_nil] at hlt
    exact absurd hlt (Nat.lt_irrefl _)
  rw [Position.key_lt_iff, hline₁, hline₂, hcolumn₁, hcolumn₂]
  have := count_newline_lt_or before hne
  omega

/-- **Offsets are in the order of their positions.** -/
theorem lt_iff_key_lt (hsize : source.utf8ByteSize < UInt32.size - 1)
    (h₁ : (ofString source).position o₁ = .ok p₁) (h₂ : (ofString source).position o₂ = .ok p₂) :
    o₁ < o₂ ↔ p₁.key < p₂.key := by
  refine ⟨key_lt_of_lt hsize h₁ h₂, fun hkey => ?_⟩
  rcases Nat.lt_trichotomy o₁ o₂ with hlt | rfl | hgt
  · exact hlt
  · obtain rfl : p₁ = p₂ := Except.ok.inj (h₁.symm.trans h₂)
    exact absurd hkey (lt_irrefl _)
  · exact absurd hkey (lt_asymm (key_lt_of_lt hsize h₂ h₁ hgt))

/-- No two offsets have the same position. -/
theorem eq_of_position_eq (hsize : source.utf8ByteSize < UInt32.size - 1)
    (h₁ : (ofString source).position o₁ = .ok p₁) (h₂ : (ofString source).position o₂ = .ok p₁) :
    o₁ = o₂ := by
  have hge : ¬o₁ < o₂ := fun hlt => lt_irrefl _ (key_lt_of_lt hsize h₁ h₂ hlt)
  have hle : ¬o₂ < o₁ := fun hlt => lt_irrefl _ (key_lt_of_lt hsize h₂ h₁ hlt)
  omega

end LineTable

end ChainLexer.Source

namespace ChainLexer.Scan

open ChainLexer.Grammar ChainLexer.Settings ChainLexer.Source ChainLexer.Text

variable {T : Type}

/-- A lexeme that stands in a text does so between two boundaries, of which the second is later. -/
theorem Lexeme.StandsAt.isBoundary {m : Marker} {cs : List Char} {w : Lexeme} {span : Span}
    (h : w.StandsAt m cs span) :
    IsBoundary cs span.start ∧ IsBoundary cs span.stop ∧ span.start < span.stop := by
  obtain ⟨before, after, rfl, rfl, hstands⟩ := h
  refine ⟨isBoundary_iff.2 ⟨before, w.text ++ after, by simp, rfl⟩,
    isBoundary_iff.2 ⟨before ++ w.text, after, rfl, by rw [byteLength_append]⟩, ?_⟩
  have hpos : 0 < byteLength w.text := by
    rw [Nat.pos_iff_ne_zero]
    exact fun hzero => hstands.shaped.text_ne_nil (eq_nil_of_byteLength_eq_zero hzero)
  exact Nat.lt_add_of_pos_right hpos

/-- A token has the place of its lexeme. -/
theorem Resolution.span_of_token?_eq_some {r : Resolution T} {t : Token T}
    (h : r.token? = some t) : t.span = r.span := by
  cases hout : r.outcome with
  | error fault => simp [token?, hout] at h
  | ok token =>
    rw [(Resolution.of_outcome_eq_ok hout).2] at h
    exact (Resolution.of_emitted?_eq_some h).2

end ChainLexer.Scan

namespace ChainLexer.Lexer

open ChainLexer.Grammar ChainLexer.Scan ChainLexer.Settings ChainLexer.Source ChainLexer.Text

variable {T : Type}

/-- The source stays in place during a scan. -/
theorem source_scan {lexer : Lexer T} (h : lexer.memory.Steady) :
    lexer.scan.2.source = lexer.source := by
  show (lexer.after lexer.run.ending).source = lexer.source
  cases hend : lexer.run.ending with
  | finished c m => exact (runs_of_steady h).source_of_finished hend
  | failed fault => rfl

/-- The lexer can tell where each of the tokens stands, and in the order of the tokens these
positions ascend. -/
structure LocatesTokens (lexer : Lexer T) (tokens : List (Token T)) : Prop where
  /-- The start of every token has a position, -/
  start : ∀ t ∈ tokens, ∃ p, lexer.location t.span.start = .ok p
  /-- and so has its end. -/
  stop : ∀ t ∈ tokens, ∃ p, lexer.location t.span.stop = .ok p
  /-- Of two tokens the later one starts at a later position. -/
  ascending : tokens.Pairwise fun t u => ∃ p q, lexer.location t.span.start = .ok p ∧
    lexer.location u.span.start = .ok q ∧ p.key < q.key

/-- **The tokens of a scan have positions, and these ascend**, unless the scan begins inside an
escape. -/
theorem locatesTokens_of_steady {lexer : Lexer T} (h : lexer.memory.Steady)
    (hsize : lexer.source.utf8ByteSize < UInt32.size - 1) :
    LocatesTokens lexer lexer.run.tokens := by
  have hruns := runs_of_steady h
  have hlocated : ∀ offset, IsBoundary lexer.source.toList offset →
      ∃ p, lexer.location offset = .ok p := by
    intro offset hboundary
    obtain ⟨before, after, hsource, rfl⟩ := isBoundary_iff.1 hboundary
    obtain ⟨p, hp, -⟩ := LineTable.position_append hsize hsource
    exact ⟨p, hp⟩
  have hplaces : ∀ r ∈ lexer.run.resolutions, IsBoundary lexer.source.toList r.span.start ∧
      IsBoundary lexer.source.toList r.span.stop ∧ r.span.start < r.span.stop :=
    fun r hr => (hruns.standsAt r hr).isBoundary
  constructor
  · intro t ht
    obtain ⟨r, hr, htoken⟩ := List.mem_filterMap.1 ht
    rw [Resolution.span_of_token?_eq_some htoken]
    exact hlocated _ (hplaces r hr).1
  · intro t ht
    obtain ⟨r, hr, htoken⟩ := List.mem_filterMap.1 ht
    rw [Resolution.span_of_token?_eq_some htoken]
    exact hlocated _ (hplaces r hr).2.1
  · rw [Run.tokens, List.pairwise_filterMap]
    refine hruns.pairwise_span.imp_of_mem fun {x y} hx hy hxy t ht u hu => ?_
    rw [Resolution.span_of_token?_eq_some ht, Resolution.span_of_token?_eq_some hu]
    obtain ⟨p, hp⟩ := hlocated _ (hplaces x hx).1
    obtain ⟨q, hq⟩ := hlocated _ (hplaces y hy).1
    -- the first lexeme is not empty and ends before the second one starts
    exact ⟨p, q, hp, hq, LineTable.key_lt_of_lt hsize hp hq ((hplaces x hx).2.2.trans_le hxy)⟩

/-- The positions of a source are in the order of its offsets, and so are those of the tokens that
any lexer, whatever has been done with it, finds in the source. -/
structure OrdersPositions (T : Type) (source : String) : Prop where
  /-- Of two offsets with positions the smaller one has the smaller position. -/
  lt_iff : ∀ o₁ o₂ p₁ p₂, (LineTable.ofString source).position o₁ = .ok p₁ →
    (LineTable.ofString source).position o₂ = .ok p₂ → (o₁ < o₂ ↔ p₁.key < p₂.key)
  /-- No two offsets have the same position. -/
  injective : ∀ o₁ o₂ p, (LineTable.ofString source).position o₁ = .ok p →
    (LineTable.ofString source).position o₂ = .ok p → o₁ = o₂
  /-- When a scan of the source succeeds, its tokens have positions that ascend, before and after
  the scan. -/
  locatesTokens : ∀ (first : String) (config : Config) (created : Lexer T)
    (ops : List (Operation T)) (tokens : List (Token T)), withConfig first config = .ok created →
    (created.perform ops).source = source → (created.perform ops).scan.1 = .ok tokens →
    LocatesTokens (created.perform ops) tokens ∧ LocatesTokens (created.perform ops).scan.2 tokens

/-- **Positions are in the order of offsets**, in every source whose positions fit into 32 bits. -/
theorem ordersPositions_of_size_lt {source : String}
    (hsize : source.utf8ByteSize < UInt32.size - 1) : OrdersPositions T source := by
  constructor
  · intro o₁ o₂ p₁ p₂ h₁ h₂
    exact LineTable.lt_iff_key_lt hsize h₁ h₂
  · intro o₁ o₂ p h₁ h₂
    exact LineTable.eq_of_position_eq hsize h₁ h₂
  · rintro first config created ops tokens hcreated rfl hscan
    obtain ⟨m, -, rfl⟩ := withConfig_eq_ok_iff.1 hcreated
    have hsteady : ((withMarker first m : Lexer T).perform ops).memory.Steady :=
      steady_perform Memory.steady_fresh ops
    obtain ⟨-, rfl⟩ := Run.result_eq_ok_iff.1 hscan
    have hlocates := locatesTokens_of_steady hsteady hsize
    -- positions depend on the source alone, which the scan leaves in place
    have hlocation : ((withMarker first m : Lexer T).perform ops).scan.2.location =
        ((withMarker first m).perform ops).location := by
      funext offset
      rw [location, location, source_scan hsteady]
    refine ⟨hlocates, ?_, ?_, ?_⟩
    · rw [hlocation]
      exact hlocates.start
    · rw [hlocation]
      exact hlocates.stop
    · rw [hlocation]
      exact hlocates.ascending

/-- A lexer over a source of two lines, which was given another source at first and skips line
feeds. -/
def twoLines : Lexer Category :=
  (ofSource "x").perform
    [.install ⟨"categories", fun category lexeme _ =>
      if lexeme = "\n" then .skip else .emit category⟩, .scan, .withSource "éa +\nλ \"é\"7"]

/-- The tokens of the source. -/
def twoLinesTokens : List (Token Category) :=
  [⟨.identifier, "éa", ⟨0, 3⟩, none⟩, ⟨.operator, "+", ⟨4, 5⟩, none⟩,
    ⟨.identifier, "λ", ⟨6, 8⟩, none⟩, ⟨.string, "\"é\"", ⟨9, 13⟩, some (.text "é")⟩,
    ⟨.number, "7", ⟨13, 14⟩, some (.int 7)⟩]

/-- The operator on the first line has a greater column than the name on the second, and yet a
smaller position. -/
theorem ordersPositions_of_size_lt_twoLines :
    twoLines.scan.1 = .ok twoLinesTokens ∧
    LocatesTokens twoLines twoLinesTokens ∧ LocatesTokens twoLines.scan.2 twoLinesTokens ∧
    twoLines.location 4 = .ok ⟨1, 4⟩ ∧ twoLines.location 6 = .ok ⟨2, 1⟩ ∧
    Position.key ⟨1, 4⟩ < Position.key ⟨2, 1⟩ := by
  have hsize : "éa +\nλ \"é\"7".utf8ByteSize < UInt32.size - 1 := by decide
  have hsource : twoLines.source = "éa +\nλ \"é\"7" := by decide +kernel
  have hscan : twoLines.scan.1 = .ok twoLinesTokens := by decide +kernel
  have horders := ordersPositions_of_size_lt (T := Category) hsize
  obtain ⟨hbefore, hafter⟩ :=
    horders.locatesTokens "x" {} _ _ _ (withConfig_customary "x") hsource hscan
  have hoperator : (LineTable.ofString "éa +\nλ \"é\"7").position 4 = .ok ⟨1, 4⟩ := by
    decide +kernel
  have hname : (LineTable.ofString "éa +\nλ \"é\"7").position 6 = .ok ⟨2, 1⟩ := by
    decide +kernel
  refine ⟨hscan, hbefore, hafter, ?_, ?_, (horders.lt_iff 4 6 _ _ hoperator hname).1 (by decide)⟩
  · rw [location, hsource, hoperator]
  · rw [location, hsource, hname]

end ChainLexer.Lexer
