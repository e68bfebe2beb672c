import ChainLexer.Proofs.Arrivals
import ChainLexer.Proofs.Rendering

/-!
# A comment is as good as blanks

Where a scan meets a comment, the comment can be replaced by as many blanks as it has bytes. Tokens,
spans and faults stay what they are, whatever the comment says: quotes and backslashes in it, further
markers, and characters that no lexeme could begin with.

## The two runs

Up to the comment the two runs take the same steps, though not for the same reasons. A lexeme that
touches the comment may end there only because a marker follows, and ends in the other source because
a blank follows. So the text is cut off before the comment, where `Lexeme.StandsBefore.of_append`
needs that no cut goes through a marker, and then goes on with blanks. A cut through a marker would
mean that a marker begins before the comment; the scan would have met that one, and the comment would
not be one. Behind the comment the two runs stand before the same text at the same offset, and
`Runs.displaced` has the rest.

## Main definitions

* `MeetsComment`, `Lexer.MeetsComment`: a comment begins at a byte offset
* `Blanking`: a comment, what follows it, and the blanks that replace it
* `Blanking.Matches`: a cursor before the comment and one before the blanks

## Main results

* `MeetsComment.exists_before`: what stands before a comment
* `Blanking.Matches.reaches`: one step before the comment
* `Blanking.Matches.displaced`: the trivia with the comment in them
* `ComesTo.exists_runs_blanked`: the run over the blanks
* `Lexer.scan_eq_scan_blanked`: a comment is as good as blanks
-/

namespace ChainLexer.Text

theorem byteLength_replicate (n : Nat) (c : Char) :
    byteLength (List.replicate n c) = n * c.utf8Size := by
  induction n with
  | zero => rw [List.replicate_zero, byteLength_nil, Nat.zero_mul]
  | succ n ih => rw [List.replicate_succ, byteLength_cons, ih, Nat.succ_mul, Nat.add_comm]

end ChainLexer.Text

namespace ChainLexer.Scan

open ChainLexer.Grammar ChainLexer.Settings ChainLexer.Source ChainLexer.Text

variable {T : Type} {m : Marker}

/-! ### Where a comment begins -/

/-- The loop over the trivia at the cursor comes to a comment that begins at the byte offset `n`. -/
def MeetsComment (marker : String) (c : Cursor) (n : Nat) : Prop :=
  ∃ d d', Relation.ReflTransGen (fun c c' => triviaPass marker c = .inl c') (passMark c) d ∧
    triviaPass marker d = .inl d' ∧ (d.advanceWhile isBlank).position = n

/-- Behind a comment there is no other one before the next lexeme. -/
theorem triviaPass_ne_inl {c c' : Cursor} (h : triviaPass m.text c = .inl c') (c'' : Cursor) :
    triviaPass m.text c' ≠ .inl c'' := by
  obtain ⟨-, hclear⟩ := movesOver_gapText m c
  rw [triviaPass_text] at h
  split at h
  · cases h
    rw [triviaPass_text, dropWhile_of_stops hclear.blank, hclear.marker]
    exact Sum.inr_ne_inl
  · cases h

/-- **What stands before a comment**: blanks, and at the beginning of a source perhaps a byte order
mark. -/
theorem MeetsComment.exists_before {c : Cursor} {n : Nat} (h : MeetsComment m.text c n) :
    ∃ mark blanks rest, c.rest = mark ++ blanks ++ rest ∧
      leadingMark (c.position == 0) c.rest = mark ∧ (∀ b ∈ blanks, isBlank b = true) ∧
      m.startsAt rest = true ∧ n = c.position + byteLength (mark ++ blanks) := by
  obtain ⟨d, d', hcomes, hpass, rfl⟩ := h
  -- only the first pass can meet a comment
  obtain rfl : passMark c = d := by
    rcases hcomes.cases_head with heq | ⟨e, hfirst, hrest⟩
    · exact heq
    · rcases hrest.cases_head with rfl | ⟨e', hsecond, -⟩
      · exact absurd hpass (triviaPass_ne_inl hfirst d')
      · exact absurd hsecond (triviaPass_ne_inl hfirst e')
  obtain ⟨rest', hmark⟩ := leadingMark_isPrefix (c.position == 0) c.rest
  have hmarked : (passMark c).rest = rest' := by
    rw [passMark_eq, Cursor.rest_move]
    nth_rewrite 2 [← hmark]
    exact List.drop_left
  rw [triviaPass_text, hmarked] at hpass
  split at hpass
  · next hstarts =>
    refine ⟨_, rest'.takeWhile isBlank, rest'.dropWhile isBlank, ?_, rfl,
      fun b hb => accept_of_mem_takeWhile hb, hstarts, ?_⟩
    · rw [List.append_assoc, List.takeWhile_append_dropWhile, hmark]
    · have hblanks := List.takeWhile_prefix isBlank (l := rest')
      rw [Cursor.advanceWhile, Cursor.position_move, hmarked, ← List.prefix_iff_eq_take.1 hblanks,
        passMark_eq, Cursor.position_move,
        ← List.prefix_iff_eq_take.1 (leadingMark_isPrefix _ c.rest), byteLength_append,
        Nat.add_assoc]
  · cases hpass

theorem MeetsComment.position_le {c : Cursor} {n : Nat} (h : MeetsComment m.text c n) :
    c.position ≤ n := by
  obtain ⟨-, -, -, -, -, -, -, rfl⟩ := h.exists_before
  exact Nat.le_add_right _ _

/-! ### Trivia before another text -/

/-- A gap is one before every text that begins alike. -/
theorem Gap.congr {gap rest rest' : List Char} (h : Gap m rest gap)
    (hhead : rest'.head? = rest.head?) : Gap m rest' gap := by
  induction h with
  | nil => exact .nil
  | blank hc _ ih => exact .blank hc ih
  | @comment text cs htext hline _ ih =>
    refine .comment htext (fun c hc => hline c ?_) ih
    rwa [List.head?_append, hhead, ← List.head?_append] at hc

theorem leadingMark_congr (atStart : Bool) {cs cs' : List Char} (hhead : cs'.head? = cs.head?) :
    leadingMark atStart cs' = leadingMark atStart cs := by
  rw [leadingMark, leadingMark, hhead]

/-- White space is no byte order mark. -/
theorem leadingMark_of_endsLexeme (atStart : Bool) {cs : List Char} (h : EndsLexeme cs) :
    leadingMark atStart cs = [] := by
  rcases leadingMark_cases atStart cs with hnil | ⟨-, -, hcs⟩
  · exact hnil
  · have hspace : isWhiteSpace byteOrderMark = true := h byteOrderMark (by rw [hcs]; rfl)
    exact absurd hspace (by decide)

/-- Behind a byte order mark, or where there is none, white space makes no difference. -/
theorem leadingMark_append_of_endsLexeme {atStart : Bool} {mark cs cs' : List Char}
    (h : leadingMark atStart (mark ++ cs) = mark) (hcs' : EndsLexeme cs') :
    leadingMark atStart (mark ++ cs') = mark := by
  rcases leadingMark_cases atStart (mark ++ cs) with hnil | ⟨hmark, hstart, -⟩
  · obtain rfl := h.symm.trans hnil
    exact leadingMark_of_endsLexeme atStart hcs'
  · obtain rfl := h.symm.trans hmark
    rw [hstart]
    rfl

/-- **The same trivia before another text that begins alike.** -/
theorem trivia_congr {atStart : Bool} {skipped rest rest' : List Char}
    (h : trivia m atStart (skipped ++ rest) = skipped) (hhead : rest'.head? = rest.head?)
    (hclear : Clear m rest') : trivia m atStart (skipped ++ rest') = skipped := by
  have hmark : leadingMark atStart (skipped ++ rest') = leadingMark atStart (skipped ++ rest) :=
    leadingMark_congr atStart (by rw [List.head?_append, hhead, ← List.head?_append])
  obtain ⟨more, hmore⟩ := leadingMark_isPrefix atStart (skipped ++ rest)
  obtain ⟨rest₁, hrest₁, hgap, -⟩ := exists_gap m more
  rw [trivia_eq] at h
  generalize leadingMark atStart (skipped ++ rest) = mark at h hmark hmore
  rw [← hmore, List.drop_left] at h
  generalize gapText m more = gap at h hrest₁ hgap
  subst h hrest₁
  obtain rfl : rest₁ = rest := by
    rw [List.append_assoc] at hmore
    exact List.append_cancel_left (List.append_cancel_left hmore)
  rw [List.append_assoc] at hmark ⊢
  exact trivia_of_gap hmark (hgap.congr hhead) hclear

theorem endsLexeme_append {blanks after : List Char} (hblanks : ∀ c ∈ blanks, isBlank c = true)
    (hafter : EndsLexeme after) : EndsLexeme (blanks ++ after) := by
  cases blanks with
  | nil => exact hafter
  | cons b blanks =>
    intro c hc
    obtain rfl : b = c := Option.some.inj hc
    exact (Bool.and_eq_true_iff.1 (hblanks b List.mem_cons_self)).1

/-! ### Blanks in the place of a comment -/

/-- A comment, given by the text behind its marker, with the text that follows it and the blanks that
are to replace it. -/
structure Blanking (m : Marker) where
  text : List Char
  after : List Char
  blanks : List Char
  newline_notMem : '\n' ∉ text
  endsLine_after : EndsLine after
  isBlank_of_mem : ∀ c ∈ blanks, isBlank c = true
  byteLength_blanks : byteLength blanks = byteLength (m.toList ++ text)

namespace Blanking

variable {b : Blanking m}

/-- The comment and what follows it. -/
def commented (b : Blanking m) : List Char := m.toList ++ b.text ++ b.after

/-- The blanks and what follows them. -/
def blanked (b : Blanking m) : List Char := b.blanks ++ b.after

theorem endsLexeme_blanked (b : Blanking m) : EndsLexeme b.blanked :=
  endsLexeme_append b.isBlank_of_mem b.endsLine_after.endsLexeme

theorem gap_blanks (b : Blanking m) : Gap m b.after b.blanks := by
  rw [← List.append_nil b.blanks]
  exact Separator.gap_append_blanks b.isBlank_of_mem .nil

/-- The comment is replaced by spaces. -/
def ofSpaces (m : Marker) {text after : List Char} (htext : '\n' ∉ text) (hafter : EndsLine after) :
    Blanking m where
  text := text
  after := after
  blanks := List.replicate (byteLength (m.toList ++ text)) ' '
  newline_notMem := htext
  endsLine_after := hafter
  isBlank_of_mem := by
    intro c hc
    rw [List.eq_of_mem_replicate hc]
    decide
  byteLength_blanks := (byteLength_replicate _ ' ').trans (Nat.mul_one _)

/-- The cursors stand at the same offset, with the text `before` between `c` and the comment and
between `d` and the blanks. -/
structure Matches (b : Blanking m) (before : List Char) (c d : Cursor) : Prop where
  commented_eq : c.rest = before ++ b.commented
  blanked_eq : d.rest = before ++ b.blanked
  position_eq : d.position = c.position

/-- The text before the comment, when the comment is met at once. -/
theorem exists_of_meetsComment {c : Cursor} {before : List Char} (hc : c.rest = before ++ b.commented)
    (h : MeetsComment m.text c (c.position + byteLength before)) :
    ∃ blanks, before = leadingMark (c.position == 0) c.rest ++ blanks ∧
      ∀ c ∈ blanks, isBlank c = true := by
  obtain ⟨mark, blanks, rest, hrest, rfl, hblanks, -, hn⟩ := h.exists_before
  obtain ⟨more, hbefore, -⟩ :=
    exists_append_of_byteLength_le (hrest.symm.trans hc) (by omega)
  rw [hbefore, byteLength_append] at hn
  obtain rfl : more = [] := eq_nil_of_byteLength_eq_zero (by omega)
  exact ⟨blanks, by rw [hbefore, List.append_nil], hblanks⟩

variable {before : List Char} {c d : Cursor}

/-- **The trivia with the comment in them.** Behind them the cursors stand before the same text. -/
theorem Matches.displaced (h : b.Matches before c d)
    (hmeets : MeetsComment m.text c (c.position + byteLength before)) : Displaced m 0 c d := by
  obtain ⟨blanks, hbefore, hblanks⟩ := exists_of_meetsComment h.commented_eq hmeets
  generalize hmark : leadingMark (c.position == 0) c.rest = mark at hbefore
  subst hbefore
  have hc : c.rest = mark ++ (blanks ++ (m.toList ++ b.text) ++ b.after) := by
    rw [h.commented_eq, commented]
    simp only [List.append_assoc]
  have hd : d.rest = mark ++ (blanks ++ b.blanks ++ b.after) := by
    rw [h.blanked_eq, blanked]
    simp only [List.append_assoc]
  have hmark' : leadingMark (d.position == 0) d.rest = mark := by
    rw [hc] at hmark
    rw [h.position_eq, hd, List.append_assoc]
    exact leadingMark_append_of_endsLexeme hmark (endsLexeme_append hblanks b.endsLexeme_blanked)
  have hclear := b.endsLine_after.clear m
  have hgap : Gap m b.after (m.toList ++ b.text) := .of_comment b.newline_notMem b.endsLine_after
  obtain ⟨hrest, hposition⟩ :=
    skipTrivia_of_gap hc hmark (Separator.gap_append_blanks hblanks hgap) hclear
  obtain ⟨hrest', hposition'⟩ :=
    skipTrivia_of_gap hd hmark' (Separator.gap_append_blanks hblanks b.gap_blanks) hclear
  refine ⟨hrest'.trans hrest.symm, ?_⟩
  rw [hposition, hposition', h.position_eq]
  simp only [byteLength_append, b.byteLength_blanks]
  rfl

/-- A step that ends before the comment takes the first part of the text before it. -/
theorem exists_of_reaches {c' : Cursor} {w : Lexeme} {span : Span}
    (hc : c.rest = before ++ b.commented) (hreach : Reaches m c w span c')
    (hle : c'.position ≤ c.position + byteLength before) :
    ∃ before', before = trivia m (c.position == 0) c.rest ++ (w.text ++ before') ∧
      c'.rest = before' ++ b.commented ∧
      c'.position + byteLength before' = c.position + byteLength before := by
  have hsplit : c.rest = trivia m (c.position == 0) c.rest ++ w.text ++ c'.rest := by
    rw [List.append_assoc, ← hreach.rest_eq]
    exact rest_eq_trivia_append m c
  have hend := hreach.end_eq
  have hlength := congrArg byteLength hsplit
  rw [byteLength_append _ c'.rest] at hlength
  obtain ⟨before', hbefore, hrest⟩ :=
    exists_append_of_byteLength_le (hsplit.symm.trans hc) (by omega)
  refine ⟨before', by rw [hbefore, List.append_assoc], hrest, ?_⟩
  rw [hrest, hc, byteLength_append, byteLength_append] at hend
  omega

/-- **One step before the comment.** The lexeme must not end where a marker begins that is not yet the
comment and yet reaches into it. -/
theorem Matches.reaches {c' : Cursor} {w : Lexeme} {span : Span} {before' : List Char}
    (h : b.Matches before c d) (hreach : Reaches m c w span c')
    (hbefore : before = trivia m (c.position == 0) c.rest ++ (w.text ++ before'))
    (hc' : c'.rest = before' ++ b.commented)
    (hmarker : m.startsAt c'.rest = true → before' = [] ∨ m.startsAt before' = true) :
    ∃ d', Reaches m d w span d' ∧ b.Matches before' c' d' := by
  have hstands : w.StandsBefore m (before' ++ b.blanked) := by
    have hlong := hreach.stands
    rw [hc'] at hlong hmarker
    exact (hlong.of_append hmarker).append b.endsLexeme_blanked
  have hd : d.rest =
      trivia m (c.position == 0) c.rest ++ (w.text ++ (before' ++ b.blanked)) := by
    rw [h.blanked_eq, hbefore, List.append_assoc, List.append_assoc]
  have htrivia : trivia m (d.position == 0) d.rest = trivia m (c.position == 0) c.rest := by
    obtain ⟨first, others, hw⟩ := List.exists_cons_of_ne_nil hreach.stands.shaped.text_ne_nil
    have hskipped := congrArg (trivia m (c.position == 0)) (rest_eq_trivia_append m c)
    rw [hreach.rest_eq] at hskipped
    rw [hd, h.position_eq]
    exact trivia_congr hskipped.symm (by rw [hw]; rfl) hstands.clear
  have hrest : (skipTrivia m d).rest = w.text ++ (before' ++ b.blanked) := by
    rw [rest_skipTrivia, htrivia, hd, List.drop_left]
  have hposition : (skipTrivia m d).position = (skipTrivia m c).position + 0 := by
    rw [position_skipTrivia, position_skipTrivia, htrivia, h.position_eq]
    rfl
  obtain ⟨d', hreach', hrest', hposition'⟩ := hreach.transfer hposition hrest hstands
  exact ⟨d', hreach', hc', hrest', hposition'⟩

end Blanking

/-! ### The run up to the comment, and behind it -/

section Runs

variable {registry : Registry T} {s s' : Progress T} {b : Blanking m} {before : List Char}

/-- Offsets do not decrease from pass to pass. -/
theorem ComesTo.position_le (h : ComesTo m registry s s') :
    s.cursor.position ≤ s'.cursor.position := by
  induction h with
  | refl => exact Nat.le_refl _
  | tail _ hpass ih =>
    obtain ⟨text, -, hmoves⟩ := exists_movesOver_of_scanPass hpass
    rw [hmoves.position_eq]
    omega

/-- A pass before the comment is met takes the first part of the text before it. -/
theorem exists_of_scanPass {s₁ : Progress T} (hs : s.memory.Steady)
    (hpass : scanPass m registry s = .inl s₁) (hcomes : ComesTo m registry s₁ s')
    (hmeets : MeetsComment m.text s'.cursor (s.cursor.position + byteLength before))
    (hrest : s.cursor.rest = before ++ b.commented) :
    ∃ w span token before', Reaches m s.cursor w span s₁.cursor ∧
      (resolve registry (w.memoryAfter s.memory) w span).1.outcome = .ok token ∧
      s₁.memory = (resolve registry (w.memoryAfter s.memory) w span).2 ∧
      before = trivia m (s.cursor.position == 0) s.cursor.rest ++ (w.text ++ before') ∧
      s₁.cursor.rest = before' ++ b.commented ∧
      s₁.cursor.position + byteLength before' = s.cursor.position + byteLength before := by
  obtain ⟨w, span, memory, c, token, hnext, hout, rfl⟩ := scanPass_eq_inl hpass
  obtain ⟨hreach, rfl⟩ := reaches_of_next hs hnext
  have hle := Nat.le_trans hcomes.position_le hmeets.position_le
  obtain ⟨before', hbefore, hrest', hposition⟩ := Blanking.exists_of_reaches hrest hreach hle
  exact ⟨w, span, token, before', hreach, hout, rfl, hbefore, hrest', hposition⟩

/-- **No marker reaches from before the comment into it.** Where a marker begins, the scan meets it at
once. If it is not the comment, then it belongs to the trivia before the next lexeme, which stands
before the comment. -/
theorem ComesTo.startsAt_before (hcomes : ComesTo m registry s s') (hs : s.memory.Steady)
    (hmeets : MeetsComment m.text s'.cursor (s.cursor.position + byteLength before))
    (hrest : s.cursor.rest = before ++ b.commented) (hposition : s.cursor.position ≠ 0)
    (hstarts : m.startsAt s.cursor.rest = true) : before = [] ∨ m.startsAt before = true := by
  have hstart : (s.cursor.position == 0) = false := beq_false_of_ne hposition
  rcases hcomes.cases_head with rfl | ⟨s₁, hpass, hcomes⟩
  · obtain ⟨blanks, hbefore, hblanks⟩ := Blanking.exists_of_meetsComment hrest hmeets
    have hmark : leadingMark (s.cursor.position == 0) s.cursor.rest = [] := by
      rw [hstart, leadingMark]
      rfl
    rw [hmark, List.nil_append] at hbefore
    subst hbefore
    cases before with
    | nil => exact .inl rfl
    | cons c blanks =>
      -- a marker does not begin with a blank
      have hc := (Bool.and_eq_true_iff.1 (hblanks c List.mem_cons_self)).1
      rw [hrest, List.cons_append, startsAt_cons_of_not (isOperatorChar_of_isWhiteSpace hc)] at hstarts
      cases hstarts
  · obtain ⟨w, span, token, before', -, -, -, hbefore, -, -⟩ :=
      exists_of_scanPass hs hpass hcomes hmeets hrest
    rw [hstart] at hbefore
    rw [hbefore]
    exact .inr (startsAt_append_of_startsAt (startsAt_trivia hstarts) _)

/-- **The run over the blanks** takes the steps of the run over the comment. The induction is on the
passes that lead to the comment. -/
theorem ComesTo.exists_runs_blanked (hcomes : ComesTo m registry s s') (hs : s.memory.Steady)
    (hmeets : MeetsComment m.text s'.cursor (s.cursor.position + byteLength before)) {d : Cursor}
    (hmatches : b.Matches before s.cursor d) :
    ∃ r, Runs m registry s.memory d r ∧ (run m registry s.memory s.cursor).Displaced 0 r := by
  induction hcomes using Relation.ReflTransGen.head_induction_on generalizing before d with
  | refl => exact (runs_run m registry hs _).displaced rfl (hmatches.displaced hmeets)
  | @head s s₁ hpass hcomes ih =>
    obtain ⟨w, span, token, before', hreach, hout, hmemory, hbefore, hrest, hposition⟩ :=
      exists_of_scanPass hs hpass hcomes hmeets hmatches.commented_eq
    rw [← hposition] at hmeets
    have hs₁ := steady_of_scanPass hs hpass
    obtain ⟨d', hreach', hmatches'⟩ := hmatches.reaches hreach hbefore hrest
      (ComesTo.startsAt_before hcomes hs₁ hmeets hrest hreach.position_ne_zero)
    obtain ⟨r, hruns, hdisplaced⟩ := ih hs₁ hmeets hmatches'
    rw [hmemory] at hruns hdisplaced
    refine ⟨_, .resolved hreach' hout hruns, ?_⟩
    rw [run_of_found registry (next_of_reaches hs hreach), hout]
    exact ⟨congrArg (_ :: ·) hdisplaced.resolutions_eq, hdisplaced.failed, hdisplaced.finished⟩

end Runs

/-! ### Runs in the same place -/

theorem Fault.shift_zero (fault : Fault) : fault.shift 0 = fault := by
  cases fault <;> rfl

/-- A run that takes the steps of another one in the same place has its result. -/
theorem Run.Displaced.result_eq {r r' : Run T} (h : r.Displaced 0 r') : r'.result = r.result := by
  cases hresult : r.result with
  | ok tokens =>
    obtain ⟨⟨c, m, hend⟩, rfl⟩ := Run.result_eq_ok_iff.1 hresult
    obtain ⟨c', m', hend', -⟩ := h.finished c m hend
    exact Run.result_eq_ok_iff.2 ⟨⟨c', m', hend'⟩, h.tokens_eq.trans (List.map_id _)⟩
  | error fault =>
    have hend := h.failed fault (Run.result_eq_error_iff.1 hresult)
    rw [Fault.shift_zero] at hend
    exact Run.result_eq_error_iff.2 hend

end ChainLexer.Scan

namespace ChainLexer.Lexer

open ChainLexer.Grammar ChainLexer.Scan ChainLexer.Settings ChainLexer.Source ChainLexer.Text

variable {T : Type}

/-- The scan of the lexer comes to a comment that begins at the byte offset `n`. -/
def MeetsComment (lexer : Lexer T) (n : Nat) : Prop :=
  ∃ s, lexer.Visits s ∧ Scan.MeetsComment lexer.marker.text s.cursor n

/-- The context that a scan leaves behind does not depend on the place. -/
theorem context_scan_of_displaced {lexer lexer' : Lexer T} {n : Nat}
    (h : lexer.run.Displaced n lexer'.run) : lexer'.scan.2.context = lexer.scan.2.context := by
  cases hend : lexer.run.ending with
  | finished c memory =>
    obtain ⟨c', memory', hend', hcontext⟩ := h.finished c memory hend
    rw [context_scan_of_finished hend, context_scan_of_finished hend', hcontext]
  | failed fault =>
    rw [context_scan_of_failed hend, context_scan_of_failed (h.failed fault hend)]

/-- **A comment is as good as blanks.** Where a scan meets a comment, spaces in its place, as many as
the comment has bytes, change neither the tokens or the fault of the scan nor the context that it
leaves behind. -/
theorem scan_eq_scan_blanked {before text after : String} {config : Config}
    {lexer blanked : Lexer T}
    (hlexer : withConfig (before ++ config.lineComment ++ text ++ after) config = .ok lexer)
    (hblanked : withConfig
      (before ++ String.ofList (List.replicate
        (byteLength config.lineComment.toList + byteLength text.toList) ' ') ++ after) config =
      .ok blanked)
    (htext : '\n' ∉ text.toList) (hafter : EndsLine after.toList) (registry : Registry T)
    (hmeets : (lexer.withRegistry registry).MeetsComment (byteLength before.toList)) :
    (lexer.withRegistry registry).scan.1 = (blanked.withRegistry registry).scan.1 ∧
    (lexer.withRegistry registry).scan.2.context =
      (blanked.withRegistry registry).scan.2.context := by
  obtain rfl := eq_withMarker_of_withConfig hlexer hblanked
  obtain ⟨m, hmarker, rfl⟩ := withConfig_eq_ok_iff.1 hlexer
  obtain ⟨s, hvisits, hmeets⟩ := hmeets
  have hlist : config.lineComment.toList = m.toList := by
    rw [← hmarker, Marker.text, String.toList_ofList]
  have hmatches : (Blanking.ofSpaces m htext hafter).Matches before.toList
      (.ofString (before ++ config.lineComment ++ text ++ after))
      (.ofString (before ++ String.ofList (List.replicate
        (byteLength config.lineComment.toList + byteLength text.toList) ' ') ++ after)) := by
    refine ⟨?_, ?_, rfl⟩
    · simp only [Cursor.rest_ofString, String.toList_append, hlist, List.append_assoc]
      rfl
    · simp only [Cursor.rest_ofString, String.toList_append, String.toList_ofList, hlist,
        ← byteLength_append, List.append_assoc]
      rfl
  rw [← Nat.zero_add (byteLength before.toList)] at hmeets
  obtain ⟨r, hruns, hdisplaced⟩ :=
    ComesTo.exists_runs_blanked hvisits Memory.steady_fresh hmeets hmatches
  obtain rfl := hruns.eq_run Memory.steady_fresh
  exact ⟨hdisplaced.result_eq.symm, (context_scan_of_displaced hdisplaced).symm⟩

/-- The lexer of a source with a comment that touches an operator. In the comment there are a quote, a
backslash, another marker and a digit that no lexeme begins with. -/
def annotated : Lexer Category :=
  (ofSource "é+--\"\\--٣\n7").withRegistry categoryRegistry

/-- The operator ends where the marker begins, and before the blanks as well. -/
theorem scan_eq_scan_blanked_annotated :
    annotated.MeetsComment 3 ∧
    annotated.scan.1 = ((ofSource "é+        \n7").withRegistry categoryRegistry).scan.1 ∧
    annotated.scan.1 = .ok [⟨.identifier, "é", ⟨0, 2⟩, none⟩, ⟨.operator, "+", ⟨2, 3⟩, none⟩,
      ⟨.number, "7", ⟨12, 13⟩, some (.int 7)⟩] := by
  have hmeets : annotated.MeetsComment 3 := by
    refine ⟨_, .tail (.tail .refl (by rfl)) (by rfl), _, _, .refl, by rfl, ?_⟩
    decide +kernel
  have hlexer : withConfig ("é+" ++ ({} : Config).lineComment ++ "\"\\--٣" ++ "\n7") {} =
      .ok (ofSource (T := Category) "é+--\"\\--٣\n7") :=
    withConfig_customary _
  have hblanked : withConfig ("é+" ++ String.ofList (List.replicate
      (byteLength ({} : Config).lineComment.toList + byteLength "\"\\--٣".toList) ' ') ++ "\n7") {} =
      .ok (ofSource (T := Category) "é+        \n7") :=
    withConfig_customary _
  obtain ⟨hscan, -⟩ := scan_eq_scan_blanked hlexer hblanked (by decide) (endsLine_cons.2 rfl)
    categoryRegistry hmeets
  exact ⟨hmeets, hscan, by decide +kernel⟩

end ChainLexer.Lexer
