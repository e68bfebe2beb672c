import ChainLexer.Proofs.Lines
import ChainLexer.Proofs.Tiling

/-!
# Scanning ends

The functions of a scan are total: the trivia before a lexeme are cut off in one straight line, and
`run` recurses on a text that gets shorter. This module is about the same scan done in loops, which
are not total by their form. One loop skips blanks and comments until neither is left, the other takes
lexeme after lexeme. A loop is given by its body and may go round for ever; `LoopEnds` says that it
does not, and counts its passes. Both loops end, and what they end with is what the functions give.

## What the marker has to do with it

A comment is skipped up to the end of its line. A marker that could stand there, because it is empty
or begins with a line feed, would be found again at the same place, and the loop would not move any
more: this is `not_loopEnds_of_endsLine`. A marker of two operator characters cannot stand there, and
every comment that begins with it has at least two characters. Nothing else is needed. The memory and
the classifiers have no part in it.

## Main definitions

* `LoopEnds`: a loop ends after a number of passes
* `Cursor.MovesOver`: a cursor has moved over a text
* `triviaPass`, `scanPass`: the bodies of the two loops
* `ScanEnds`: the loops of a lexer end, and how far each pass gets

## Main results

* `exists_loopEnds`: a loop whose passes use something up ends
* `exists_movesOver_of_triviaPass`: a pass over a comment moves over its marker
* `exists_movesOver_of_scanPass`: a pass over a lexeme moves over a character
* `LoopEnds.eq_move_gapText`, `LoopEnds.eq_prepend_run`: what the two loops end with
* `not_loopEnds_of_endsLine`: the loop over trivia does not end with a marker that can stand at the
  end of a line
* `Lexer.scanEnds_withRegistry`: the loops of every lexer end
-/

namespace ChainLexer.Source

open ChainLexer.Text

/-! ### Moving over a text -/

theorem Cursor.move_zero (c : Cursor) : c.move 0 = c := by
  cases c
  simp [move]

theorem Cursor.move_move (c : Cursor) (n k : Nat) : (c.move n).move k = c.move (n + k) := by
  cases c
  simp [move, List.take_add]

/-- The cursor `c'` is the cursor `c` after the text. -/
structure Cursor.MovesOver (c : Cursor) (text : List Char) (c' : Cursor) : Prop where
  source_eq : c'.source = c.source
  rest_eq : c.rest = text ++ c'.rest
  position_eq : c'.position = c.position + byteLength text

theorem Cursor.movesOver_move (c : Cursor) (n : Nat) : c.MovesOver (c.rest.take n) (c.move n) where
  source_eq := rfl
  rest_eq := by simp
  position_eq := by simp

theorem Cursor.movesOver_skip (c : Cursor) : c.MovesOver [] c.skip where
  source_eq := rfl
  rest_eq := by simp
  position_eq := by simp

theorem Cursor.MovesOver.trans {c c' c'' : Cursor} {text text' : List Char}
    (h : c.MovesOver text c') (h' : c'.MovesOver text' c'') :
    c.MovesOver (text ++ text') c'' where
  source_eq := h'.source_eq.trans h.source_eq
  rest_eq := by rw [h.rest_eq, h'.rest_eq, List.append_assoc]
  position_eq := by rw [h'.position_eq, h.position_eq, byteLength_append, Nat.add_assoc]

theorem Cursor.MovesOver.length_eq {c c' : Cursor} {text : List Char} (h : c.MovesOver text c') :
    c.rest.length = text.length + c'.rest.length := by
  rw [h.rest_eq, List.length_append]

end ChainLexer.Source

namespace ChainLexer.Scan

open ChainLexer.Grammar ChainLexer.Settings ChainLexer.Source ChainLexer.Text

variable {T : Type}

/-! ### Loops -/

/-- From the state `s`, the loop with the given body ends with the result `a`, after `n` passes that go
on and one that does not. -/
inductive LoopEnds {σ α : Type} (body : σ → σ ⊕ α) : σ → Nat → α → Prop
  /-- The body has a result. -/
  | stop {s : σ} {a : α} (h : body s = .inr a) : LoopEnds body s 0 a
  /-- The body gives another state. -/
  | goOn {s s' : σ} {n : Nat} {a : α} (h : body s = .inl s') (hrest : LoopEnds body s' n a) :
      LoopEnds body s (n + 1) a

/-- **A loop whose passes use something up ends.** It makes no more passes than there is to use. -/
theorem exists_loopEnds {σ α : Type} {body : σ → σ ⊕ α} (size : σ → Nat) {k : Nat} (hk : 0 < k)
    (h : ∀ s s', body s = .inl s' → size s' + k ≤ size s) (s : σ) :
    ∃ n a, LoopEnds body s n a ∧ k * n ≤ size s := by
  induction hn : size s using Nat.strongRecOn generalizing s with
  | ind n ih =>
    cases hbody : body s with
    | inr a => exact ⟨0, a, .stop hbody, by omega⟩
    | inl s' =>
      have hle := h s s' hbody
      obtain ⟨i, a, hends, hi⟩ := ih (size s') (by omega) s' rfl
      exact ⟨i + 1, a, .goOn hbody hends, by rw [Nat.mul_succ]; omega⟩

/-! ### The loop over trivia -/

/-- A cursor at the beginning of its source moves over a byte order mark. -/
def passMark (c : Cursor) : Cursor :=
  if c.position == 0 && c.current == some byteOrderMark then c.advance else c

/-- One pass over trivia, where comments begin with the given text: blanks, and then a comment up to
the end of its line. If there is none, then the trivia end. -/
def triviaPass (marker : String) (c : Cursor) : Cursor ⊕ Cursor :=
  let blanks := c.advanceWhile isBlank
  if blanks.startsWith marker then .inl (blanks.advanceWhile (· != '\n')) else .inr blanks

theorem passMark_eq (c : Cursor) :
    passMark c = c.move (leadingMark (c.position == 0) c.rest).length := by
  rw [passMark, leadingMark, Cursor.current]
  split
  · rfl
  · rw [List.length_nil, Cursor.move_zero]

theorem rest_advanceWhile (c : Cursor) (accept : Char → Bool) :
    (c.advanceWhile accept).rest = c.rest.dropWhile accept := by
  rw [Cursor.advanceWhile, Cursor.rest_move, drop_length_takeWhile]

/-- Every pass moves over the blanks and the comment that stand there. -/
theorem triviaPass_text (m : Marker) (c : Cursor) :
    triviaPass m.text c =
      if m.startsAt (c.rest.dropWhile isBlank) then .inl (c.move (gapText m c.rest).length)
      else .inr (c.move (gapText m c.rest).length) := by
  have hstarts : (c.advanceWhile isBlank).startsWith m.text =
      m.startsAt (c.rest.dropWhile isBlank) := by
    rw [Cursor.startsWith, rest_advanceWhile, Marker.text, String.toList_ofList, Marker.startsAt]
  rw [triviaPass]
  simp only [hstarts, gapText, leadingComment]
  split
  · rw [Cursor.advanceWhile, rest_advanceWhile, Cursor.advanceWhile, Cursor.move_move,
      List.length_append]
  · rw [List.append_nil, Cursor.advanceWhile]

/-- Behind the blanks and the comment there is nothing more to skip. -/
theorem movesOver_gapText (m : Marker) (c : Cursor) :
    c.MovesOver (gapText m c.rest) (c.move (gapText m c.rest).length) ∧
      Clear m (c.move (gapText m c.rest).length).rest := by
  obtain ⟨rest, hrest, -, hclear⟩ := exists_gap m c.rest
  have hmoves := c.movesOver_move (gapText m c.rest).length
  have hprefix : gapText m c.rest <+: c.rest := ⟨rest, hrest.symm⟩
  rw [← List.prefix_iff_eq_take.1 hprefix] at hmoves
  refine ⟨hmoves, ?_⟩
  rwa [List.append_cancel_left (hmoves.rest_eq.symm.trans hrest)]

/-- **A pass over a comment moves over its marker.** -/
theorem exists_movesOver_of_triviaPass {m : Marker} {c c' : Cursor}
    (h : triviaPass m.text c = .inl c') :
    ∃ blanks text, c.MovesOver (blanks ++ m.toList ++ text) c' := by
  rw [triviaPass_text] at h
  split at h
  · next hstarts =>
    cases h
    obtain ⟨text, htext⟩ := exists_of_startsAt hstarts
    have hgap : gapText m c.rest =
        c.rest.takeWhile isBlank ++ m.toList ++ text.takeWhile (· != '\n') := by
      rw [gapText, htext, leadingComment_toList_append, List.append_assoc]
    refine ⟨c.rest.takeWhile isBlank, text.takeWhile (· != '\n'), ?_⟩
    rw [← hgap]
    exact (movesOver_gapText m c).1
  · cases h

/-- **The loop over trivia ends behind the gap at which it begins.** A second pass has nothing to skip,
because no gap begins where one has ended. -/
theorem LoopEnds.eq_move_gapText {m : Marker} {c d : Cursor} {n : Nat}
    (h : LoopEnds (triviaPass m.text) c n d) : d = c.move (gapText m c.rest).length := by
  induction h with
  | @stop c d h =>
    rw [triviaPass_text] at h
    split at h
    · cases h
    · cases h
      rfl
  | @goOn c c' n d h _ ih =>
    rw [triviaPass_text] at h
    split at h
    · cases h
      have hnone : gapText m (c.move (gapText m c.rest).length).rest = [] :=
        gapText_append .nil (movesOver_gapText m c).2
      rw [ih, hnone, List.length_nil, Cursor.move_zero]
    · cases h

/-- The loop over trivia ends where the next lexeme starts. -/
theorem LoopEnds.skipTrivia_eq {m : Marker} {c d : Cursor} {n : Nat}
    (h : LoopEnds (triviaPass m.text) (passMark c) n d) : skipTrivia m c = d.skip := by
  rw [h.eq_move_gapText, passMark_eq, Cursor.move_move, Cursor.rest_move, skipTrivia, trivia_eq,
    List.length_append]

/-- **The loop over trivia ends.** Each pass that goes on uses up two characters. -/
theorem exists_loopEnds_triviaPass (m : Marker) (c : Cursor) :
    ∃ n d, LoopEnds (triviaPass m.text) c n d ∧ 2 * n ≤ c.rest.length := by
  have hpass : ∀ c c', triviaPass m.text c = .inl c' → c'.rest.length + 2 ≤ c.rest.length := by
    intro c c' h
    obtain ⟨blanks, text, hmoves⟩ := exists_movesOver_of_triviaPass h
    have hlength := hmoves.length_eq
    have htwo : m.toList.length = 2 := rfl
    rw [List.length_append, List.length_append] at hlength
    omega
  exact exists_loopEnds (fun c => c.rest.length) Nat.two_pos hpass c

/-- **With a marker that can stand at the end of a line the loop over trivia does not end.** Once it
has come to such a marker, it finds the marker again in every pass. -/
theorem not_loopEnds_of_endsLine {marker : String} (hmarker : EndsLine marker.toList) {c : Cursor}
    (hc : (c.advanceWhile isBlank).startsWith marker = true) :
    ¬∃ n d, LoopEnds (triviaPass marker) c n d := by
  rintro ⟨n, d, h⟩
  induction h with
  | stop h =>
    rw [triviaPass] at h
    simp [hc] at h
  | @goOn c c' n d h _ ih =>
    rw [triviaPass] at h
    simp only [hc, if_true, Sum.inl.injEq] at h
    subst h
    refine ih ?_
    rw [Cursor.startsWith, rest_advanceWhile, List.isPrefixOf_iff_prefix] at hc ⊢
    rw [rest_advanceWhile, rest_advanceWhile]
    cases htext : marker.toList with
    | nil => exact List.nil_prefix
    | cons a text =>
      rw [htext] at hc hmarker
      obtain rfl := endsLine_cons.1 hmarker
      obtain ⟨rest, hrest⟩ := hc
      -- neither a blank nor the inside of a comment begins with a line feed
      rw [← hrest, List.cons_append, List.dropWhile_cons_of_neg (by simp),
        List.dropWhile_cons_of_neg (by decide)]
      exact ⟨rest, rfl⟩

/-! ### The loop over lexemes -/

/-- Where a scan stands between two passes: the memory, the place in the source, and what has been
resolved. -/
structure Progress (T : Type) where
  memory : Memory
  cursor : Cursor
  resolutions : List (Resolution T)

/-- One pass of a scan: the next lexeme is resolved, and becomes part of the record. The scan ends if
there is no next lexeme, or if the lexeme is a fault. -/
def scanPass (marker : Marker) (registry : Registry T) (s : Progress T) : Progress T ⊕ Run T :=
  match next marker s.memory s.cursor with
  | .finished c => .inr ⟨s.resolutions, .finished c s.memory⟩
  | .blocked fault => .inr ⟨s.resolutions, .failed fault⟩
  | .found w span m c =>
    let (r, m) := resolve registry m w span
    match r.outcome with
    | .error fault => .inr ⟨s.resolutions ++ [r], .failed fault⟩
    | .ok _ => .inl ⟨m, c, s.resolutions ++ [r]⟩

section ScanPass

variable {marker : Marker} {registry : Registry T} {s s' : Progress T} {r : Run T}

/-- A pass that goes on has found a lexeme that is no fault. -/
theorem scanPass_eq_inl (h : scanPass marker registry s = .inl s') :
    ∃ w span m c token, next marker s.memory s.cursor = .found w span m c ∧
      (resolve registry m w span).1.outcome = .ok token ∧
      s' = ⟨(resolve registry m w span).2, c, s.resolutions ++ [(resolve registry m w span).1]⟩ := by
  rw [scanPass] at h
  split at h
  · cases h
  · cases h
  · next w span m c hnext =>
    simp only at h
    split at h
    · cases h
    · next token hout =>
      cases h
      exact ⟨w, span, m, c, token, hnext, hout, rfl⟩

/-- A pass that ends the scan has resolved at most one more lexeme. -/
theorem scanPass_eq_inr (h : scanPass marker registry s = .inr r) :
    r = (run marker registry s.memory s.cursor).prepend s.resolutions ∧
      r.resolutions.length ≤ s.resolutions.length + s.cursor.rest.length := by
  rw [scanPass] at h
  split at h
  · next c hnext =>
    cases h
    rw [run_of_finished registry hnext]
    exact ⟨by simp [Run.prepend], Nat.le_add_right _ _⟩
  · next fault hnext =>
    cases h
    rw [run_of_blocked registry hnext]
    exact ⟨by simp [Run.prepend], Nat.le_add_right _ _⟩
  · next w span m c hnext =>
    simp only at h
    split at h
    · next fault hout =>
      cases h
      have hlt := length_rest_of_next hnext
      rw [run_of_found registry hnext, hout]
      refine ⟨rfl, ?_⟩
      rw [List.length_append, List.length_singleton]
      omega
    · cases h

/-- **A pass over a lexeme moves over a character**, at least. -/
theorem exists_movesOver_of_scanPass (h : scanPass marker registry s = .inl s') :
    ∃ text, text ≠ [] ∧ s.cursor.MovesOver text s'.cursor := by
  obtain ⟨w, span, m, c, token, hnext, -, rfl⟩ := scanPass_eq_inl h
  have hlt := length_rest_of_next hnext
  obtain ⟨text, hmoves⟩ : ∃ text, s.cursor.MovesOver text c := by
    have htrivia := (s.cursor.movesOver_move
      (trivia marker (s.cursor.position == 0) s.cursor.rest).length).trans (Cursor.movesOver_skip _)
    cases hrest : (skipTrivia marker s.cursor).rest with
    | nil =>
      rw [next_of_nil hrest] at hnext
      cases hnext
    | cons first others =>
      rw [next_of_cons hrest] at hnext
      split at hnext
      · cases hnext
      · cases hnext
        exact ⟨_, (htrivia.trans (Cursor.movesOver_move _ _)).trans (Cursor.movesOver_skip _)⟩
  refine ⟨text, ?_, hmoves⟩
  rintro rfl
  have hlength := hmoves.length_eq
  rw [List.length_nil] at hlength
  omega

/-- A pass that goes on moves a resolution from the run to the record, and the two together stay the
same. -/
theorem prepend_run_of_scanPass (h : scanPass marker registry s = .inl s') :
    (run marker registry s'.memory s'.cursor).prepend s'.resolutions =
      (run marker registry s.memory s.cursor).prepend s.resolutions := by
  obtain ⟨w, span, m, c, token, hnext, hout, rfl⟩ := scanPass_eq_inl h
  rw [run_of_found registry hnext, hout]
  simp [Run.prepend, Run.cons]

/-- **The loop over lexemes ends with the run**, behind what has been resolved before. -/
theorem LoopEnds.eq_prepend_run {n : Nat} (h : LoopEnds (scanPass marker registry) s n r) :
    r = (run marker registry s.memory s.cursor).prepend s.resolutions := by
  induction h with
  | stop h => exact (scanPass_eq_inr h).1
  | goOn h _ ih => rw [ih, prepend_run_of_scanPass h]

/-- No more lexemes are resolved than there are characters left. -/
theorem LoopEnds.length_resolutions_le {n : Nat} (h : LoopEnds (scanPass marker registry) s n r) :
    r.resolutions.length ≤ s.resolutions.length + s.cursor.rest.length := by
  induction h with
  | stop h => exact (scanPass_eq_inr h).2
  | goOn h _ ih =>
    obtain ⟨w, span, m, c, token, hnext, -, rfl⟩ := scanPass_eq_inl h
    have hlt := length_rest_of_next hnext
    rw [List.length_append, List.length_singleton] at ih
    simp only at ih
    omega

end ScanPass

/-- **The loop over lexemes ends.** Each pass that goes on uses up a character. -/
theorem exists_loopEnds_scanPass (marker : Marker) (registry : Registry T) (s : Progress T) :
    ∃ n r, LoopEnds (scanPass marker registry) s n r ∧ n ≤ s.cursor.rest.length := by
  have hpass : ∀ s s', scanPass marker registry s = .inl s' →
      s'.cursor.rest.length + 1 ≤ s.cursor.rest.length := by
    intro s s' h
    obtain ⟨text, hne, hmoves⟩ := exists_movesOver_of_scanPass h
    have hlength := hmoves.length_eq
    have hpos := List.length_pos_iff.2 hne
    omega
  simpa only [Nat.one_mul] using
    exists_loopEnds (fun s => s.cursor.rest.length) Nat.one_pos hpass s

end ChainLexer.Scan

namespace ChainLexer.Lexer

open ChainLexer.Grammar ChainLexer.Scan ChainLexer.Settings ChainLexer.Source ChainLexer.Text

variable {T : Type}

/-- The loops of the lexer end, whose source and settings are given, and every pass gets somewhere. -/
structure ScanEnds (source : String) (config : Config) (lexer : Lexer T) : Prop where
  /-- Comments begin with two operator characters. -/
  marker : config.lineComment.length = 2 ∧ ∀ c ∈ config.lineComment.toList, isOperatorChar c = true
  /-- A pass over a comment moves over these, at least, -/
  triviaPass_moves : ∀ c c', triviaPass config.lineComment c = .inl c' →
    ∃ blanks text, c.MovesOver (blanks ++ config.lineComment.toList ++ text) c'
  /-- so the loop over trivia ends, wherever it begins, and the next lexeme starts where it ends. -/
  triviaPass_ends : ∀ c, ∃ n d, LoopEnds (triviaPass config.lineComment) (passMark c) n d ∧
    2 * n ≤ c.rest.length ∧ skipTrivia lexer.marker c = d.skip
  /-- A pass over a lexeme moves over a character, at least, -/
  scanPass_moves : ∀ s s', scanPass lexer.marker lexer.registry s = .inl s' →
    ∃ text, text ≠ [] ∧ s.cursor.MovesOver text s'.cursor
  /-- so the loop over lexemes ends, whatever the place and the memory, and its result is the run. -/
  scanPass_ends : ∀ memory c, ∃ n, n ≤ c.rest.length ∧
    LoopEnds (scanPass lexer.marker lexer.registry) ⟨memory, c, []⟩ n
      (Scan.run lexer.marker lexer.registry memory c)
  /-- No more lexemes are shown to the chains than the source has characters. -/
  length_lexemes_le : lexer.run.lexemes.length ≤ source.length

/-- **The loops of every lexer end,** whatever its settings, its classifiers and its source. -/
theorem scanEnds_withRegistry {source : String} {config : Config} {lexer : Lexer T}
    (hlexer : (config = {} ∧ lexer = ofSource source) ∨ withConfig source config = .ok lexer)
    (registry : Registry T) : ScanEnds source config (lexer.withRegistry registry) := by
  obtain ⟨m, htext, rfl⟩ : ∃ m : Marker, m.text = config.lineComment ∧
      lexer = withMarker source m := by
    rcases hlexer with ⟨rfl, rfl⟩ | hlexer
    · exact ⟨.hyphens, rfl, rfl⟩
    · exact withConfig_eq_ok_iff.1 hlexer
  have hlist : config.lineComment.toList = m.toList := by
    rw [← htext, Marker.text, String.toList_ofList]
  have hends : ∀ memory c, ∃ n, n ≤ c.rest.length ∧
      LoopEnds (scanPass m registry) ⟨memory, c, []⟩ n (Scan.run m registry memory c) := by
    intro memory c
    obtain ⟨n, r, h, hn⟩ := exists_loopEnds_scanPass m registry ⟨memory, c, []⟩
    obtain rfl : r = Scan.run m registry memory c := h.eq_prepend_run
    exact ⟨n, hn, h⟩
  constructor
  · refine ⟨?_, fun c hc => isOperatorChar_of_mem_toList (hlist ▸ hc)⟩
    rw [← String.length_toList, hlist]
    rfl
  · intro c c' h
    rw [hlist]
    exact exists_movesOver_of_triviaPass (htext ▸ h)
  · intro c
    obtain ⟨n, d, h, hn⟩ := exists_loopEnds_triviaPass m (passMark c)
    have hle : (passMark c).rest.length ≤ c.rest.length := by
      rw [passMark_eq, Cursor.rest_move, List.length_drop]
      omega
    exact ⟨n, d, htext ▸ h, by omega, h.skipTrivia_eq⟩
  · exact fun s s' h => exists_movesOver_of_scanPass h
  · exact hends
  · obtain ⟨n, -, h⟩ := hends .fresh (.ofString source)
    have hle := h.length_resolutions_le
    rw [List.length_nil, Nat.zero_add] at hle
    rw [Run.lexemes, List.length_map, ← String.length_toList]
    exact hle

/-- A lexer over a source in which every character is a lexeme: a line feed keeps the two halves of a
marker apart. -/
def crowded : Lexer Category := (ofSource "-\n-").withRegistry categoryRegistry

/-- The bound on the number of lexemes is reached. -/
theorem scanEnds_withRegistry_crowded :
    ScanEnds "-\n-" {} crowded ∧ crowded.run.lexemes.length = "-\n-".length :=
  ⟨scanEnds_withRegistry (.inl ⟨rfl, rfl⟩) categoryRegistry, by decide +kernel⟩

end ChainLexer.Lexer
