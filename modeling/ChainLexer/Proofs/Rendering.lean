import ChainLexer.Proofs.Derivation

/-!
# Scanning undoes rendering

The grammar of lexemes is complete: whatever lexemes one writes down, with blanks between them, a
scan finds these lexemes again and nothing else. A rendering is built from pieces, each a separator
and the lexeme after it, and ends with one more separator. The conditions on the parts are fields of
the structures, so a rendering cannot be built from parts that would not read back.

## What a separator is for

Two lexemes that touch may fuse, and a lexeme may fuse with the marker of a comment. A separator
begins with a blank, which is no part of any lexeme but a string literal, and so ends whatever stands
before it. A comment in a separator swallows the rest of its line, so it is allowed only where a line
feed comes next or the text ends.

The marker is the one thing an operator must not contain. Half a marker is harmless, even at the end
of an operator, because a blank follows.

## Main definitions

* `Separator`: blanks, and perhaps a comment
* `Lexeme.Writable`: a lexeme that reads back when it is written between blanks
* `Piece`, `render`: a separator with the lexeme after it, and the text of a list of pieces
* `tokensFrom`: the tokens of a rendering that begins at a byte offset

## Main results

* `Lexeme.Writable.standsBefore`: a writable lexeme is a lexeme of the grammar before a blank
* `exists_runs_render`: the run over a rendering
* `Lexer.scan_render`: scanning undoes rendering
-/

namespace ChainLexer.Scan

open ChainLexer.Grammar ChainLexer.Settings ChainLexer.Source ChainLexer.Text

variable {T : Type} {m : Marker}

/-! ### Separators -/

/-- What stands between two lexemes of a rendering: blanks, at least one, and perhaps a comment,
which is given by the text after its marker. -/
structure Separator where
  blanks : List Char
  comment : Option (List Char)
  blanks_ne_nil : blanks ≠ []
  isBlank_of_mem : ∀ c ∈ blanks, isBlank c = true
  newline_notMem : ∀ text ∈ comment, '\n' ∉ text

namespace Separator

/-- The characters of a separator. -/
def text (m : Marker) (s : Separator) : List Char :=
  match s.comment with
  | none => s.blanks
  | some comment => s.blanks ++ (m.toList ++ comment)

/-- A separator begins with a blank. -/
theorem exists_text_eq_cons (m : Marker) (s : Separator) :
    ∃ c cs, s.text m = c :: cs ∧ isBlank c = true := by
  obtain ⟨c, cs, hblanks⟩ := List.exists_cons_of_ne_nil s.blanks_ne_nil
  have hc : isBlank c = true := s.isBlank_of_mem c (by rw [hblanks]; exact List.mem_cons_self)
  rw [text, hblanks]
  cases s.comment with
  | none => exact ⟨c, cs, rfl, hc⟩
  | some comment => exact ⟨c, cs ++ (m.toList ++ comment), rfl, hc⟩

/-- Blanks extend a gap to the left. -/
theorem gap_append_blanks {after blanks gap : List Char} (hblanks : ∀ c ∈ blanks, isBlank c = true)
    (hgap : Gap m after gap) : Gap m after (blanks ++ gap) := by
  induction blanks with
  | nil => exact hgap
  | cons c cs ih =>
    exact .blank (hblanks c List.mem_cons_self)
      (ih fun d hd => hblanks d (List.mem_cons_of_mem c hd))

/-- A separator is a gap, where a line ends after its comment. -/
theorem gap_text (s : Separator) {after : List Char} (h : s.comment.isSome → EndsLine after) :
    Gap m after (s.text m) := by
  rw [text]
  cases hcomment : s.comment with
  | none =>
    rw [← List.append_nil s.blanks]
    exact gap_append_blanks s.isBlank_of_mem .nil
  | some comment =>
    refine gap_append_blanks s.isBlank_of_mem ?_
    have hline : EndsLine after := h (by rw [hcomment]; rfl)
    exact .of_comment (s.newline_notMem comment hcomment) hline

end Separator

/-! ### Lexemes that read back -/

/-- A lexeme that reads back when it is written between blanks: one with the shape of its category,
where a number must fit into 64 bits and an operator must not contain the marker of a comment. -/
def Lexeme.Writable (m : Marker) (w : Lexeme) : Prop :=
  w.WellShaped ∧
    match w with
    | number text => Number.value text < UInt64.size
    | operator text => ¬m.toList <:+: text
    | _ => True

/-- A text that begins with white space, before which every lexeme ends. -/
def BeginsBlank (cs : List Char) : Prop := ∃ c ∈ cs.head?, isWhiteSpace c = true

theorem BeginsBlank.stops {cs : List Char} (h : BeginsBlank cs) {accept : Char → Bool}
    (haccept : ∀ {c}, isWhiteSpace c = true → accept c = false) : Stops accept cs := by
  obtain ⟨c, hc, hspace⟩ := h
  intro d hd
  obtain rfl : c = d := Option.some.inj (hc.symm.trans hd)
  exact haccept hspace

/-- No marker begins with a character that is no operator character. -/
theorem startsAt_cons_of_not {c : Char} {cs : List Char} (hc : isOperatorChar c = false) :
    m.startsAt (c :: cs) = false := by
  rw [Bool.eq_false_iff]
  intro h
  obtain ⟨text, heq⟩ := exists_of_startsAt h
  obtain ⟨rfl, -⟩ := List.cons.inj heq
  rw [m.first_isOperatorChar] at hc
  cases hc

/-- An operator without a marker is an operator run before a blank: a marker that began in it would
have to end in it, since its second character is no white space. -/
theorem isOperatorRun_of_markerless {text rest : List Char}
    (hchars : ∀ c ∈ text, isOperatorChar c = true) (hmarker : ¬m.toList <:+: text)
    (hrest : BeginsBlank rest) : Lexeme.IsOperatorRun m text rest where
  chars := hchars
  free := by
    intro part hpart hne
    rw [Bool.eq_false_iff]
    intro hstarts
    obtain ⟨after, heq⟩ := exists_of_startsAt hstarts
    match part, hne with
    | [a], _ =>
      obtain ⟨-, hsecond⟩ : a = m.first ∧ rest = m.second :: after := by
        simpa [Marker.toList] using heq
      obtain ⟨c, hc, hspace⟩ := hrest
      rw [hsecond] at hc
      obtain rfl : m.second = c := Option.some.inj hc
      rw [isWhiteSpace_of_isOperatorChar m.second_isOperatorChar] at hspace
      cases hspace
    | a :: b :: part, _ =>
      obtain ⟨rfl, rfl, -⟩ : a = m.first ∧ b = m.second ∧ part ++ rest = after := by
        simpa [Marker.toList] using heq
      have hbegins : m.toList <+: m.first :: m.second :: part := ⟨part, rfl⟩
      exact hmarker (hbegins.isInfix.trans hpart.isInfix)
  stops := .inl (hrest.stops isOperatorChar_of_isWhiteSpace)

/-- **A writable lexeme is a lexeme of the grammar before a blank.** -/
theorem Lexeme.Writable.standsBefore {w : Lexeme} (h : w.Writable m) {rest : List Char}
    (hrest : BeginsBlank rest) : w.StandsBefore m rest := by
  refine ⟨h.1, ?_⟩
  cases w with
  | identifier text => exact hrest.stops isIdentContinue_of_isWhiteSpace
  | number text => exact hrest.stops isNumberContinue_of_isWhiteSpace
  | string text value => trivial
  | operator text =>
    rcases h.1 with hnewline | ⟨-, hchars⟩
    · exact .inl hnewline
    · exact .inr (isOperatorRun_of_markerless hchars h.2 hrest)

/-- Nothing is skipped where a lexeme stands. -/
theorem Lexeme.StandsBefore.clear {w : Lexeme} {rest : List Char} (h : w.StandsBefore m rest) :
    Clear m (w.text ++ rest) := by
  have hfirst {c : Char} {cs : List Char} (hspace : isWhiteSpace c = false)
      (hoperator : isOperatorChar c = false) : Clear m (c :: cs) :=
    ⟨stops_cons.2 (by simp [isBlank, hspace]), startsAt_cons_of_not hoperator⟩
  cases w with
  | identifier text =>
    obtain ⟨c, cs, rfl, hc, -⟩ := h.shaped
    exact hfirst (isWhiteSpace_of_isIdentStart hc) (isOperatorChar_of_isIdentStart hc)
  | number text =>
    obtain ⟨c, cs, rfl, hc, -⟩ := h.shaped
    exact hfirst (isWhiteSpace_of_isAsciiDigit hc) (isOperatorChar_of_isNumberStart hc)
  | string text value =>
    obtain ⟨body, rfl, -⟩ := h.shaped
    exact hfirst (by decide) (by decide)
  | operator text =>
    rcases h.ends with rfl | hrun
    · exact (endsLine_cons.2 rfl).clear m
    · obtain ⟨c, cs, rfl⟩ := List.exists_cons_of_ne_nil h.shaped.text_ne_nil
      have hspace := isWhiteSpace_of_isOperatorChar (hrun.chars c List.mem_cons_self)
      exact ⟨stops_cons.2 (by simp [isBlank, hspace]),
        hrun.free (c :: cs) (List.suffix_refl _) (List.cons_ne_nil c cs)⟩

/-! ### Renderings -/

/-- A separator and the lexeme after it. After a comment only a line feed can come. -/
structure Piece (m : Marker) where
  separator : Separator
  lexeme : Lexeme
  writable : lexeme.Writable m
  newline_of_comment : separator.comment.isSome → lexeme = .operator ['\n']

/-- The text of a list of pieces and a last separator. -/
def render (m : Marker) : List (Piece m) → Separator → List Char
  | [], last => last.text m
  | p :: ps, last => p.separator.text m ++ (p.lexeme.text ++ render m ps last)

-- half a marker, and a comment before its line feed
example :
    render .hyphens
      [⟨⟨[' '], none, by simp, List.forall_mem_singleton.2 rfl, by simp⟩, .operator ['-'],
          ⟨.inr ⟨by simp, List.forall_mem_singleton.2 rfl⟩, by decide⟩, by simp⟩,
        ⟨⟨[' '], some ['c'], by simp, List.forall_mem_singleton.2 rfl, by simp⟩, .operator ['\n'],
          ⟨.inl rfl, by decide⟩, fun _ => rfl⟩]
      ⟨['\t'], none, by simp, List.forall_mem_singleton.2 rfl, by simp⟩ =
    " - --c\n\t".toList := by
  decide

/-- A rendering begins with a blank. -/
theorem exists_render_eq_cons (ps : List (Piece m)) (last : Separator) :
    ∃ c cs, render m ps last = c :: cs ∧ isBlank c = true := by
  cases ps with
  | nil => exact last.exists_text_eq_cons m
  | cons p ps =>
    obtain ⟨c, cs, hsep, hc⟩ := p.separator.exists_text_eq_cons m
    exact ⟨c, cs ++ (p.lexeme.text ++ render m ps last), by rw [render, hsep]; rfl, hc⟩

theorem beginsBlank_render (ps : List (Piece m)) (last : Separator) :
    BeginsBlank (render m ps last) := by
  obtain ⟨c, cs, hcons, hc⟩ := exists_render_eq_cons ps last
  rw [hcons]
  exact ⟨c, rfl, (Bool.and_eq_true_iff.1 hc).1⟩

/-- A rendering has no byte order mark, because its first character is a blank. -/
theorem leadingMark_render (atStart : Bool) (ps : List (Piece m)) (last : Separator) :
    leadingMark atStart (render m ps last) = [] := by
  rcases leadingMark_cases atStart (render m ps last) with h | ⟨-, -, hmark⟩
  · exact h
  · obtain ⟨c, cs, hcons, hc⟩ := exists_render_eq_cons ps last
    rw [hcons] at hmark
    obtain ⟨rfl, -⟩ := List.cons.inj hmark
    exact absurd hc (by decide)

/-- The token of a lexeme that starts at a byte offset. -/
def Piece.token (kindOf : Category → T) (start : Nat) (p : Piece m) : Token T :=
  ⟨kindOf p.lexeme.category, p.lexeme.toString, ⟨start, start + byteLength p.lexeme.text⟩,
    p.lexeme.value?.join⟩

/-- The tokens of a rendering that begins at a byte offset. -/
def tokensFrom (kindOf : Category → T) : Nat → List (Piece m) → List (Token T)
  | _, [] => []
  | n, p :: ps =>
    p.token kindOf (n + byteLength (p.separator.text m)) ::
      tokensFrom kindOf (n + byteLength (p.separator.text m) + byteLength p.lexeme.text) ps

/-- Each lexeme starts where the rendering of what precedes it ends. -/
theorem tokensFrom_eq_mapIdx (kindOf : Category → T) (n : Nat) (ps : List (Piece m)) :
    tokensFrom kindOf n ps =
      ps.mapIdx fun i p =>
        p.token kindOf (n + byteLength (render m (ps.take i) p.separator)) := by
  induction ps generalizing n with
  | nil => rfl
  | cons p ps ih =>
    rw [tokensFrom, List.mapIdx_cons, ih]
    congr 1
    refine congrArg (List.mapIdx · ps) (funext fun i => funext fun q => ?_)
    rw [List.take_succ_cons, render, byteLength_append, byteLength_append]
    congr 1
    omega

/-! ### The run over a rendering -/

/-- Every lexeme is claimed, as a token of the kind of its category. -/
def ClaimsAll (kindOf : Category → T) (registry : Registry T) : Prop :=
  ∀ category lexeme context,
    (registry.chain category).consult lexeme context = [.emit (kindOf category)]

theorem claimsAll_registerEach (kindOf : Category → T) (registry : Registry T) :
    ClaimsAll kindOf (registry.registerEach fun category _ _ => .emit (kindOf category)) := by
  intro category lexeme context
  have hchain := registry.chain_registerEach (fun category _ _ => .emit (kindOf category)) category
  exact (congrArg (fun chain : Chain T => chain.consult lexeme context) hchain).trans rfl

/-- A lexeme that can be written has a value where its category wants one. -/
theorem Lexeme.Writable.value?_isSome {w : Lexeme} (h : w.Writable m) : w.value?.isSome := by
  cases w with
  | identifier text | string text value | operator text => rfl
  | number text =>
    have hfit : Number.value text < UInt64.size := h.2
    rw [value?, Number.decode_eq, if_pos hfit]
    rfl

/-- A lexeme that is claimed and has a value becomes a token. -/
theorem outcome_resolve_of_claimsAll {kindOf : Category → T} {registry : Registry T}
    (hregistry : ClaimsAll kindOf registry) (memory : Memory) {w : Lexeme} (hw : w.value?.isSome)
    (span : Span) :
    (resolve registry memory w span).1.outcome =
      .ok (some ⟨kindOf w.category, w.toString, span, w.value?.join⟩) := by
  obtain ⟨value, hvalue⟩ := Option.isSome_iff_exists.1 hw
  have hverdict : (resolve registry memory w span).1.verdict = some (.emit (kindOf w.category)) := by
    rw [Resolution.verdict, resolve, hregistry]
    rfl
  rw [Resolution.outcome_of_value hverdict hvalue, hvalue]
  rfl

/-- **The run over a rendering** finishes, and its tokens are the lexemes of the pieces. The
induction takes one piece at a time; behind a lexeme the remaining pieces are a rendering again,
which begins with a blank and therefore ends the lexeme. -/
theorem exists_runs_render {kindOf : Category → T} {registry : Registry T}
    (hregistry : ClaimsAll kindOf registry) (ps : List (Piece m)) (last : Separator)
    (memory : Memory) {c : Cursor} (hc : c.rest = render m ps last) :
    ∃ r, Runs m registry memory c r ∧ (∃ c' m', r.ending = .finished c' m') ∧
      r.tokens = tokensFrom kindOf c.position ps := by
  induction ps generalizing memory c with
  | nil =>
    have hgap : Gap m [] (last.text m) := last.gap_text fun _ => endsLine_nil
    have hmark : leadingMark (c.position == 0) c.rest = [] := by
      rw [hc]
      exact leadingMark_render _ [] last
    obtain ⟨hrest, -⟩ :=
      skipTrivia_of_gap (hc.trans (List.append_nil _).symm) hmark hgap (clear_nil m)
    exact ⟨_, .finished hrest, ⟨_, _, rfl⟩, rfl⟩
  | cons p ps ih =>
    have hstands := p.writable.standsBefore (beginsBlank_render ps last)
    have hgap : Gap m (p.lexeme.text ++ render m ps last) (p.separator.text m) := by
      refine p.separator.gap_text fun hcomment => ?_
      rw [p.newline_of_comment hcomment]
      exact endsLine_cons.2 rfl
    have hmark : leadingMark (c.position == 0) c.rest = [] := by
      rw [hc]
      exact leadingMark_render _ (p :: ps) last
    have hsplit : c.rest =
        [] ++ (p.separator.text m ++ (p.lexeme.text ++ render m ps last)) := hc
    obtain ⟨hrest, hposition⟩ := skipTrivia_of_gap hsplit hmark hgap hstands.clear
    rw [List.nil_append] at hposition
    have hreach := Reaches.of_rest hrest hstands
    have hout := outcome_resolve_of_claimsAll hregistry (p.lexeme.memoryAfter memory)
      p.writable.value?_isSome ⟨(skipTrivia m c).position,
        (skipTrivia m c).position + byteLength p.lexeme.text⟩
    have hafter : ((skipTrivia m c).move p.lexeme.text.length).skip.rest = render m ps last := by
      rw [Cursor.rest_skip, Cursor.rest_move, hrest, List.drop_left]
    obtain ⟨r, hruns, hend, htokens⟩ := ih _ hafter
    refine ⟨_, .resolved hreach hout hruns, hend, ?_⟩
    rw [hreach.position_eq] at htokens
    rw [tokensFrom, ← hposition, ← htokens]
    exact List.filterMap_cons_some (by rw [Resolution.token?, hout]; rfl)

end ChainLexer.Scan

namespace ChainLexer.Lexer

open ChainLexer.Grammar ChainLexer.Scan ChainLexer.Settings ChainLexer.Text

variable {T : Type}

/-- **Scanning undoes rendering.** The text of any pieces is scanned to one token for each of them,
in order: with the lexeme of the piece, the kind of its category, and the span from where the
rendering of all that precedes it ends. -/
theorem scan_render (m : Marker) (pieces : List (Piece m)) (last : Separator)
    (kindOf : Category → T) :
    ∃ lexer : Lexer T,
      withConfig (String.ofList (render m pieces last)) { lineComment := m.text } = .ok lexer ∧
      (lexer.catchAll kindOf).scan.1 =
        .ok (pieces.mapIdx fun i p =>
          p.token kindOf (byteLength (render m (pieces.take i) p.separator))) := by
  refine ⟨withMarker (String.ofList (render m pieces last)) m,
    withConfig_eq_ok_iff.2 ⟨m, rfl, rfl⟩, ?_⟩
  have hclaims := claimsAll_registerEach kindOf (Registry.empty : Registry T)
  obtain ⟨r, hruns, hend, htokens⟩ := exists_runs_render hclaims pieces last .fresh
    (c := .ofString (String.ofList (render m pieces last))) String.toList_ofList
  have hresult : r.result = .ok (tokensFrom kindOf 0 pieces) := by
    obtain ⟨c', m', hend⟩ := hend
    rw [Run.result, hend, htokens]
    rfl
  rw [hruns.eq_run Memory.steady_fresh, tokensFrom_eq_mapIdx] at hresult
  simp only [Nat.zero_add] at hresult
  exact hresult

end ChainLexer.Lexer
