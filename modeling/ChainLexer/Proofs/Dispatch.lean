import ChainLexer.Proofs.Arrivals

/-!
# The first character of a lexeme

Where the trivia end, one character decides how the scan goes on. The tests on it overlap as they
are written, and the last one is no test at all: whatever is left is tried as an operator. This
module says what is left. Of the characters that can stand there, each has exactly one of six
openings, and five of them begin a lexeme. The sixth is that of the orphans, the numbers of other
scripts, which go on an identifier and begin nothing.

## Two ways to an empty operator

The loop over an operator stops at a character of another class, and before a comment. Either could
leave it without a character, and only the first is a fault. That the second does not occur is not a
fact about operators: nothing is left to skip where an operator begins, so no comment begins there.
For the same reason the character to be reported is always there, and it is the first one.

## Main definitions

* `isOrphan`: alphanumeric, and nothing that begins a lexeme
* `Opening`: what the first character of a lexeme can be
* `operatorPass`: the body of the loop over an operator
* `Lexer.Dispatched`: what holds where a character remains after the trivia

## Main results

* `Opening.accepts_iff`: a character that is not skipped has exactly one opening
* `LoopEnds.eq_move_operatorRun`: what the loop over an operator ends with
* `Lexeme.recognise_eq_unexpected_iff`: a character is unexpected if and only if it is an orphan
* `Lexer.dispatched_of_withConfig`: what every scan does with the first character after the trivia
-/

namespace ChainLexer.Text

/-- A letter or number that begins no lexeme: it is neither a letter nor an ASCII digit. -/
def isOrphan (c : Char) : Bool :=
  isAlphanumeric c && !isAlphabetic c && !isAsciiDigit c

section Orphan

variable {c : Char} (h : isOrphan c = true)
include h

theorem isIdentStart_of_isOrphan : isIdentStart c = false := by
  have hunderscore : c ≠ '_' := by rintro rfl; exact absurd h (by decide)
  have hapostrophe : c ≠ '\'' := by rintro rfl; exact absurd h (by decide)
  simp only [isOrphan, Bool.and_eq_true, Bool.not_eq_true'] at h
  simp [isIdentStart, h.1.2, hunderscore, hapostrophe]

theorem isNumberStart_of_isOrphan : isNumberStart c = false := by
  simp only [isOrphan, Bool.and_eq_true, Bool.not_eq_true'] at h
  exact h.2

theorem ne_quote_of_isOrphan : c ≠ '"' := by
  rintro rfl
  exact absurd h (by decide)

theorem ne_newline_of_isOrphan : c ≠ '\n' := by
  rintro rfl
  exact absurd h (by decide)

/-- An orphan goes on an identifier, so it is no part of an operator. -/
theorem isOperatorChar_of_isOrphan : isOperatorChar c = false := by
  simp only [isOrphan, Bool.and_eq_true, Bool.not_eq_true'] at h
  simp [isOperatorChar, isIdentContinue, h.1.1]

end Orphan

/-- **What no test claims is an orphan**, if it is not skipped. -/
theorem isOrphan_of_unclaimed {c : Char} (hblank : isBlank c = false)
    (hident : isIdentStart c = false) (hnumber : isNumberStart c = false) (hquote : c ≠ '"')
    (hnewline : c ≠ '\n') (hoperator : isOperatorChar c = false) : isOrphan c = true := by
  have hspace : isWhiteSpace c = false := by simpa [isBlank, hnewline] using hblank
  simp only [isIdentStart, Bool.or_eq_false_iff] at hident
  have halphanumeric : isAlphanumeric c = true := by
    simpa [isOperatorChar, isIdentContinue, hspace, hident.1.1, hident.1.2, hquote,
      show isAsciiDigit c = false from hnumber] using hoperator
  simp [isOrphan, halphanumeric, hident.2, show isAsciiDigit c = false from hnumber]

end ChainLexer.Text

namespace ChainLexer.Scan

open ChainLexer.Grammar ChainLexer.Settings ChainLexer.Source ChainLexer.Text

/-! ### Openings -/

/-- What the first character of a lexeme can be, and what it cannot. -/
inductive Opening where
  /-- It starts an identifier. -/
  | identifier
  /-- It is an ASCII digit. -/
  | number
  /-- It is a quote. -/
  | string
  /-- It is a line feed. -/
  | newline
  /-- It is an operator character. -/
  | operator
  /-- It begins no lexeme. -/
  | orphan
deriving DecidableEq, Repr

namespace Opening

/-- The character has the opening. -/
def accepts : Opening → Char → Bool
  | identifier, c => isIdentStart c
  | number, c => isAsciiDigit c
  | string, c => c == '"'
  | newline, c => c == '\n'
  | operator, c => isOperatorChar c
  | orphan, c => isOrphan c

/-- The opening of a character that is not skipped. -/
def ofChar (c : Char) : Opening :=
  if isIdentStart c then identifier
  else if isNumberStart c then number
  else if c = '"' then string
  else if c = '\n' then newline
  else if isOperatorChar c then operator
  else orphan

theorem accepts_ofChar {c : Char} (hc : isBlank c = false) : (ofChar c).accepts c = true := by
  by_cases hident : isIdentStart c = true
  · rw [ofChar, if_pos hident]
    exact hident
  by_cases hnumber : isNumberStart c = true
  · rw [ofChar, if_neg hident, if_pos hnumber]
    exact hnumber
  by_cases hquote : c = '"'
  · rw [ofChar, if_neg hident, if_neg hnumber, if_pos hquote]
    exact beq_iff_eq.2 hquote
  by_cases hnewline : c = '\n'
  · rw [ofChar, if_neg hident, if_neg hnumber, if_neg hquote, if_pos hnewline]
    exact beq_iff_eq.2 hnewline
  by_cases hoperator : isOperatorChar c = true
  · rw [ofChar, if_neg hident, if_neg hnumber, if_neg hquote, if_neg hnewline, if_pos hoperator]
    exact hoperator
  rw [ofChar, if_neg hident, if_neg hnumber, if_neg hquote, if_neg hnewline, if_neg hoperator]
  rw [Bool.not_eq_true] at hident hnumber hoperator
  exact isOrphan_of_unclaimed hc hident hnumber hquote hnewline hoperator

/-- Each opening excludes the tests before it, so that the order of the tests is harmless. -/
theorem eq_ofChar_of_accepts {opening : Opening} {c : Char} (h : opening.accepts c = true) :
    opening = ofChar c := by
  cases opening with
  | identifier =>
    have hident : isIdentStart c = true := h
    rw [ofChar, if_pos hident]
  | number =>
    have hnumber : isNumberStart c = true := h
    have hident := isIdentStart_of_isNumberStart hnumber
    rw [ofChar, if_neg (by simp [hident]), if_pos hnumber]
  | string =>
    obtain rfl := beq_iff_eq.1 h
    decide
  | newline =>
    obtain rfl := beq_iff_eq.1 h
    decide
  | operator =>
    have hoperator : isOperatorChar c = true := h
    have hident := isIdentStart_of_isOperatorChar hoperator
    have hnumber := isNumberStart_of_isOperatorChar hoperator
    rw [ofChar, if_neg (by simp [hident]), if_neg (by simp [hnumber]),
      if_neg (ne_quote_of_isOperatorChar hoperator),
      if_neg (ne_newline_of_isOperatorChar hoperator), if_pos hoperator]
  | orphan =>
    have hident := isIdentStart_of_isOrphan h
    have hnumber := isNumberStart_of_isOrphan h
    have hoperator := isOperatorChar_of_isOrphan h
    rw [ofChar, if_neg (by simp [hident]), if_neg (by simp [hnumber]),
      if_neg (ne_quote_of_isOrphan h), if_neg (ne_newline_of_isOrphan h),
      if_neg (by simp [hoperator])]

/-- **A character that is not skipped has exactly one opening.** -/
theorem accepts_iff {opening : Opening} {c : Char} (hc : isBlank c = false) :
    opening.accepts c = true ↔ opening = ofChar c := by
  constructor
  · exact eq_ofChar_of_accepts
  · rintro rfl
    exact accepts_ofChar hc

end Opening

/-! ### The loop over an operator -/

/-- One pass over an operator, where comments begin with the given text: an operator character,
unless a comment begins there. If there is none, then the operator ends. -/
def operatorPass (marker : String) (c : Cursor) : Cursor ⊕ Cursor :=
  match c.current with
  | none => .inr c
  | some char => if !isOperatorChar char || c.startsWith marker then .inr c else .inl c.advance

/-- A pass goes on where the operator does. -/
theorem operatorPass_text (m : Marker) (c : Cursor) :
    operatorPass m.text c =
      match Lexeme.operatorRun m c.rest with
      | [] => .inr c
      | _ :: _ => .inl c.advance := by
  have hstarts : c.startsWith m.text = m.startsAt c.rest := by
    rw [Cursor.startsWith, Marker.text, String.toList_ofList, Marker.startsAt]
  rw [operatorPass, hstarts, Cursor.current]
  cases c.rest with
  | nil => rfl
  | cons char cs =>
    cases hchar : isOperatorChar char <;> cases hmarker : m.startsAt (char :: cs) <;>
      simp [Lexeme.operatorRun, hchar, hmarker]

/-- What is left of an operator after its first character is the operator that begins there. -/
theorem operatorRun_drop_one {m : Marker} {cs run : List Char} {char : Char}
    (h : Lexeme.operatorRun m cs = char :: run) : Lexeme.operatorRun m (cs.drop 1) = run := by
  cases cs with
  | nil => cases h
  | cons c cs =>
    rw [Lexeme.operatorRun] at h
    split at h
    · exact (List.cons.inj h).2
    · cases h

/-- **The loop over an operator ends behind the run of operator characters** at which it begins. -/
theorem LoopEnds.eq_move_operatorRun {m : Marker} {c d : Cursor} {n : Nat}
    (h : LoopEnds (operatorPass m.text) c n d) :
    d = c.move (Lexeme.operatorRun m c.rest).length := by
  induction h with
  | @stop c d h =>
    rw [operatorPass_text] at h
    split at h
    · next hrun =>
      cases h
      rw [hrun, List.length_nil, Cursor.move_zero]
    · cases h
  | @goOn c c' n d h _ ih =>
    rw [operatorPass_text] at h
    split at h
    · cases h
    · next char run hrun =>
      cases h
      rw [Cursor.advance, Cursor.rest_move, operatorRun_drop_one hrun, Cursor.move_move] at ih
      rw [ih, hrun, List.length_cons, Nat.add_comm]

/-- The loop over an operator ends. Each pass that goes on uses up a character. -/
theorem exists_loopEnds_operatorPass (m : Marker) (c : Cursor) :
    ∃ n d, LoopEnds (operatorPass m.text) c n d := by
  have hpass : ∀ c c', operatorPass m.text c = .inl c' → c'.rest.length + 1 ≤ c.rest.length := by
    intro c c' h
    rw [operatorPass] at h
    split at h
    · cases h
    · next char hcurrent =>
      split at h
      · cases h
      · cases h
        have hpos : 0 < c.rest.length := List.length_pos_of_mem (List.mem_of_head? hcurrent)
        rw [Cursor.advance, Cursor.rest_move, List.length_drop]
        omega
  obtain ⟨n, d, h, -⟩ := exists_loopEnds (fun c => c.rest.length) Nat.one_pos hpass c
  exact ⟨n, d, h⟩

/-! ### Unexpected characters -/

namespace Lexeme

variable {m : Marker} {first : Char} {others : List Char}

/-- Where no comment begins, an operator is empty for want of an operator character. -/
theorem operatorRun_eq_nil_iff (h : m.startsAt (first :: others) = false) :
    operatorRun m (first :: others) = [] ↔ isOperatorChar first = false := by
  rw [operatorRun, h]
  cases isOperatorChar first <;> simp

/-- **A character is unexpected if and only if it is an orphan**, where nothing is left to skip. -/
theorem recognise_eq_unexpected_iff (memory : Memory) (h : Clear m (first :: others))
    (char : Char) :
    recognise m memory first others = .error (.unexpected char) ↔
      isOrphan first = true ∧ char = first := by
  constructor
  · intro herror
    rcases firstChar_cases first with hc | hc | rfl | rfl | ⟨hident, hnumber, hquote, hnewline⟩
    · rw [recognise_identStart hc] at herror
      cases herror
    · rw [recognise_numberStart hc] at herror
      cases herror
    · rw [recognise_quote] at herror
      split at herror <;> cases herror
    · rw [recognise_newline] at herror
      cases herror
    · rw [recognise_other hident hnumber hquote hnewline] at herror
      split at herror
      · next hrun =>
        cases herror
        have hoperator := (operatorRun_eq_nil_iff h.marker).1 hrun
        have horphan := isOrphan_of_unclaimed (stops_cons.1 h.blank) hident hnumber hquote hnewline
          hoperator
        exact ⟨horphan, rfl⟩
      · cases herror
  · rintro ⟨horphan, rfl⟩
    have hrun := (operatorRun_eq_nil_iff h.marker).2 (isOperatorChar_of_isOrphan horphan)
    rw [recognise_other (isIdentStart_of_isOrphan horphan) (isNumberStart_of_isOrphan horphan)
      (ne_quote_of_isOrphan horphan) (ne_newline_of_isOrphan horphan), hrun]

end Lexeme

end ChainLexer.Scan

namespace ChainLexer.Lexer

open ChainLexer.Grammar ChainLexer.Scan ChainLexer.Settings ChainLexer.Source ChainLexer.Text

variable {T : Type} {lexer : Lexer T} {s : Progress T}

/-! ### Where a scan finds a character -/

/-- What holds where the scan of the lexer, in the state `s`, finds the character `first` at the
byte offset `a`, before the text `others`. -/
structure Dispatched (lexer : Lexer T) (s : Progress T) (a : Nat) (first : Char)
    (others : List Char) : Prop where
  /-- The character has exactly one opening. -/
  existsUnique_opening : ∃! opening : Opening, opening.accepts first = true
  /-- It is unexpected there if and only if it is an orphan, and it is the one to be reported. -/
  unexpected_iff : ∀ char, lexer.scan.1 = .error (.unexpected char a) ↔
    isOrphan first = true ∧ char = first
  /-- No comment begins there. -/
  startsAt_eq_false : lexer.marker.startsAt (first :: others) = false
  /-- The loop over an operator ends with the operator that begins there. If that is empty, then the
  loop has not stopped before a comment, and the character is still the current one. -/
  operatorPass_ends : ∃ n d,
    LoopEnds (operatorPass lexer.marker.text) (skipTrivia lexer.marker s.cursor) n d ∧
      d.lexeme = String.ofList (Lexeme.operatorRun lexer.marker (first :: others)) ∧
      (d.lexeme = "" → isOperatorChar first = false ∧
        d.startsWith lexer.marker.text = false ∧ d.current = some first)

/-- **A scan fails at an orphan, and at no other character that it finds.** -/
theorem Visits.unexpected_iff (h : lexer.Visits s) (hs : s.memory.Steady) {a : Nat} {first : Char}
    {others : List Char} (hfaces : s.Faces lexer.marker a (first :: others)) (char : Char) :
    lexer.scan.1 = .error (.unexpected char a) ↔ isOrphan first = true ∧ char = first := by
  rw [← Lexeme.recognise_eq_unexpected_iff .fresh hfaces.clear char]
  constructor
  · intro hscan
    cases hrec : Lexeme.recognise lexer.marker .fresh first others with
    | error obstacle =>
      -- the scan fails at once, so its fault is that of the obstacle
      have hfault := (h.scan_of_obstacle hs hfaces hrec).symm.trans hscan
      cases obstacle with
      | unexpected char' =>
        cases hfault
        rfl
      | unterminated => cases hfault
    | ok found =>
      obtain ⟨rest, htext, hw⟩ := Lexeme.standsBefore_of_recognise Memory.steady_fresh hrec
      rw [← htext] at hfaces
      exact absurd hscan (h.scan_ne_faultAt hs hfaces hw (.unexpected char))
  · intro hrec
    exact h.scan_of_obstacle hs hfaces hrec

/-- What the loop over an operator ends with, where nothing is left to skip. -/
theorem exists_loopEnds_of_faces {marker : Marker} {a : Nat} {first : Char} {others : List Char}
    (hfaces : s.Faces marker a (first :: others)) :
    ∃ n d, LoopEnds (operatorPass marker.text) (skipTrivia marker s.cursor) n d ∧
      d.lexeme = String.ofList (Lexeme.operatorRun marker (first :: others)) ∧
      (d.lexeme = "" → isOperatorChar first = false ∧
        d.startsWith marker.text = false ∧ d.current = some first) := by
  obtain ⟨n, d, hloop⟩ := exists_loopEnds_operatorPass marker (skipTrivia marker s.cursor)
  have hd := hloop.eq_move_operatorRun
  rw [hfaces.rest_eq] at hd
  have hlexeme : d.lexeme = String.ofList (Lexeme.operatorRun marker (first :: others)) := by
    obtain ⟨rest, hrest, -⟩ := Lexeme.exists_isOperatorRun marker (first :: others)
    have htaken : (first :: others).take (Lexeme.operatorRun marker (first :: others)).length =
        Lexeme.operatorRun marker (first :: others) :=
      (List.prefix_iff_eq_take.1 ⟨rest, hrest.symm⟩).symm
    rw [hd, Cursor.lexeme, Cursor.pending_move, pending_skipTrivia, hfaces.rest_eq, htaken,
      List.nil_append]
  refine ⟨n, d, hloop, hlexeme, fun hempty => ?_⟩
  have hrun : Lexeme.operatorRun marker (first :: others) = [] :=
    String.ofList_eq_empty_iff.1 (hlexeme.symm.trans hempty)
  have hrest : d.rest = first :: others := by
    rw [hd, hrun, List.length_nil, Cursor.move_zero, hfaces.rest_eq]
  refine ⟨(Lexeme.operatorRun_eq_nil_iff hfaces.clear.marker).1 hrun, ?_, ?_⟩
  · rw [Cursor.startsWith, Marker.text, String.toList_ofList, hrest]
    exact hfaces.clear.marker
  · rw [Cursor.current, hrest]
    rfl

/-- An unexpected character is one that the scan has found. -/
theorem exists_visits_of_unexpected {char : Char} {position : Nat}
    (h : lexer.scan.1 = .error (.unexpected char position)) :
    ∃ s others, lexer.Visits s ∧ s.Faces lexer.marker position (char :: others) := by
  obtain ⟨s, hvisits, hpass⟩ := lexer.exists_visits
  have hend : lexer.run.ending = .failed (.unexpected char position) := Run.result_eq_error_iff.1 h
  cases hrest : (skipTrivia lexer.marker s.cursor).rest with
  | nil =>
    rw [scanPass, next_of_nil hrest] at hpass
    rw [← Sum.inr.inj hpass] at hend
    cases hend
  | cons first others =>
    rw [scanPass, next_of_cons hrest] at hpass
    cases hrec : Lexeme.recognise lexer.marker s.memory first others with
    | error obstacle =>
      rw [hrec] at hpass
      rw [← Sum.inr.inj hpass] at hend
      rcases Lexeme.obstacle_cases hrec with rfl | ⟨rfl, -⟩
      · cases hend
        exact ⟨s, others, hvisits, rfl, hrest⟩
      · cases hend
    | ok found =>
      -- a lexeme that is a fault is no unexpected character
      rw [hrec] at hpass
      simp only at hpass
      split at hpass
      · next fault hout =>
        rw [← Sum.inr.inj hpass] at hend
        cases hend
        rcases Resolution.fault_cases hout with ⟨-, heq⟩ | ⟨-, -, heq⟩ <;> cases heq
      · cases hpass

/-- **The first character after the trivia decides, and only orphans are unexpected**, whatever the
settings, the classifiers and the source. -/
theorem dispatched_of_withConfig {source : String} {config : Config} {lexer : Lexer T}
    (hlexer : withConfig source config = .ok lexer) (registry : Registry T) :
    (∀ s a first others, (lexer.withRegistry registry).Visits s →
      s.Faces lexer.marker a (first :: others) →
      Dispatched (lexer.withRegistry registry) s a first others) ∧
    ∀ char position, (lexer.withRegistry registry).scan.1 = .error (.unexpected char position) →
      ∃ s others, (lexer.withRegistry registry).Visits s ∧
        s.Faces lexer.marker position (char :: others) ∧ isOrphan char = true := by
  obtain ⟨m, -, rfl⟩ := withConfig_eq_ok_iff.1 hlexer
  constructor
  · intro s a first others hvisits hfaces
    obtain ⟨hs, -⟩ := visits_withMarker hvisits
    have hblank : isBlank first = false := stops_cons.1 hfaces.clear.blank
    refine ⟨⟨Opening.ofChar first, Opening.accepts_ofChar hblank, ?_⟩,
      hvisits.unexpected_iff hs hfaces, hfaces.clear.marker, exists_loopEnds_of_faces hfaces⟩
    exact fun opening haccepts => (Opening.accepts_iff hblank).1 haccepts
  · intro char position hscan
    obtain ⟨s, others, hvisits, hfaces⟩ := exists_visits_of_unexpected hscan
    obtain ⟨hs, -⟩ := visits_withMarker hvisits
    exact ⟨s, others, hvisits, hfaces, ((hvisits.unexpected_iff hs hfaces char).1 hscan).1⟩

/-- A lexer over a source with a digit of another script, behind an operator that ends before a
comment. -/
def foreignDigit : Lexer Category := (ofSource "+-- c\n٣").withRegistry categoryRegistry

/-- The scan finds the digit, and fails there. -/
theorem dispatched_of_withConfig_foreignDigit :
    foreignDigit.scan.1 = .error (.unexpected '٣' 6) ∧
    ∃ s others, foreignDigit.Visits s ∧ s.Faces .hyphens 6 ('٣' :: others) ∧
      Dispatched foreignDigit s 6 '٣' others := by
  have hscan : foreignDigit.scan.1 = .error (.unexpected '٣' 6) := by decide +kernel
  obtain ⟨hdispatched, hfound⟩ :=
    dispatched_of_withConfig (withConfig_customary "+-- c\n٣") categoryRegistry
  obtain ⟨s, others, hvisits, hfaces, -⟩ := hfound '٣' 6 hscan
  exact ⟨hscan, s, others, hvisits, hfaces, hdispatched s 6 '٣' others hvisits hfaces⟩

end ChainLexer.Lexer
