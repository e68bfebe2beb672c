import ChainLexer.Proofs.CharClass
import ChainLexer.Proofs.Literals

/-!
# The grammar of lexemes

`Lexeme.recognise` cuts a lexeme off the front of a text by a chain of tests on its first character.
This module says what a lexeme is without the chain: a shape for each category, and a condition on
what follows the lexeme, which makes it as long as it can be. The two together are
`Lexeme.StandsBefore`, and `Lexeme.recognise_eq_ok_iff` is the headline: recognition from a steady
memory finds exactly the lexemes of the grammar.

The grammar mentions no memory. So whatever classifiers have left behind, the same lexeme is cut off,
which is `Lexeme.recognise_eq_map_recognise`.

## Main definitions

* `Lexeme.WellShaped`: the shape of a lexeme of each category
* `Lexeme.IsOperatorRun`: a run of operator characters up to a comment or another character
* `Lexeme.StandsBefore`: a lexeme that ends where the given text begins
* `Lexeme.memoryAfter`: the memory after a lexeme

## Main results

* `Lexeme.operatorRun_eq_iff`: the run that is taken is the only operator run at that place
* `Lexeme.recognise_eq_ok_iff`: recognition finds the lexemes of the grammar, and no others
* `Lexeme.recognise_eq_map_recognise`: the memory has no part in it
-/

namespace ChainLexer.Scan

open ChainLexer.Grammar ChainLexer.Settings ChainLexer.Text

namespace Lexeme

/-! ### Shapes -/

/-- The characters of a lexeme of each category: an identifier begins with a start character and
goes on with continuing ones, a number begins with a digit, a string literal has a body between its
quotes, and an operator is a line feed or a run of operator characters. -/
def WellShaped : Lexeme → Prop
  | identifier text =>
    ∃ c cs, text = c :: cs ∧ isIdentStart c = true ∧ ∀ d ∈ cs, isIdentContinue d = true
  | number text =>
    ∃ c cs, text = c :: cs ∧ isAsciiDigit c = true ∧ ∀ d ∈ cs, isNumberContinue d = true
  | string text value =>
    ∃ body, text = '"' :: (body ++ ['"']) ∧ StringLiteral.Encodes body value
  | operator text =>
    text = ['\n'] ∨ (text ≠ [] ∧ ∀ d ∈ text, isOperatorChar d = true)

/-- A lexeme has at least one character. -/
theorem WellShaped.text_ne_nil {w : Lexeme} (h : w.WellShaped) : w.text ≠ [] := by
  cases w with
  | identifier text => obtain ⟨c, cs, rfl, -, -⟩ := h; simp [text]
  | number text => obtain ⟨c, cs, rfl, -, -⟩ := h; simp [text]
  | string text value => obtain ⟨body, rfl, -⟩ := h; simp [text]
  | operator text =>
    rcases h with rfl | ⟨hne, -⟩
    · simp [Lexeme.text]
    · exact hne

/-! ### Operator runs

An operator goes on until a character of another class or a comment. The comment is recognised by
two characters, so whether one begins inside the run depends on what follows it. -/

/-- No marker begins inside the run when the text `rest` follows it. -/
def MarkerFree (m : Marker) (run rest : List Char) : Prop :=
  ∀ part, part <:+ run → part ≠ [] → m.startsAt (part ++ rest) = false

theorem markerFree_nil (m : Marker) (rest : List Char) : MarkerFree m [] rest := by
  intro part hpart hne
  exact absurd (List.suffix_nil.1 hpart) hne

theorem markerFree_cons {m : Marker} {c : Char} {run rest : List Char} :
    MarkerFree m (c :: run) rest ↔
      m.startsAt (c :: (run ++ rest)) = false ∧ MarkerFree m run rest := by
  constructor
  · intro h
    refine ⟨h (c :: run) (List.suffix_refl _) (by simp), fun part hpart hne => ?_⟩
    exact h part (hpart.trans (List.suffix_cons c run)) hne
  · rintro ⟨hhead, htail⟩ part hpart hne
    rcases List.suffix_cons_iff.1 hpart with rfl | hpart
    · exact hhead
    · exact htail part hpart hne

/-- The run of operator characters before the text `rest`, which ends it by a character of another
class or by a comment. -/
structure IsOperatorRun (m : Marker) (run rest : List Char) : Prop where
  /-- Operator characters only. -/
  chars : ∀ c ∈ run, isOperatorChar c = true
  /-- No comment begins inside the run. -/
  free : MarkerFree m run rest
  /-- The run cannot go on. -/
  stops : Stops isOperatorChar rest ∨ m.startsAt rest = true

theorem IsOperatorRun.tail {m : Marker} {c : Char} {run rest : List Char}
    (h : IsOperatorRun m (c :: run) rest) : IsOperatorRun m run rest where
  chars d hd := h.chars d (List.mem_cons_of_mem c hd)
  free := (markerFree_cons.1 h.free).2
  stops := h.stops

/-- The run that is taken from a text is the operator run at its front. -/
theorem operatorRun_append {m : Marker} {run rest : List Char} (h : IsOperatorRun m run rest) :
    operatorRun m (run ++ rest) = run := by
  induction run with
  | nil =>
    rw [List.nil_append]
    cases rest with
    | nil => rfl
    | cons c cs =>
      rw [operatorRun]
      rcases h.stops with hstop | hmarker
      · simp [stops_cons.1 hstop]
      · simp [hmarker]
  | cons c run ih =>
    have hc : isOperatorChar c = true := h.chars c List.mem_cons_self
    have hfree : m.startsAt (c :: (run ++ rest)) = false := (markerFree_cons.1 h.free).1
    rw [List.cons_append, operatorRun, hc, hfree, ih h.tail]
    rfl

/-- What is taken from a text is an operator run before the remaining text. -/
theorem exists_isOperatorRun (m : Marker) (cs : List Char) :
    ∃ rest, cs = operatorRun m cs ++ rest ∧ IsOperatorRun m (operatorRun m cs) rest := by
  induction cs with
  | nil => exact ⟨[], rfl, by simp [operatorRun], markerFree_nil m [], .inl stops_nil⟩
  | cons c cs ih =>
    by_cases hc : isOperatorChar c = true ∧ m.startsAt (c :: cs) = false
    · obtain ⟨rest, hcs, hrun⟩ := ih
      have htaken : operatorRun m (c :: cs) = c :: operatorRun m cs := by
        rw [operatorRun, hc.1, hc.2]
        rfl
      rw [htaken]
      refine ⟨rest, by rw [List.cons_append, ← hcs], fun d hd => ?_, ?_, hrun.stops⟩
      · rcases List.mem_cons.1 hd with rfl | hd
        · exact hc.1
        · exact hrun.chars d hd
      · exact markerFree_cons.2 ⟨by rw [← hcs]; exact hc.2, hrun.free⟩
    · have htaken : operatorRun m (c :: cs) = [] := by
        rw [operatorRun, if_neg]
        simpa using hc
      rw [htaken]
      refine ⟨c :: cs, rfl, by simp, markerFree_nil m _, ?_⟩
      rw [stops_cons]
      grind

/-- **The run that is taken is the only operator run at that place.** -/
theorem operatorRun_eq_iff {m : Marker} {cs run : List Char} :
    operatorRun m cs = run ↔ ∃ rest, cs = run ++ rest ∧ IsOperatorRun m run rest := by
  constructor
  · rintro rfl
    exact exists_isOperatorRun m cs
  · rintro ⟨rest, rfl, h⟩
    exact operatorRun_append h

/-! ### Lexemes before a text -/

/-- A lexeme of this category cannot be longer when the text `rest` follows it. A string literal ends
with its quote and a line feed stands alone, whatever follows. -/
def EndsBefore (marker : Marker) (rest : List Char) : Lexeme → Prop
  | identifier _ => Stops isIdentContinue rest
  | number _ => Stops isNumberContinue rest
  | string _ _ => True
  | operator text => text = ['\n'] ∨ IsOperatorRun marker text rest

/-- A lexeme that is as long as it can be when the text `rest` follows it. -/
structure StandsBefore (marker : Marker) (rest : List Char) (w : Lexeme) : Prop where
  /-- The lexeme has the shape of its category. -/
  shaped : w.WellShaped
  /-- It ends where `rest` begins. -/
  ends : w.EndsBefore marker rest

/-- The memory after a lexeme. Only a string literal with an escape leaves a trace. -/
def memoryAfter (m : Memory) : Lexeme → Memory
  | string text _ => m.afterLiteral text
  | _ => m

@[simp] theorem context_memoryAfter (m : Memory) (w : Lexeme) :
    (w.memoryAfter m).context = m.context := by
  cases w <;> simp [memoryAfter]

theorem steady_memoryAfter {m : Memory} (hm : m.Steady) (w : Lexeme) : (w.memoryAfter m).Steady :=
  hm.of_context_eq (w.context_memoryAfter m)

/-! ### Recognition

The chain of tests, one branch after the other. Each lemma needs only the test of its own branch,
because that test excludes the earlier ones. -/

section Branches

variable {marker : Marker} {m : Memory} {c : Char} {cs : List Char}

theorem recognise_identStart (hc : isIdentStart c = true) :
    recognise marker m c cs = .ok (.identifier ((c :: cs).takeWhile isIdentContinue), m) := by
  rw [recognise, if_pos hc]

theorem recognise_numberStart (hc : isNumberStart c = true) :
    recognise marker m c cs = .ok (.number ((c :: cs).takeWhile isNumberContinue), m) := by
  rw [recognise, if_neg (by simp [isIdentStart_of_isNumberStart hc]), if_pos hc]

theorem recognise_quote :
    recognise marker m '"' cs =
      match StringLiteral.read m cs with
      | some s => .ok (.string ('"' :: s.text) s.value, s.memory)
      | none => .error .unterminated := by
  have hident : ¬isIdentStart '"' = true := by decide
  have hnumber : ¬isNumberStart '"' = true := by decide
  rw [recognise, if_neg hident, if_neg hnumber]
  exact if_pos rfl

theorem recognise_newline : recognise marker m '\n' cs = .ok (.operator ['\n'], m) := by
  rw [recognise, if_neg (by decide), if_neg (by decide), if_neg (by decide), if_pos rfl]

theorem recognise_other (hident : isIdentStart c = false) (hnumber : isNumberStart c = false)
    (hquote : c ≠ '"') (hnewline : c ≠ '\n') :
    recognise marker m c cs =
      match operatorRun marker (c :: cs) with
      | [] => .error (.unexpected c)
      | run => .ok (.operator run, m) := by
  rw [recognise, if_neg (by simp [hident]), if_neg (by simp [hnumber]), if_neg hquote]
  exact if_neg hnewline

end Branches

/-- The first character of a lexeme that was recognised decides everything; the cases of a proof
about recognition are these five. -/
theorem firstChar_cases (c : Char) :
    isIdentStart c = true ∨ isNumberStart c = true ∨ c = '"' ∨ c = '\n' ∨
      (isIdentStart c = false ∧ isNumberStart c = false ∧ c ≠ '"' ∧ c ≠ '\n') := by
  cases hident : isIdentStart c <;> cases hnumber : isNumberStart c <;> simp
  grind

/-- A lexeme of the grammar is recognised at the front of a text. -/
theorem recognise_of_standsBefore {marker : Marker} {w : Lexeme} {rest : List Char}
    (h : w.StandsBefore marker rest) {m : Memory} (hm : m.Steady) {c : Char} {cs : List Char}
    (heq : w.text ++ rest = c :: cs) : recognise marker m c cs = .ok (w, w.memoryAfter m) := by
  cases w with
  | identifier text =>
    obtain ⟨d, ds, rfl, hd, hds⟩ := h.shaped
    obtain ⟨rfl, -⟩ := List.cons.inj heq
    have hall : ∀ e ∈ d :: ds, isIdentContinue e = true := by
      intro e he
      rcases List.mem_cons.1 he with rfl | he
      · exact isIdentContinue_of_isIdentStart hd
      · exact hds e he
    rw [recognise_identStart hd, ← heq]
    exact congrArg (fun run => Except.ok (identifier run, m))
      (takeWhile_append_of_stops hall h.ends)
  | number text =>
    obtain ⟨d, ds, rfl, hd, hds⟩ := h.shaped
    obtain ⟨rfl, -⟩ := List.cons.inj heq
    have hall : ∀ e ∈ d :: ds, isNumberContinue e = true := by
      intro e he
      rcases List.mem_cons.1 he with rfl | he
      · exact isNumberContinue_of_isNumberStart hd
      · exact hds e he
    rw [recognise_numberStart hd, ← heq]
    exact congrArg (fun run => Except.ok (number run, m))
      (takeWhile_append_of_stops hall h.ends)
  | string text value =>
    obtain ⟨body, rfl, henc⟩ := h.shaped
    have heq' : '"' :: (body ++ '"' :: rest) = c :: cs := by simpa [Lexeme.text] using heq
    obtain ⟨rfl, rfl⟩ := List.cons.inj heq'
    rw [recognise_quote, StringLiteral.read_of_encodes henc hm]
    simp [memoryAfter, Memory.afterLiteral]
  | operator text =>
    rcases h.ends with rfl | hrun
    · obtain ⟨rfl, -⟩ := List.cons.inj heq
      exact recognise_newline
    · have hne : text ≠ [] := h.shaped.text_ne_nil
      have hc : isOperatorChar c = true := by
        obtain ⟨d, ds, rfl⟩ := List.exists_cons_of_ne_nil hne
        obtain ⟨rfl, -⟩ := List.cons.inj heq
        exact hrun.chars d List.mem_cons_self
      have htaken : operatorRun marker (c :: cs) = text := by
        rw [← heq]
        exact operatorRun_append hrun
      rw [recognise_other (isIdentStart_of_isOperatorChar hc) (isNumberStart_of_isOperatorChar hc)
        (ne_quote_of_isOperatorChar hc) (ne_newline_of_isOperatorChar hc), htaken]
      split
      · exact absurd rfl hne
      · rfl

/-- What is recognised at the front of a text is a lexeme of the grammar. -/
theorem standsBefore_of_recognise {marker : Marker} {m m' : Memory} (hm : m.Steady) {c : Char}
    {cs : List Char} {w : Lexeme} (h : recognise marker m c cs = .ok (w, m')) :
    ∃ rest, w.text ++ rest = c :: cs ∧ w.StandsBefore marker rest := by
  rcases firstChar_cases c with hc | hc | rfl | rfl | ⟨hident, hnumber, hquote, hnewline⟩
  · rw [recognise_identStart hc] at h
    cases h
    have hcons := List.takeWhile_cons_of_pos (p := isIdentContinue) (l := cs)
      (isIdentContinue_of_isIdentStart hc)
    refine ⟨(c :: cs).dropWhile isIdentContinue, List.takeWhile_append_dropWhile, ?_,
      stops_dropWhile _⟩
    exact ⟨c, _, hcons, hc, fun d hd => accept_of_mem_takeWhile hd⟩
  · rw [recognise_numberStart hc] at h
    cases h
    have hcons := List.takeWhile_cons_of_pos (p := isNumberContinue) (l := cs)
      (isNumberContinue_of_isNumberStart hc)
    refine ⟨(c :: cs).dropWhile isNumberContinue, List.takeWhile_append_dropWhile, ?_,
      stops_dropWhile _⟩
    exact ⟨c, _, hcons, hc, fun d hd => accept_of_mem_takeWhile hd⟩
  · rw [recognise_quote] at h
    split at h
    · next s hs =>
      cases h
      obtain ⟨body, rest, rfl, henc, htext⟩ := StringLiteral.encodes_of_read hm hs
      exact ⟨rest, by simp [Lexeme.text, htext], ⟨body, by rw [htext], henc⟩, trivial⟩
    · cases h
  · rw [recognise_newline] at h
    cases h
    exact ⟨cs, rfl, .inl rfl, .inl rfl⟩
  · rw [recognise_other hident hnumber hquote hnewline] at h
    obtain ⟨rest, hcs, hrun⟩ := exists_isOperatorRun marker (c :: cs)
    split at h
    · cases h
    · next hne =>
      cases h
      exact ⟨rest, hcs.symm, .inr ⟨hne, hrun.chars⟩, .inr hrun⟩

/-- **Recognition finds the lexemes of the grammar, and no others.** -/
theorem recognise_eq_ok_iff {marker : Marker} {m m' : Memory} (hm : m.Steady) {c : Char}
    {cs : List Char} {w : Lexeme} :
    recognise marker m c cs = .ok (w, m') ↔
      (∃ rest, w.text ++ rest = c :: cs ∧ w.StandsBefore marker rest) ∧ m' = w.memoryAfter m := by
  constructor
  · intro h
    obtain ⟨rest, heq, hw⟩ := standsBefore_of_recognise hm h
    refine ⟨⟨rest, heq, hw⟩, ?_⟩
    rw [recognise_of_standsBefore hw hm heq] at h
    cases h
    rfl
  · rintro ⟨⟨rest, heq, hw⟩, rfl⟩
    exact recognise_of_standsBefore hw hm heq

/-- **The memory has no part in recognition**: it is passed on, and what is found, a lexeme or an
obstacle, is what a fresh memory finds. -/
theorem recognise_eq_map_recognise {marker : Marker} {m : Memory} (hm : m.Steady) (c : Char)
    (cs : List Char) :
    recognise marker m c cs =
      (recognise marker .fresh c cs).map fun found => (found.1, found.1.memoryAfter m) := by
  rcases firstChar_cases c with hc | hc | rfl | rfl | ⟨hident, hnumber, hquote, hnewline⟩
  · rw [recognise_identStart hc, recognise_identStart hc]
    rfl
  · rw [recognise_numberStart hc, recognise_numberStart hc]
    rfl
  · rw [recognise_quote, recognise_quote, StringLiteral.read_eq_map_read hm]
    cases StringLiteral.read .fresh cs with
    | none => rfl
    | some s => simp [Except.map, memoryAfter, Memory.afterLiteral]
  · rw [recognise_newline, recognise_newline]
    rfl
  · rw [recognise_other hident hnumber hquote hnewline,
      recognise_other hident hnumber hquote hnewline]
    cases operatorRun marker (c :: cs) <;> rfl

end Lexeme

end ChainLexer.Scan
