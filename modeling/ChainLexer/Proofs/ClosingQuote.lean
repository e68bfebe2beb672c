import ChainLexer.Proofs.Encodings
import Mathlib.Algebra.Group.Nat.Even
import Mathlib.Order.Bounds.Basic

/-!
# Where a string literal ends

The reader of a string literal goes from left to right and remembers whether a backslash has opened
an escape. Seen from a quote, what it remembers there is a matter of the characters right before:
the backslashes of the run that ends there come in pairs, each of which is one unit, and one that is
left over escapes the quote. So a quote ends the literal if and only if that run has an even length.
The first such quote is the end, and without one the literal has no end.

## Only so far back

The run is counted from after the opening quote. A backslash right before the literal belongs
to an operator, and does not escape anything. Inside the literal nothing but the run matters: a unit in
front of it may end with a backslash only if that belongs to the run, and then the run gets longer
by a whole unit. This is `even_backslashesAtEnd_escape`, and all else follows from it.

## Main definitions

* `backslashesAtEnd`: the length of the run of backslashes with which a text ends
* `ClosesAt`: a quote at a byte offset that ends a literal, if no earlier one does
* `Lexer.EndsLiteral`: where the literal ends that a scan arrives at

## Main results

* `StringLiteral.Encodes.even`, `StringLiteral.Encodes.not_even_of_quote`: the quotes in a body are
  escaped, and the one behind it is not
* `StringLiteral.read_eq_none_iff`: a literal has no end if and only if all quotes are escaped
* `Lexer.endsLiteral_of_withConfig`: where every scan ends the literals that it arrives at
-/

namespace ChainLexer.Text

/-! ### Runs of backslashes -/

/-- The number of backslashes with which a text ends. -/
def backslashesAtEnd (cs : List Char) : Nat := (cs.reverse.takeWhile (· == '\\')).length

theorem backslashesAtEnd_le (cs : List Char) : backslashesAtEnd cs ≤ cs.length := by
  have hle := (List.takeWhile_prefix (· == '\\') (l := cs.reverse)).length_le
  rwa [List.length_reverse] at hle

/-- A backslash in front of a text belongs to the run at its end if there is nothing but the run. -/
theorem backslashesAtEnd_cons (c : Char) (cs : List Char) :
    backslashesAtEnd (c :: cs) =
      backslashesAtEnd cs + if backslashesAtEnd cs = cs.length ∧ c = '\\' then 1 else 0 := by
  rw [backslashesAtEnd, List.reverse_cons, List.takeWhile_append, ← backslashesAtEnd,
    List.length_reverse]
  by_cases hall : backslashesAtEnd cs = cs.length
  · by_cases hc : c = '\\'
    · simp [hall, hc]
    · simp [hall, hc]
  · rw [if_neg hall, if_neg fun h => hall h.1, Nat.add_zero, backslashesAtEnd]

theorem backslashesAtEnd_cons_of_ne {c : Char} (h : c ≠ '\\') (cs : List Char) :
    backslashesAtEnd (c :: cs) = backslashesAtEnd cs := by
  rw [backslashesAtEnd_cons, if_neg fun hand => h hand.2, Nat.add_zero]

/-- **A backslash and the character after it make no difference to the parity.** They belong to the
run together or not at all, unless the character is none of the run: then the backslash is none
either. -/
theorem even_backslashesAtEnd_escape (d : Char) (cs : List Char) :
    Even (backslashesAtEnd ('\\' :: d :: cs)) ↔ Even (backslashesAtEnd cs) := by
  have hle := backslashesAtEnd_le cs
  have hcases : backslashesAtEnd ('\\' :: d :: cs) = backslashesAtEnd cs ∨
      backslashesAtEnd ('\\' :: d :: cs) = backslashesAtEnd cs + 2 := by
    rw [backslashesAtEnd_cons '\\', backslashesAtEnd_cons d, List.length_cons]
    by_cases hrun : backslashesAtEnd cs = cs.length ∧ d = '\\'
    · rw [if_pos hrun]
      right
      rw [if_pos ⟨by omega, rfl⟩]
    · rw [if_neg hrun]
      left
      rw [if_neg fun h => by omega]
      rfl
  rcases hcases with heq | heq
  · rw [heq]
  · rw [heq, Nat.even_add]
    exact iff_true_right (by decide)

/-! ### Closing quotes in a text -/

/-- A quote stands at the byte offset `b`, and right before it a run of backslashes of even length,
counted from after the quote at the byte offset `a`. -/
def ClosesAt (cs : List Char) (a b : Nat) : Prop :=
  charAt? cs b = some '"' ∧
    ∃ text, sliceBytes? cs (a + 1) b = some text ∧ Even (backslashesAtEnd text)

/-- The closing quotes behind an opening one, by the texts between the two. -/
theorem closesAt_iff {before others : List Char} {b : Nat} :
    ClosesAt (before ++ '"' :: others) (byteLength before) b ↔
      ∃ body rest, others = body ++ '"' :: rest ∧ b = byteLength before + 1 + byteLength body ∧
        Even (backslashesAtEnd body) := by
  have hopening : byteLength before + 1 = byteLength (before ++ ['"']) := by
    rw [byteLength_append]
    rfl
  have hsource : before ++ '"' :: others = (before ++ ['"']) ++ others := by simp
  rw [ClosesAt, hopening, hsource]
  constructor
  · rintro ⟨hquote, text, hslice, heven⟩
    rw [sliceBytes?] at hslice
    split at hslice
    · next hle =>
      rw [splitBytes?_append, Option.bind_some] at hslice
      obtain ⟨⟨body, after⟩, hcut, rfl⟩ := Option.map_eq_some_iff.1 hslice
      obtain ⟨hothers, hlength⟩ := append_of_splitBytes? hcut
      simp only at hothers hlength heven
      subst hothers
      have hb : b = byteLength (before ++ ['"']) + byteLength body := by omega
      rw [hb, ← byteLength_append, ← List.append_assoc, charAt?_append] at hquote
      obtain ⟨rest, rfl⟩ := List.head?_eq_some_iff.1 hquote
      exact ⟨body, rest, rfl, hb, heven⟩
    · cases hslice
  · rintro ⟨body, rest, rfl, rfl, heven⟩
    refine ⟨?_, body, ?_, heven⟩
    · rw [← byteLength_append, ← List.append_assoc, charAt?_append]
      rfl
    · rw [← List.append_assoc]
      exact sliceBytes?_append (before ++ ['"']) body ('"' :: rest)

end ChainLexer.Text

namespace ChainLexer.Scan

open ChainLexer.Grammar ChainLexer.Settings ChainLexer.Source ChainLexer.Text

variable {T : Type}

namespace StringLiteral

/-! ### Closing quotes and the grammar of bodies -/

/-- The quote behind a body is not escaped. -/
theorem Encodes.even {body value : List Char} (h : Encodes body value) :
    Even (backslashesAtEnd body) := by
  induction h with
  | nil => exact Even.zero
  | plain _ hbackslash _ ih => rwa [backslashesAtEnd_cons_of_ne hbackslash]
  | escape _ ih => rwa [even_backslashesAtEnd_escape]

/-- Every quote in a body is escaped. -/
theorem Encodes.not_even_of_quote {body value : List Char} (h : Encodes body value)
    {part more : List Char} (hbody : body = part ++ '"' :: more) :
    ¬Even (backslashesAtEnd part) := by
  induction h generalizing part with
  | nil => cases part <;> cases hbody
  | @plain c body value hquote hbackslash _ ih =>
    cases part with
    | nil => exact absurd (List.cons.inj hbody).1 hquote
    | cons d part =>
      obtain ⟨rfl, htail⟩ := List.cons.inj hbody
      rw [backslashesAtEnd_cons_of_ne hbackslash]
      exact ih htail
  | @escape c body value _ ih =>
    match part with
    | [] => cases hbody
    | [d] =>
      -- the quote is the character of the escape, and the backslash is all that stands before it
      obtain ⟨rfl, -⟩ := List.cons.inj hbody
      decide
    | d :: e :: part =>
      obtain ⟨hopening, hunit⟩ := List.cons.inj hbody
      obtain ⟨rfl, htail⟩ := List.cons.inj hunit
      rw [← hopening, even_backslashesAtEnd_escape]
      exact ih htail

/-- **A text in which every quote is escaped, and before a quote that is not, is a body.** The
induction is on the length of the text, because an escape takes two characters at once. -/
theorem exists_encodes {body : List Char} (heven : Even (backslashesAtEnd body))
    (hquotes : ∀ part more, body = part ++ '"' :: more → ¬Even (backslashesAtEnd part)) :
    ∃ value, Encodes body value := by
  induction hn : body.length using Nat.strongRecOn generalizing body with
  | ind n ih =>
    match body with
    | [] => exact ⟨[], .nil⟩
    | c :: body =>
      by_cases hbackslash : c = '\\'
      · subst hbackslash
        match body with
        | [] => exact absurd heven (by decide)
        | d :: body =>
          rw [even_backslashesAtEnd_escape] at heven
          have hlt : body.length < n := by simp only [List.length_cons] at hn; omega
          obtain ⟨value, henc⟩ := ih _ hlt heven (fun part more hpart => by
            have hescaped := hquotes ('\\' :: d :: part) more (by rw [hpart]; rfl)
            rwa [even_backslashesAtEnd_escape] at hescaped) rfl
          exact ⟨_, .escape henc⟩
      · have hquote : c ≠ '"' := by
          rintro rfl
          exact hquotes [] body rfl Even.zero
        rw [backslashesAtEnd_cons_of_ne hbackslash] at heven
        have hlt : body.length < n := by simp only [List.length_cons] at hn; omega
        obtain ⟨value, henc⟩ := ih _ hlt heven (fun part more hpart => by
          have hescaped := hquotes (c :: part) more (by rw [hpart]; rfl)
          rwa [backslashesAtEnd_cons_of_ne hbackslash] at hescaped) rfl
        exact ⟨_, .plain hquote hbackslash henc⟩

/-- A closing quote has a first one before it, or is the first one itself, and up to there is a
body. -/
theorem exists_encodes_of_closing {others body rest : List Char}
    (hothers : others = body ++ '"' :: rest) (heven : Even (backslashesAtEnd body)) :
    ∃ body' rest' value, others = body' ++ '"' :: rest' ∧ Encodes body' value := by
  induction hn : body.length using Nat.strongRecOn generalizing body rest with
  | ind n ih =>
    by_cases hfirst : ∃ part more, body = part ++ '"' :: more ∧ Even (backslashesAtEnd part)
    · obtain ⟨part, more, rfl, hpart⟩ := hfirst
      have hlt : part.length < n := by
        rw [List.length_append, List.length_cons] at hn
        omega
      have hsplit : others = part ++ '"' :: (more ++ '"' :: rest) := by
        rw [hothers]
        simp
      exact ih _ hlt hsplit hpart rfl
    · obtain ⟨value, henc⟩ := exists_encodes heven fun part more hbody hpart =>
        hfirst ⟨part, more, hbody, hpart⟩
      exact ⟨body, rest, value, hothers, henc⟩

/-- **A literal has no end if and only if all quotes are escaped**, whether the text ends inside an
escape or not. -/
theorem read_eq_none_iff {m : Memory} (hm : m.Steady) {others : List Char} :
    read m others = none ↔
      ∀ body rest, others = body ++ '"' :: rest → ¬Even (backslashesAtEnd body) := by
  constructor
  · intro hnone body rest hothers heven
    obtain ⟨body', rest', value, rfl, henc⟩ := exists_encodes_of_closing hothers heven
    rw [read_of_encodes henc hm] at hnone
    cases hnone
  · intro hescaped
    cases hread : read m others with
    | none => rfl
    | some literal =>
      obtain ⟨body, rest, hothers, henc, -⟩ := encodes_of_read hm hread
      exact absurd henc.even (hescaped body rest hothers)

/-- The quote behind a body is the first closing one. -/
theorem Encodes.isLeast_closesAt {body value : List Char} (h : Encodes body value)
    (before rest : List Char) :
    IsLeast {b | ClosesAt (before ++ '"' :: (body ++ '"' :: rest)) (byteLength before) b}
      (byteLength before + 1 + byteLength body) := by
  constructor
  · exact closesAt_iff.2 ⟨body, rest, rfl, rfl, h.even⟩
  · intro b hb
    obtain ⟨part, more, hothers, rfl, heven⟩ := closesAt_iff.1 hb
    rcases List.append_eq_append_iff.1 hothers with ⟨between, rfl, -⟩ | ⟨between, rfl, hrest⟩
    · rw [byteLength_append]
      omega
    · -- an earlier quote would stand in the body
      cases between with
      | nil => simp
      | cons c between =>
        obtain ⟨rfl, -⟩ := List.cons.inj hrest
        exact absurd heven (h.not_even_of_quote rfl)

end StringLiteral

end ChainLexer.Scan

namespace ChainLexer.Lexer

open ChainLexer.Grammar ChainLexer.Scan ChainLexer.Settings ChainLexer.Source ChainLexer.Text

variable {T : Type}

/-! ### Literals that a scan arrives at -/

/-- Where the literal ends that the scan of the lexer, in the state `s`, finds at the byte offset
`a` of its source. -/
structure EndsLiteral (source : String) (lexer : Lexer T) (s : Progress T) (a : Nat) : Prop where
  /-- Without a closing quote the scan fails there. -/
  unterminated : (¬∃ b, ClosesAt source.toList a b) → lexer.scan.1 = .error (.unterminated a)
  /-- Otherwise the literal goes up to the first closing quote, and is the next lexeme that is shown
  to a chain. The scan may fail, but not for want of a quote there. -/
  closed : (∃ b, ClosesAt source.toList a b) →
    ∃ b w, IsLeast {b | ClosesAt source.toList a b} b ∧ w.category = .string ∧
      Span.slice? ⟨a, b + 1⟩ source = some w.toString ∧
      s.lexemes ++ [(w, ⟨a, b + 1⟩)] <+: lexer.run.lexemes ∧
      lexer.scan.1 ≠ .error (.unterminated a)

/-- **Every scan ends a literal at the first closing quote, and fails if there is none**, whatever
the settings, the classifiers and the source, and in whatever state it arrives at the literal. -/
theorem endsLiteral_of_withConfig {source : String} {config : Config} {lexer : Lexer T}
    (hlexer : withConfig source config = .ok lexer) (registry : Registry T) {s : Progress T}
    (hvisits : (lexer.withRegistry registry).Visits s) {a : Nat} {others : List Char}
    (hfaces : s.Faces lexer.marker a ('"' :: others)) :
    EndsLiteral source (lexer.withRegistry registry) s a := by
  obtain ⟨m, -, rfl⟩ := withConfig_eq_ok_iff.1 hlexer
  obtain ⟨hs, hsource⟩ := visits_withMarker hvisits
  obtain ⟨before, htext, rfl⟩ := hfaces.exists_before
  rw [hsource] at htext
  cases hread : StringLiteral.read .fresh others with
  | none =>
    have hescaped := (StringLiteral.read_eq_none_iff Memory.steady_fresh).1 hread
    have hnone : ¬∃ b, ClosesAt source.toList (byteLength before) b := by
      rintro ⟨b, hb⟩
      rw [htext] at hb
      obtain ⟨body, rest, hothers, -, heven⟩ := closesAt_iff.1 hb
      exact hescaped body rest hothers heven
    refine ⟨fun _ => ?_, fun hclosed => absurd hclosed hnone⟩
    have hblocked : Lexeme.recognise m .fresh '"' others = .error .unterminated := by
      rw [Lexeme.recognise_quote, hread]
    exact hvisits.scan_of_obstacle hs hfaces hblocked
  | some literal =>
    obtain ⟨body, rest, rfl, henc, -⟩ := StringLiteral.encodes_of_read Memory.steady_fresh hread
    have hw := Lexeme.standsBefore_literal henc m rest
    rw [← Lexeme.text_literal_append body literal.value rest] at hfaces
    have hleast := henc.isLeast_closesAt before rest
    rw [← htext] at hleast
    -- the span of the literal ends behind the quote
    have hstop : byteLength before + byteLength (Lexeme.literal body literal.value).text =
        byteLength before + 1 + byteLength body + 1 := by
      have hone : '"'.utf8Size = 1 := rfl
      simp only [Lexeme.literal, Lexeme.text, byteLength_cons, byteLength_append, byteLength_nil,
        hone]
      omega
    have hshown := hvisits.lexemes_isPrefix hs hfaces hw
    rw [hstop] at hshown
    refine ⟨fun hnone => absurd ⟨_, hleast.1⟩ hnone, fun _ => ⟨_, _, hleast, rfl, ?_, hshown, ?_⟩⟩
    · rw [Span.slice?, htext, ← hstop, ← Lexeme.text_literal_append body literal.value rest,
        ← List.append_assoc, sliceBytes?_append]
      rfl
    · exact hvisits.scan_ne_faultAt hs hfaces hw .unterminated

/-- A lexer over a literal that ends with two pairs of backslashes around an escaped quote. -/
def pairedBackslashes : Lexer Category :=
  (ofSource " \"\\\\\\\"\\\\\" \"").withRegistry categoryRegistry

/-- The literal ends with its third quote. The fourth one opens another literal, which has no end.
-/
theorem endsLiteral_of_withConfig_pairedBackslashes :
    ClosesAt " \"\\\\\\\"\\\\\" \"".toList 1 8 ∧
    (∃ b w, IsLeast {b | ClosesAt " \"\\\\\\\"\\\\\" \"".toList 1 b} b ∧ w.category = .string ∧
      Span.slice? ⟨1, b + 1⟩ " \"\\\\\\\"\\\\\" \"" = some w.toString ∧
      [(w, ⟨1, b + 1⟩)] <+: pairedBackslashes.run.lexemes ∧
      pairedBackslashes.scan.1 ≠ .error (.unterminated 1)) ∧
    pairedBackslashes.scan.1 = .error (.unterminated 10) := by
  have hcloses : ClosesAt " \"\\\\\\\"\\\\\" \"".toList 1 8 :=
    ⟨by decide, "\\\\\\\"\\\\".toList, by decide, by decide⟩
  have hfaces : Progress.Faces .hyphens
      (⟨.fresh, .ofString " \"\\\\\\\"\\\\\" \"", []⟩ : Progress Category) 1
      ('"' :: "\\\\\\\"\\\\\" \"".toList) :=
    ⟨by decide +kernel, by decide +kernel⟩
  have hends := endsLiteral_of_withConfig (withConfig_customary " \"\\\\\\\"\\\\\" \"")
    categoryRegistry .refl hfaces
  exact ⟨hcloses, hends.closed ⟨8, hcloses⟩, by decide +kernel⟩

end ChainLexer.Lexer
