import ChainLexer.Proofs.Arrivals
import Mathlib.Data.Nat.Digits.Defs

/-!
# What a scan makes of a number

A number is a run of ASCII digits and separators. It writes the natural number whose decimal digits
it has, however many there are, and a scan either makes a token with that very number or fails. What
matters for which of the two it is comes in this order: the verdict of the classifiers first, and
only then the size of the number. So a number that is too large is not reported as such unless some
classifier claims it, and it is reported even if it is to be skipped.

## Too large on the way

Decoding works in machine words and gives up at the first step that does not fit. No digit makes a
number smaller, so it gives up if and only if the number as a whole does not fit; that is
`Number.decode_eq`, and `Number.decode_eq_foldlM_checkedPush` says that neither the order of the
product and the sum nor the test for digits makes a difference.

## Main definitions

* `Number.written`: the number with the digits of a text
* `Number.checkedPush`: one step of decoding, in machine words
* `Number.Grouped`, `Number.Writes`: separators between digits, and the ways to write a number
* `Lexer.ResolvesNumber`: what becomes of a number that a scan arrives at

## Main results

* `Number.value_eq_written`: separators have no value, and all else are digits
* `Number.Writes.decode_eq`: however a number is written, decoding gives it back
* `Lexer.resolvesNumber_of_withConfig`: what every scan makes of the numbers that it arrives at
-/

namespace ChainLexer.Scan

open ChainLexer.Text

/-- A number consists of digits and separators. -/
theorem Lexeme.WellShaped.isNumberContinue {text : List Char}
    (h : (Lexeme.number text).WellShaped) : ∀ c ∈ text, isNumberContinue c = true := by
  obtain ⟨c, cs, rfl, hc, hcs⟩ := h
  rw [List.forall_mem_cons]
  exact ⟨isNumberContinue_of_isNumberStart hc, hcs⟩

namespace Number

/-! ### The number with the digits of a text -/

/-- The number that the ASCII digits of a text write in decimal, the most significant one first. -/
def written (text : List Char) : Nat :=
  Nat.ofDigits 10 ((text.filter isAsciiDigit).map digitValue).reverse

theorem isNumberSeparator_of_isAsciiDigit {c : Char} (h : isAsciiDigit c = true) :
    isNumberSeparator c = false := by
  have hunderscore : c ≠ '_' := by rintro rfl; exact absurd h (by decide)
  have hapostrophe : c ≠ '\'' := by rintro rfl; exact absurd h (by decide)
  simp [isNumberSeparator, hunderscore, hapostrophe]

theorem isAsciiDigit_of_isDigit {c : Char} (h : c.isDigit = true) : isAsciiDigit c = true := by
  simpa [isAsciiDigit, Char.isDigit, Char.le_def] using h

/-- What is left of a number without its separators are its digits. -/
theorem filter_not_isNumberSeparator {text : List Char}
    (h : ∀ c ∈ text, isNumberContinue c = true) :
    text.filter (fun c => !isNumberSeparator c) = text.filter isAsciiDigit := by
  apply List.filter_congr
  intro c hc
  cases hdigit : isAsciiDigit c with
  | true => rw [isNumberSeparator_of_isAsciiDigit hdigit, Bool.not_false]
  | false =>
    have hcontinue := h c hc
    rw [isNumberContinue, hdigit, Bool.false_or] at hcontinue
    rw [hcontinue, Bool.not_true]

theorem digitsFrom_zero (digits : List Char) :
    digitsFrom 0 digits = Nat.ofDigits 10 (digits.map digitValue).reverse := by
  rw [Nat.ofDigits_eq_foldr, List.foldr_reverse, List.foldl_map, digitsFrom]
  simp only [Nat.cast_id, Nat.add_comm]

/-- **The value of a number is the one that its digits write.** Its separators have none, and it has
no other characters. -/
theorem value_eq_written {text : List Char} (h : ∀ c ∈ text, isNumberContinue c = true) :
    value text = written text := by
  rw [value, filter_not_isNumberSeparator h, digitsFrom_zero, written]

theorem decode_eq_written {text : List Char} (h : ∀ c ∈ text, isNumberContinue c = true) :
    decode text =
      if hfits : written text < 2 ^ 64 then some (.ofNatLT (written text) hfits) else none := by
  rw [decode_eq, value_eq_written h]
  show (if written text < 2 ^ 64 then _ else _) = _
  split
  · rw [UInt64.ofNatLT_eq_ofNat]
  · rfl

/-! ### Decoding in machine words -/

/-- The value of a character, if it is a decimal digit. -/
def digit? (c : Char) : Option Nat := if isAsciiDigit c then some (digitValue c) else none

/-- One step of decoding, in machine words: the digit, ten times the number and their sum, where
each of the three may be missing. -/
def checkedPush (n : UInt64) (c : Char) : Option UInt64 := do
  let digit ← digit? c
  let shifted ← if n.toNat * 10 < UInt64.size then some (n * 10) else none
  if shifted.toNat + digit < UInt64.size then some (shifted + UInt64.ofNat digit) else none

theorem checkedPush_eq_pushDigit (n : UInt64) {c : Char} (hc : isAsciiDigit c = true) :
    checkedPush n c = pushDigit n c := by
  rw [checkedPush, digit?, if_pos hc, pushDigit]
  simp only [Option.bind_eq_bind, Option.bind_some]
  by_cases hshifted : n.toNat * 10 < UInt64.size
  · have htoNat : (n * 10).toNat = 10 * n.toNat := by
      rw [UInt64.toNat_mul, Nat.mul_comm 10]
      exact Nat.mod_eq_of_lt hshifted
    have hword : UInt64.ofNat (10 * n.toNat + digitValue c) =
        n * 10 + UInt64.ofNat (digitValue c) := by
      rw [UInt64.ofNat_add, ← htoNat, UInt64.ofNat_toNat]
    rw [if_pos hshifted]
    simp only [htoNat, hword]
  · rw [if_neg hshifted, if_neg (by omega)]
    rfl

/-- **A number is decoded in machine words without the test for digits ever failing**, and without a
product that is too large when its sum is not. -/
theorem decode_eq_foldlM_checkedPush {text : List Char}
    (h : ∀ c ∈ text, isNumberContinue c = true) :
    decode text = (text.filter fun c => !isNumberSeparator c).foldlM checkedPush 0 := by
  have hdigits : ∀ c ∈ text.filter isAsciiDigit, isAsciiDigit c = true :=
    fun c hc => (List.mem_filter.1 hc).2
  rw [decode, filter_not_isNumberSeparator h]
  generalize text.filter isAsciiDigit = digits at hdigits
  generalize (0 : UInt64) = n
  induction digits generalizing n with
  | nil => rfl
  | cons c cs ih =>
    rw [List.foldlM_cons, List.foldlM_cons, checkedPush_eq_pushDigit n (hdigits c (by simp))]
    cases pushDigit n c with
    | none => rfl
    | some next => exact ih (fun d hd => hdigits d (by simp [hd])) next

/-! ### Ways to write a number -/

/-- The text is that of the digits with separators inserted anywhere. -/
inductive Grouped : List Char → List Char → Prop
  | nil : Grouped [] []
  | digit {c : Char} {digits text : List Char} (h : Grouped digits text) :
      Grouped (c :: digits) (c :: text)
  | separator {c : Char} {digits text : List Char} (hc : isNumberSeparator c = true)
      (h : Grouped digits text) : Grouped digits (c :: text)

/-- The literal is a decimal form of the number with any number of zeros in front, and with
separators inserted anywhere behind its first digit. -/
def Writes (n : Nat) (literal : List Char) : Prop :=
  ∃ zeros first digits text,
    List.replicate zeros '0' ++ Nat.toDigits 10 n = first :: digits ∧ Grouped digits text ∧
      literal = first :: text

/-- Every text has its separators inserted into what is left without them. -/
theorem grouped_filter (text : List Char) :
    Grouped (text.filter fun c => !isNumberSeparator c) text := by
  induction text with
  | nil => exact .nil
  | cons c text ih =>
    cases hc : isNumberSeparator c with
    | true =>
      rw [List.filter_cons_of_neg (by simp [hc])]
      exact .separator hc ih
    | false =>
      rw [List.filter_cons_of_pos (by simp [hc])]
      exact .digit ih

/-- Without its separators, a text is that of the digits again. -/
theorem Grouped.filter_eq {digits text : List Char} (h : Grouped digits text)
    (hdigits : ∀ c ∈ digits, isAsciiDigit c = true) : text.filter isAsciiDigit = digits := by
  induction h with
  | nil => rfl
  | @digit c digits text _ ih =>
    rw [List.filter_cons_of_pos (hdigits c (by simp)), ih fun d hd => hdigits d (by simp [hd])]
  | @separator c digits text hc _ ih =>
    have hnot : ¬isAsciiDigit c = true := by
      intro hdigit
      rw [isNumberSeparator_of_isAsciiDigit hdigit] at hc
      cases hc
    rw [List.filter_cons_of_neg hnot, ih hdigits]

theorem Grouped.isNumberContinue {digits text : List Char} (h : Grouped digits text)
    (hdigits : ∀ c ∈ digits, isAsciiDigit c = true) : ∀ c ∈ text, isNumberContinue c = true := by
  induction h with
  | nil => simp
  | @digit c digits text _ ih =>
    rw [List.forall_mem_cons] at hdigits ⊢
    exact ⟨by rw [Text.isNumberContinue, hdigits.1, Bool.true_or], ih hdigits.2⟩
  | @separator c digits text hc _ ih =>
    rw [List.forall_mem_cons]
    exact ⟨by rw [Text.isNumberContinue, hc, Bool.or_true], ih hdigits⟩

/-- Zeros in front do not matter to a number. -/
theorem digitsFrom_zeros_append_toDigits (zeros n : Nat) :
    digitsFrom 0 (List.replicate zeros '0' ++ Nat.toDigits 10 n) = n := by
  show Nat.ofDigitChars 10 (List.replicate zeros '0' ++ Nat.toDigits 10 n) 0 = n
  rw [Nat.ofDigitChars_append, Nat.ofDigitChars_replicate_zero, Nat.mul_zero,
    Nat.ofDigitChars_ten_toDigits]

theorem isAsciiDigit_of_mem_zeros_append_toDigits (zeros n : Nat) :
    ∀ c ∈ List.replicate zeros '0' ++ Nat.toDigits 10 n, isAsciiDigit c = true := by
  intro c hc
  rcases List.mem_append.1 hc with hzero | hdigit
  · rw [List.eq_of_mem_replicate hzero]
    decide
  · exact isAsciiDigit_of_isDigit (Nat.isDigit_of_mem_toDigits (by decide) (by decide) hdigit)

namespace Writes

variable {n : Nat} {literal : List Char}

/-- A literal is grouped from digits, and these write the number. -/
theorem exists_digits (h : Writes n literal) :
    ∃ first digits text, literal = first :: text ∧ Grouped digits text ∧
      isAsciiDigit first = true ∧ (∀ c ∈ digits, isAsciiDigit c = true) ∧
      digitsFrom 0 (first :: digits) = n := by
  obtain ⟨zeros, first, digits, text, hform, hgrouped, hliteral⟩ := h
  have hdigits := isAsciiDigit_of_mem_zeros_append_toDigits zeros n
  have hnumber := digitsFrom_zeros_append_toDigits zeros n
  rw [hform, List.forall_mem_cons] at hdigits
  rw [hform] at hnumber
  exact ⟨first, digits, text, hliteral, hgrouped, hdigits.1, hdigits.2, hnumber⟩

/-- However a number is written, it begins with a digit and goes on with digits and separators. -/
theorem wellShaped (h : Writes n literal) : (Lexeme.number literal).WellShaped := by
  obtain ⟨first, digits, text, hliteral, hgrouped, hfirst, hdigits, -⟩ := h.exists_digits
  exact ⟨first, text, hliteral, hfirst, hgrouped.isNumberContinue hdigits⟩

/-- Its digits write that number. -/
theorem written_eq (h : Writes n literal) : written literal = n := by
  obtain ⟨first, digits, text, rfl, hgrouped, hfirst, hdigits, hnumber⟩ := h.exists_digits
  rw [written, List.filter_cons_of_pos hfirst, hgrouped.filter_eq hdigits, ← digitsFrom_zero,
    hnumber]

/-- **However a number below `2 ^ 64` is written, decoding gives it back.** -/
theorem decode_eq (h : Writes n literal) (hn : n < 2 ^ 64) :
    decode literal = some (.ofNatLT n hn) := by
  have hwritten := h.written_eq
  subst hwritten
  rw [decode_eq_written h.wellShaped.isNumberContinue, dif_pos hn]

end Writes

end Number

open ChainLexer.Grammar

variable {T : Type}

/-! ### What comes of a number -/

/-- What the classifiers of a category say to a text in the state of a scan. -/
def Progress.verdictOn (registry : Registry T) (s : Progress T) (category : Category)
    (text : List Char) : Option (Verdict T) :=
  (registry.resolve category (String.ofList text) s.memory).1

theorem Lexeme.value?_number {text : List Char} (h : ∀ c ∈ text, isNumberContinue c = true) :
    (Lexeme.number text).value? =
      if hfits : Number.written text < 2 ^ 64 then
        some (some (.int (.ofNatLT (Number.written text) hfits)))
      else none := by
  rw [value?, Number.decode_eq_written h]
  split
  · rfl
  · rfl

end ChainLexer.Scan

namespace ChainLexer.Lexer

open ChainLexer.Grammar ChainLexer.Scan ChainLexer.Settings ChainLexer.Source ChainLexer.Text

variable {T : Type} {lexer : Lexer T} {s : Progress T}

/-! ### Numbers that a scan arrives at -/

/-- In the state `s`, the scan of the lexer takes one more lexeme, which ends at the byte offset
`stop`, before the text `rest`. It makes the given tokens of it, behind all earlier ones. -/
def GoesOn (lexer : Lexer T) (s : Progress T) (stop : Nat) (rest : List Char)
    (tokens : List (Token T)) : Prop :=
  ∃ s', scanPass lexer.marker lexer.registry s = .inl s' ∧ lexer.Visits s' ∧
    s'.cursor.position = stop ∧ s'.cursor.rest = rest ∧ s'.tokens = s.tokens ++ tokens ∧
    s.tokens ++ tokens <+: lexer.run.tokens

/-- What becomes of the number that the scan of the lexer, in the state `s`, finds at the byte
offset `a`: its text is `text`, and `rest` is what follows. -/
structure ResolvesNumber (lexer : Lexer T) (s : Progress T) (a : Nat) (text rest : List Char) :
    Prop where
  /-- The number is the next lexeme that is shown to a chain. -/
  shown : s.lexemes ++ [(.number text, ⟨a, a + byteLength text⟩)] <+: lexer.run.lexemes
  /-- Without a verdict the scan fails, whatever the number is. -/
  declined : s.verdictOn lexer.registry .number text = none →
    lexer.scan.1 = .error
      (.unrecognized .number (String.ofList text) ⟨a, a + byteLength text⟩)
  /-- With any verdict the scan fails if the number is too large. -/
  tooLarge : (s.verdictOn lexer.registry .number text).isSome →
    2 ^ 64 ≤ Number.written text →
    lexer.scan.1 = .error (.overflow (String.ofList text) ⟨a, a + byteLength text⟩)
  /-- A number that is claimed becomes a token with its value. -/
  emitted : ∀ kind, s.verdictOn lexer.registry .number text = some (.emit kind) →
    ∀ hfits : Number.written text < 2 ^ 64,
    lexer.GoesOn s (a + byteLength text) rest
      [⟨kind, String.ofList text, ⟨a, a + byteLength text⟩,
        some (.int (.ofNatLT (Number.written text) hfits))⟩]
  /-- A number that is skipped becomes nothing. -/
  skipped : s.verdictOn lexer.registry .number text = some .skip →
    Number.written text < 2 ^ 64 → lexer.GoesOn s (a + byteLength text) rest []
  /-- The value is computed in machine words, where the test for digits, the product and the sum may
  each fail on the way. -/
  computed : Number.decode text =
    (text.filter fun c => !isNumberSeparator c).foldlM Number.checkedPush 0

/-- A lexeme that is no fault is passed. -/
theorem Visits.goesOn (h : lexer.Visits s) (hs : s.memory.Steady) {a : Nat} {w : Lexeme}
    {rest : List Char} (hfaces : s.Faces lexer.marker a (w.text ++ rest))
    (hw : w.StandsBefore lexer.marker rest) {token : Option (Token T)}
    (hout : (s.resolutionOf lexer.registry w a).outcome = .ok token) :
    lexer.GoesOn s (a + byteLength w.text) rest token.toList := by
  obtain ⟨s', hpass, hrest, hposition, hresolutions⟩ := hfaces.scanPass_of_ok hs hw hout
  have htokens : s'.tokens = s.tokens ++ token.toList := by
    rw [Progress.tokens, hresolutions, List.filterMap_append, ← Progress.tokens,
      List.filterMap_cons, List.filterMap_nil, Resolution.token?_of_outcome hout]
    cases token with
    | none => rfl
    | some token => rfl
  exact ⟨s', hpass, h.next hpass, hposition, hrest, htokens,
    htokens ▸ (h.next hpass).tokens_isPrefix⟩

/-- What a scan makes of a run of digits and separators. -/
theorem Visits.resolvesNumber (h : lexer.Visits s) (hs : s.memory.Steady) {a : Nat}
    {text rest : List Char} (hfaces : s.Faces lexer.marker a (text ++ rest))
    (hw : (Lexeme.number text).StandsBefore lexer.marker rest) :
    ResolvesNumber lexer s a text rest := by
  have hvalue := Lexeme.value?_number hw.shaped.isNumberContinue
  refine ⟨h.lexemes_isPrefix hs hfaces hw, ?_, ?_, ?_, ?_,
    Number.decode_eq_foldlM_checkedPush hw.shaped.isNumberContinue⟩
  · intro hverdict
    exact h.scan_of_error hs hfaces hw (Resolution.outcome_of_decline hverdict)
  · intro hverdict hlarge
    rw [dif_neg (Nat.not_lt.2 hlarge)] at hvalue
    exact h.scan_of_error hs hfaces hw (Resolution.outcome_of_tooLarge hverdict hvalue)
  · intro kind hverdict hfits
    rw [dif_pos hfits] at hvalue
    exact h.goesOn hs hfaces hw (Resolution.outcome_of_verdict hverdict hvalue)
  · intro hverdict hfits
    rw [dif_pos hfits] at hvalue
    exact h.goesOn hs hfaces hw (Resolution.outcome_of_verdict hverdict hvalue)

/-- **Every scan makes of a number what its classifiers say, with the value that its digits write,
and fails if they say nothing or the value does not fit.** In particular a number below `2 ^ 64` is
read however it is written. -/
theorem resolvesNumber_of_withConfig {source : String} {config : Config} {lexer : Lexer T}
    (hlexer : withConfig source config = .ok lexer) (registry : Registry T) :
    (∀ s a first others, (lexer.withRegistry registry).Visits s →
      s.Faces lexer.marker a (first :: others) → isNumberStart first = true →
      ResolvesNumber (lexer.withRegistry registry) s a
        ((first :: others).takeWhile isNumberContinue)
        ((first :: others).dropWhile isNumberContinue)) ∧
    ∀ (n : Nat) (hn : n < 2 ^ 64) (literal : List Char), Number.Writes n literal →
      Number.decode literal = some (.ofNatLT n hn) ∧
      ∀ s a rest kind, (lexer.withRegistry registry).Visits s →
        s.Faces lexer.marker a (literal ++ rest) → Stops isNumberContinue rest →
        s.verdictOn registry .number literal = some (.emit kind) →
        (lexer.withRegistry registry).GoesOn s (a + byteLength literal) rest
          [⟨kind, String.ofList literal, ⟨a, a + byteLength literal⟩,
            some (.int (.ofNatLT n hn))⟩] := by
  obtain ⟨m, -, rfl⟩ := withConfig_eq_ok_iff.1 hlexer
  constructor
  · intro s a first others hvisits hfaces hfirst
    obtain ⟨hs, -⟩ := visits_withMarker hvisits
    obtain ⟨rest, htext, hw⟩ := Lexeme.standsBefore_of_recognise Memory.steady_fresh
      (Lexeme.recognise_numberStart hfirst)
    obtain rfl : rest = (first :: others).dropWhile isNumberContinue :=
      List.append_cancel_left (htext.trans List.takeWhile_append_dropWhile.symm)
    rw [← htext] at hfaces
    exact hvisits.resolvesNumber hs hfaces hw
  · intro n hn literal hwrites
    refine ⟨hwrites.decode_eq hn, ?_⟩
    intro s a rest kind hvisits hfaces hstops hverdict
    obtain ⟨hs, -⟩ := visits_withMarker hvisits
    have hw : (Lexeme.number literal).StandsBefore m rest := ⟨hwrites.wellShaped, hstops⟩
    have hresolves := hvisits.resolvesNumber hs hfaces hw
    have hwritten := hwrites.written_eq
    subst hwritten
    exact hresolves.emitted kind hverdict hn

/-- A lexer over the largest number with a value, in a form with zeros and separators. -/
def largestNumber : Lexer Category :=
  (ofSource " 00'18_446_744_073_709_551_615'_ x").withRegistry categoryRegistry

/-- A lexer over the smallest number without a value, which is to be skipped. -/
def tooLargeToSkip : Lexer Category :=
  (ofSource "18446744073709551616").withRegistry (Registry.empty.register .number fun _ _ => .skip)

/-- One number is read as it was written, the other one is reported in spite of its verdict. -/
theorem resolvesNumber_of_withConfig_bounds :
    Number.Writes (2 ^ 64 - 1) "00'18_446_744_073_709_551_615'_".toList ∧
    largestNumber.GoesOn ⟨.fresh, .ofString " 00'18_446_744_073_709_551_615'_ x", []⟩ 32 " x".toList
      [⟨.number, "00'18_446_744_073_709_551_615'_", ⟨1, 32⟩,
        some (.int (.ofNatLT (2 ^ 64 - 1) (by decide)))⟩] ∧
    tooLargeToSkip.scan.1 = .error (.overflow "18446744073709551616" ⟨0, 20⟩) := by
  have hwrites : Number.Writes (2 ^ 64 - 1) "00'18_446_744_073_709_551_615'_".toList :=
    ⟨2, '0', _, "0'18_446_744_073_709_551_615'_".toList, by decide +kernel,
      Number.grouped_filter _, by decide +kernel⟩
  obtain ⟨-, hread⟩ := resolvesNumber_of_withConfig
    (withConfig_customary " 00'18_446_744_073_709_551_615'_ x") categoryRegistry
  obtain ⟨-, hgoes⟩ := hread (2 ^ 64 - 1) (by decide) _ hwrites
  obtain ⟨hfound, -⟩ := resolvesNumber_of_withConfig
    (withConfig_customary "18446744073709551616") tooLargeToSkip.registry
  have hresolves := hfound ⟨.fresh, .ofString "18446744073709551616", []⟩ 0 '1'
    "8446744073709551616".toList .refl ⟨by decide +kernel, by decide +kernel⟩ (by decide)
  have htext : ('1' :: "8446744073709551616".toList).takeWhile isNumberContinue =
      "18446744073709551616".toList := by decide +kernel
  rw [htext] at hresolves
  exact ⟨hwrites,
    hgoes _ 1 _ .number .refl ⟨by decide +kernel, by decide +kernel⟩ (stops_cons.2 (by decide))
      (by decide +kernel),
    hresolves.tooLarge (by decide +kernel) (by decide +kernel)⟩

end ChainLexer.Lexer
