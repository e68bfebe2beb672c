import ChainLexer.Proofs.Alike
import ChainLexer.Proofs.Arrivals

/-!
# String literals and the texts that they write

A text can be written as a string literal in many ways. Each of its characters is written on its
own: as it is, or behind a backslash, or by the letter of its escape. `IsEncoding` says what these
ways are, from the side of the text, and knows nothing of how a literal is read.

The reader goes the other way. It takes a body apart unit by unit, and the character of an escape
decides what the unit is worth. The two agree, `isEncoding_iff_encodes`, because each unit of a body
is one way to write the character that it is worth, and no character is written by part of a unit.
So whichever way was chosen for each character, the text comes back.

## What the choice must not do

Two letters are taken: a backslash before `n` or `r` writes another character, so these two have
only one way. The quote and the backslash have only one way for another reason, that they would end
the literal or begin a unit. All other characters have at least two, and line feeds have three.

## Main definitions

* `StringLiteral.Writes`: the ways to write a character
* `StringLiteral.IsEncoding`: a body that writes a text, character by character
* `TakesLiteral`: what a scan does with a literal that it arrives at
* `Lexer.DecodesStrings`: literals are read as they were written, by this lexer

## Main results

* `StringLiteral.isEncoding_iff_encodes`: the reader and the ways to write agree
* `takesLiteral_of_isEncoding`: a literal that a scan arrives at is taken as a whole
* `Lexer.decodesStrings_perform`: every lexer undoes every encoding
-/

namespace ChainLexer.Scan

open ChainLexer.Grammar ChainLexer.Settings ChainLexer.Source ChainLexer.Text

variable {T : Type}

namespace StringLiteral

/-! ### Ways to write a text -/

/-- The ways to write a character inside a string literal. -/
inductive Writes : Char → List Char → Prop
  /-- As it is, if it neither ends the literal nor begins an escape. -/
  | itself {c : Char} (hquote : c ≠ '"') (hbackslash : c ≠ '\\') : Writes c [c]
  /-- Behind a backslash, if it does not stand for another character there. -/
  | escaped {c : Char} (hn : c ≠ 'n') (hr : c ≠ 'r') : Writes c ['\\', c]
  /-- A line feed by its letter. -/
  | lineFeed : Writes '\n' ['\\', 'n']
  /-- A carriage return by its letter. -/
  | carriageReturn : Writes '\r' ['\\', 'r']

/-- The body of a literal writes a text: every character of the text in one of its ways, one after
the other. -/
def IsEncoding (body value : List Char) : Prop :=
  ∃ units, List.Forall₂ Writes value units ∧ body = units.flatten

theorem isEncoding_nil : IsEncoding [] [] := ⟨[], .nil, rfl⟩

theorem IsEncoding.cons {c : Char} {unit body value : List Char} (hunit : Writes c unit)
    (h : IsEncoding body value) : IsEncoding (unit ++ body) (c :: value) := by
  obtain ⟨units, hunits, rfl⟩ := h
  exact ⟨unit :: units, .cons hunit hunits, rfl⟩

/-- The character behind a backslash is one way to write what the escape stands for. -/
theorem writes_unescape (c : Char) : Writes (unescape c) ['\\', c] := by
  rw [unescape]
  split
  · next hn =>
    subst hn
    exact .lineFeed
  · next hn =>
    split
    · next hr =>
      subst hr
      exact .carriageReturn
    · next hr => exact .escaped hn hr

/-- A way to write a character is a unit of the grammar, whatever comes after it. -/
theorem Encodes.of_writes {c : Char} {unit body value : List Char} (hunit : Writes c unit)
    (h : Encodes body value) : Encodes (unit ++ body) (c :: value) := by
  cases hunit with
  | itself hquote hbackslash => exact .plain hquote hbackslash h
  | escaped hn hr =>
    have hself : unescape c = c := by rw [unescape, if_neg hn, if_neg hr]
    have hescape : Encodes ('\\' :: c :: body) (unescape c :: value) := .escape h
    rwa [hself] at hescape
  | lineFeed => exact Encodes.escape (c := 'n') h
  | carriageReturn => exact Encodes.escape (c := 'r') h

/-- **The reader and the ways to write agree**: the bodies that are read as a text are those that
write it. -/
theorem isEncoding_iff_encodes {body value : List Char} :
    IsEncoding body value ↔ Encodes body value := by
  constructor
  · rintro ⟨units, hunits, rfl⟩
    induction hunits with
    | nil => exact .nil
    | cons hunit _ ih => exact .of_writes hunit ih
  · intro h
    induction h with
    | nil => exact isEncoding_nil
    | plain hquote hbackslash _ ih => exact ih.cons (.itself hquote hbackslash)
    | @escape c _ _ _ ih => exact ih.cons (writes_unescape c)

end StringLiteral

open StringLiteral

/-! ### Literals that a scan arrives at -/

/-- The string literal with a body, which has the given value. -/
def Lexeme.literal (body value : List Char) : Lexeme := .string ('"' :: (body ++ ['"'])) value

theorem Lexeme.text_literal_append (body value rest : List Char) :
    (literal body value).text ++ rest = '"' :: (body ++ '"' :: rest) := by
  simp [literal, text]

theorem Lexeme.standsBefore_literal {body value : List Char} (h : Encodes body value)
    (marker : Marker) (rest : List Char) : (literal body value).StandsBefore marker rest :=
  ⟨⟨body, rfl, h⟩, trivial⟩

/-- The literal with the body stands where the trivia end, and the scan takes it as a whole: from
its first quote to its last, and nothing of the text `rest` behind it. The context stays what it
was. If the chain emits the literal, then the token has all of it as its lexeme, and the text that
the body writes as its value. -/
structure TakesLiteral (marker : Marker) (registry : Registry T) (memory : Memory) (c : Cursor)
    (body value rest : List Char) : Prop where
  next_eq : ∃ memory' c',
    next marker memory c = .found (.literal body value)
      ⟨(skipTrivia marker c).position,
        (skipTrivia marker c).position + byteLength ('"' :: (body ++ ['"']))⟩ memory' c' ∧
    c'.rest = rest ∧ memory'.context = memory.context
  head?_tokens : ∀ kind,
    verdictOf ((registry.chain .string).consult (String.ofList ('"' :: (body ++ ['"'])))
      memory.context) = some (.emit kind) →
    (run marker registry memory c).tokens.head? = some
      { kind := kind
        lexeme := String.ofList ('"' :: (body ++ ['"']))
        span := ⟨(skipTrivia marker c).position,
          (skipTrivia marker c).position + byteLength ('"' :: (body ++ ['"']))⟩
        value := some (.text (String.ofList value)) }

/-- **A literal that a scan arrives at is taken as a whole**, in whatever context. -/
theorem takesLiteral_of_isEncoding (marker : Marker) (registry : Registry T) {memory : Memory}
    (hmemory : memory.Steady) {c : Cursor} {body value rest : List Char}
    (h : IsEncoding body value)
    (hrest : (skipTrivia marker c).rest = '"' :: (body ++ '"' :: rest)) :
    TakesLiteral marker registry memory c body value rest := by
  have hw := Lexeme.standsBefore_literal (isEncoding_iff_encodes.1 h) marker rest
  have hfaces : Progress.Faces marker (⟨memory, c, []⟩ : Progress T)
      (skipTrivia marker c).position ((Lexeme.literal body value).text ++ rest) :=
    ⟨rfl, by rw [hrest, Lexeme.text_literal_append]⟩
  constructor
  · obtain ⟨c', hreach, hrest'⟩ := hfaces.reaches hw
    have hnext := next_of_reaches hmemory hreach
    exact ⟨_, c', hnext, hrest', Lexeme.context_memoryAfter _ _⟩
  · intro kind hkind
    obtain ⟨more, hmore⟩ := hfaces.exists_resolutions_eq_cons registry hmemory hw
    have hout := Resolution.outcome_of_value
      (r := Progress.resolutionOf registry ⟨memory, c, []⟩ (.literal body value)
        (skipTrivia marker c).position) hkind rfl
    rw [Run.tokens, hmore, List.filterMap_cons_some (Resolution.token?_of_outcome hout)]
    rfl

/-! ### Tokens of string literals -/

/-- The token is that of a string literal: its lexeme begins with a quote, or its value is a text.
-/
def Token.IsString (t : Token T) : Prop :=
  t.lexeme.toList.head? = some '"' ∨ ∃ value, t.value = some (.text value)

/-- A lexeme that begins with a quote is a string literal, and so is one whose value is a text. -/
theorem Lexeme.WellShaped.exists_literal {w : Lexeme} (h : w.WellShaped)
    (hstring : w.text.head? = some '"' ∨ ∃ value, w.value? = some (some (.text value))) :
    ∃ body value, IsEncoding body value ∧ w = .literal body value := by
  cases w with
  | identifier text =>
    obtain ⟨c, cs, rfl, hc, -⟩ := h
    rcases hstring with hhead | ⟨value, hvalue⟩
    · obtain rfl : c = '"' := Option.some.inj hhead
      exact absurd hc (by decide)
    · cases hvalue
  | number text =>
    obtain ⟨c, cs, rfl, hc, -⟩ := h
    rcases hstring with hhead | ⟨value, hvalue⟩
    · obtain rfl : c = '"' := Option.some.inj hhead
      exact absurd hc (by decide)
    · obtain ⟨n, -, heq⟩ := Option.map_eq_some_iff.1 hvalue
      cases heq
  | string text value =>
    obtain ⟨body, rfl, henc⟩ := h
    exact ⟨body, value, isEncoding_iff_encodes.2 henc, rfl⟩
  | operator text =>
    rcases hstring with hhead | ⟨value, hvalue⟩
    · rcases h with rfl | ⟨-, hchars⟩
      · cases hhead
      · exact absurd rfl (ne_quote_of_isOperatorChar (hchars '"' (List.mem_of_head? hhead)))
    · cases hvalue

/-- What a token has from its lexeme, its value included. -/
theorem Resolution.of_token?_eq_some {r : Resolution T} {t : Token T} (h : r.token? = some t) :
    t.lexeme = r.lexeme.toString ∧ r.lexeme.value? = some t.value := by
  rw [token?] at h
  split at h
  · next token hout =>
    subst h
    rw [outcome] at hout
    split at hout
    · cases hout
    · next verdict _ =>
      split at hout
      · cases hout
      · next value hvalue =>
        cases verdict with
        | emit kind =>
          cases hout
          exact ⟨rfl, hvalue⟩
        | skip => cases hout
  · cases h

end ChainLexer.Scan

namespace ChainLexer.Lexer

open ChainLexer.Grammar ChainLexer.Scan ChainLexer.Settings ChainLexer.Source ChainLexer.Text
open ChainLexer.Scan.StringLiteral

variable {T : Type}

/-! ### What a lexer reads -/

/-- String literals are read as they were written, by this lexer. -/
structure DecodesStrings (lexer : Lexer T) : Prop where
  /-- Wherever a literal is found that writes a text, in a plain or a qualifying context, it is
  taken as a whole, and its token has that text as its value. -/
  takesLiteral : ∀ (memory : Memory) (c : Cursor) (body value rest : List Char),
    memory.context = .plain ∨ memory.context = .qualifying → IsEncoding body value →
    (skipTrivia lexer.marker c).rest = '"' :: (body ++ '"' :: rest) →
    TakesLiteral lexer.marker lexer.registry memory c body value rest
  /-- Whenever a scan succeeds, what stands between the quotes of a string token writes its value.
  -/
  isEncoding : ∀ tokens, lexer.scan.1 = .ok tokens → ∀ t ∈ tokens, t.IsString →
    ∃ body value, IsEncoding body value ∧ t.lexeme = String.ofList ('"' :: (body ++ ['"'])) ∧
      t.value = some (.text (String.ofList value))

/-- The value of a string token is written between its quotes. -/
theorem exists_isEncoding_of_mem_tokens {lexer : Lexer T} (h : lexer.memory.Steady) {t : Token T}
    (ht : t ∈ lexer.run.tokens) (hstring : t.IsString) :
    ∃ body value, IsEncoding body value ∧ t.lexeme = String.ofList ('"' :: (body ++ ['"'])) ∧
      t.value = some (.text (String.ofList value)) := by
  obtain ⟨r, hr, htoken⟩ := List.mem_filterMap.1 ht
  obtain ⟨hlexeme, hvalue⟩ := Resolution.of_token?_eq_some htoken
  have hshaped := (runs_of_steady h).wellShaped r hr
  have hliteral : r.lexeme.text.head? = some '"' ∨
      ∃ value, r.lexeme.value? = some (some (.text value)) := by
    rcases hstring with hhead | ⟨value, htext⟩
    · rw [hlexeme, Lexeme.toString, String.toList_ofList] at hhead
      exact .inl hhead
    · exact .inr ⟨value, hvalue.trans (congrArg some htext)⟩
  obtain ⟨body, value, henc, hw⟩ := hshaped.exists_literal hliteral
  refine ⟨body, value, henc, by rw [hlexeme, hw]; rfl, ?_⟩
  rw [hw] at hvalue
  exact (Option.some.inj hvalue).symm

/-- **Every lexer undoes every encoding**, whatever its settings and its history. -/
theorem decodesStrings_perform {source : String} {config : Config} {lexer : Lexer T}
    (hlexer : withConfig source config = .ok lexer) (ops : List (Operation T)) :
    DecodesStrings (lexer.perform ops) := by
  obtain ⟨m, -, rfl⟩ := withConfig_eq_ok_iff.1 hlexer
  have hsteady : ((withMarker source m).perform ops).memory.Steady :=
    steady_perform Memory.steady_fresh ops
  constructor
  · intro memory c body value rest hcontext hencoding hrest
    have hmemory : memory.Steady := by
      rcases hcontext with hplain | hqualifying
      · simp [Memory.Steady, hplain]
      · simp [Memory.Steady, hqualifying]
    exact takesLiteral_of_isEncoding _ _ hmemory hencoding hrest
  · intro tokens hscan t ht hstring
    obtain ⟨-, rfl⟩ := Run.result_eq_ok_iff.1 hscan
    exact exists_isEncoding_of_mem_tokens hsteady ht hstring

/-- A lexer over a literal with every sort of unit: a letter, an escaped backslash, an escaped
quote, a line feed by its letter, an escaped letter of two bytes and a line feed as it is. Names arm
a qualifier. -/
def unitsOfEachSort : Lexer Category :=
  (ofSource "for \"a\\\\\\\"\\n\\é\n\" --\"").perform
    [.register .identifier fun _ _ => .emitThen .identifier .qualifying,
     .register .string fun _ _ => .emit .string]

/-- The literal is read in a qualifying context, and its lexeme writes its value. -/
theorem decodesStrings_perform_unitsOfEachSort :
    unitsOfEachSort.scan.1 = .ok
      [⟨.identifier, "for", ⟨0, 3⟩, none⟩,
       ⟨.string, "\"a\\\\\\\"\\n\\é\n\"", ⟨4, 17⟩, some (.text "a\\\"\né\n")⟩] ∧
    DecodesStrings unitsOfEachSort ∧
    ∃ body value, IsEncoding body value ∧
      "\"a\\\\\\\"\\n\\é\n\"" = String.ofList ('"' :: (body ++ ['"'])) ∧
      some (Value.text "a\\\"\né\n") = some (.text (String.ofList value)) := by
  have hscan : unitsOfEachSort.scan.1 = .ok
      [⟨.identifier, "for", ⟨0, 3⟩, none⟩,
       ⟨.string, "\"a\\\\\\\"\\n\\é\n\"", ⟨4, 17⟩, some (.text "a\\\"\né\n")⟩] := by
    decide +kernel
  have hdecodes : DecodesStrings unitsOfEachSort :=
    decodesStrings_perform (withConfig_customary _) _
  refine ⟨hscan, hdecodes, ?_⟩
  exact hdecodes.isEncoding _ hscan _ (List.mem_cons_of_mem _ List.mem_cons_self) (.inr ⟨_, rfl⟩)

end ChainLexer.Lexer
