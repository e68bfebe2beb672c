import ChainLexer.Proofs.Encodings
import ChainLexer.Proofs.FirstFault

/-!
# Displays can be read in one way only

The display of a token puts its kind, its lexeme and its value one after the other with nothing but
blanks between them, and each of them may contain blanks, quotes and angle brackets itself. Where the
kinds are texts, it can still be read in one way only, because a quoted text shows where it ends: a
quote inside it stands behind a backslash, and a backslash never stands alone.

## Self-delimiting forms

A written form is `SelfDelimiting` if what follows it cannot be taken for a part of it. This is more
than being injective, and it is what carries from part to part: the escapes of single characters are
self-delimiting, hence the body of a quoted text with the quote behind it, hence the quoted text. The
value of a token is not, as `7` may be followed by another digit, but nothing except the closing angle
bracket follows it.

## An empty lexeme

The display of a token leaves an empty lexeme out, and then a text in second place may be the lexeme or
the value. No token of a scan has an empty lexeme, so this is no matter of scans; but the hypothesis on
the lexemes cannot be dropped.

## Main definitions

* `SelfDelimiting`: written forms that show where they end
* `Token.unplaced`: a token without its place
* `Logged.messages`: the records of a level as they are worded
* `Lexer.DisplaysApart`: the displays of tokens, and of the tokens of two scans

## Main results

* `Quoted.escape_cases`: the three forms of a written character
* `selfDelimiting_quoted`: quoted texts show where they end
* `Token.display_eq_iff`: tokens with the same display differ in their place only
* `Lexer.displaysApart_perform`: the trace of a scan determines its tokens up to their places
-/

namespace ChainLexer.Text

/-! ### Hexadecimal digits -/

theorem digitChar_injOn {m n : Nat} (hm : m < 16) (hn : n < 16) (h : m.digitChar = n.digitChar) :
    m = n := by
  have hall : ∀ m < 16, ∀ n < 16, Nat.digitChar m = Nat.digitChar n → m = n := by
    decide +kernel
  exact hall m hm n hn h

theorem toDigits_sixteen_injective : Function.Injective (Nat.toDigits 16) := by
  intro m
  induction m using Nat.strongRecOn with
  | _ m ih =>
    intro n h
    rw [Nat.toDigits_eq_if (n := m) (by decide), Nat.toDigits_eq_if (n := n) (by decide)] at h
    split at h
    next hm =>
      split at h
      next hn => exact digitChar_injOn hm hn (List.singleton_inj.1 h)
      next =>
        -- a single digit is not some digits and another one
        obtain ⟨hnil, -⟩ | ⟨-, hnil⟩ := List.append_eq_singleton_iff.1 h.symm
        · exact absurd hnil Nat.toDigits_ne_nil
        · cases hnil
    next hm =>
      split at h
      next =>
        obtain ⟨hnil, -⟩ | ⟨-, hnil⟩ := List.append_eq_singleton_iff.1 h
        · exact absurd hnil Nat.toDigits_ne_nil
        · cases hnil
      next =>
        obtain ⟨hquotient, hlast⟩ := List.append_inj' h rfl
        have hdiv : m / 16 = n / 16 := ih _ (Nat.div_lt_self (by omega) (by decide)) hquotient
        have hmod : m % 16 = n % 16 := digitChar_injOn (Nat.mod_lt _ (by decide))
          (Nat.mod_lt _ (by decide)) (List.singleton_inj.1 hlast)
        omega

theorem exists_digitChar_of_mem_toDigits {n : Nat} {c : Char} (h : c ∈ Nat.toDigits 16 n) :
    ∃ digit, c = Nat.digitChar digit := by
  induction n using Nat.strongRecOn with
  | _ n ih =>
    rw [Nat.toDigits_eq_if (by decide)] at h
    split at h
    next => exact ⟨n, List.mem_singleton.1 h⟩
    next =>
      rcases List.mem_append.1 h with h | h
      · exact ih _ (Nat.div_lt_self (by omega) (by decide)) h
      · exact ⟨n % 16, List.mem_singleton.1 h⟩

/-! ### Forms that show where they end -/

/-- What follows a written form cannot be taken for a part of it. -/
def SelfDelimiting {α : Type} (write : α → List Char) : Prop :=
  ∀ ⦃a b : α⦄ ⦃rest rest' : List Char⦄, write a ++ rest = write b ++ rest' → a = b ∧ rest = rest'

/-- A list of self-delimiting forms is self-delimiting with a character behind it with which none of
the forms begins. -/
theorem SelfDelimiting.flatMap {α : Type} {write : α → List Char} (h : SelfDelimiting write)
    {last : Char} (hlast : ∀ a rest rest', write a ++ rest ≠ last :: rest') :
    SelfDelimiting fun as : List α => as.flatMap write ++ [last] := by
  intro as
  induction as with
  | nil =>
    intro bs rest rest' heq
    cases bs with
    | nil => exact ⟨rfl, (List.cons.inj heq).2⟩
    | cons b bs =>
      simp only [List.flatMap_cons, List.append_assoc] at heq
      exact absurd heq.symm (hlast b _ _)
  | cons a as ih =>
    intro bs rest rest' heq
    cases bs with
    | nil =>
      simp only [List.flatMap_cons, List.append_assoc] at heq
      exact absurd heq (hlast a _ _)
    | cons b bs =>
      simp only [List.flatMap_cons, List.append_assoc] at heq
      obtain ⟨rfl, hbehind⟩ := h heq
      rw [← List.append_assoc, ← List.append_assoc] at hbehind
      obtain ⟨rfl, rfl⟩ := ih hbehind
      exact ⟨rfl, rfl⟩

namespace Quoted

/-- The digits of a code point end at the brace behind them. -/
theorem selfDelimiting_hex : SelfDelimiting fun c => hex c ++ ['\x7d'] := by
  intro c c' rest rest' h
  have hdigits : ∀ c : Char, ∀ digit ∈ hex c, (fun d => d != '\x7d') digit = true := by
    intro c digit hdigit
    obtain ⟨n, rfl⟩ := exists_digitChar_of_mem_toDigits hdigit
    exact bne_iff_ne.2 (Nat.digitChar_ne _ rfl)
  have hstops : ∀ rest, Stops (fun d => d != '\x7d') (['\x7d'] ++ rest) := fun rest =>
    stops_cons.2 rfl
  simp only [List.append_assoc] at h
  have hhex : hex c = hex c' := by
    rw [← takeWhile_append_of_stops (hdigits c) (hstops rest), h,
      takeWhile_append_of_stops (hdigits c') (hstops rest')]
  rw [hhex] at h
  exact ⟨Char.toNat_inj.1 (toDigits_sixteen_injective hhex), by simpa using h⟩

/-- The character that the letter behind a backslash stands for. -/
def unescape (letter : Char) : Char :=
  if letter = '0' then '\x00'
  else if letter = 't' then '\t'
  else if letter = 'n' then '\n'
  else if letter = 'r' then '\r'
  else letter

/-- **The three forms of a written character**: a backslash and a letter, a code point between braces,
or the character itself. -/
theorem escape_cases (c : Char) :
    (∃ letter, escape '"' c = ['\\', letter] ∧ letter ≠ 'u' ∧ unescape letter = c) ∨
    escape '"' c = ['\\', 'u', '\x7b'] ++ (hex c ++ ['\x7d']) ∨
    (escape '"' c = [c] ∧ c ≠ '\\' ∧ c ≠ '"') := by
  fun_cases escape '"' c with
  | case1 hnull => exact .inl ⟨'0', rfl, by decide, hnull.symm⟩
  | case2 _ htab => exact .inl ⟨'t', rfl, by decide, htab.symm⟩
  | case3 _ _ hfeed => exact .inl ⟨'n', rfl, by decide, hfeed.symm⟩
  | case4 _ _ _ hreturn => exact .inl ⟨'r', rfl, by decide, hreturn.symm⟩
  | case5 _ _ _ _ hbackslash => exact .inl ⟨'\\', rfl, by decide, hbackslash.symm⟩
  | case6 _ _ _ _ _ hquote => exact .inl ⟨c, rfl, by rw [hquote]; decide, by rw [hquote]; rfl⟩
  | case7 => exact .inr (.inl (List.append_assoc ..))
  | case8 _ _ _ _ hbackslash hquote => exact .inr (.inr ⟨rfl, hbackslash, hquote⟩)

/-- No written character begins with the quote. -/
theorem escape_append_ne (c : Char) (rest rest' : List Char) :
    escape '"' c ++ rest ≠ '"' :: rest' := by
  intro h
  obtain ⟨letter, hc, -, -⟩ | hc | ⟨hc, -, hquote⟩ := escape_cases c
  · rw [hc] at h
    cases h
  · rw [hc] at h
    cases h
  · rw [hc] at h
    exact hquote (List.cons.inj h).1

/-- **Written characters show where they end.** The second character tells a letter from a code point,
and the first one tells both from a character that is written as itself. -/
theorem selfDelimiting_escape : SelfDelimiting (escape '"') := by
  intro c c' rest rest' h
  obtain ⟨letter, hc, hu, rfl⟩ | hc | ⟨hc, hbackslash, -⟩ := escape_cases c <;>
    obtain ⟨letter', hc', hu', rfl⟩ | hc' | ⟨hc', hbackslash', -⟩ := escape_cases c' <;>
    rw [hc, hc'] at h
  · cases h
    exact ⟨rfl, rfl⟩
  · cases h
    exact absurd rfl hu
  · exact absurd (List.cons.inj h).1.symm hbackslash'
  · cases h
    exact absurd rfl hu'
  · simp only [List.append_assoc, List.append_cancel_left_eq] at h
    rw [← List.append_assoc, ← List.append_assoc] at h
    exact selfDelimiting_hex h
  · exact absurd (List.cons.inj h).1.symm hbackslash'
  · exact absurd (List.cons.inj h).1 hbackslash
  · exact absurd (List.cons.inj h).1 hbackslash
  · exact List.cons.inj h

end Quoted

theorem toList_quoted (s : String) :
    (quoted s).toList = '"' :: (s.toList.flatMap (Quoted.escape '"') ++ ['"']) :=
  String.toList_ofList

/-- **Quoted texts show where they end.** -/
theorem selfDelimiting_quoted : SelfDelimiting fun s => (quoted s).toList := by
  intro s s' rest rest' h
  simp only [toList_quoted, List.cons_append, List.cons.injEq, true_and] at h
  have hbody := Quoted.selfDelimiting_escape.flatMap Quoted.escape_append_ne
  obtain ⟨hs, hrest⟩ := hbody h
  exact ⟨String.toList_inj.1 hs, hrest⟩

theorem quoted_append_inj {s s' rest rest' : String} (h : quoted s ++ rest = quoted s' ++ rest') :
    s = s' ∧ rest = rest' := by
  have hlist : (quoted s).toList ++ rest.toList = (quoted s').toList ++ rest'.toList := by
    rw [← String.toList_append, h, String.toList_append]
  obtain ⟨hs, hrest⟩ := selfDelimiting_quoted hlist
  exact ⟨hs, String.toList_inj.1 hrest⟩

theorem quoted_injective : Function.Injective quoted := by
  intro s s' h
  exact (quoted_append_inj (congrArg (· ++ "") h)).1

theorem toString_nat_injective : Function.Injective (toString : Nat → String) := by
  intro m n h
  rw [Nat.toString_eq_ofList_toDigits, Nat.toString_eq_ofList_toDigits] at h
  rw [← Nat.ofDigitChars_toDigits (b := 10) (n := m) (by decide) (by decide),
    String.ofList_injective h, Nat.ofDigitChars_toDigits (by decide) (by decide)]

/-- A number is not written like a quoted text. -/
theorem toString_ne_quoted (n : Nat) (s : String) : toString n ≠ quoted s := by
  intro h
  have hquote : '"' ∈ Nat.toDigits 10 n := by
    have hlist := congrArg String.toList h
    rw [Nat.toString_eq_ofList_toDigits, String.toList_ofList, toList_quoted] at hlist
    rw [hlist]
    exact List.mem_cons_self
  exact absurd (Nat.isDigit_of_mem_toDigits (by decide) (by decide) hquote) (by decide)

end ChainLexer.Text

namespace ChainLexer.Scan

open ChainLexer.Grammar ChainLexer.Source ChainLexer.Text

variable {T : Type}

/-! ### The displays of tokens -/

theorem Value.display_injective : Function.Injective Value.display := by
  intro v v' h
  cases v with
  | int n =>
    cases v' with
    | int n' => rw [UInt64.toNat_inj.1 (toString_nat_injective h)]
    | text s' => exact absurd h (toString_ne_quoted _ _)
  | text s =>
    cases v' with
    | int n' => exact absurd h.symm (toString_ne_quoted _ _)
    | text s' => rw [quoted_injective h]

namespace Token

/-- A token without its place. -/
def unplaced (t : Token T) : T × String × Option Value := (t.kind, t.lexeme, t.value)

theorem unplaced_eq_iff {t u : Token T} :
    t.unplaced = u.unplaced ↔ t.kind = u.kind ∧ t.lexeme = u.lexeme ∧ t.value = u.value := by
  rw [unplaced, unplaced, Prod.mk.injEq, Prod.mk.injEq]

/-- The display of a token with a lexeme, part by part. -/
theorem display_of_lexeme_ne {t : Token T} (showKind : T → String) (h : t.lexeme ≠ "") :
    t.display showKind = "<" ++ (showKind t.kind ++ (" " ++ (quoted t.lexeme ++
      (t.value.elim "" (fun v => " " ++ v.display) ++ ">")))) := by
  rw [display, if_neg (by rwa [String.isEmpty_iff])]
  cases t.value <;> simp only [Option.elim, String.append_assoc]

/-- A value can be told from no value, and from any other value. -/
theorem value_injective :
    Function.Injective fun value : Option Value => value.elim "" fun v => " " ++ v.display := by
  intro value value' h
  cases value with
  | none =>
    cases value' with
    | none => rfl
    | some v' => exact absurd (String.append_eq_empty_iff.1 h.symm).1 (by decide)
  | some v =>
    cases value' with
    | none => exact absurd (String.append_eq_empty_iff.1 h).1 (by decide)
    | some v' => rw [Value.display_injective ((String.append_right_inj _).1 h)]

/-- **Tokens with the same display differ in their place only**, if their kinds are texts and their
lexemes are not empty. -/
theorem display_eq_iff {t u : Token String} (ht : t.lexeme ≠ "") (hu : u.lexeme ≠ "") :
    t.display quoted = u.display quoted ↔ t.unplaced = u.unplaced := by
  rw [unplaced_eq_iff, display_of_lexeme_ne quoted ht, display_of_lexeme_ne quoted hu]
  constructor
  · intro h
    obtain ⟨hkind, h⟩ := quoted_append_inj ((String.append_right_inj _).1 h)
    obtain ⟨hlexeme, h⟩ := quoted_append_inj ((String.append_right_inj _).1 h)
    exact ⟨hkind, hlexeme, value_injective ((String.append_left_inj _).1 h)⟩
  · rintro ⟨hkind, hlexeme, hvalue⟩
    rw [hkind, hlexeme, hvalue]

-- Without a lexeme, a text behind the kind may be a lexeme or a value.
example : display quoted ⟨"a", "", .origin, some (.text "b")⟩ =
    display quoted ⟨"a", "b", .origin, none⟩ := by
  decide +kernel

end Token

/-- A token of a run has a lexeme. -/
theorem Runs.lexeme_ne_of_mem_tokens {marker : Settings.Marker} {registry : Registry T} {m : Memory}
    {c : Cursor} {r : Run T} (h : Runs marker registry m c r) {t : Token T} (ht : t ∈ r.tokens) :
    t.lexeme ≠ "" := by
  obtain ⟨x, hx, htoken⟩ := List.mem_filterMap.1 ht
  rw [(Resolution.of_token?_eq_some htoken).1]
  intro hempty
  exact (h.wellShaped x hx).text_ne_nil (String.ofList_eq_empty_iff.1 hempty)

end ChainLexer.Scan

namespace ChainLexer

open ChainLexer.Grammar ChainLexer.Scan ChainLexer.Settings ChainLexer.Source ChainLexer.Text

variable {T : Type}

/-! ### The trace of a scan -/

/-- The records of a level, as they are worded. -/
def Logged.messages {α : Type} (logged : Logged T α) (level : Level) (showKind : T → String) :
    List String :=
  (logged.records.filter fun r => r.level = level).map (Record.message showKind)

/-- The records at the level of single tokens are those that report a token. -/
theorem Record.filter_level_trace (records : List (Record T)) :
    (records.filter fun r => r.level = .trace) = (records.filterMap token?).map emitted := by
  induction records with
  | nil => rfl
  | cons r records ih =>
    cases r with
    | emitted token => exact congrArg (List.cons _) ih
    | _ => exact ih

theorem Record.message_emitted_eq_iff {t u : Token String} (ht : t.lexeme ≠ "")
    (hu : u.lexeme ≠ "") :
    message quoted (.emitted t) = message quoted (.emitted u) ↔ t.unplaced = u.unplaced := by
  rw [← Token.display_eq_iff ht hu]
  exact String.append_right_inj "emitted "

/-- The messages about tokens agree as far as the tokens do. -/
theorem Record.map_message_eq_iff {tokens tokens' : List (Token String)}
    (h : ∀ t ∈ tokens, t.lexeme ≠ "") (h' : ∀ t ∈ tokens', t.lexeme ≠ "") :
    (tokens.map emitted).map (message quoted) = (tokens'.map emitted).map (message quoted) ↔
      tokens.map Token.unplaced = tokens'.map Token.unplaced := by
  induction tokens generalizing tokens' with
  | nil => cases tokens' <;> simp
  | cons t tokens ih =>
    cases tokens' with
    | nil => simp
    | cons u tokens' =>
      rw [List.forall_mem_cons] at h h'
      simp only [List.map_cons, List.cons.injEq, message_emitted_eq_iff h.1 h'.1, ih h.2 h'.2]

namespace Lexer

theorem messages_scanLogged (lexer : Lexer T) (showKind : T → String) :
    lexer.scanLogged.messages .trace showKind =
      (lexer.run.tokens.map Record.emitted).map (Record.message showKind) := by
  rw [Logged.messages, Record.filter_level_trace, filterMap_token?_records]

/-- Displays of tokens, and of the tokens of two scans, that are the same only if the tokens are the
same up to their places. -/
structure DisplaysApart (lexer other : Lexer String) : Prop where
  /-- Two tokens with lexemes have the same display if and only if they have the same kind, lexeme and
  value. -/
  display_eq_iff : ∀ t u : Token String, t.lexeme ≠ "" → u.lexeme ≠ "" →
    (t.display quoted = u.display quoted ↔
      t.kind = u.kind ∧ t.lexeme = u.lexeme ∧ t.value = u.value)
  /-- Every token that a scan reports has a lexeme, -/
  lexeme_ne : ∀ t, Record.emitted t ∈ lexer.scanLogged.records → t.lexeme ≠ ""
  /-- and two scans that succeed have the same trace if and only if their tokens are the same up to
  their places. -/
  messages_eq_iff : ∀ tokens tokens', lexer.scan.1 = .ok tokens → other.scan.1 = .ok tokens' →
    (lexer.scanLogged.messages .trace quoted = other.scanLogged.messages .trace quoted ↔
      tokens.map Token.unplaced = tokens'.map Token.unplaced)

theorem lexeme_ne_of_mem_tokens {lexer : Lexer T} (h : lexer.memory.Steady) :
    ∀ t ∈ lexer.run.tokens, t.lexeme ≠ "" :=
  fun _ ht => (runs_of_steady h).lexeme_ne_of_mem_tokens ht

/-- **The display of tokens is unambiguous**, and so is the trace of a scan, for lexers with any
settings and any history. -/
theorem displaysApart_perform {source source' : String} {config config' : Config}
    {created created' : Lexer String} (hcreated : withConfig source config = .ok created)
    (hcreated' : withConfig source' config' = .ok created') (ops ops' : List (Operation String)) :
    DisplaysApart (created.perform ops) (created'.perform ops') := by
  have hlexeme := lexeme_ne_of_mem_tokens (steady_perform_of_withConfig hcreated ops)
  have hlexeme' := lexeme_ne_of_mem_tokens (steady_perform_of_withConfig hcreated' ops')
  constructor
  · intro t u ht hu
    rw [Token.display_eq_iff ht hu, Token.unplaced_eq_iff]
  · intro t ht
    have hmem : t ∈ (created.perform ops).scanLogged.records.filterMap Record.token? :=
      List.mem_filterMap.2 ⟨.emitted t, ht, rfl⟩
    rw [filterMap_token?_records] at hmem
    exact hlexeme t hmem
  · intro tokens tokens' hscan hscan'
    obtain ⟨-, rfl⟩ := Run.result_eq_ok_iff.1 hscan
    obtain ⟨-, rfl⟩ := Run.result_eq_ok_iff.1 hscan'
    rw [messages_scanLogged, messages_scanLogged]
    exact Record.map_message_eq_iff hlexeme hlexeme'

/-- The kind of every lexeme is the name of its category. -/
def categoryNames : Lexicon String where
  name := "category names"
  classifier := fun category _ _ => .emit category.name

/-- A name and a literal with a quote and a blank in it, at a distance of some blanks. -/
def nameAndLiteral (blanks : String) : Lexer String :=
  (ofSource ("k" ++ blanks ++ "\"a\\\" 7\"")).perform [.install categoryNames]

/-- The tokens of the two lexemes, the second at an offset. -/
def tokensAt (offset : Nat) : List (Token String) :=
  [⟨"identifier", "k", ⟨0, 1⟩, none⟩,
    ⟨"string", "\"a\\\" 7\"", ⟨offset, offset + 7⟩, some (.text "a\" 7")⟩]

/-- Two scans that differ only in the place of a token have the same trace, and two tokens that divide
the same characters otherwise have displays apart. -/
theorem displaysApart_perform_nameAndLiteral :
    (nameAndLiteral " ").scan.1 = .ok (tokensAt 2) ∧
    (nameAndLiteral "   ").scan.1 = .ok (tokensAt 4) ∧
    (nameAndLiteral " ").scanLogged.messages .trace quoted =
      (nameAndLiteral "   ").scanLogged.messages .trace quoted ∧
    Token.display quoted ⟨"a\" \"b", "c", .origin, none⟩ ≠
      Token.display quoted ⟨"a", "b\" \"c", .origin, none⟩ := by
  have happart : DisplaysApart (nameAndLiteral " ") (nameAndLiteral "   ") :=
    displaysApart_perform (withConfig_customary _) (withConfig_customary _)
      [.install categoryNames] [.install categoryNames]
  have hclose : (nameAndLiteral " ").scan.1 = .ok (tokensAt 2) := by decide +kernel
  have hwide : (nameAndLiteral "   ").scan.1 = .ok (tokensAt 4) := by decide +kernel
  refine ⟨hclose, hwide, (happart.messages_eq_iff _ _ hclose hwide).2 rfl, ?_⟩
  rw [ne_eq, happart.display_eq_iff _ _ (by decide) (by decide)]
  decide

end Lexer

end ChainLexer
