import ChainLexer.Proofs.Memory

/-!
# What literals write

String literals are read by a machine whose place inside an escape is part of the memory of the
lexer. Here the machine is compared with a grammar that knows of no memory: the body of a literal is
a list of units, each a character that stands for itself or a backslash with the character that it
escapes. Reading from a steady memory accepts exactly what the grammar describes, up to the first
quote that no backslash escapes, and the memory afterwards is a function of the text.

Number literals are compared with the natural number that their digits write, however many digits
there are: decoding fails exactly when that number does not fit into 64 bits.

## Main definitions

* `StringLiteral.Encodes`: the body of a literal, unit by unit, and the value that it writes
* `Number.value`: the natural number that a literal writes

## Main results

* `StringLiteral.read_eq_some_iff`: reading accepts what the grammar describes, and nothing else
* `StringLiteral.read_eq_map_read`: reading depends on the memory only where it passes it on
* `Number.decode_eq`: decoding is the value, when that fits
-/

namespace ChainLexer.Scan

open ChainLexer.Grammar ChainLexer.Text

namespace StringLiteral

/-! ### The grammar of bodies -/

/-- The body of a string literal, without its quotes, and the value that it writes. -/
inductive Encodes : List Char → List Char → Prop
  /-- The empty body writes the empty text. -/
  | nil : Encodes [] []
  /-- A character other than the quote and the backslash stands for itself. -/
  | plain {c : Char} {body value : List Char} (hquote : c ≠ '"') (hbackslash : c ≠ '\\')
      (h : Encodes body value) : Encodes (c :: body) (c :: value)
  /-- A backslash and any character at all form one unit. -/
  | escape {c : Char} {body value : List Char} (h : Encodes body value) :
      Encodes ('\\' :: c :: body) (unescape c :: value)

/-! ### The machine, unit by unit -/

theorem read_backslash (m : Memory) : read m ['\\'] = none := by simp [read]

section Units

variable {m : Memory} (hm : m.Steady)
include hm

theorem read_quote (cs : List Char) : read m ('"' :: cs) = some ⟨['"'], [], m⟩ := by
  simp [read, if_neg hm]

theorem read_plain {c : Char} (hquote : c ≠ '"') (hbackslash : c ≠ '\\') (cs : List Char) :
    read m (c :: cs) = (read m cs).map (consChar c c) := by
  simp [read, if_neg hm, hquote, hbackslash]

/-- A backslash and the character after it are read as one unit, from a steady memory to a steady
memory. -/
theorem read_escape (c : Char) (cs : List Char) :
    read m ('\\' :: c :: cs) =
      (read m.noted cs).map fun s => consText '\\' (consChar c (unescape c) s) := by
  have hopen : m.openEscape.context = .escaping := rfl
  rw [read, if_neg hm, if_neg (by decide), if_pos rfl, read, if_pos hopen,
    Memory.closeEscape_openEscape, Option.map_map]
  rfl

end Units

/-! ### Machine and grammar -/

/-- The machine reads every body that the grammar describes, and stops at the quote after it. -/
theorem read_of_encodes {body value : List Char} (h : Encodes body value) {m : Memory}
    (hm : m.Steady) (rest : List Char) :
    read m (body ++ '"' :: rest) = some ⟨body ++ ['"'], value, m.afterLiteral body⟩ := by
  induction h generalizing m with
  | nil =>
    rw [List.nil_append, read_quote hm]
    simp [Memory.afterLiteral]
  | @plain c body value hquote hbackslash _ ih =>
    rw [List.cons_append, read_plain hm hquote hbackslash, ih hm]
    simp [consChar, Memory.afterLiteral, Ne.symm hbackslash]
  | @escape c body value _ ih =>
    rw [List.cons_append, List.cons_append, read_escape hm, ih hm.noted,
      Memory.noted_afterLiteral]
    simp [consText, consChar, Memory.afterLiteral]

/-- What the machine reads is a body that the grammar describes, and a quote. The induction is on the
length of the text, because an escape takes two characters at once. -/
theorem encodes_of_read {m : Memory} (hm : m.Steady) {cs : List Char} {s : StringLiteral}
    (h : read m cs = some s) :
    ∃ body rest, cs = body ++ '"' :: rest ∧ Encodes body s.value ∧ s.text = body ++ ['"'] := by
  induction hn : cs.length using Nat.strongRecOn generalizing m cs s with
  | ind n ih =>
    rcases cs with _ | ⟨c, cs⟩
    · simp [read] at h
    · by_cases hquote : c = '"'
      · subst hquote
        rw [read_quote hm] at h
        cases h
        exact ⟨[], cs, rfl, .nil, rfl⟩
      by_cases hbackslash : c = '\\'
      · subst hbackslash
        rcases cs with _ | ⟨d, cs⟩
        · simp [read_backslash] at h
        · rw [read_escape hm] at h
          obtain ⟨t, ht, rfl⟩ := Option.map_eq_some_iff.1 h
          have hlt : cs.length < n := by simp only [List.length_cons] at hn; omega
          obtain ⟨body, rest, rfl, henc, htext⟩ := ih _ hlt hm.noted ht rfl
          exact ⟨'\\' :: d :: body, rest, rfl, .escape henc, by simp [consText, consChar, htext]⟩
      · rw [read_plain hm hquote hbackslash] at h
        obtain ⟨t, ht, rfl⟩ := Option.map_eq_some_iff.1 h
        have hlt : cs.length < n := by simp only [List.length_cons] at hn; omega
        obtain ⟨body, rest, rfl, henc, htext⟩ := ih _ hlt hm ht rfl
        exact ⟨c :: body, rest, rfl, .plain hquote hbackslash henc, by simp [consChar, htext]⟩

/-- **Reading accepts exactly what the grammar describes**, and the memory afterwards is that after
the body. -/
theorem read_eq_some_iff {m : Memory} (hm : m.Steady) {cs : List Char} {s : StringLiteral} :
    read m cs = some s ↔
      ∃ body rest, cs = body ++ '"' :: rest ∧ Encodes body s.value ∧
        s = ⟨body ++ ['"'], s.value, m.afterLiteral body⟩ := by
  constructor
  · intro h
    obtain ⟨body, rest, rfl, henc, htext⟩ := encodes_of_read hm h
    rw [read_of_encodes henc hm] at h
    exact ⟨body, rest, rfl, henc, (Option.some.inj h).symm⟩
  · rintro ⟨body, rest, rfl, henc, heq⟩
    rw [read_of_encodes henc hm, ← heq]

/-- **Reading depends on the memory only where it passes it on.** Text and value are those that a
fresh memory reads. -/
theorem read_eq_map_read {m : Memory} (hm : m.Steady) (cs : List Char) :
    read m cs = (read .fresh cs).map fun s => { s with memory := m.afterLiteral s.text } := by
  cases hfresh : read .fresh cs with
  | some s =>
    obtain ⟨body, rest, rfl, henc, heq⟩ := (read_eq_some_iff Memory.steady_fresh).1 hfresh
    rw [read_of_encodes henc hm, heq]
    simp [Memory.afterLiteral]
  | none =>
    cases h : read m cs with
    | none => rfl
    | some s =>
      obtain ⟨body, rest, rfl, henc, -⟩ := (read_eq_some_iff hm).1 h
      rw [read_of_encodes henc Memory.steady_fresh] at hfresh
      cases hfresh

end StringLiteral

/-! ### Numbers -/

namespace Number

/-- The number that a list of digits writes behind the digits of `n`. -/
def digitsFrom (n : Nat) (digits : List Char) : Nat :=
  digits.foldl (fun n c => 10 * n + digitValue c) n

/-- The natural number that a literal writes, its separators left out. -/
def value (literal : List Char) : Nat :=
  digitsFrom 0 (literal.filter fun c => !isNumberSeparator c)

theorem digitsFrom_cons (n : Nat) (c : Char) (cs : List Char) :
    digitsFrom n (c :: cs) = digitsFrom (10 * n + digitValue c) cs := by
  simp only [digitsFrom, List.foldl_cons]

/-- More digits never make a number smaller. -/
theorem le_digitsFrom (n : Nat) (digits : List Char) : n ≤ digitsFrom n digits := by
  induction digits generalizing n with
  | nil => exact Nat.le_refl n
  | cons c cs ih =>
    calc n ≤ 10 * n + digitValue c := by omega
      _ ≤ digitsFrom (10 * n + digitValue c) cs := ih _
      _ = digitsFrom n (c :: cs) := (digitsFrom_cons n c cs).symm

/-- Once a number is too large it stays so, and until then every step is exact. -/
theorem foldlM_pushDigit (n : UInt64) (digits : List Char) :
    digits.foldlM pushDigit n =
      if digitsFrom n.toNat digits < UInt64.size then
        some (UInt64.ofNat (digitsFrom n.toNat digits))
      else none := by
  induction digits generalizing n with
  | nil => simp [digitsFrom, n.toNat_lt_size]
  | cons c cs ih =>
    rw [List.foldlM_cons, digitsFrom_cons, pushDigit]
    by_cases hfit : 10 * n.toNat + digitValue c < UInt64.size
    · have hnext : (UInt64.ofNat (10 * n.toNat + digitValue c)).toNat
          = 10 * n.toNat + digitValue c := UInt64.toNat_ofNat_of_lt hfit
      simp only [if_pos hfit, Option.bind_eq_bind, Option.bind_some, ih, hnext]
    · have hle := le_digitsFrom (10 * n.toNat + digitValue c) cs
      simp only [if_neg hfit, Option.bind_eq_bind, Option.bind_none]
      rw [if_neg (by omega)]

/-- **Decoding is the value, when that fits into 64 bits.** -/
theorem decode_eq (literal : List Char) :
    decode literal =
      if value literal < UInt64.size then some (UInt64.ofNat (value literal)) else none := by
  rw [decode, foldlM_pushDigit, UInt64.toNat_zero, value]

end Number

end ChainLexer.Scan
