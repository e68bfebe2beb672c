/-!
# Settings documents

The written form of the settings: a TOML document in which the only possible key is `line_comment`,
with a string as its value. Blank lines and comments may stand around the one line that matters, the
key may be bare or quoted, and the string may have any of the four forms of the notation.

## Main definitions

* `Document.parse?`: the value of the key, if a well-formed document gives it one

## Implementation notes

Each reader takes the characters at hand and returns what it read with the rest, or `none`. A line
feed, or a carriage return and a line feed, ends a line; a carriage return alone is an error
everywhere.
-/

namespace ChainLexer.Settings.Document

/-- White space inside a line. -/
def isInlineSpace (c : Char) : Bool := c == ' ' || c == '\t'

/-- A character that may stand in strings and comments: no control character but the tab. -/
def isTextChar (c : Char) : Bool := c == '\t' || (0x20 ≤ c.toNat && c.toNat != 0x7f)

/-- A character of a key without quotes. -/
def isBareKeyChar (c : Char) : Bool := c.isAlphanum || c == '_' || c == '-'

/-- A character that stands for itself between double quotes. -/
def isBasicChar (c : Char) : Bool := isTextChar c && c != '"' && c != '\\'

/-- A character that stands for itself between apostrophes. -/
def isLiteralChar (c : Char) : Bool := isTextChar c && c != '\''

/-- The end of a line stands here. -/
def startsNewline : List Char → Bool
  | '\n' :: _ => true
  | '\r' :: '\n' :: _ => true
  | _ => false

/-- Drops the end of a line that stands here. -/
def dropNewline : List Char → List Char
  | '\n' :: cs => cs
  | '\r' :: '\n' :: cs => cs
  | cs => cs

/-! ### Lines without a key -/

/-- Drops white space, ends of lines and comments, and stops at the first character of anything
else. The flag says that a comment is open. -/
def dropLines : Bool → List Char → List Char
  | _, [] => []
  | _, '\n' :: cs => dropLines false cs
  | _, '\r' :: '\n' :: cs => dropLines false cs
  | true, c :: cs => if isTextChar c then dropLines true cs else c :: cs
  | false, c :: cs =>
    if c == '#' then dropLines true cs
    else if isInlineSpace c then dropLines false cs
    else c :: cs

/-- Nothing but a comment is left on the line. -/
def endsLine (cs : List Char) : Bool :=
  cs.isEmpty || cs.head? == some '#' || startsNewline cs

/-! ### Escapes -/

/-- The value of a hexadecimal digit. -/
def hexValue? (c : Char) : Option Nat :=
  if '0' ≤ c ∧ c ≤ '9' then some (c.toNat - '0'.toNat)
  else if 'a' ≤ c ∧ c ≤ 'f' then some (c.toNat - 'a'.toNat + 10)
  else if 'A' ≤ c ∧ c ≤ 'F' then some (c.toNat - 'A'.toNat + 10)
  else none

/-- The number that hexadecimal digits write. -/
def hexNumber? (digits : List Char) : Option Nat :=
  digits.foldlM (fun n c => (hexValue? c).map (16 * n + ·)) 0

/-- The character with exactly `n` hexadecimal digits as its code point. -/
def hexEscape? (n : Nat) (cs : List Char) : Option (Char × List Char) :=
  let digits := cs.take n
  if digits.length = n then
    (hexNumber? digits).bind fun code =>
      if code.isValidChar then some (Char.ofNat code, cs.drop n) else none
  else none

/-- The character that an escape names, from after the backslash. -/
def escape? : List Char → Option (Char × List Char)
  | 'b' :: cs => some ('\x08', cs)
  | 'f' :: cs => some ('\x0c', cs)
  | 'n' :: cs => some ('\n', cs)
  | 'r' :: cs => some ('\r', cs)
  | 't' :: cs => some ('\t', cs)
  | '"' :: cs => some ('"', cs)
  | '\\' :: cs => some ('\\', cs)
  | 'u' :: cs => hexEscape? 4 cs
  | 'U' :: cs => hexEscape? 8 cs
  | _ => none

theorem length_hexEscape? {n : Nat} {cs rest : List Char} {c : Char}
    (h : hexEscape? n cs = some (c, rest)) : rest.length ≤ cs.length := by
  simp only [hexEscape?] at h
  split at h
  · obtain ⟨code, -, h⟩ := Option.bind_eq_some_iff.1 h
    split at h
    · cases h; simp
    · cases h
  · cases h

/-- Reading an escape leaves less than there was. -/
theorem length_escape? {cs rest : List Char} {c : Char} (h : escape? cs = some (c, rest)) :
    rest.length < cs.length := by
  unfold escape? at h
  split at h
  case h_8 => have := length_hexEscape? h; simp; omega
  case h_9 => have := length_hexEscape? h; simp; omega
  case h_10 => cases h
  all_goals cases h; simp

/-! ### Strings -/

/-- The rest of a string on one line, from after its opening double quote. -/
def basic? (cs : List Char) : Option (List Char × List Char) :=
  match cs with
  | [] => none
  | '"' :: cs => some ([], cs)
  | '\\' :: cs =>
    match h : escape? cs with
    | some (c, rest) =>
      have := length_escape? h
      (basic? rest).map fun (text, rest) => (c :: text, rest)
    | none => none
  | c :: cs =>
    if isBasicChar c then (basic? cs).map fun (text, rest) => (c :: text, rest) else none
termination_by cs.length

/-- The rest of a string on one line, from after its opening apostrophe. -/
def literal? : List Char → Option (List Char × List Char)
  | [] => none
  | '\'' :: cs => some ([], cs)
  | c :: cs =>
    if isLiteralChar c then (literal? cs).map fun (text, rest) => (c :: text, rest) else none

/-- What follows three closing quotes: up to two more of them belong to the text. -/
def closing (quote : Char) : List Char → List Char × List Char
  | c :: c' :: cs =>
    if c = quote ∧ c' = quote then ([c, c'], cs)
    else if c = quote then ([c], c' :: cs)
    else ([], c :: c' :: cs)
  | [c] => if c = quote then ([c], []) else ([], [c])
  | [] => ([], [])

/-- The rest of a string of several lines between double quotes. The flag says that white space and
ends of lines are being dropped, which a backslash at the end of a line starts. -/
def multiBasic? (dropping : Bool) (cs : List Char) : Option (List Char × List Char) :=
  match cs with
  | [] => none
  | '"' :: '"' :: '"' :: cs => some (closing '"' cs)
  | '\\' :: cs =>
    if startsNewline (cs.dropWhile isInlineSpace) then multiBasic? true cs
    else
      match h : escape? cs with
      | some (c, rest) =>
        have := length_escape? h
        (multiBasic? false rest).map fun (text, rest) => (c :: text, rest)
      | none => none
  | '\r' :: '\n' :: cs =>
    if dropping then multiBasic? true cs
    else (multiBasic? false cs).map fun (text, rest) => ('\n' :: text, rest)
  | c :: cs =>
    if dropping && (isInlineSpace c || c == '\n') then multiBasic? true cs
    else if isBasicChar c || c == '"' || c == '\n' then
      (multiBasic? false cs).map fun (text, rest) => (c :: text, rest)
    else none
termination_by cs.length

/-- The rest of a string of several lines between apostrophes. -/
def multiLiteral? : List Char → Option (List Char × List Char)
  | [] => none
  | '\'' :: '\'' :: '\'' :: cs => some (closing '\'' cs)
  | '\r' :: '\n' :: cs => (multiLiteral? cs).map fun (text, rest) => ('\n' :: text, rest)
  | c :: cs =>
    if isLiteralChar c || c == '\'' || c == '\n' then
      (multiLiteral? cs).map fun (text, rest) => (c :: text, rest)
    else none

/-- A string in any of its four forms. -/
def string? : List Char → Option (List Char × List Char)
  | '"' :: '"' :: '"' :: cs => multiBasic? false (dropNewline cs)
  | '"' :: cs => basic? cs
  | '\'' :: '\'' :: '\'' :: cs => multiLiteral? (dropNewline cs)
  | '\'' :: cs => literal? cs
  | _ => none

/-! ### The document -/

/-- A key without dots, bare or quoted. -/
def key? (cs : List Char) : Option (List Char × List Char) :=
  match cs with
  | '"' :: cs => basic? cs
  | '\'' :: cs => literal? cs
  | _ =>
    let name := cs.takeWhile isBareKeyChar
    if name.isEmpty then none else some (name, cs.drop name.length)

/-- The one key that a document may have. -/
def lineCommentKey : List Char := "line_comment".toList

/-- The value of the key, from the beginning of its line. -/
def setting? (cs : List Char) : Option (List Char × List Char) :=
  (key? cs).bind fun (name, cs) =>
    match cs.dropWhile isInlineSpace with
    | '=' :: cs => if name = lineCommentKey then string? (cs.dropWhile isInlineSpace) else none
    | _ => none

/-- Drops a byte order mark at the beginning. -/
def dropByteOrderMark : List Char → List Char
  | c :: cs => if c = '\ufeff' then cs else c :: cs
  | [] => []

/-- The value that a document gives to its key: `none` for a document with errors, and `some none`
for one that does not mention the key. -/
def parse? (text : String) : Option (Option String) :=
  let cs := dropLines false (dropByteOrderMark text.toList)
  if cs.isEmpty then some none
  else
    (setting? cs).bind fun (value, rest) =>
      let rest := rest.dropWhile isInlineSpace
      if endsLine rest && (dropLines false rest).isEmpty then some (some (String.ofList value))
      else none

end ChainLexer.Settings.Document
