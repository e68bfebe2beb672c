import ChainLexer.Grammar.Category
import ChainLexer.Scan.Fault
import ChainLexer.Scan.Number
import ChainLexer.Scan.StringLiteral
import ChainLexer.Scan.Token
import ChainLexer.Settings.Marker

/-!
# Lexemes and the trivia between them

Where lexemes begin and end. Between two lexemes stand blanks and at most one comment, which runs to
the end of its line; a byte order mark may stand at the very beginning. The first character of a
lexeme decides its category, and the lexeme is as long as it can be. No classifier has a part in
this.

## Main definitions

* `trivia`: what stands before the next lexeme
* `Lexeme`: a lexeme of each category
* `Lexeme.recognise`: the lexeme that begins with a character

## Main results

* `Lexeme.text_ne_nil_of_recognise`: a lexeme has at least one character
-/

namespace ChainLexer.Scan

open ChainLexer.Grammar ChainLexer.Settings ChainLexer.Source ChainLexer.Text

/-! ### Trivia -/

/-- The character that may stand at the beginning of a source without a meaning. -/
def byteOrderMark : Char := '\ufeff'

/-- The byte order mark of a text at the beginning of a source. -/
def leadingMark (atStart : Bool) (cs : List Char) : List Char :=
  if atStart && cs.head? == some byteOrderMark then [byteOrderMark] else []

/-- The comment with which a text begins: from the marker to the end of the line. -/
def leadingComment (m : Marker) (cs : List Char) : List Char :=
  if m.startsAt cs then cs.takeWhile (· != '\n') else []

/-- What stands before the next lexeme: at the beginning of a source perhaps a byte order mark, then
blanks, and perhaps a comment. After a comment the line ends, so nothing else can follow. -/
def trivia (m : Marker) (atStart : Bool) (cs : List Char) : List Char :=
  let mark := leadingMark atStart cs
  let blanks := (cs.drop mark.length).takeWhile isBlank
  mark ++ blanks ++ leadingComment m (cs.drop (mark.length + blanks.length))

/-! ### Lexemes -/

/-- A lexeme of each category. A string literal comes with the value that it writes. -/
inductive Lexeme where
  | identifier (text : List Char)
  | number (text : List Char)
  | string (text value : List Char)
  | operator (text : List Char)
deriving DecidableEq, Repr

/-- Why no lexeme can be read. -/
inductive Obstacle where
  /-- No lexeme begins with the character. -/
  | unexpected (char : Char)
  /-- The text ends inside a string literal. -/
  | unterminated
deriving DecidableEq, Repr

/-- The fault of an obstacle at a byte offset. -/
def Obstacle.faultAt (position : Nat) : Obstacle → Fault
  | unexpected char => .unexpected char position
  | unterminated => .unterminated position

namespace Lexeme

/-- The category of a lexeme. -/
def category : Lexeme → Category
  | identifier _ => .identifier
  | number _ => .number
  | string _ _ => .string
  | operator _ => .operator

/-- The characters of a lexeme. -/
def text : Lexeme → List Char
  | identifier text => text
  | number text => text
  | string text _ => text
  | operator text => text

/-- The text that classifiers see. -/
def toString (w : Lexeme) : String := String.ofList w.text

/-- The value of a literal, if it has one; `none` when the value of a number does not fit into 64
bits. -/
def value? : Lexeme → Option (Option Value)
  | identifier _ => some none
  | number text => (Number.decode text).map fun n => some (.int n)
  | string _ value => some (some (.text (String.ofList value)))
  | operator _ => some none

/-- The run of operator characters with which a text begins, up to a comment. -/
def operatorRun (m : Marker) : List Char → List Char
  | [] => []
  | c :: cs => if isOperatorChar c && !m.startsAt (c :: cs) then c :: operatorRun m cs else []

/-- The lexeme that begins with the character `c`, followed by the text `cs`, and the memory after
it. -/
def recognise (marker : Marker) (m : Memory) (c : Char) (cs : List Char) :
    Except Obstacle (Lexeme × Memory) :=
  if isIdentStart c then .ok (.identifier ((c :: cs).takeWhile isIdentContinue), m)
  else if isNumberStart c then .ok (.number ((c :: cs).takeWhile isNumberContinue), m)
  else if c = '"' then
    match StringLiteral.read m cs with
    | some s => .ok (.string (c :: s.text) s.value, s.memory)
    | none => .error .unterminated
  else if c = '\n' then .ok (.operator [c], m)
  else
    match operatorRun marker (c :: cs) with
    | [] => .error (.unexpected c)
    | run => .ok (.operator run, m)

/-- A lexeme has at least one character. -/
theorem text_ne_nil_of_recognise {marker : Marker} {m m' : Memory} {c : Char} {cs : List Char}
    {w : Lexeme} (h : recognise marker m c cs = .ok (w, m')) : w.text ≠ [] := by
  unfold recognise at h
  split at h
  case isTrue hc =>
    cases h
    simp [text, isIdentContinue_of_isIdentStart hc]
  case isFalse =>
    split at h
    case isTrue hc =>
      cases h
      simp [text, isNumberContinue_of_isNumberStart hc]
    case isFalse =>
      split at h
      case isTrue =>
        split at h
        · cases h; simp [text]
        · cases h
      case isFalse =>
        split at h
        case isTrue => cases h; simp [text]
        case isFalse =>
          split at h
          case h_1 => cases h
          case h_2 hrun => cases h; simpa [text] using hrun

end Lexeme

end ChainLexer.Scan
