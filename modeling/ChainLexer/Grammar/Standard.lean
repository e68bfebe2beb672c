import ChainLexer.Grammar.Lexicon

/-!
# The standard lexicon

A lexicon for a small statement language: its keywords, names, literals and operators. The words
`all` and `any` are keywords only where a `for` is the identifier before them; elsewhere they are
names.

## Main definitions

* `Kind`: the kinds of tokens
* `Kind.reserved`, `Kind.qualifiers`, `Kind.operators`: the fixed lexemes and their kinds
* `standardLexicon`: the lexicon
-/

namespace ChainLexer.Grammar

/-- The kinds of tokens of the standard lexicon. -/
inductive Kind where
  | name | number | string | kwIs | kwLet | kwVal | kwVar | kwSet | kwType | kwReturn | kwBreak
  | kwContinue | kwThen | kwDo | kwEnd | kwIf | kwElse | kwFor | kwAll | kwAny | kwIn | kwWhile
  | kwAnd | kwOr | kwXor | kwNot | kwMod | newline | leftParen | rightParen | leftBracket
  | rightBracket | leftBrace | rightBrace | plus | minus | star | starStar | slash | slashEquals
  | equals | greater | greaterEquals | less | lessEquals
deriving DecidableEq, Repr

namespace Kind

/-- The name of a kind. -/
def label : Kind → String
  | name => "Name"
  | number => "Number"
  | string => "String"
  | kwIs => "Is"
  | kwLet => "Let"
  | kwVal => "Val"
  | kwVar => "Var"
  | kwSet => "Set"
  | kwType => "Type"
  | kwReturn => "Return"
  | kwBreak => "Break"
  | kwContinue => "Continue"
  | kwThen => "Then"
  | kwDo => "Do"
  | kwEnd => "End"
  | kwIf => "If"
  | kwElse => "Else"
  | kwFor => "For"
  | kwAll => "All"
  | kwAny => "Any"
  | kwIn => "In"
  | kwWhile => "While"
  | kwAnd => "And"
  | kwOr => "Or"
  | kwXor => "Xor"
  | kwNot => "Not"
  | kwMod => "Mod"
  | newline => "Newline"
  | leftParen => "LParen"
  | rightParen => "RParen"
  | leftBracket => "LBracket"
  | rightBracket => "RBracket"
  | leftBrace => "LBrace"
  | rightBrace => "RBrace"
  | plus => "Plus"
  | minus => "Minus"
  | star => "Star"
  | starStar => "StarStar"
  | slash => "Slash"
  | slashEquals => "SlashEquals"
  | equals => "Equals"
  | greater => "Greater"
  | greaterEquals => "GreaterEquals"
  | less => "Less"
  | lessEquals => "LessEquals"

/-- The words besides `for` that are reserved in every context. -/
def reserved : List (String × Kind) :=
  [("is", kwIs), ("let", kwLet), ("val", kwVal), ("var", kwVar), ("set", kwSet),
   ("type", kwType), ("return", kwReturn), ("break", kwBreak), ("continue", kwContinue),
   ("then", kwThen), ("do", kwDo), ("end", kwEnd), ("if", kwIf), ("else", kwElse),
   ("in", kwIn), ("while", kwWhile), ("and", kwAnd), ("or", kwOr),
   ("xor", kwXor), ("not", kwNot), ("mod", kwMod)]

/-- The words that are reserved while a qualifier may follow. -/
def qualifiers : List (String × Kind) :=
  [("all", kwAll), ("any", kwAny)]

/-- The operators, the line feed among them. -/
def operators : List (String × Kind) :=
  [("\n", newline), ("(", leftParen), (")", rightParen), ("[", leftBracket),
   ("]", rightBracket), ("\x7b", leftBrace), ("\x7d", rightBrace), ("+", plus), ("-", minus),
   ("*", star), ("**", starStar), ("/", slash), ("/=", slashEquals), ("=", equals),
   (">", greater), (">=", greaterEquals), ("<", less), ("<=", lessEquals)]

end Kind

namespace Standard

/-- A reserved word is its keyword, and `for` lets a qualifier follow. A qualifier ends that
context. Everything else is a name. -/
def identifier : Classifier Kind := fun lexeme context =>
  if lexeme = "for" then .emitThen .kwFor .qualifying
  else
    match Kind.reserved.lookup lexeme with
    | some kind => .emit kind
    | none =>
      match context, Kind.qualifiers.lookup lexeme with
      | .qualifying, some kind => .emitThen kind .plain
      | _, _ => .emit .name

/-- The listed operators; all other runs are left to somebody else. -/
def operator : Classifier Kind := fun lexeme _ =>
  match Kind.operators.lookup lexeme with
  | some kind => .emit kind
  | none => .decline

/-- The classifier of each category. -/
def classifier : Category → Classifier Kind
  | .identifier => identifier
  | .number => fun _ _ => .emit .number
  | .string => fun _ _ => .emit .string
  | .operator => operator

end Standard

/-- The standard lexicon. -/
def standardLexicon : Lexicon Kind where
  name := "standard"
  classifier := Standard.classifier

end ChainLexer.Grammar
